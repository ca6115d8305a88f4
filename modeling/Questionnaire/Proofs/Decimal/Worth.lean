import Questionnaire.Proofs.Decimal.Shortest
/-!
What doubles are worth. A value is read as the double next to it, and half way between two doubles as the one that ends in
a zero bit.
-/

namespace Questionnaire.Decimal

open Float.Model (Format UnpackedFloat totalExponent)
open Float.Model.UnpackedFloat

variable {sign other : Sign} {m n : ℕ} {e f : ℤ} {v : ℚ} {x : Float}

def unit : Sign → ℚ
  | .positive => 1
  | .negative => -1

-- The number that a finite double is.
def worth (x : Float) : ℚ :=
  match x.toModel.unpack with
  | .finite sign m e _ => unit sign * (m * 2 ^ e)
  | _ => 0

-- No finite double is nearer to the value, and one that is as near ends in a one bit.
structure NearestEven (v : ℚ) (x : Float) : Prop where
  finite : x.isFinite = true
  nearest : ∀ y : Float, y.isFinite = true → |v - worth x| ≤ |v - worth y|
  even : ∀ y : Float, y.isFinite = true → worth y ≠ worth x → |v - worth x| = |v - worth y| → x.toBits.toNat % 2 = 0

theorem abs_unit (sign : Sign) : |unit sign| = 1 := by
  cases sign
  · exact (abs_neg 1).trans abs_one
  · exact abs_one

theorem unit_unit (sign : Sign) (v : ℚ) : unit sign * (unit sign * v) = v := by
  cases sign <;> simp [unit]

theorem worth_build (unpacked : x.toModel.unpack = build sign m e) : worth x = unit sign * (m * 2 ^ e) := by
  rw [worth,unpacked,build]
  split
  · rename_i built
    split at built
    · cases built
      rfl
    · cases built
  · rename_i none
    have zero : m = 0 := by
      by_contra some
      exact none _ _ _ _ (dif_pos (Nat.pos_of_ne_zero some))
    rw [zero,Nat.cast_zero,zero_mul,mul_zero]

theorem last_bit (x : Float) : (Binary.ofFloat x).m % 2 = x.toBits.toNat % 2 := by
  have fraction : fractionField x % 2 = x.toBits.toNat % 2 := Nat.mod_mod_of_dvd _ (by decide)
  rw [← fraction,Binary.ofFloat]
  split
  · rfl
  · have implicit : Nat.pow 2 52 = 2 * 2 ^ 51 := rfl
    dsimp only
    omega

-- One of two neighbours at the same distance is odd and leaves the value to the other.
theorem Rounds.closest (rounds : Rounds v m e) (canonical : Canonical n f) (apart : (n : ℚ) * 2 ^ f ≠ m * 2 ^ e) :
    |v - m * 2 ^ e| ≤ |v - n * 2 ^ f| ∧ (|v - m * 2 ^ e| = |v - n * 2 ^ f| → m % 2 = 0) := by
  have distance : |v - m * 2 ^ e| ≤ |v - n * 2 ^ f| ∧ (m % 2 = 1 → |v - m * 2 ^ e| < |v - n * 2 ^ f|) := by
    have above := rounds.above
    have below := rounds.below
    rcases apart.lt_or_gt with less | more
    · have previous := canonical.previous rounds.canonical less
      have right : v - n * 2 ^ f ≤ |v - n * 2 ^ f| := le_abs_self _
      rcases abs_cases (v - m * 2 ^ e) with ⟨same,-⟩ | ⟨same,-⟩
      · rw [same]
        exact ⟨by linarith,fun _ => by linarith⟩
      · rw [same]
        exact ⟨by linarith,fun odd => by linarith [(rounds.odd odd).1]⟩
    · have next := rounds.canonical.next canonical more
      have left : -(v - n * 2 ^ f) ≤ |v - n * 2 ^ f| := neg_le_abs _
      rcases abs_cases (v - m * 2 ^ e) with ⟨same,-⟩ | ⟨same,-⟩
      · rw [same]
        exact ⟨by linarith,fun odd => by linarith [(rounds.odd odd).2]⟩
      · rw [same]
        exact ⟨by linarith,fun _ => by linarith⟩
  exact ⟨distance.1,fun same => Nat.mod_two_ne_one.mp fun odd => (distance.2 odd).ne same⟩

theorem Rounds.eq_zero (rounds : Rounds 0 m e) : m = 0 := by
  have positive : (0 : ℚ) < 2 ^ e := zpow_pos two_pos e
  have small := nonpos_of_mul_nonpos_left rounds.above positive
  have less : (m : ℚ) < 1 := by linarith [reach_le m e]
  exact Nat.lt_one_iff.mp (by exact_mod_cast less)

theorem Rounds.closest_signed (rounds : Rounds v m e) (nonneg : 0 ≤ v) (canonical : Canonical n f) {z : ℚ}
    (size : |z| = n * 2 ^ f) (apart : z ≠ m * 2 ^ e) :
    |v - m * 2 ^ e| ≤ |v - z| ∧ (|v - m * 2 ^ e| = |v - z| → m % 2 = 0) := by
  have amount : (0 : ℚ) ≤ n * 2 ^ f := size ▸ abs_nonneg z
  have sized : z = n * 2 ^ f ∨ z = -(n * 2 ^ f) := by
    rcases abs_choice z with same | same
    · exact .inl (same.symm.trans size)
    · exact .inr (by rw [← size,same,neg_neg])
  rcases sized with rfl | rfl
  · exact rounds.closest canonical apart
  have farther : |v - -(n * 2 ^ f)| = v + n * 2 ^ f := by
    rw [sub_neg_eq_add,abs_of_nonneg (by linarith)]
  by_cases mirrored : (n : ℚ) * 2 ^ f = m * 2 ^ e
  · have some : (m : ℚ) * 2 ^ e ≠ 0 := by
      intro none
      rw [mirrored,none,neg_zero] at apart
      exact apart rfl
    have positive : 0 < v := by
      refine nonneg.lt_of_ne ?_
      rintro rfl
      rw [rounds.eq_zero,Nat.cast_zero,zero_mul] at some
      exact some rfl
    rw [farther,mirrored]
    rw [mirrored] at amount
    have closer : |v - m * 2 ^ e| < v + m * 2 ^ e := by
      have larger := amount.lt_of_ne some.symm
      rw [abs_lt]
      exact ⟨by linarith,by linarith⟩
    exact ⟨closer.le,fun same => absurd same closer.ne⟩
  · obtain ⟨closer,even⟩ := rounds.closest canonical mirrored
    have far : |v - n * 2 ^ f| ≤ |v - -(n * 2 ^ f)| := by
      rw [farther,abs_le]
      exact ⟨by linarith,by linarith⟩
    exact ⟨closer.trans far,fun same => even (closer.antisymm (far.trans_eq same.symm))⟩

theorem abs_sub_unit (sign : Sign) (v w : ℚ) : |unit sign * v - w| = |v - unit sign * w| := by
  have factored : unit sign * v - w = unit sign * (v - unit sign * w) := by
    rw [mul_sub,unit_unit]
  rw [factored,abs_mul,abs_unit,one_mul]

theorem nearestEven_build (unpacked : x.toModel.unpack = build sign m e) (rounds : Rounds v m e) (nonneg : 0 ≤ v) :
    NearestEven (unit sign * v) x := by
  have canonical := rounds.canonical
  have finite : x.isFinite = true := isFinite_iff_parts.mpr ⟨_,(congrArg parts unpacked).trans (parts_build canonical)⟩
  have mantissa : (Binary.ofFloat x).m = m := by
    have found := parts_ofFloat finite
    rw [unpacked,parts_build canonical] at found
    exact (Prod.mk.inj (Option.some.inj found)).1.symm
  have closest (y : Float) (finite : y.isFinite = true) (apart : worth y ≠ worth x) :
      |v - m * 2 ^ e| ≤ |v - unit sign * worth y| ∧ (|v - m * 2 ^ e| = |v - unit sign * worth y| → m % 2 = 0) := by
    have size : |unit sign * worth y| = (Binary.ofFloat y).m * 2 ^ (Binary.ofFloat y).q := by
      rw [worth_build (unpack_ofFloat finite),abs_mul,abs_mul,abs_unit,abs_unit,one_mul,one_mul]
      exact abs_of_nonneg (by positivity)
    refine rounds.closest_signed nonneg (canonical_ofFloat finite).1 size fun same => apart ?_
    rw [worth_build unpacked,← same,unit_unit]
  have here : |unit sign * v - worth x| = |v - m * 2 ^ e| := by
    rw [abs_sub_unit,worth_build unpacked,unit_unit]
  refine ⟨finite,fun y finite => ?_,fun y finite apart => ?_⟩
  · by_cases apart : worth y = worth x
    · rw [apart]
    · rw [here,abs_sub_unit]
      exact (closest y finite apart).1
  · rw [here,abs_sub_unit,← last_bit,mantissa]
    exact (closest y finite apart).2

-- Every whole number rounds to a double, or would if the exponents went on.
theorem exists_rounds (k : ℕ) : ∃ m e, Rounds k m e := by
  have value : (k : ℚ) / 2 ^ (-1074 : ℤ) = (k * 2 ^ 1074 : ℕ) := by
    rw [zpow_neg,div_inv_eq_mul,Nat.cast_mul,Nat.cast_pow,Nat.cast_ofNat,zpow_ofNat]
  have keeps : Keeps (.ofMantissaAndAccuracy (k * 2 ^ 1074) .exact) ((k : ℚ) / 2 ^ (-1074 : ℤ)) := by
    rw [value]
    exact keeps_exact _
  obtain ⟨m,e,-,rounds⟩ := round_rounds .positive keeps (Int.le_max_right _ _)
  exact ⟨m,e,rounds⟩

theorem Rounds.exponent_le (rounds : Rounds v m e) (small : v < 2 ^ 64) : e ≤ 971 := by
  by_contra high
  have filled : (2 : ℚ) ^ 52 ≤ m := by exact_mod_cast rounds.canonical.full.resolve_left (by omega)
  have units : (2 : ℚ) ^ (64 : ℤ) ≤ 2 ^ e := zpow_le_zpow_right₀ one_le_two (by omega)
  have positive : (0 : ℚ) < 2 ^ e := zpow_pos two_pos e
  have above : 1 * 2 ^ e ≤ v := by
    refine (mul_le_mul_of_nonneg_right ?_ positive.le).trans rounds.above
    linarith [reach_le m e]
  have large : (2 : ℚ) ^ (64 : ℤ) = 2 ^ 64 := zpow_ofNat 2 64
  linarith

theorem nearest_whole {k : ℕ} (small : k < 2 ^ 64) (negative : Bool) :
    NearestEven (unit (signOf negative) * k) (nearest negative k 0) := by
  obtain ⟨m,e,rounds⟩ := exists_rounds k
  have high : e ≤ 971 := rounds.exponent_le (by exact_mod_cast small)
  have scaled : (k : ℚ) * 10 ^ (0 : ℤ) = k := by rw [zpow_zero,mul_one]
  exact nearestEven_build (nearest_build negative (by rwa [scaled]) high) rounds k.cast_nonneg

end Questionnaire.Decimal
