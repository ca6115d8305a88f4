import Questionnaire.Proofs.Decimal.Double
/-!
Rounding to doubles. The bits that shifting drops tell how far a value lies above its mantissa, so that what is kept of
a value after all is the nearest double, the even one of two that are as near.
-/

namespace Questionnaire.Decimal

open Float.Model (Format UnpackedFloat totalExponent pack)
open Float.Model.UnpackedFloat hiding pack

variable {sign : Sign} {m n : ℕ} {e f : ℤ} {t v : ℚ} {accuracy : Accuracy}

-- A mantissa and two bits stand for a value of `t` units.
def Keeps (em : ExtendedMantissa) (t : ℚ) : Prop :=
  match em.roundBit,em.stickyBit with
  | false,false => t = em.mantissa
  | false,true => em.mantissa < t ∧ t < em.mantissa + 1 / 2
  | true,false => t = em.mantissa + 1 / 2
  | true,true => em.mantissa + 1 / 2 < t ∧ t < em.mantissa + 1

theorem Keeps.bounds {em : ExtendedMantissa} (keeps : Keeps em t) : em.mantissa ≤ t ∧ t < em.mantissa + 1 := by
  obtain ⟨m,round,sticky⟩ := em
  cases round <;> cases sticky <;> simp only [Keeps] at keeps ⊢ <;> constructor <;> linarith

theorem shiftRightOne_even (k : ℕ) (round sticky : Bool) :
    ExtendedMantissa.shiftRightOne ⟨2 * k,round,sticky⟩ = ⟨k,false,round || sticky⟩ := by
  simp [ExtendedMantissa.shiftRightOne]

theorem shiftRightOne_odd (k : ℕ) (round sticky : Bool) :
    ExtendedMantissa.shiftRightOne ⟨2 * k + 1,round,sticky⟩ = ⟨k,true,round || sticky⟩ := by
  simp [ExtendedMantissa.shiftRightOne,Nat.add_div]

theorem Keeps.shiftRightOne {em : ExtendedMantissa} (keeps : Keeps em t) : Keeps em.shiftRightOne (t / 2) := by
  obtain ⟨m,round,sticky⟩ := em
  obtain ⟨k,rfl | rfl⟩ := Nat.even_or_odd' m
  · rw [shiftRightOne_even]
    cases round <;> cases sticky <;> simp only [Keeps,Bool.or_false,Bool.or_true] at keeps ⊢ <;>
      push_cast at keeps <;> first | linarith | constructor <;> linarith
  · rw [shiftRightOne_odd]
    cases round <;> cases sticky <;> simp only [Keeps,Bool.or_false,Bool.or_true] at keeps ⊢ <;>
      push_cast at keeps <;> first | linarith | constructor <;> linarith

theorem Keeps.shiftRight {em : ExtendedMantissa} (keeps : Keeps em t) (n : ℕ) : Keeps (em >>> n) (t / 2 ^ n) := by
  induction n with
  | zero =>
    rw [pow_zero,div_one]
    exact keeps
  | succ n ih =>
    rw [pow_succ,← div_div]
    exact ih.shiftRightOne

-- The whole number a value rounds to: at most half away, and if half away then even.
structure Near (n : ℕ) (t : ℚ) : Prop where
  above : n - 1 / 2 ≤ t
  below : t ≤ n + 1 / 2
  odd : n % 2 = 1 → n - 1 / 2 < t ∧ t < n + 1 / 2

theorem Keeps.near {em : ExtendedMantissa} (keeps : Keeps em t) : Near em.roundedMantissa t := by
  obtain ⟨m,round,sticky⟩ := em
  have tie : ((m + m % 2 : ℕ) : ℚ) = m ∨ ((m + m % 2 : ℕ) : ℚ) = m + 1 := by
    rcases Nat.mod_two_eq_zero_or_one m with even | odd
    · exact .inl (by rw [even,add_zero])
    · exact .inr (by rw [odd,Nat.cast_succ])
  cases round <;> cases sticky <;>
    simp only [Keeps,ExtendedMantissa.roundedMantissa,ExtendedMantissa.accuracy,Accuracy.roundToNearestEven] at keeps ⊢
  · exact ⟨by linarith,by linarith,fun _ => ⟨by linarith,by linarith⟩⟩
  · exact ⟨by linarith,by linarith,fun _ => ⟨by linarith,by linarith⟩⟩
  · refine ⟨?_,?_,fun odd => by omega⟩
    · rcases tie with down | up <;> linarith
    · rcases tie with down | up <;> linarith
  · refine ⟨?_,?_,fun _ => ⟨?_,?_⟩⟩ <;> push_cast <;> linarith

-- Mantissa and exponent as doubles have them: the bits are used up, or there is no lower exponent.
structure Canonical (m : ℕ) (e : ℤ) : Prop where
  short : m < 2 ^ 53
  low : -1074 ≤ e
  full : e = -1074 ∨ 2 ^ 52 ≤ m

-- How far down the values reach that round to a double, in units of its last bit. The lower neighbour of a power of two
-- is at half the distance of the upper one.
def reach (m : ℕ) (e : ℤ) : ℚ := if m = 2 ^ 52 ∧ -1074 < e then 1 / 4 else 1 / 2

theorem reach_pos (m : ℕ) (e : ℤ) : 0 < reach m e := by
  rw [reach]
  split <;> norm_num

theorem reach_le (m : ℕ) (e : ℤ) : reach m e ≤ 1 / 2 := by
  rw [reach]
  split <;> norm_num

-- The values that round to a double. An odd mantissa leaves both ends to its neighbours.
structure Rounds (v : ℚ) (m : ℕ) (e : ℤ) : Prop where
  canonical : Canonical m e
  above : (m - reach m e) * 2 ^ e ≤ v
  below : v ≤ (m + 1 / 2) * 2 ^ e
  odd : m % 2 = 1 → (m - reach m e) * 2 ^ e < v ∧ v < (m + 1 / 2) * 2 ^ e

theorem Canonical.rounds (canonical : Canonical m e) : Rounds (m * 2 ^ e) m e := by
  have unit : (0 : ℚ) < 2 ^ e := zpow_pos two_pos e
  have reaches := reach_pos m e
  have above : (m - reach m e) * 2 ^ e < m * 2 ^ e := mul_lt_mul_of_pos_right (by linarith) unit
  have below : (m : ℚ) * 2 ^ e < (m + 1 / 2) * 2 ^ e := mul_lt_mul_of_pos_right (by linarith) unit
  exact ⟨canonical,above.le,below.le,fun _ => ⟨above,below⟩⟩

theorem pow_shift (shift : e ≤ f) : (2 : ℚ) ^ f = 2 ^ (f - e).toNat * 2 ^ e := by
  rw [← zpow_natCast,← zpow_add₀ two_ne_zero]
  congr 1
  omega

-- With a higher exponent a double has all its bits, and the doubles with lower ones stay below the first of these.
theorem Canonical.lower (one : Canonical m e) (two : Canonical n f) (higher : f < e) :
    2 ^ 52 ≤ m ∧ (n : ℚ) * 2 ^ f ≤ (2 ^ 52 - 1 / 2) * 2 ^ e := by
  have low := two.low
  refine ⟨one.full.resolve_left (by omega),?_⟩
  have short : (n : ℚ) ≤ 2 ^ 53 - 1 := by
    have bound : (n : ℚ) + 1 ≤ 2 ^ 53 := by exact_mod_cast two.short
    linarith
  have half : (2 : ℚ) ^ e = 2 ^ (e - 1) * 2 := by
    rw [← zpow_add_one₀ two_ne_zero,sub_add_cancel]
  have units : (2 : ℚ) ^ f ≤ 2 ^ (e - 1) := zpow_le_zpow_right₀ one_le_two (by omega)
  calc (n : ℚ) * 2 ^ f ≤ (2 ^ 53 - 1) * 2 ^ (e - 1) := mul_le_mul short units (zpow_pos two_pos f).le (by norm_num)
    _ = (2 ^ 52 - 1 / 2) * 2 ^ e := by rw [half]; ring

theorem Canonical.lower_lt (one : Canonical m e) (two : Canonical n f) (higher : f < e) :
    (n : ℚ) * 2 ^ f < m * 2 ^ e := by
  obtain ⟨filled,lower⟩ := one.lower two higher
  have bound : (2 : ℚ) ^ 52 ≤ m := by exact_mod_cast filled
  exact lower.trans_lt (mul_lt_mul_of_pos_right (by linarith) (zpow_pos two_pos e))

-- No double lies between a double and its neighbour above.
theorem Canonical.next (one : Canonical m e) (two : Canonical n f) (less : (m : ℚ) * 2 ^ e < n * 2 ^ f) :
    ((m : ℚ) + 1) * 2 ^ e ≤ n * 2 ^ f := by
  have unit : (0 : ℚ) < 2 ^ e := zpow_pos two_pos e
  rcases le_or_gt e f with shift | shift
  · rw [pow_shift shift,← mul_assoc] at less ⊢
    have whole : m < n * 2 ^ (f - e).toNat := by exact_mod_cast lt_of_mul_lt_mul_right less unit.le
    exact mul_le_mul_of_nonneg_right (by exact_mod_cast whole) unit.le
  · exact absurd less (one.lower_lt two shift).not_gt

-- Nor between a double and its neighbour below.
theorem Canonical.previous (one : Canonical m e) (two : Canonical n f) (less : (m : ℚ) * 2 ^ e < n * 2 ^ f) :
    (m : ℚ) * 2 ^ e ≤ (n - 2 * reach n f) * 2 ^ f := by
  have unit : (0 : ℚ) < 2 ^ f := zpow_pos two_pos f
  rcases le_or_gt f e with shift | shift
  · rw [pow_shift shift,← mul_assoc] at less ⊢
    have whole : m * 2 ^ (e - f).toNat < n := by exact_mod_cast lt_of_mul_lt_mul_right less unit.le
    have bound : (m : ℚ) * 2 ^ (e - f).toNat + 1 ≤ n := by exact_mod_cast whole
    exact mul_le_mul_of_nonneg_right (by linarith [reach_le n f]) unit.le
  · obtain ⟨filled,lower⟩ := two.lower one shift
    refine lower.trans (mul_le_mul_of_nonneg_right ?_ unit.le)
    rcases filled.eq_or_lt with power | larger
    · have low := one.low
      have reaches : reach n f = 1 / 4 := if_pos ⟨power.symm,by omega⟩
      rw [reaches,← power]
      push_cast
      linarith
    · have bound : (2 : ℚ) ^ 52 + 1 ≤ n := by exact_mod_cast larger
      linarith [reach_le n f]

theorem reach_odd (odd : m % 2 = 1) : reach m e = 1 / 2 := by
  rw [reach,if_neg]
  rintro ⟨rfl,-⟩
  cases odd

theorem Near.rounds (near : Near m (v / 2 ^ e)) (canonical : Canonical m e)
    (filled : -1074 < e → m = 2 ^ 52 → m ≤ v / 2 ^ e) :
    Rounds v m e := by
  have unit : (0 : ℚ) < 2 ^ e := zpow_pos two_pos e
  have above : m - reach m e ≤ v / 2 ^ e := by
    by_cases power : m = 2 ^ 52 ∧ -1074 < e
    · have reaches := reach_pos m e
      linarith [filled power.2 power.1]
    · have half : reach m e = 1 / 2 := if_neg power
      linarith [near.above]
  refine ⟨canonical,(le_div_iff₀ unit).mp above,(div_le_iff₀ unit).mp near.below,fun odd => ?_⟩
  obtain ⟨lower,upper⟩ := near.odd odd
  rw [reach_odd odd]
  exact ⟨(lt_div_iff₀ unit).mp lower,(div_lt_iff₀ unit).mp upper⟩

-- A carry into a bit too many makes for half the units.
theorem carried (near : Near (2 ^ 53) (v / 2 ^ e)) (low : -1074 ≤ e) : Rounds v (2 ^ 52) (e + 1) := by
  have unit : (0 : ℚ) < 2 ^ (e + 1) := zpow_pos two_pos _
  have half : v / 2 ^ (e + 1) = v / 2 ^ e / 2 := by rw [zpow_add_one₀ two_ne_zero,div_div]
  have reaches : reach (2 ^ 52) (e + 1) = 1 / 4 := if_pos ⟨rfl,by omega⟩
  obtain ⟨above,below,-⟩ := near
  push_cast at above below
  refine ⟨⟨by decide,by omega,.inr le_rfl⟩,(le_div_iff₀ unit).mp ?_,(div_le_iff₀ unit).mp ?_,fun odd => by cases odd⟩
  · rw [half,reaches]
    push_cast
    linarith
  · rw [half]
    push_cast
    linarith

theorem full_quotient (positive : 0 < m) {s : ℕ} (places : m.log2 = 52 + s) : 2 ^ 52 ≤ m / 2 ^ s := by
  rw [Nat.le_div_iff_mul_le (Nat.two_pow_pos s),← Nat.pow_add,← places]
  exact Nat.log2_self_le (Nat.ne_of_gt positive)

-- As long as there are bits enough, rounding finds the double a value rounds to.
theorem round_rounds (sign : Sign) (keeps : Keeps (.ofMantissaAndAccuracy m accuracy) (v / 2 ^ e))
    (enough : e ≤ max (totalExponent m e - 53) (-1074)) :
    ∃ n f, parts (roundWithAccuracy Format.binary64 sign m e accuracy) = some (n,f) ∧ Rounds v n f := by
  obtain ⟨r,rounded,lower,upper,short,found⟩ := parts_round sign m e accuracy
  obtain ⟨mantissa,-⟩ := shiftToTarget_mantissa m e accuracy
  have full : max (totalExponent m e - 53) (-1074) = -1074 ∨
      2 ^ 52 ≤ m / 2 ^ (max (totalExponent m e - 53) (-1074) - e).toNat := by
    rw [totalExponent] at enough ⊢
    by_cases least : (m.log2 : ℤ) + 1 + e - 53 ≤ -1074
    · exact .inl (max_eq_right least)
    · have positive : 0 < m := by
        refine Nat.pos_of_ne_zero fun zero => ?_
        rw [zero,Nat.log2_zero] at enough least
        omega
      exact .inr (full_quotient positive (by omega))
  have low : -1074 ≤ max (totalExponent m e - 53) (-1074) := Int.le_max_right _ _
  have kept := keeps.shiftRight (max (totalExponent m e - 53) (-1074) - e).toNat
  have shifted : (shiftToTargetExponent Format.binary64 m e accuracy).1 =
      ExtendedMantissa.ofMantissaAndAccuracy m accuracy >>> (max (totalExponent m e - 53) (-1074) - e).toNat := rfl
  rw [max_eq_right enough] at found
  rw [shifted] at rounded mantissa
  generalize max (totalExponent m e - 53) (-1074) = g at *
  generalize cut : m / 2 ^ (g - e).toNat = quotient at *
  have units : (2 : ℚ) ^ e * 2 ^ (g - e).toNat = 2 ^ g := by
    rw [← zpow_natCast,← zpow_add₀ two_ne_zero]
    congr 1
    omega
  rw [div_div,units] at kept
  have near : Near r (v / 2 ^ g) := rounded ▸ kept.near
  have cutDown : (quotient : ℚ) ≤ v / 2 ^ g := mantissa ▸ kept.bounds.1
  split at found
  · rename_i none
    have least : g = -1074 := full.resolve_right (by omega)
    subst none least
    exact ⟨_,_,found,near.rounds ⟨by decide,le_rfl,.inl rfl⟩ fun above => absurd above (lt_irrefl _)⟩
  split at found
  · rename_i carry
    exact ⟨_,_,found,carried (carry ▸ near) low⟩
  · rename_i within
    refine ⟨_,_,found,near.rounds ⟨by omega,low,full.imp_right fun filled => filled.trans lower⟩ fun above power => ?_⟩
    have filled : r ≤ quotient := power.trans_le (full.resolve_left above.ne')
    exact le_trans (by exact_mod_cast filled) cutDown

-- Two doubles next to one another meet half way, and one of them is odd.
theorem Rounds.not_lt (one : Rounds v m e) (two : Rounds v n f) : ¬ (m : ℚ) * 2 ^ e < n * 2 ^ f := by
  intro less
  have unit : (2 : ℚ) ^ e ≠ 0 := (zpow_pos two_pos e).ne'
  have next := one.canonical.next two.canonical less
  have previous := one.canonical.previous two.canonical less
  have upper := one.below
  have lower := two.above
  have reaches : reach n f * 2 ^ f = 2 ^ e / 2 := by linarith
  have adjacent : (n : ℚ) * 2 ^ f = (m + 1) * 2 ^ e := by linarith
  have even : m % 2 = 0 := by
    refine Nat.mod_two_ne_one.mp fun odd => ?_
    linarith [(one.odd odd).2]
  have evenToo : n % 2 = 0 := by
    refine Nat.mod_two_ne_one.mp fun odd => ?_
    linarith [(two.odd odd).1]
  by_cases power : n = 2 ^ 52 ∧ -1074 < f
  · rw [reach,if_pos power] at reaches
    have double : (2 : ℚ) ^ f = 2 * 2 ^ e := by linarith
    rw [double,← mul_assoc] at adjacent
    have successor : n * 2 = m + 1 := by exact_mod_cast mul_right_cancel₀ unit adjacent
    omega
  · rw [reach,if_neg power] at reaches
    have same : (2 : ℚ) ^ f = 2 ^ e := by linarith
    rw [same] at adjacent
    have successor : n = m + 1 := by exact_mod_cast mul_right_cancel₀ unit adjacent
    omega

theorem Canonical.eq (one : Canonical m e) (two : Canonical n f) (same : (m : ℚ) * 2 ^ e = n * 2 ^ f) :
    (m,e) = (n,f) := by
  rcases lt_trichotomy e f with higher | rfl | higher
  · exact absurd same (two.lower_lt one higher).ne
  · have unit : (2 : ℚ) ^ e ≠ 0 := (zpow_pos two_pos e).ne'
    rw [Prod.mk.injEq]
    exact ⟨by exact_mod_cast mul_right_cancel₀ unit same,rfl⟩
  · exact absurd same (one.lower_lt two higher).ne'

-- A value rounds to one double.
theorem Rounds.eq (one : Rounds v m e) (two : Rounds v n f) : (m,e) = (n,f) :=
  one.canonical.eq two.canonical (le_antisymm (le_of_not_gt (two.not_lt one)) (le_of_not_gt (one.not_lt two)))

theorem round_eq (sign : Sign) (keeps : Keeps (.ofMantissaAndAccuracy m accuracy) (v / 2 ^ e))
    (enough : e ≤ max (totalExponent m e - 53) (-1074)) (rounds : Rounds v n f) :
    parts (roundWithAccuracy Format.binary64 sign m e accuracy) = some (n,f) := by
  obtain ⟨k,g,found,roundsToo⟩ := round_rounds sign keeps enough
  rw [found,roundsToo.eq rounds]

end Questionnaire.Decimal
