import Questionnaire.Decimal.Shortest
import Questionnaire.Proofs.Decimal.Nearest
/-!
The shortest decimal of a double. Whichever grid has a point for it, the point is one of the values that round to the
double, and the finest grid has one for every double.
-/

namespace Questionnaire.Decimal

open Float.Model (Format UnpackedFloat)
open Float.Model.UnpackedFloat

variable {b : Binary} {k : ℤ} {point : ℕ} {tie : Tie}

section Fields

variable {x : Float}

theorem fractionField_eq (x : Float) :
    (@unpackMantissa Format.binary64 x.toModel.toBits.toBitVec).toNat = fractionField x := by
  rw [unpackMantissa_def,BitVec.extractLsb'_toNat,Nat.shiftRight_zero]
  rfl

theorem exponentField_eq (x : Float) :
    (@unpackExponent Format.binary64 x.toModel.toBits.toBitVec).toNat = exponentField x := by
  rw [unpackExponent_def,BitVec.extractLsb'_toNat,Nat.shiftRight_eq_div_pow]
  rfl

theorem signBit_eq (x : Float) :
    Sign.ofBitVec (@unpackSign Format.binary64 x.toModel.toBits.toBitVec) = signOf (signBit x) := by
  have bit : (@unpackSign Format.binary64 x.toModel.toBits.toBitVec).toNat = x.toBits.toNat / Nat.pow 2 63 := by
    have top : x.toBits.toNat / 2 ^ 63 < 2 ^ 1 := Nat.div_lt_of_lt_mul x.toBits.toNat_lt
    rw [unpackSign_def,BitVec.extractLsb'_toNat,Nat.shiftRight_eq_div_pow]
    exact Nat.mod_eq_of_lt top
  rw [Sign.ofBitVec,signBit,← bit]
  rcases BitVec.eq_zero_or_eq_one (@unpackSign Format.binary64 x.toModel.toBits.toBitVec) with plus | minus
  · rw [plus]
    rfl
  · rw [minus]
    rfl

theorem ordinary_of_parts {b : BitVec Format.binary64.numBits} {p : ℕ × ℤ}
    (found : parts (unpack Format.binary64 b) = some p) : unpackExponent b ≠ -1#11 := by
  intro special
  rw [unpack] at found
  dsimp only at found
  rw [if_pos special] at found
  split at found <;> cases found

theorem exponentField_lt (finite : x.isFinite = true) : exponentField x < 2047 := by
  obtain ⟨p,found⟩ := isFinite_iff_parts.mp finite
  have ordinary := ordinary_of_parts found
  have field := exponentField_eq x
  have short := (@unpackExponent Format.binary64 x.toModel.toBits.toBitVec).isLt
  rw [field] at short
  refine lt_of_le_of_ne (Nat.le_of_lt_succ short) fun top => ordinary (BitVec.eq_of_toNat_eq ?_)
  rw [field,top]
  rfl

theorem parts_ofFloat (finite : x.isFinite = true) :
    parts x.toModel.unpack = some ((Binary.ofFloat x).m,(Binary.ofFloat x).q) := by
  obtain ⟨p,found⟩ := isFinite_iff_parts.mp finite
  have ordinary := ordinary_of_parts found
  have whole := @packComponents_unpackSign_unpackExponent_unpackMantissa Format.binary64 x.toModel.toBits.toBitVec
  show parts (unpack Format.binary64 x.toModel.toBits.toBitVec) = _
  rw [Binary.ofFloat,← whole]
  by_cases least : exponentField x = 0
  · have field : @unpackExponent Format.binary64 x.toModel.toBits.toBitVec = 0#11 :=
      BitVec.eq_of_toNat_eq ((exponentField_eq x).trans least)
    rw [if_pos least,field]
    exact (parts_subnormal _ _).trans (by rw [fractionField_eq])
  · have normal : @unpackExponent Format.binary64 x.toModel.toBits.toBitVec ≠ 0#11 := by
      intro field
      rw [← exponentField_eq,field] at least
      exact least rfl
    rw [if_neg least]
    exact (parts_normal _ ordinary normal _).trans (by rw [fractionField_eq,exponentField_eq]; rfl)

theorem canonical_ofFloat (finite : x.isFinite = true) :
    Canonical (Binary.ofFloat x).m (Binary.ofFloat x).q ∧ (Binary.ofFloat x).q ≤ 971 := by
  have short : fractionField x < 2 ^ 52 := Nat.mod_lt _ (by decide)
  have bound := exponentField_lt finite
  rw [Binary.ofFloat]
  split
  · exact ⟨⟨short.trans (by decide),le_rfl,.inl rfl⟩,(by decide : (-1074 : ℤ) ≤ 971)⟩
  · have implicit : Nat.pow 2 52 = 2 ^ 52 := rfl
    refine ⟨⟨?_,?_,.inr ?_⟩,?_⟩ <;> dsimp only <;> omega

-- A finite double is its sign, its mantissa and its exponent.
theorem unpack_ofFloat (finite : x.isFinite = true) :
    x.toModel.unpack = build (signOf (signBit x)) (Binary.ofFloat x).m (Binary.ofFloat x).q := by
  rw [← signBit_eq]
  exact unpack_build (parts_ofFloat finite)

end Fields

namespace Binary

-- What makes whole numbers of the marks of a ruler.
def scale (b : Binary) (k : ℤ) : ℚ := 2 ^ (2 - b.q).toNat * 10 ^ (-k).toNat

theorem scale_pos (b : Binary) (k : ℤ) : 0 < b.scale k := mul_pos (by positivity) (by positivity)

theorem unit_scaled (b : Binary) (k : ℤ) :
    ((2 ^ (b.q - 2).toNat * 10 ^ (-k).toNat : ℕ) : ℚ) = 2 ^ b.q / 4 * b.scale k := by
  have quarter : (2 : ℚ) ^ b.q / 4 = 2 ^ (b.q - 2) := by
    rw [zpow_sub₀ two_ne_zero]
    norm_num
  have power := zpow_toNat (b := 2) two_ne_zero (b.q - 2)
  rw [neg_sub] at power
  push_cast
  rw [quarter,scale,← power,mul_assoc]

theorem step_scaled (b : Binary) (k : ℤ) : ((b.ruler k).step : ℚ) = 10 ^ k * b.scale k := by
  have power := zpow_toNat (b := 10) (by norm_num) k
  show ((2 ^ (2 - b.q).toNat * 10 ^ k.toNat : ℕ) : ℚ) = _
  push_cast
  rw [scale,← power]
  ring

theorem value_scaled (b : Binary) (k : ℤ) : ((b.ruler k).value : ℚ) = b.m * 2 ^ b.q * b.scale k := by
  show ((4 * b.m * (2 ^ (b.q - 2).toNat * 10 ^ (-k).toNat) : ℕ) : ℚ) = _
  rw [Nat.cast_mul,unit_scaled]
  push_cast
  ring

theorem high_scaled (b : Binary) (k : ℤ) : ((b.ruler k).high : ℚ) = (b.m + 1 / 2) * 2 ^ b.q * b.scale k := by
  show (((4 * b.m + 2) * (2 ^ (b.q - 2).toNat * 10 ^ (-k).toNat) : ℕ) : ℚ) = _
  rw [Nat.cast_mul,unit_scaled]
  push_cast
  ring

theorem low_scaled (positive : 0 < b.m) (k : ℤ) :
    ((b.ruler k).low : ℚ) = (b.m - reach b.m b.q) * 2 ^ b.q * b.scale k := by
  have reaches : ((4 * b.m - (if b.nearBelow then 1 else 2) : ℕ) : ℚ) = 4 * (b.m - reach b.m b.q) := by
    have same : b.nearBelow = true ↔ b.m = 2 ^ 52 ∧ -1074 < b.q := by simp [nearBelow]
    simp only [reach,same]
    split
    · rw [Nat.cast_sub (by omega)]
      push_cast
      ring
    · rw [Nat.cast_sub (by omega)]
      push_cast
      ring
  show (((4 * b.m - (if b.nearBelow then 1 else 2)) * (2 ^ (b.q - 2).toNat * 10 ^ (-k).toNat) : ℕ) : ℚ) = _
  rw [Nat.cast_mul,unit_scaled,reaches]
  ring

-- What lies between the ends of a ruler rounds to the double, and so do the ends for an even mantissa.
theorem rounds_of_holds (canonical : Canonical b.m b.q) (positive : 0 < b.m)
    (held : (b.ruler k).holds point = true) : Rounds (point * 10 ^ k) b.m b.q := by
  have scaled := b.scale_pos k
  have mark : ((point * (b.ruler k).step : ℕ) : ℚ) = point * 10 ^ k * b.scale k := by
    rw [Nat.cast_mul,step_scaled,mul_assoc]
  have lower (less : (b.ruler k).low ≤ point * (b.ruler k).step) :
      (b.m - reach b.m b.q) * 2 ^ b.q ≤ (point : ℚ) * 10 ^ k := by
    refine le_of_mul_le_mul_right ?_ scaled
    rw [← low_scaled positive,← mark]
    exact_mod_cast less
  have upper (less : point * (b.ruler k).step ≤ (b.ruler k).high) : (point : ℚ) * 10 ^ k ≤ (b.m + 1 / 2) * 2 ^ b.q := by
    refine le_of_mul_le_mul_right ?_ scaled
    rw [← high_scaled,← mark]
    exact_mod_cast less
  rw [Ruler.holds] at held
  split at held
  · rename_i closed
    have even : b.m % 2 = 0 := of_decide_eq_true closed
    rw [Bool.and_eq_true,decide_eq_true_eq,decide_eq_true_eq] at held
    exact ⟨canonical,lower held.1,upper held.2,fun odd => by omega⟩
  · rw [Bool.and_eq_true,decide_eq_true_eq,decide_eq_true_eq] at held
    refine ⟨canonical,lower held.1.le,upper held.2.le,fun _ => ⟨?_,?_⟩⟩
    · refine lt_of_mul_lt_mul_right ?_ scaled.le
      rw [← low_scaled positive,← mark]
      exact_mod_cast held.1
    · refine lt_of_mul_lt_mul_right ?_ scaled.le
      rw [← high_scaled,← mark]
      exact_mod_cast held.2

end Binary

namespace Ruler

variable {r : Ruler}

theorem holds_of_within (above : r.low < point * r.step) (below : point * r.step < r.high) : r.holds point = true := by
  rw [holds]
  split <;> simp [above,below,above.le,below.le]

theorem pick_holds (picked : r.pick tie = some point) : r.holds point = true := by
  unfold pick at picked
  dsimp only at picked
  generalize below : r.value / r.step = k at picked
  cases held : r.holds k <;> cases heldAbove : r.holds (k + 1) <;> simp only [held,heldAbove] at picked
  · cases picked
  · cases picked
    exact heldAbove
  · cases picked
    exact held
  · have either : point = k ∨ point = k + 1 := by
      split at picked
      · exact .inl (Option.some.inj picked).symm
      split at picked
      · exact .inr (Option.some.inj picked).symm
      cases tie with
      | up => exact .inr (Option.some.inj picked).symm
      | even =>
        rw [← Option.some.inj picked]
        split
        · exact .inl rfl
        · exact .inr rfl
    rcases either with rfl | rfl
    · exact held
    · exact heldAbove

theorem pick_of_holds (held : r.holds (r.value / r.step) = true) (tie : Tie) : ∃ point, r.pick tie = some point := by
  unfold pick
  dsimp only
  cases heldAbove : r.holds (r.value / r.step + 1) <;> simp only [held]
  · exact ⟨_,rfl⟩
  · split
    · exact ⟨_,rfl⟩
    split
    · exact ⟨_,rfl⟩
    cases tie <;> exact ⟨_,rfl⟩

end Ruler

namespace Binary

-- The finest grid is finer than the values that round to any one double.
theorem finest_step (canonical : Canonical b.m b.q) : (10 : ℚ) ^ (-324 : ℤ) ≤ reach b.m b.q * 2 ^ b.q := by
  have grid : (10 : ℚ) ^ (-324 : ℤ) ≤ 2 ^ (-1075 : ℤ) := by
    have bound : 2 ^ 1075 ≤ 10 ^ 324 := by decide +kernel
    rw [zpow_neg,zpow_neg]
    exact inv_anti₀ (by positivity) (by exact_mod_cast bound)
  refine grid.trans ?_
  by_cases power : b.m = 2 ^ 52 ∧ -1074 < b.q
  · have quarter : (1 / 4 : ℚ) = 2 ^ (-2 : ℤ) := by norm_num
    rw [reach,if_pos power,quarter,← zpow_add₀ two_ne_zero]
    exact zpow_le_zpow_right₀ one_le_two (by omega)
  · have half : (1 / 2 : ℚ) = 2 ^ (-1 : ℤ) := by norm_num
    have low := canonical.low
    rw [reach,if_neg power,half,← zpow_add₀ two_ne_zero]
    exact zpow_le_zpow_right₀ one_le_two (by omega)

theorem finest_picks (positive : 0 < b.m) (canonical : Canonical b.m b.q) (tie : Tie) :
    ∃ point, (b.ruler (-324)).pick tie = some point := by
  apply Ruler.pick_of_holds
  have scaled := b.scale_pos (-324)
  have step : 0 < (b.ruler (-324)).step := by
    show 0 < 2 ^ (2 - b.q).toNat * 10 ^ (-324 : ℤ).toNat
    positivity
  generalize below : (b.ruler (-324)).value / (b.ruler (-324)).step = k
  have down : k * (b.ruler (-324)).step ≤ (b.ruler (-324)).value := below ▸ Nat.div_mul_le_self _ _
  have next : (b.ruler (-324)).value < k * (b.ruler (-324)).step + (b.ruler (-324)).step :=
    below ▸ Nat.lt_div_mul_add step
  have lowest : (b.ruler (-324)).low + (b.ruler (-324)).step ≤ (b.ruler (-324)).value := by
    have reaches := mul_le_mul_of_nonneg_right (finest_step canonical) scaled.le
    have cast : ((b.ruler (-324)).low + (b.ruler (-324)).step : ℚ) ≤ (b.ruler (-324)).value := by
      rw [low_scaled positive,step_scaled,value_scaled]
      linarith
    exact_mod_cast cast
  have highest : (b.ruler (-324)).value < (b.ruler (-324)).high := by
    have cast : ((b.ruler (-324)).value : ℚ) < (b.ruler (-324)).high := by
      rw [high_scaled,value_scaled]
      have unit := mul_pos (zpow_pos two_pos b.q : (0 : ℚ) < 2 ^ b.q) scaled
      linarith
    exact_mod_cast cast
  exact Ruler.holds_of_within (by omega) (by omega)

theorem shortest_rounds (positive : 0 < b.m) (canonical : Canonical b.m b.q) (tie : Tie) :
    Rounds ((b.shortest tie).digits * 10 ^ (b.shortest tie).exponent) b.m b.q := by
  have some : (grids.findSome? fun k => ((b.ruler k).pick tie).map (⟨·,k⟩ : ℕ → Figures)).isSome = true := by
    obtain ⟨point,picked⟩ := finest_picks positive canonical tie
    have listed : -324 ∈ grids := by decide +kernel
    rw [List.findSome?_isSome_iff]
    exact ⟨-324,listed,by rw [picked]; rfl⟩
  obtain ⟨shortest,found⟩ := Option.isSome_iff_exists.mp some
  obtain ⟨k,-,mapped⟩ := List.exists_of_findSome?_eq_some found
  obtain ⟨point,picked,rfl⟩ := Option.map_eq_some_iff.mp mapped
  have same : b.shortest tie = ⟨point,k⟩ := by rw [Binary.shortest,found,Option.getD_some]
  rw [same]
  exact rounds_of_holds canonical positive (Ruler.pick_holds picked)

end Binary

end Questionnaire.Decimal
