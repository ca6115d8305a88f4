import Questionnaire.Proofs.Decimal.Comparison
import Questionnaire.Proofs.Decimal.Rounding
/-!
Decimals rounded to doubles. Whichever way a decimal is turned into a double, by a table and one operation on
doubles or by whole numbers of any length, there is one rounding, and it is correct.
-/

namespace Questionnaire.Decimal

open Float.Model (Format UnpackedFloat totalExponent pack)
open Float.Model.UnpackedFloat hiding pack

variable {sign other : Sign} {m n k : ℕ} {e f g : ℤ} {v : ℚ} {accuracy : Accuracy}

-- The finite value with a sign, a mantissa and an exponent.
def build (sign : Sign) (m : ℕ) (e : ℤ) : UnpackedFloat :=
  if positive : 0 < m then .finite sign m e positive else .zero sign

theorem parts_build (canonical : Canonical m e) : parts (build sign m e) = some (m,e) := by
  rw [build]
  split
  · rfl
  · rename_i none
    have zero : m = 0 := by omega
    have least : e = -1074 := canonical.full.resolve_right (by omega)
    rw [zero,least]
    rfl

theorem round_build (found : parts (roundWithAccuracy Format.binary64 sign m e accuracy) = some (n,f)) :
    roundWithAccuracy Format.binary64 sign m e accuracy = build sign n f := by
  rw [roundWithAccuracy] at found ⊢
  dsimp only at found ⊢
  split at found
  · rename_i zero
    cases found
    rw [dif_pos zero]
    rfl
  · rename_i nonzero
    cases found
    rw [dif_neg nonzero,build,dif_pos (Nat.pos_of_ne_zero nonzero)]

theorem unpack_build {b : BitVec Format.binary64.numBits} (found : parts (unpack Format.binary64 b) = some (m,e)) :
    unpack Format.binary64 b = build (Sign.ofBitVec (unpackSign b)) m e := by
  rw [unpack] at found ⊢
  dsimp only at found ⊢
  split at found
  · split at found <;> cases found
  · rename_i ordinary
    rw [if_neg ordinary]
    split at found
    · rename_i least
      rw [if_pos least]
      split at found
      · rename_i zero
        cases found
        rw [dif_pos zero]
        rfl
      · rename_i nonzero
        cases found
        rw [dif_neg nonzero,build,dif_pos]
    · rename_i normal
      cases found
      rw [if_neg normal,build,dif_pos]

theorem unpackSign_pack {positive : 0 < m} :
    unpackSign (UnpackedFloat.pack Format.binary64 (.finite sign m e positive)) = sign.toBitVec := by
  rw [UnpackedFloat.pack]
  dsimp only
  split
  · exact unpackSign_packComponents _ _ _
  · split <;> exact unpackSign_packComponents _ _ _

theorem Canonical.log2_eq (canonical : Canonical m e) (filled : 2 ^ 52 ≤ m) : m.log2 = 52 :=
  (Nat.log2_eq_iff (by omega)).mpr ⟨filled,canonical.short⟩

theorem parts_pack (canonical : Canonical m e) (high : e ≤ 971) (positive : 0 < m) :
    parts (pack (.finite sign m e positive)).unpack = some (m,e) := by
  rw [parts_pack_finite high positive]
  by_cases filled : 2 ^ 52 ≤ m
  · rw [if_pos ⟨canonical.log2_eq filled,canonical.low⟩]
  · have least : e = -1074 := canonical.full.resolve_right filled
    have short : m.log2 < 52 := (Nat.log2_lt (Nat.ne_of_gt positive)).mpr (by omega)
    rw [if_neg (by omega),Nat.mod_eq_of_lt (by omega),least]

theorem unpack_pack_build (canonical : Canonical m e) (high : e ≤ 971) :
    (pack (build sign m e)).unpack = build sign m e := by
  by_cases positive : 0 < m
  · have kept : build sign m e = .finite sign m e positive := dif_pos positive
    have found := @parts_pack sign m e canonical high positive
    rw [unpack_pack] at found
    rw [kept,unpack_pack,unpack_build found,unpackSign_pack,Sign.ofBitVec_toBitVec,kept]
  · rw [build,dif_neg positive]
    cases sign <;> rfl

theorem keeps_exact (m : ℕ) : Keeps (.ofMantissaAndAccuracy m .exact) m := rfl

theorem round_exact (rounds : Rounds (m * 2 ^ e) n f) (enough : e ≤ max (totalExponent m e - 53) (-1074)) :
    roundWithAccuracy Format.binary64 sign m e .exact = build sign n f := by
  have unit : (2 : ℚ) ^ e ≠ 0 := (zpow_pos two_pos e).ne'
  have keeps : Keeps (.ofMantissaAndAccuracy m .exact) (m * 2 ^ e / 2 ^ e) := by
    rw [mul_div_cancel_right₀ _ unit]
    exact keeps_exact m
  exact round_build (round_eq sign keeps enough rounds)

theorem mul_build {positive : 0 < m} {positiveToo : 0 < n} (rounds : Rounds (m * 2 ^ e * (n * 2 ^ f)) k g)
    (long : 2 ^ 52 ≤ m) :
    mul Format.binary64 (.finite sign m e positive) (.finite other n f positiveToo) = build (sign * other) k g := by
  have product : ((m * n : ℕ) : ℚ) * 2 ^ (e + f) = m * 2 ^ e * (n * 2 ^ f) := by
    rw [zpow_add₀ two_ne_zero]
    push_cast
    ring
  have bits : 52 ≤ (m * n).log2 := by
    refine (Nat.le_log2 (Nat.mul_pos positive positiveToo).ne').mpr ?_
    exact long.trans (Nat.le_mul_of_pos_right m positiveToo)
  show roundWithAccuracy Format.binary64 (sign * other) (m * n) (e + f) .exact = _
  refine round_exact (by rwa [product]) ?_
  rw [totalExponent]
  omega

theorem keeps_fraction (positive : 0 < n) (m : ℕ) :
    Keeps (.ofMantissaAndAccuracy (m / n) (accuracyOfFraction (m % n) n)) (m / n) := by
  have divisor : (0 : ℚ) < n := by exact_mod_cast positive
  have split : (m : ℚ) / n = (m / n : ℕ) + (m % n : ℕ) / n := by
    have whole : (m : ℚ) = n * (m / n : ℕ) + (m % n : ℕ) := by exact_mod_cast (Nat.div_add_mod m n).symm
    field_simp
    linarith
  have rest : (m % n : ℕ) / (n : ℚ) < 1 := (div_lt_one divisor).mpr (by exact_mod_cast Nat.mod_lt m positive)
  rw [split,accuracyOfFraction]
  generalize m / n = q
  generalize m % n = r at *
  split
  · rename_i none
    rw [none,Nat.cast_zero,zero_div,add_zero]
    exact keeps_exact q
  · rename_i some
    have above : (0 : ℚ) < r / n := div_pos (by exact_mod_cast Nat.pos_of_ne_zero some) divisor
    cases compared : compare (2 * r) n with
    | lt =>
      have less : (2 * r : ℚ) < n := by exact_mod_cast Nat.compare_eq_lt.mp compared
      have half : (r : ℚ) / n < 1 / 2 := (div_lt_div_iff₀ divisor two_pos).mpr (by linarith)
      show (q : ℚ) < _ ∧ _ < (q : ℚ) + 1 / 2
      exact ⟨by linarith,by linarith⟩
    | eq =>
      have same : (2 * r : ℚ) = n := by exact_mod_cast Nat.compare_eq_eq.mp compared
      have half : (r : ℚ) / n = 1 / 2 := (div_eq_div_iff divisor.ne' two_ne_zero).mpr (by linarith)
      show _ = (q : ℚ) + 1 / 2
      rw [half]
    | gt =>
      have more : (n : ℚ) < 2 * r := by exact_mod_cast Nat.compare_eq_gt.mp compared
      have half : 1 / 2 < (r : ℚ) / n := (div_lt_div_iff₀ two_pos divisor).mpr (by linarith)
      show (q : ℚ) + 1 / 2 < _ ∧ _ < (q : ℚ) + 1
      exact ⟨by linarith,by linarith⟩

theorem log2_le_div (positive : 0 < n) : m.log2 ≤ (m / n).log2 + 1 + n.log2 := by
  refine log2_lt_of_lt ?_
  have split : (m / n).log2 + 1 + n.log2 + 1 = (n.log2 + 1) + ((m / n).log2 + 1) := by omega
  rw [split,Nat.pow_add]
  calc m < n * (m / n + 1) := Nat.lt_mul_div_succ m positive
    _ ≤ 2 ^ (n.log2 + 1) * 2 ^ ((m / n).log2 + 1) := Nat.mul_le_mul Nat.lt_log2_self.le Nat.lt_log2_self

theorem shiftLeft_value {s : ℕ} (exponent : (s : ℤ) = e - f - g) :
    ((m <<< s : ℕ) : ℚ) / n = m * 2 ^ e / (n * 2 ^ f) / 2 ^ g := by
  have power : (2 : ℚ) ^ s = 2 ^ e / 2 ^ f / 2 ^ g := by
    rw [← zpow_natCast,exponent,zpow_sub₀ two_ne_zero,zpow_sub₀ two_ne_zero]
  rw [Nat.shiftLeft_eq]
  push_cast
  rw [power]
  ring

-- The quotient has bits enough, since the dividend was made as long as it takes.
theorem div_build {positive : 0 < m} {positiveToo : 0 < n} (rounds : Rounds (m * 2 ^ e / (n * 2 ^ f)) k g) :
    div Format.binary64 (.finite sign m e positive) (.finite other n f positiveToo) = build (sign / other) k g := by
  let target := min (e - f) (max (totalExponent m e - totalExponent n f - 53) (-1074))
  let s := (e - f - target).toNat
  show roundWithAccuracy Format.binary64 (sign / other) (m <<< s / n) target (accuracyOfFraction (m <<< s % n) n) = _
  have exponent : (s : ℤ) = e - f - target := by omega
  have keeps := keeps_fraction positiveToo (m <<< s)
  rw [shiftLeft_value exponent] at keeps
  refine round_build (round_eq _ keeps ?_ rounds)
  have bits := log2_le_div (m := m <<< s) positiveToo
  rw [log2_shiftLeft positive] at bits
  have least : target = min (e - f) (max (m.log2 + 1 + e - (n.log2 + 1 + f) - 53) (-1074)) := rfl
  rw [totalExponent]
  omega

theorem zpow_toNat {b : ℚ} (nonzero : b ≠ 0) (e : ℤ) : b ^ e * b ^ (-e).toNat = b ^ e.toNat := by
  rw [← zpow_natCast,← zpow_natCast,← zpow_add₀ nonzero]
  congr 1
  omega

-- A double that is a whole number, with all its bits.
def Exactly (n : ℕ) (u : UnpackedFloat) : Prop :=
  match u with
  | .finite .positive m e _ => 2 ^ 52 ≤ m ∧ m * 2 ^ e.toNat = n * 2 ^ (-e).toNat
  | _ => False

instance (n : ℕ) (u : UnpackedFloat) : Decidable (Exactly n u) := by
  unfold Exactly
  split <;> infer_instance

theorem Exactly.exists {u : UnpackedFloat} (exactly : Exactly n u) :
    ∃ m e, ∃ positive : 0 < m, u = .finite .positive m e positive ∧ 2 ^ 52 ≤ m ∧ (m : ℚ) * 2 ^ e = n := by
  unfold Exactly at exactly
  split at exactly
  · rename_i m e positive
    obtain ⟨filled,same⟩ := exactly
    have power : (2 : ℚ) ^ (-e).toNat ≠ 0 := pow_ne_zero _ two_ne_zero
    refine ⟨m,e,positive,rfl,filled,mul_right_cancel₀ power ?_⟩
    rw [mul_assoc,zpow_toNat two_ne_zero]
    exact_mod_cast same
  · cases exactly

theorem shifted_full (positive : 0 < n) (small : n < 2 ^ 53) :
    2 ^ 52 ≤ n <<< (52 - n.log2) ∧ Canonical (n <<< (52 - n.log2)) (-(52 - n.log2 : ℕ)) := by
  have short := log2_lt_of_lt (small : n < 2 ^ (52 + 1))
  have places : (n <<< (52 - n.log2)).log2 = 52 := by
    rw [log2_shiftLeft positive]
    omega
  have nonzero : n <<< (52 - n.log2) ≠ 0 := by
    intro zero
    rw [zero,Nat.log2_zero] at places
    cases places
  obtain ⟨filled,within⟩ := (Nat.log2_eq_iff nonzero).mp places
  exact ⟨filled,within,by omega,.inr filled⟩

theorem normalize_whole (positive : 0 < n) (small : n < 2 ^ 53) :
    UnpackedFloat.normalize Format.binary64 n 0 .positive =
      build .positive (n <<< (52 - n.log2)) (-(52 - n.log2 : ℕ)) := by
  have short := log2_lt_of_lt (small : n < 2 ^ (52 + 1))
  have above : compare (n : ℤ) 0 = .gt := Int.compare_eq_gt.mpr (by omega)
  have shift : (0 - Format.binary64.targetExponent (totalExponent n 0)).toNat = 52 - n.log2 := by
    show (0 - max ((n.log2 : ℤ) + 1 + 0 - 53) (-1074)).toNat = _
    omega
  obtain ⟨filled,canonical⟩ := shifted_full positive small
  rw [UnpackedFloat.normalize,above]
  dsimp only
  rw [Int.toNat_natCast,UnpackedFloat.round,decreaseExponent,shift,zero_sub]
  refine round_exact canonical.rounds ?_
  rw [totalExponent,log2_shiftLeft positive]
  omega

theorem toFloat_exactly (positive : 0 < n) (small : n < 2 ^ 53) : Exactly n n.toUInt64.toFloat.toModel.unpack := by
  have same : n.toUInt64.toNat = n := UInt64.toNat_ofNat_of_lt' (small.trans (by decide))
  obtain ⟨filled,canonical⟩ := shifted_full positive small
  show Exactly n (pack (UnpackedFloat.normalize Format.binary64 n.toUInt64.toNat 0 .positive)).unpack
  rw [same,normalize_whole positive small,unpack_pack_build canonical (by omega),build,dif_pos (by omega)]
  refine ⟨filled,?_⟩
  rw [neg_neg,Int.toNat_natCast,Int.toNat_of_nonpos (by omega),pow_zero,mul_one,Nat.shiftLeft_eq]

theorem table_exactly {i : ℕ} (listed : i < Float.exactlyRepresentablePowersOfTen.size) :
    Exactly (10 ^ i) Float.exactlyRepresentablePowersOfTen[i].toModel.unpack := by
  have all : ∀ i, ∀ listed : i < Float.exactlyRepresentablePowersOfTen.size,
      Exactly (10 ^ i) Float.exactlyRepresentablePowersOfTen[i].toModel.unpack := by
    decide +kernel
  exact all i listed

theorem ofScientific_build (positive : 0 < n) {p : ℤ} (rounds : Rounds (n * 10 ^ p) m e) (upper : p ≤ 2048)
    (lower : -(2048 + n.log2) ≤ p) : ofScientific Format.binary64 n p = build .positive m e := by
  rcases le_or_gt 0 p with up | down
  · obtain ⟨i,rfl⟩ := Int.eq_ofNat_of_zero_le up
    have whole : 0 < n * 10 ^ i := Nat.mul_pos positive (by positivity)
    have value : (((n * 10 ^ i) <<< 53 : ℕ) : ℚ) * 2 ^ (-53 : ℤ) = n * 10 ^ (i : ℤ) := by
      rw [Nat.shiftLeft_eq,zpow_natCast]
      push_cast
      rw [mul_assoc]
      norm_num
    rw [ofScientific_up positive (by omega)]
    refine round_exact (by rwa [value]) ?_
    rw [totalExponent,log2_shiftLeft whole]
    omega
  · have range : (2 : ℤ) ^ Format.binary64.exponentBits = 2048 := rfl
    have value : (n : ℚ) * 2 ^ (0 : ℤ) / ((10 ^ (-p).toNat : ℕ) * 2 ^ (0 : ℤ)) = n * 10 ^ p := by
      have power : (10 : ℚ) ^ p = ((10 : ℚ) ^ (-p).toNat)⁻¹ := by
        rw [← zpow_natCast,← zpow_neg]
        congr 1
        omega
      rw [zpow_zero,mul_one,mul_one,power,div_eq_mul_inv]
      push_cast
      rfl
    rw [ofScientific,dif_neg positive.ne',range,if_neg (by omega),if_neg (by omega),if_neg (by omega)]
    exact div_build (by rwa [value])

section Table

variable {i : ℕ} (positive : 0 < n) (small : n < 2 ^ 53) (listed : i < Float.exactlyRepresentablePowersOfTen.size)

include positive small

theorem tabled_div_build (rounds : Rounds (n / 10 ^ i) m e) (high : e ≤ 971) :
    (n.toUInt64.toFloat / Float.exactlyRepresentablePowersOfTen[i]).toModel.unpack = build .positive m e := by
  obtain ⟨k,f,some,whole,_,value⟩ := (toFloat_exactly positive small).exists
  obtain ⟨k',f',some',power,_,value'⟩ := (table_exactly listed).exists
  push_cast at value'
  show (pack (div Format.binary64 n.toUInt64.toFloat.toModel.unpack _)).unpack = _
  rw [whole,power,div_build (by rwa [value,value'])]
  exact unpack_pack_build rounds.canonical high

theorem tabled_mul_build (rounds : Rounds (n * 10 ^ i) m e) (high : e ≤ 971) :
    (n.toUInt64.toFloat * Float.exactlyRepresentablePowersOfTen[i]).toModel.unpack = build .positive m e := by
  obtain ⟨k,f,some,whole,filled,value⟩ := (toFloat_exactly positive small).exists
  obtain ⟨k',f',some',power,filled',value'⟩ := (table_exactly listed).exists
  push_cast at value'
  show (pack (mul Format.binary64 n.toUInt64.toFloat.toModel.unpack _)).unpack = _
  rw [whole,power,mul_build (by rwa [value,value']) filled]
  exact unpack_pack_build rounds.canonical high

end Table

-- By the table or without it.
theorem scientific_build (positive : 0 < n) {p : ℤ} (rounds : Rounds (n * 10 ^ p) m e) (high : e ≤ 971)
    (upper : p ≤ 2048) (lower : -(2048 + n.log2) ≤ p) :
    (Float.ofScientific n (p < 0) p.natAbs).toModel.unpack = build .positive m e := by
  rw [Float.ofScientific]
  split
  · rename_i fast
    have listed : p.natAbs < Float.exactlyRepresentablePowersOfTen.size := Nat.lt_succ_of_le fast.2
    dsimp only
    split
    · rename_i down
      have exponent : p = -(p.natAbs : ℤ) := by
        have below := of_decide_eq_true down
        omega
      rw [exponent,zpow_neg,zpow_natCast,← div_eq_mul_inv] at rounds
      exact tabled_div_build positive fast.1 listed rounds high
    · rename_i up
      have exponent : p = (p.natAbs : ℤ) := by
        have above := of_decide_eq_false (Bool.eq_false_of_not_eq_true up)
        omega
      rw [exponent,zpow_natCast] at rounds
      exact tabled_mul_build positive fast.1 listed rounds high
  · have signed : (if decide (p < 0) = true then Int.negOfNat p.natAbs else Int.ofNat p.natAbs) = p := by
      split
      · rename_i down
        have below := of_decide_eq_true down
        rw [Int.negOfNat_eq,Int.ofNat_eq_natCast]
        omega
      · rename_i up
        have above := of_decide_eq_false (Bool.eq_false_of_not_eq_true up)
        exact Int.natAbs_of_nonneg (by omega)
    dsimp only
    rw [signed]
    show (pack (ofScientific Format.binary64 n p)).unpack = _
    rw [ofScientific_build positive rounds upper lower,unpack_pack_build rounds.canonical high]

theorem digits_bounds (positive : 0 < n) :
    10 ^ ((toDigits n).length - 1) ≤ n ∧ n < 10 ^ (toDigits n).length := by
  have some : 0 < (toDigits n).length := Nat.length_toDigits_pos
  refine ⟨?_,(Nat.length_toDigits_le_iff (by decide) some).mp le_rfl⟩
  by_cases one : (toDigits n).length = 1
  · rw [one]
    exact positive
  · by_contra short
    have fewer := (Nat.length_toDigits_le_iff (by decide) (by omega)).mpr (not_le.mp short)
    rw [toDigits] at some one fewer
    omega

-- The place of the leading digit tells the size.
theorem place_bounds (positive : 0 < n) (p : ℤ) :
    (10 : ℚ) ^ ((toDigits n).length + p - 1) ≤ n * 10 ^ p ∧ (n : ℚ) * 10 ^ p < 10 ^ ((toDigits n).length + p) := by
  obtain ⟨lower,upper⟩ := digits_bounds positive
  have some : 0 < (toDigits n).length := Nat.length_toDigits_pos
  have unit : (0 : ℚ) < 10 ^ p := zpow_pos (by norm_num) p
  have split : ((toDigits n).length + p - 1 : ℤ) = ((toDigits n).length - 1 : ℕ) + p := by omega
  rw [split,zpow_add₀ (by norm_num),zpow_add₀ (by norm_num),zpow_natCast,zpow_natCast]
  exact ⟨mul_le_mul_of_nonneg_right (by exact_mod_cast lower) unit.le,
    mul_lt_mul_of_pos_right (by exact_mod_cast upper) unit⟩

theorem length_toDigits_le_log2 (positive : 0 < n) : (toDigits n).length ≤ n.log2 + 1 := by
  have lower := (digits_bounds positive).1
  have bits := (Nat.le_log2 positive.ne').mpr ((Nat.pow_le_pow_left (by decide : 2 ≤ 10) _).trans lower)
  omega

theorem Rounds.lt_of_exponent_le (rounds : Rounds v m e) (high : e ≤ 971) : v < 10 ^ (310 : ℤ) := by
  have short : (m : ℚ) + 1 / 2 ≤ 2 ^ 53 := by
    have bound : (m : ℚ) + 1 ≤ 2 ^ 53 := by exact_mod_cast rounds.canonical.short
    linarith
  calc v ≤ (m + 1 / 2) * 2 ^ e := rounds.below
    _ ≤ 2 ^ 53 * 2 ^ (971 : ℤ) :=
      mul_le_mul short (zpow_le_zpow_right₀ one_le_two high) (zpow_pos two_pos e).le (by norm_num)
    _ < 10 ^ (310 : ℤ) := by
      have largest : 2 ^ 53 * 2 ^ 971 < 10 ^ 310 := by decide +kernel
      exact_mod_cast largest

theorem rounds_zero (above : 0 ≤ v) (below : v < 10 ^ (-330 : ℤ)) : Rounds v 0 (-1074) where
  canonical := ⟨by decide,le_rfl,.inl rfl⟩
  above := by
    have reaches := reach_pos 0 (-1074)
    have unit : (0 : ℚ) < 2 ^ (-1074 : ℤ) := zpow_pos two_pos _
    rw [Nat.cast_zero,zero_sub,neg_mul]
    linarith [mul_pos reaches unit]
  below := by
    have least : (2 : ℚ) * 2 ^ 1074 ≤ 10 ^ 330 := by
      have bound : 2 * 2 ^ 1074 ≤ 10 ^ 330 := by decide +kernel
      exact_mod_cast bound
    refine below.le.trans ?_
    rw [Nat.cast_zero,zero_add,one_div,zpow_neg,zpow_neg,← mul_inv]
    exact inv_anti₀ (by positivity) least
  odd := nofun

theorem magnitude_build {p : ℤ} (rounds : Rounds (n * 10 ^ p) m e) (high : e ≤ 971) :
    (magnitude n p).toModel.unpack = build .positive m e := by
  have zero : ∀ {v}, 0 ≤ v → v < 10 ^ (-330 : ℤ) → Rounds v m e →
      (0.0 : Float).toModel.unpack = build .positive m e := by
    intro v above below rounds
    cases rounds.eq (rounds_zero above below)
    rfl
  rw [magnitude]
  split
  · rename_i none
    rw [none,Nat.cast_zero,zero_mul] at rounds
    exact zero le_rfl (by positivity) rounds
  rename_i some
  have positive := Nat.pos_of_ne_zero some
  obtain ⟨lower,upper⟩ := place_bounds positive p
  have grows {i j : ℤ} (le : i ≤ j) : (10 : ℚ) ^ i ≤ 10 ^ j := zpow_le_zpow_right₀ (by norm_num) le
  split
  · rename_i large
    have beyond : (310 : ℤ) < (toDigits n).length + p := large
    have above : (10 : ℚ) ^ (310 : ℤ) ≤ n * 10 ^ p := (grows (by omega)).trans lower
    exact absurd (rounds.lt_of_exponent_le high) above.not_gt
  split
  · rename_i _ small
    have beyond : (toDigits n).length + p < (-330 : ℤ) := small
    exact zero (by positivity) (upper.trans_le (grows beyond.le)) rounds
  · rename_i notLarge notSmall
    have within : ¬ (310 : ℤ) < (toDigits n).length + p := notLarge
    have withinToo : ¬ (toDigits n).length + p < (-330 : ℤ) := notSmall
    have short := length_toDigits_le_log2 positive
    exact scientific_build positive rounds high (by omega) (by omega)

def signOf (negative : Bool) : Sign := if negative then .negative else .positive

-- The double that a decimal rounds to is the one that is read.
theorem nearest_build (negative : Bool) {p : ℤ} (rounds : Rounds (n * 10 ^ p) m e) (high : e ≤ 971) :
    (nearest negative n p).toModel.unpack = build (signOf negative) m e := by
  have plain := magnitude_build rounds high
  cases negative with
  | false => exact plain
  | true =>
    have negated : (build .positive m e).neg = build .negative m e := by
      unfold build
      split <;> rfl
    show (pack (magnitude n p).toModel.unpack.neg).unpack = _
    rw [plain,negated]
    exact unpack_pack_build rounds.canonical high

end Questionnaire.Decimal
