import Mathlib
import Questionnaire.Decimal.Nearest
/-!
Doubles. Packing a value into a double never makes it not-a-number, and one that is small enough stays
finite. How large a rounded product or quotient can be follows from the places of the leading bits.
-/

namespace Questionnaire.Decimal

open Float.Model (Format UnpackedFloat totalExponent pack)
open Float.Model.UnpackedFloat hiding pack

-- Mantissa and exponent of a finite value, whatever its sign.
def parts : UnpackedFloat → Option (Nat × Int)
  | .zero _ => some (0,-1074)
  | .finite _ m e _ => some (m,e)
  | .infinity _ | .notANumber => none

variable {sign : Sign} {m : Nat} {e : Int}

theorem parts_normal (sign : Sign) {field : BitVec 11} (ordinary : field ≠ -1#11) (normal : field ≠ 0#11)
    (mantissa : BitVec 52) :
    parts (unpack Format.binary64 (packComponents Format.binary64 sign field mantissa)) =
      some (2 ^ 52 + mantissa.toNat,(field.toNat : Int) - 1075) := by
  have implicit : (1#1 ++ mantissa).toNat = 2 ^ 52 + mantissa.toNat := by
    rw [BitVec.toNat_append,← Nat.shiftLeft_add_eq_or_of_lt mantissa.isLt]
    rfl
  rw [unpack]
  simp only [unpackMantissa_packComponents,unpackExponent_packComponents]
  rw [if_neg ordinary,if_neg normal,parts,implicit]
  rfl

theorem parts_subnormal (sign : Sign) (mantissa : BitVec 52) :
    parts (unpack Format.binary64 (packComponents Format.binary64 sign 0#11 mantissa)) =
      some (mantissa.toNat,-1074) := by
  rw [unpack]
  simp only [unpackMantissa_packComponents,unpackExponent_packComponents]
  rw [if_neg (by decide),if_pos trivial]
  split
  · rename_i plain
    rw [plain]
    rfl
  · rfl

theorem unpack_pack (u : UnpackedFloat) :
    (pack u).unpack = unpack Format.binary64 (UnpackedFloat.pack Format.binary64 u) := rfl

theorem log2_lt_of_lt {k : Nat} (small : m < 2 ^ (k + 1)) : m.log2 ≤ k := by
  by_cases zero : m = 0
  · rw [zero]
    exact Nat.zero_le k
  · have below := (Nat.log2_lt zero).mpr small
    omega

-- Too large a value becomes infinite. Any other is kept, or is cut to the least exponent there is.
theorem parts_pack_finite (fits : e ≤ 971) (positive : 0 < m) :
    parts (pack (.finite sign m e positive)).unpack =
      some (if m.log2 = 52 ∧ -1074 ≤ e then (m,e) else (m % 2 ^ 52,-1074)) := by
  have bias : ((e + Format.binary64.exponentBias : Int) + (52 : Nat)).toNat = (e + 1075).toNat := by
    show (e + 1023 + 52).toNat = _
    omega
  have bits : Format.binary64.mantissaBits = 53 := rfl
  rw [unpack_pack,UnpackedFloat.pack]
  dsimp only
  rw [bias,bits,if_neg (by show ¬ 2048 ≤ _; omega)]
  have kept : (BitVec.ofNat 52 m).toNat = m % 2 ^ 52 := BitVec.toNat_ofNat m 52
  by_cases long : m.log2 = 52
  · rw [if_pos (by omega)]
    by_cases low : -1074 ≤ e
    · have field : (BitVec.ofNat 11 (e + 1075).toNat).toNat = (e + 1075).toNat := by
        rw [BitVec.toNat_ofNat]
        omega
      have ordinary : BitVec.ofNat 11 (e + 1075).toNat ≠ -1#11 := by
        intro special
        rw [special] at field
        have top : (-1#11).toNat = 2047 := rfl
        omega
      have normal : BitVec.ofNat 11 (e + 1075).toNat ≠ 0#11 := by
        intro least
        rw [least] at field
        have bottom : (0#11).toNat = 0 := rfl
        omega
      obtain ⟨atLeast,below⟩ := (Nat.log2_eq_iff (Nat.ne_of_gt positive)).mp long
      have mantissa : 2 ^ 52 + m % 2 ^ 52 = m := by omega
      have exponent : ((e + 1075).toNat : Int) - 1075 = e := by omega
      rw [parts_normal sign ordinary normal,field,kept,mantissa,exponent,if_pos ⟨long,low⟩]
    · have field : (e + 1075).toNat = 0 := by omega
      rw [field,parts_subnormal,kept,if_neg fun both => low both.2]
  · rw [if_neg (by omega),parts_subnormal,kept,if_neg fun both => long both.1]

-- Smaller than `2 ^ k`.
def Below (k : Int) (u : UnpackedFloat) : Prop := ∃ p ∈ parts u, totalExponent p.1 p.2 ≤ k

instance (k : Int) (u : UnpackedFloat) : Decidable (Below k u) := inferInstanceAs (Decidable (∃ p ∈ parts u, _))

theorem pack_below {k : Int} {u : UnpackedFloat} (below : Below k u) (low : -1022 ≤ k) (high : k ≤ 972) :
    Below k (pack u).unpack := by
  obtain ⟨⟨m,e⟩,found,places⟩ := below
  have cut : totalExponent (m % 2 ^ 52) (-1074) ≤ k := by
    have short := log2_lt_of_lt (Nat.mod_lt m (Nat.two_pow_pos 52) : m % 2 ^ 52 < 2 ^ (51 + 1))
    rw [totalExponent]
    omega
  cases u with
  | notANumber => cases found
  | infinity sign => cases found
  | zero sign =>
    refine ⟨(0,-1074),by cases sign <;> rfl,?_⟩
    rw [totalExponent,Nat.log2_zero]
    omega
  | finite sign m e positive =>
    cases found
    have fits : e ≤ 971 := by
      rw [totalExponent] at places
      omega
    have packed : parts (pack (.finite sign m e positive)).unpack = _ := parts_pack_finite fits positive
    split at packed
    · exact ⟨_,packed,places⟩
    · exact ⟨_,packed,cut⟩

theorem isFinite_iff_parts {x : Float} : x.isFinite = true ↔ ∃ p, parts x.toModel.unpack = some p := by
  rw [Float.isFinite,Float.Model.isFinite]
  cases x.toModel.unpack with
  | zero sign => exact ⟨fun _ => ⟨_,rfl⟩,fun _ => rfl⟩
  | finite sign m e positive => exact ⟨fun _ => ⟨_,rfl⟩,fun _ => rfl⟩
  | infinity sign => exact ⟨nofun,nofun⟩
  | notANumber => exact ⟨nofun,nofun⟩

theorem isFinite_of_below {x : Float} {k : Int} (below : Below k x.toModel.unpack) : x.isFinite = true := by
  obtain ⟨p,found,-⟩ := below
  exact isFinite_iff_parts.mpr ⟨p,found⟩

theorem shifted_mantissa (shifting : ExtendedMantissa) (n : Nat) :
    (shifting >>> n).mantissa = shifting.mantissa / 2 ^ n := by
  induction n with
  | zero => exact (Nat.div_one _).symm
  | succ n ih =>
    have last : (shifting >>> (n + 1)).mantissa = (shifting >>> n).mantissa / 2 := rfl
    rw [last,ih,Nat.div_div_eq_div_mul,Nat.pow_succ]

theorem roundedMantissa_le (shifted : ExtendedMantissa) :
    shifted.mantissa ≤ shifted.roundedMantissa ∧ shifted.roundedMantissa ≤ shifted.mantissa + 1 := by
  obtain ⟨mantissa,round,sticky⟩ := shifted
  cases round <;> cases sticky <;>
    simp only [ExtendedMantissa.roundedMantissa,ExtendedMantissa.accuracy,Accuracy.roundToNearestEven]
  all_goals omega

theorem shiftToTarget_mantissa (m : Nat) (e : Int) (accuracy : Accuracy) :
    let target := max (totalExponent m e - 53) (-1074)
    (shiftToTargetExponent Format.binary64 m e accuracy).1.mantissa = m / 2 ^ (target - e).toNat ∧
      (shiftToTargetExponent Format.binary64 m e accuracy).2 = max e target := by
  intro target
  have start : (ExtendedMantissa.ofMantissaAndAccuracy m accuracy).mantissa = m := by
    rcases accuracy with _ | (_ | _ | _) <;> rfl
  refine ⟨?_,?_⟩
  · show (ExtendedMantissa.ofMantissaAndAccuracy m accuracy >>> (target - e).toNat).mantissa = _
    rw [shifted_mantissa,start]
  · show e + ((target - e).toNat : Int) = _
    omega

-- The bits that do not fit are dropped, the rest may go up by one, and a carry into a bit too many moves the exponent.
theorem parts_round (sign : Sign) (m : Nat) (e : Int) (accuracy : Accuracy) :
    let target := max (totalExponent m e - 53) (-1074)
    let quotient := m / 2 ^ (target - e).toNat
    ∃ r, r = (shiftToTargetExponent Format.binary64 m e accuracy).1.roundedMantissa ∧
      quotient ≤ r ∧ r ≤ quotient + 1 ∧ quotient < 2 ^ 53 ∧
      parts (roundWithAccuracy Format.binary64 sign m e accuracy) =
        some (if r = 0 then (0,-1074) else if r = 2 ^ 53 then (2 ^ 52,max e target + 1) else (r,max e target)) := by
  intro target quotient
  obtain ⟨mantissa,exponent⟩ := shiftToTarget_mantissa m e accuracy
  have rounded := roundedMantissa_le (shiftToTargetExponent Format.binary64 m e accuracy).1
  rw [mantissa] at rounded
  have short : quotient < 2 ^ 53 := by
    have enough : m.log2 + 1 ≤ 53 + (target - e).toNat := by
      simp only [target,totalExponent]
      omega
    refine Nat.div_lt_of_lt_mul ?_
    rw [← Nat.pow_add]
    exact Nat.lt_of_lt_of_le Nat.lt_log2_self (Nat.pow_le_pow_right Nat.two_pos (by omega))
  refine ⟨_,rfl,rounded.1,rounded.2,short,?_⟩
  rw [roundWithAccuracy]
  generalize shiftToTargetExponent Format.binary64 m e accuracy = first at exponent rounded ⊢
  dsimp only
  obtain ⟨final,last⟩ := shiftToTarget_mantissa first.1.roundedMantissa first.2 .exact
  have low : -1074 ≤ first.2 := by omega
  by_cases carry : first.1.roundedMantissa = 2 ^ 53
  · have up : max (totalExponent (2 ^ 53) first.2 - 53) (-1074) = first.2 + 1 := by
      rw [totalExponent,Nat.log2_two_pow]
      omega
    have one : (first.2 + 1 - first.2).toNat = 1 := by omega
    rw [carry,up,one] at final
    rw [carry,up] at last
    rw [carry,if_neg (by decide),if_pos rfl,← exponent,dif_neg (by rw [final]; decide),parts,final,last]
    congr 2
    omega
  · have upper : first.1.roundedMantissa ≤ quotient + 1 := rounded.2
    have small : first.1.roundedMantissa < 2 ^ 53 := by omega
    have bits := log2_lt_of_lt (small : _ < 2 ^ (52 + 1))
    have none : max (totalExponent first.1.roundedMantissa first.2 - 53) (-1074) ≤ first.2 := by
      rw [totalExponent]
      omega
    rw [Int.toNat_of_nonpos (by omega),Nat.pow_zero,Nat.div_one] at final
    rw [Int.max_eq_left none] at last
    rw [if_neg carry,← exponent]
    split
    · rename_i zero
      rw [final] at zero
      rw [parts,if_pos zero]
    · rename_i nonzero
      rw [final] at nonzero
      rw [parts,final,last,if_neg nonzero]

theorem round_below {k : Int} {accuracy : Accuracy} (places : totalExponent m e < k) (low : -1073 ≤ k) :
    Below k (roundWithAccuracy Format.binary64 sign m e accuracy) := by
  obtain ⟨r,-,-,upper,-,rounded⟩ := parts_round sign m e accuracy
  rw [totalExponent] at places upper rounded
  generalize shift : (max ((m.log2 : Int) + 1 + e - 53) (-1074) - e).toNat = n at upper
  have quotient : m / 2 ^ n < 2 ^ (m.log2 + 1 - n) := by
    refine Nat.div_lt_of_lt_mul (Nat.lt_of_lt_of_le Nat.lt_log2_self ?_)
    rw [← Nat.pow_add]
    exact Nat.pow_le_pow_right Nat.two_pos (by omega)
  have bits : r.log2 ≤ m.log2 + 1 - n := by
    refine log2_lt_of_lt (Nat.lt_of_le_of_lt (Nat.le_trans upper quotient) ?_)
    exact Nat.pow_lt_pow_right Nat.one_lt_two (Nat.lt_succ_self _)
  split at rounded
  · refine ⟨_,rounded,?_⟩
    rw [totalExponent,Nat.log2_zero]
    omega
  · split at rounded
    · rename_i carry
      rw [carry,Nat.log2_two_pow] at bits
      refine ⟨_,rounded,?_⟩
      rw [totalExponent,Nat.log2_two_pow]
      omega
    · refine ⟨_,rounded,?_⟩
      simp only [totalExponent]
      omega

-- Enough bits fill the mantissa, so that packing keeps the leading one in its place.
theorem round_normal {accuracy : Accuracy} (long : 52 ≤ m.log2) (low : -1021 ≤ totalExponent m e) :
    ∃ n f, parts (roundWithAccuracy Format.binary64 sign m e accuracy) = some (n,f) ∧ n.log2 = 52 ∧
      totalExponent m e ≤ 53 + f ∧ f ≤ totalExponent m e - 52 := by
  obtain ⟨r,-,lower,upper,short,rounded⟩ := parts_round sign m e accuracy
  rw [totalExponent] at low ⊢
  rw [totalExponent] at lower upper short rounded
  have shift : (max ((m.log2 : Int) + 1 + e - 53) (-1074) - e).toNat = m.log2 - 52 := by omega
  have exponent : max e (max ((m.log2 : Int) + 1 + e - 53) (-1074)) = m.log2 + 1 + e - 53 := by omega
  rw [shift] at lower upper short
  rw [exponent] at rounded
  have filled : 2 ^ 52 ≤ m / 2 ^ (m.log2 - 52) := by
    rw [Nat.le_div_iff_mul_le (Nat.two_pow_pos _),← Nat.pow_add,Nat.add_sub_cancel' long]
    refine Nat.log2_self_le fun zero => ?_
    rw [zero,Nat.log2_zero] at long
    omega
  rw [if_neg (by omega)] at rounded
  split at rounded
  · exact ⟨_,_,rounded,Nat.log2_two_pow,by omega,by omega⟩
  · have bits : r.log2 = 52 := (Nat.log2_eq_iff (by omega)).mpr ⟨by omega,by omega⟩
    exact ⟨_,_,rounded,bits,by omega,by omega⟩

theorem mul_below {j k : Int} {one two : UnpackedFloat} (first : Below j one) (second : Below k two)
    (low : -1073 ≤ j + k + 1) : Below (j + k + 1) (mul Format.binary64 one two) := by
  have nothing : ∀ sign, Below (j + k + 1) (.zero sign) := by
    intro sign
    refine ⟨(0,-1074),rfl,?_⟩
    rw [totalExponent,Nat.log2_zero]
    omega
  obtain ⟨⟨m,e⟩,found,places⟩ := first
  obtain ⟨⟨n,f⟩,foundToo,placesToo⟩ := second
  cases one with
  | infinity => cases found
  | notANumber => cases found
  | zero sign =>
    cases two with
    | infinity => cases foundToo
    | notANumber => cases foundToo
    | zero => exact nothing _
    | finite => exact nothing _
  | finite sign m e positive =>
    cases found
    cases two with
    | infinity => cases foundToo
    | notANumber => cases foundToo
    | zero => exact nothing _
    | finite other n f positiveToo =>
      cases foundToo
      refine round_below ?_ low
      have product : m * n < 2 ^ (m.log2 + n.log2 + 1 + 1) := by
        have split : m.log2 + n.log2 + 1 + 1 = (m.log2 + 1) + (n.log2 + 1) := by omega
        rw [split,Nat.pow_add]
        exact Nat.mul_lt_mul'' Nat.lt_log2_self Nat.lt_log2_self
      have bits := log2_lt_of_lt product
      simp only [totalExponent] at places placesToo ⊢
      omega

-- A finite value that is not zero.
def AtLeast (k : Int) (u : UnpackedFloat) : Prop := ∃ p ∈ parts u, 0 < p.1 ∧ k ≤ totalExponent p.1 p.2

instance (k : Int) (u : UnpackedFloat) : Decidable (AtLeast k u) := inferInstanceAs (Decidable (∃ p ∈ parts u, _))

theorem div_below {j k : Int} {one two : UnpackedFloat} (first : Below j one) (second : AtLeast k two)
    (low : -1072 ≤ j - k + 2) : Below (j - k + 2) (div Format.binary64 one two) := by
  obtain ⟨⟨m,e⟩,found,places⟩ := first
  obtain ⟨⟨n,f⟩,foundToo,nonzero,placesToo⟩ := second
  cases two with
  | infinity => cases foundToo
  | notANumber => cases foundToo
  | zero sign =>
    cases foundToo
    cases nonzero
  | finite other n f positive =>
    cases foundToo
    cases one with
    | infinity => cases found
    | notANumber => cases found
    | zero sign =>
      refine ⟨(0,-1074),rfl,?_⟩
      rw [totalExponent,Nat.log2_zero]
      omega
    | finite sign m e _ =>
      cases found
      refine round_below ?_ (by omega)
      simp only [totalExponent] at places placesToo ⊢
      have bias : ∀ places : Int, Format.binary64.targetExponent places = max (places - 53) (-1074) := fun _ => rfl
      rw [bias]
      generalize target : min (e - f) (max ((m.log2 : Int) + 1 + e - (n.log2 + 1 + f) - 53) (-1074)) = t
      generalize shift : (e - f - t).toNat = s
      have quotient : m <<< s / n < 2 ^ (m.log2 + 1 + s - n.log2) := by
        refine Nat.div_lt_of_lt_mul ?_
        have whole : m <<< s < 2 ^ (m.log2 + 1 + s) := by
          rw [Nat.shiftLeft_eq,Nat.pow_add]
          exact Nat.mul_lt_mul_of_pos_right Nat.lt_log2_self (Nat.two_pow_pos s)
        have divisor : 2 ^ n.log2 ≤ n := Nat.log2_self_le (Nat.ne_of_gt nonzero)
        have split : 2 ^ (m.log2 + 1 + s) ≤ 2 ^ n.log2 * 2 ^ (m.log2 + 1 + s - n.log2) := by
          rw [← Nat.pow_add]
          exact Nat.pow_le_pow_right Nat.two_pos (by omega)
        exact Nat.lt_of_lt_of_le whole (Nat.le_trans split (Nat.mul_le_mul_right _ divisor))
      have bits : (m <<< s / n).log2 ≤ m.log2 + 1 + s - n.log2 - 1 := by
        refine log2_lt_of_lt (Nat.lt_of_lt_of_le quotient ?_)
        exact Nat.pow_le_pow_right Nat.two_pos (by omega)
      omega

theorem log2_shiftLeft (positive : 0 < m) (n : Nat) : (m <<< n).log2 = m.log2 + n := by
  have lower := Nat.log2_self_le (Nat.ne_of_gt positive)
  rw [Nat.shiftLeft_eq,Nat.log2_eq_iff (Nat.ne_of_gt (Nat.mul_pos positive (Nat.two_pow_pos n)))]
  refine ⟨?_,?_⟩
  · rw [Nat.pow_add]
    exact Nat.mul_le_mul_right _ lower
  · have split : m.log2 + n + 1 = m.log2 + 1 + n := by omega
    rw [split,Nat.pow_add]
    exact Nat.mul_lt_mul_of_pos_right Nat.lt_log2_self (Nat.two_pow_pos n)

theorem toFloat_below (n : UInt64) : Below 65 n.toFloat.toModel.unpack := by
  refine pack_below ?_ (by decide) (by decide)
  show Below 65 (UnpackedFloat.normalize Format.binary64 n.toNat 0 .positive)
  rw [UnpackedFloat.normalize]
  split
  · rename_i negative
    rw [Int.compare_eq_lt] at negative
    omega
  · exact by decide
  · rename_i above
    rw [Int.compare_eq_gt] at above
    have positive : 0 < n.toNat := by omega
    rw [Int.toNat_natCast,UnpackedFloat.round,decreaseExponent]
    generalize (0 - Format.binary64.targetExponent (totalExponent n.toNat 0)).toNat = s
    refine round_below ?_ (by decide)
    have bits := log2_lt_of_lt (n.toNat_lt : n.toNat < 2 ^ (63 + 1))
    rw [totalExponent,log2_shiftLeft positive]
    omega

theorem ofScientific_up {n e : Nat} (positive : 0 < n) (small : e ≤ 2048) :
    ofScientific Format.binary64 n e =
      roundWithAccuracy Format.binary64 .positive ((n * 10 ^ e) <<< 53) (-53) .exact := by
  have bits : Format.binary64.mantissaBits = 53 := rfl
  have range : (2 : Int) ^ Format.binary64.exponentBits = 2048 := rfl
  rw [ofScientific,dif_neg (Nat.ne_of_gt positive),range,if_neg (by omega),if_neg (by omega),if_pos (by omega),mul,bits]
  have product : n <<< 53 * 10 ^ ((e : Int).toNat) = (n * 10 ^ e) <<< 53 := by
    rw [Int.toNat_natCast,Nat.shiftLeft_eq,Nat.shiftLeft_eq,Nat.mul_right_comm]
  rw [product]
  rfl

theorem whole_below {n : Nat} (small : n < 2 ^ 64) : Below 67 (Float.ofScientific n false 0).toModel.unpack := by
  rw [Float.ofScientific]
  split
  · have one : Below 1 (Float.ofBits 0x3FF0000000000000).toModel.unpack := by decide
    exact pack_below (mul_below (toFloat_below n.toUInt64) one (by decide)) (by decide) (by decide)
  · refine pack_below ?_ (by decide) (by decide)
    show Below 67 (ofScientific Format.binary64 n (0 : Nat))
    by_cases zero : n = 0
    · rw [zero]
      exact by decide
    · have positive : 0 < n := Nat.pos_of_ne_zero zero
      rw [ofScientific_up positive (Nat.zero_le _),Nat.pow_zero,Nat.mul_one]
      refine round_below ?_ (by decide)
      have bits := log2_lt_of_lt (small : n < 2 ^ (63 + 1))
      rw [totalExponent,log2_shiftLeft positive]
      omega

theorem pack_full {u : UnpackedFloat} (found : parts u = some (m,e)) (full : m.log2 = 52) (low : -1074 ≤ e)
    (high : e ≤ 971) : parts (pack u).unpack = some (m,e) := by
  cases u with
  | infinity => cases found
  | notANumber => cases found
  | zero =>
    cases found
    rw [Nat.log2_zero] at full
    cases full
  | finite sign m e positive =>
    cases found
    rw [parts_pack_finite high positive,if_pos ⟨full,low⟩]

-- The first twenty-three come from a table, and the last one fits so narrowly that only its digits tell.
theorem power_atLeast {n : Nat} (small : n ≤ 308) : AtLeast 1 (Float.ofScientific 1 false n).toModel.unpack := by
  by_cases exactly : n < 23
  · have table : ∀ n < 23, AtLeast 1 (Float.ofScientific 1 false n).toModel.unpack := by decide +kernel
    exact table n exactly
  by_cases last : n = 308
  · rw [last]
    decide +kernel
  have slow : (Float.ofScientific 1 false n).toModel = pack (ofScientific Format.binary64 1 n) := by
    rw [Float.ofScientific,dif_neg (by omega)]
    rfl
  rw [slow,ofScientific_up Nat.one_pos (by omega),Nat.one_mul]
  have positive : 0 < 10 ^ n := Nat.pow_pos (by decide)
  have bound : 10 ^ n < 2 ^ (1019 + 1) :=
    Nat.lt_of_le_of_lt (Nat.pow_le_pow_right (by decide) (by omega : n ≤ 307)) (by decide +kernel)
  have places : totalExponent ((10 ^ n) <<< 53) (-53) = (10 ^ n).log2 + 1 := by
    rw [totalExponent,log2_shiftLeft positive]
    omega
  have long : 52 ≤ ((10 ^ n) <<< 53).log2 := by
    rw [log2_shiftLeft positive]
    omega
  have bits := log2_lt_of_lt bound
  obtain ⟨k,f,rounded,full,lower,upper⟩ :=
    @round_normal .positive _ (-53) .exact long (by rw [places]; omega)
  rw [places] at lower upper
  refine ⟨(k,f),pack_full rounded full (by omega) (by omega),Nat.pos_of_ne_zero ?_,?_⟩
  · rintro rfl
    rw [Nat.log2_zero] at full
    cases full
  · simp only [totalExponent,full]
    omega

theorem isNaN_of_parts {u : UnpackedFloat} {p : Nat × Int} (found : parts u = some p) : u.isNaN = false := by
  cases u with
  | notANumber => cases found
  | _ => rfl

theorem pack_number {u : UnpackedFloat} (number : u.isNaN = false) : (pack u).isNaN = false := by
  cases u with
  | notANumber => cases number
  | infinity sign => cases sign <;> rfl
  | zero sign => cases sign <;> rfl
  | finite sign m e positive =>
    by_cases fits : e ≤ 971
    · exact isNaN_of_parts (parts_pack_finite fits positive)
    · have large : (pack (.finite sign m e positive)).unpack = (pack (.infinity sign)).unpack := by
        rw [unpack_pack,UnpackedFloat.pack]
        dsimp only
        rw [if_pos]
        · rfl
        · show 2048 ≤ (e + 1023 + 52).toNat + 1
          omega
      rw [Float.Model.isNaN,large]
      cases sign <;> rfl

theorem number_of_below {x : Float} {k : Int} (below : Below k x.toModel.unpack) : x.isNaN = false := by
  obtain ⟨p,found,-⟩ := below
  exact isNaN_of_parts found

theorem neg_number {x : Float} (number : x.isNaN = false) : (-x).isNaN = false := by
  have negated : x.toModel.unpack.neg.isNaN = false := by
    rw [Float.isNaN,Float.Model.isNaN] at number
    cases unpacked : x.toModel.unpack with
    | notANumber => rw [unpacked] at number; cases number
    | _ => rfl
  exact pack_number negated

theorem round_number (sign : Sign) (m : Nat) (e : Int) (accuracy : Accuracy) :
    (roundWithAccuracy Format.binary64 sign m e accuracy).isNaN = false := by
  obtain ⟨r,-,-,-,-,rounded⟩ := parts_round sign m e accuracy
  exact isNaN_of_parts rounded

theorem ofScientific_number (m : Nat) (e : Int) : (ofScientific Format.binary64 m e).isNaN = false := by
  rw [ofScientific]
  split
  · rfl
  split
  · rfl
  split
  · rfl
  split
  · exact round_number _ _ _ _
  · exact round_number _ _ _ _

theorem tabled_power {n : Nat} (listed : n < Float.exactlyRepresentablePowersOfTen.size) :
    Below 100 Float.exactlyRepresentablePowersOfTen[n].toModel.unpack ∧
      AtLeast 1 Float.exactlyRepresentablePowersOfTen[n].toModel.unpack := by
  have all : ∀ x ∈ Float.exactlyRepresentablePowersOfTen, Below 100 x.toModel.unpack ∧ AtLeast 1 x.toModel.unpack := by
    decide +kernel
  exact all _ (Array.getElem_mem listed)

theorem scientific_number (m : Nat) (down : Bool) (e : Nat) : (Float.ofScientific m down e).isNaN = false := by
  rw [Float.ofScientific]
  split
  · rename_i fast
    obtain ⟨below,atLeast⟩ := @tabled_power e (Nat.lt_succ_of_le fast.2)
    have whole := toFloat_below m.toUInt64
    cases down with
    | false =>
      refine @number_of_below _ 166 (pack_below (mul_below whole below (by decide)) (by decide) (by decide))
    | true =>
      refine @number_of_below _ 66 (pack_below (div_below whole atLeast (by decide)) (by decide) (by decide))
  · exact pack_number (ofScientific_number m _)

theorem signed_number {x : Float} (number : x.isNaN = false) (negative : Bool) : (signed negative x).isNaN = false := by
  cases negative with
  | false => exact number
  | true => exact neg_number number

theorem nearest_number (negative : Bool) (significand : Nat) (exponent : Int) :
    (nearest negative significand exponent).isNaN = false := by
  refine signed_number ?_ negative
  rw [magnitude]
  split
  · decide +kernel
  split
  · decide +kernel
  split
  · decide +kernel
  · exact scientific_number _ _ _

theorem exponent_le {b : BitVec Format.binary64.numBits} {positive : 0 < m}
    (unpacked : unpack Format.binary64 b = .finite sign m e positive) : e ≤ 971 := by
  rw [unpack] at unpacked
  dsimp only at unpacked
  have bias : (Format.binary64.exponentBias : Int) + (Format.binary64.mantissaBitsWithoutImplicit : Nat) = 1075 := rfl
  rw [bias] at unpacked
  split at unpacked
  · split at unpacked <;> cases unpacked
  · rename_i ordinary
    split at unpacked
    · rename_i least
      split at unpacked
      · cases unpacked
      · cases unpacked
        rw [least]
        decide
    · cases unpacked
      have short : (unpackExponent b).toNat < 2 ^ 11 := (unpackExponent b).isLt
      have apart : (unpackExponent b).toNat ≠ 2047 := fun top => ordinary (BitVec.eq_of_toNat_eq top)
      omega

theorem neg_finite {x : Float} (finite : x.isFinite = true) : (-x).isFinite = true := by
  obtain ⟨p,found⟩ := isFinite_iff_parts.mp finite
  have negated : (-x).toModel.unpack = (pack x.toModel.unpack.neg).unpack := rfl
  rw [isFinite_iff_parts,negated]
  cases unpacked : x.toModel.unpack with
  | infinity sign => rw [unpacked] at found; cases found
  | notANumber => rw [unpacked] at found; cases found
  | zero sign => cases sign <;> exact ⟨_,rfl⟩
  | finite sign m e positive => exact ⟨_,parts_pack_finite (exponent_le unpacked) positive⟩

theorem signed_finite {x : Float} (finite : x.isFinite = true) (negative : Bool) :
    (signed negative x).isFinite = true := by
  cases negative with
  | false => exact finite
  | true => exact neg_finite finite

theorem below_of_isFinite {x : Float} (finite : x.isFinite = true) : ∃ k, 0 ≤ k ∧ Below k x.toModel.unpack := by
  obtain ⟨p,found⟩ := isFinite_iff_parts.mp finite
  exact ⟨max (totalExponent p.1 p.2) 0,Int.le_max_right _ _,p,found,Int.le_max_left _ _⟩

theorem finite_of_within {x : Float} (number : x.isNaN = false) (within : x.isInf = false) : x.isFinite = true := by
  rw [Float.isNaN,Float.Model.isNaN] at number
  rw [Float.isInf,Float.Model.isInf] at within
  rw [isFinite_iff_parts]
  cases unpacked : x.toModel.unpack with
  | zero sign => exact ⟨_,rfl⟩
  | finite sign m e positive => exact ⟨_,rfl⟩
  | infinity sign => rw [unpacked] at within; cases within
  | notANumber => rw [unpacked] at number; cases number

theorem within_of_finite {x : Float} (finite : x.isFinite = true) : x.isNaN = false ∧ x.isInf = false := by
  obtain ⟨p,found⟩ := isFinite_iff_parts.mp finite
  rw [Float.isNaN,Float.Model.isNaN,Float.isInf,Float.Model.isInf]
  refine ⟨isNaN_of_parts found,?_⟩
  cases unpacked : x.toModel.unpack with
  | infinity | notANumber =>
    rw [unpacked] at found
    cases found
  | zero | finite => rfl

theorem mul_finite {x y : Float} (first : x.isFinite = true) (second : y.isFinite = true)
    (within : (x * y).isInf = false) : (x * y).isFinite = true := by
  obtain ⟨j,above,first⟩ := below_of_isFinite first
  obtain ⟨k,aboveToo,second⟩ := below_of_isFinite second
  obtain ⟨p,found,_⟩ := mul_below first second (by omega)
  exact finite_of_within (pack_number (isNaN_of_parts found)) within

end Questionnaire.Decimal
