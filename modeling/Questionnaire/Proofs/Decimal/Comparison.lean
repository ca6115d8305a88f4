import Questionnaire.Proofs.Decimal.Double
import Questionnaire.Proofs.Judgement
/-!
How doubles compare. Any two that are numbers are in one order, an infinity being above or below all finite
doubles; what is no number fails every comparison.
-/

namespace Questionnaire.Decimal

open Float.Model (UnpackedFloat)

variable {t x y : Float}

theorem eq_of_unpack_eq (same : x.toModel.unpack = y.toModel.unpack) : x = y := by
  obtain ⟨⟨a,one⟩⟩ := x
  obtain ⟨⟨b,two⟩⟩ := y
  cases UInt64.toBitVec_inj.mp ((UnpackedFloat.unpack_inj_of_valid one two).mp same)
  rfl

theorem lt_iff_compare : x < y ↔ x.toModel.unpack.compare y.toModel.unpack = some .lt := by
  show Float.lt x y = true ↔ _
  rw [Float.lt,decide_eq_true_iff]
  show x.toModel.unpack.lt y.toModel.unpack = true ↔ _
  rw [UnpackedFloat.lt,beq_iff_eq]

theorem le_iff_compare : x ≤ y ↔ (x.toModel.unpack.compare y.toModel.unpack).any Ordering.isLE = true := by
  show Float.le x y = true ↔ _
  rw [Float.le,decide_eq_true_iff]
  rfl

theorem beq_iff_compare : (x == y) = true ↔ x.toModel.unpack.compare y.toModel.unpack = some .eq := by
  show x.toModel.unpack.beq y.toModel.unpack = true ↔ _
  rw [UnpackedFloat.beq,beq_iff_eq]

theorem unpack_infinity : infinity.toModel.unpack = .infinity .positive := rfl

theorem unpack_neg_infinity : (-infinity).toModel.unpack = .infinity .negative := rfl

theorem unpack_notANumber : notANumber.toModel.unpack = .notANumber := rfl

theorem not_finite_iff : x.isFinite = false ↔ x = infinity ∨ x = -infinity ∨ x = notANumber := by
  constructor
  · intro unbounded
    rw [Float.isFinite,Float.Model.isFinite] at unbounded
    cases unpacked : x.toModel.unpack with
    | zero sign | finite sign m e positive =>
      rw [unpacked] at unbounded
      cases unbounded
    | infinity sign =>
      cases sign with
      | positive => exact .inl (eq_of_unpack_eq unpacked)
      | negative => exact .inr (.inl (eq_of_unpack_eq unpacked))
    | notANumber => exact .inr (.inr (eq_of_unpack_eq unpacked))
  · rintro (rfl | rfl | rfl) <;> rfl

theorem finite_unpack (finite : t.isFinite = true) :
    (∃ sign, t.toModel.unpack = .zero sign) ∨ ∃ sign m e positive, t.toModel.unpack = .finite sign m e positive := by
  rw [Float.isFinite,Float.Model.isFinite] at finite
  cases unpacked : t.toModel.unpack with
  | infinity sign | notANumber =>
    rw [unpacked] at finite
    cases finite
  | zero sign => exact .inl ⟨sign,rfl⟩
  | finite sign m e positive => exact .inr ⟨sign,m,e,positive,rfl⟩

theorem infinity_above (finite : t.isFinite = true) :
    (t < infinity ∧ t ≤ infinity) ∧ (¬ infinity < t ∧ ¬ infinity ≤ t) ∧ ¬ (infinity == t) = true := by
  simp only [lt_iff_compare,le_iff_compare,beq_iff_compare,unpack_infinity]
  rcases finite_unpack finite with ⟨sign,unpacked⟩ | ⟨sign,m,e,positive,unpacked⟩
  · rw [unpacked]
    exact ⟨⟨rfl,rfl⟩,⟨nofun,nofun⟩,nofun⟩
  · rw [unpacked]
    exact ⟨⟨rfl,rfl⟩,⟨nofun,nofun⟩,nofun⟩

theorem neg_infinity_below (finite : t.isFinite = true) :
    (-infinity < t ∧ -infinity ≤ t) ∧ (¬ t < -infinity ∧ ¬ t ≤ -infinity) ∧ ¬ (-infinity == t) = true := by
  simp only [lt_iff_compare,le_iff_compare,beq_iff_compare,unpack_neg_infinity]
  rcases finite_unpack finite with ⟨sign,unpacked⟩ | ⟨sign,m,e,positive,unpacked⟩
  · rw [unpacked]
    exact ⟨⟨rfl,rfl⟩,⟨nofun,nofun⟩,nofun⟩
  · rw [unpacked]
    exact ⟨⟨rfl,rfl⟩,⟨nofun,nofun⟩,nofun⟩

theorem notANumber_apart (t : Float) :
    (¬ t < notANumber ∧ ¬ t ≤ notANumber) ∧ (¬ notANumber < t ∧ ¬ notANumber ≤ t) ∧ ¬ (notANumber == t) = true := by
  simp only [lt_iff_compare,le_iff_compare,beq_iff_compare,unpack_notANumber]
  cases t.toModel.unpack <;> exact ⟨⟨nofun,nofun⟩,⟨nofun,nofun⟩,nofun⟩

-- Only two finite values of one sign are compared by their digits.
theorem compare_swap (u v : UnpackedFloat) : v.compare u = (u.compare v).map Ordering.swap := by
  cases u with
  | notANumber => cases v <;> rfl
  | infinity sign | zero sign =>
    cases v with
    | notANumber => cases sign <;> rfl
    | infinity other | zero other | finite other => cases sign <;> cases other <;> rfl
  | finite sign m e positive =>
    cases v with
    | notANumber => rfl
    | infinity other | zero other => cases sign <;> cases other <;> rfl
    | finite other n f positiveToo =>
      cases sign <;> cases other <;>
        simp [UnpackedFloat.compare,Ordering.swap_then,Nat.compare_swap,Int.compare_swap]

theorem compare_numbers {u v : UnpackedFloat} (number : u.isNaN = false) (numberToo : v.isNaN = false) :
    ∃ order, u.compare v = some order := by
  cases u with
  | notANumber => cases number
  | infinity sign | zero sign | finite sign =>
    cases v with
    | notANumber => cases numberToo
    | infinity other | zero other | finite other => cases sign <;> cases other <;> exact ⟨_,rfl⟩

-- Two numbers are in one order, and each of the comparisons goes by it.
theorem ordered (number : x.isNaN = false) (threshold : t.isNaN = false) :
    ∃ order : Ordering, (x < t ↔ order = .lt) ∧ (x ≤ t ↔ order ≠ .gt) ∧ ((x == t) = true ↔ order = .eq) ∧
      (t ≤ x ↔ order ≠ .lt) ∧ (t < x ↔ order = .gt) := by
  obtain ⟨order,found⟩ := compare_numbers number threshold
  refine ⟨order,?_⟩
  rw [lt_iff_compare,le_iff_compare,beq_iff_compare,le_iff_compare,lt_iff_compare,
    compare_swap x.toModel.unpack t.toModel.unpack,found]
  cases order <;> decide

theorem eq_notANumber_of_isNaN (nan : x.isNaN = true) : x = notANumber := by
  rw [Float.isNaN,Float.Model.isNaN] at nan
  apply eq_of_unpack_eq
  cases unpacked : x.toModel.unpack with
  | notANumber => rfl
  | infinity sign | zero sign | finite sign =>
    rw [unpacked] at nan
    cases nan

end Questionnaire.Decimal

namespace Questionnaire.NumberMethod

open Decimal

-- The numbers a comparison with a finite threshold accepts though they are not finite themselves.
def Unbounded (x : Float) : NumberMethod → Prop
  | .greaterThan | .greaterThanOrEqual => x = infinity
  | .lessThan | .lessThanOrEqual => x = -infinity
  | .notEqual => x = infinity ∨ x = -infinity ∨ x = notANumber
  | .isNumber => x = infinity ∨ x = -infinity
  | .equal | .unrecognized => False

variable {method : NumberMethod} {t x : Float}

theorem not_finite_of_unbounded (unbounded : method.Unbounded x) : x.isFinite = false := by
  rw [not_finite_iff]
  cases method with
  | greaterThan | greaterThanOrEqual => exact .inl unbounded
  | lessThan | lessThanOrEqual => exact .inr (.inl unbounded)
  | notEqual => exact unbounded
  | isNumber => exact unbounded.imp_right .inl
  | equal | unrecognized => cases unbounded

theorem accepts_iff_unbounded (finite : t.isFinite = true) (unbounded : x.isFinite = false) :
    method.Accepts t x ↔ method.Unbounded x := by
  have apart : infinity ≠ -infinity ∧ infinity ≠ notANumber ∧ -infinity ≠ notANumber := by decide +kernel
  have nan : Float.nan = notANumber := rfl
  rcases not_finite_iff.mp unbounded with rfl | rfl | rfl
  · cases method <;> simp [Accepts,Unbounded,infinity_above finite,apart,nan]
  · cases method <;> simp [Accepts,Unbounded,neg_infinity_below finite,apart,Ne.symm apart.1,nan]
  · cases method <;> simp [Accepts,Unbounded,notANumber_apart t,Ne.symm apart.2.1,Ne.symm apart.2.2,nan]

theorem accepts_unbounded_iff (finite : t.isFinite = true) :
    method.Accepts t x ∧ x.isFinite = false ↔ method.Unbounded x := by
  constructor
  · rintro ⟨accepts,unbounded⟩
    exact (accepts_iff_unbounded finite unbounded).mp accepts
  · intro given
    have unbounded := not_finite_of_unbounded given
    exact ⟨(accepts_iff_unbounded finite unbounded).mpr given,unbounded⟩

end Questionnaire.NumberMethod
