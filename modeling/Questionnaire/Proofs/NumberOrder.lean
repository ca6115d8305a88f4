import Questionnaire.Proofs.Decimal.Comparison
/-!
The methods of number rules beside each other. A number is below a threshold, at it or above it, and every method
goes by which of these it is; what is no number satisfies `notEqual` only.
-/

namespace Questionnaire

open Decimal

namespace NumberMethod

variable {t x : Float} {method : NumberMethod}

-- Where a method wants the number to stand against the threshold.
def Admits (order : Ordering) : NumberMethod → Prop
  | .greaterThan => order = .gt
  | .greaterThanOrEqual => order ≠ .lt
  | .lessThan => order = .lt
  | .lessThanOrEqual => order ≠ .gt
  | .equal => order = .eq
  | .notEqual => order ≠ .eq
  | .isNumber => True
  | .unrecognized => False

theorem accepts_iff_admits (number : x.isNaN = false) (threshold : t.isNaN = false) :
    ∃ order, ∀ method : NumberMethod, method.Accepts t x ↔ method.Admits order := by
  obtain ⟨order,below,notAbove,level,notBelow,above⟩ := ordered number threshold
  refine ⟨order,fun method => ?_⟩
  cases method with
  | greaterThan => exact above
  | greaterThanOrEqual => exact notBelow
  | lessThan => exact below
  | lessThanOrEqual => exact notAbove
  | equal => exact level
  | notEqual => exact not_congr level
  | isNumber => exact iff_of_true (Bool.eq_false_iff.mp number) trivial
  | unrecognized => exact Iff.rfl

theorem admits_exactly_one (order : Ordering) :
    ∃! method : NumberMethod, method ∈ [lessThan,equal,greaterThan] ∧ method.Admits order := by
  cases order with
  | lt => exact ⟨.lessThan,by simp [Admits],by simp [Admits]⟩
  | eq => exact ⟨.equal,by simp [Admits],by simp [Admits]⟩
  | gt => exact ⟨.greaterThan,by simp [Admits],by simp [Admits]⟩

theorem accepts_nan_iff (nan : x.isNaN = true) : method.Accepts t x ↔ method = .notEqual := by
  cases eq_notANumber_of_isNaN nan
  obtain ⟨⟨notAbove,notFrom⟩,⟨notBelow,notUpTo⟩,apart⟩ := notANumber_apart t
  cases method <;> simp_all [Accepts]

end NumberMethod

variable {raw : String}

theorem number_decided (seen : ¬ Text.allBlank raw.toList = true) {rule : NumberRule}
    (known : rule.method ≠ .unrecognized) (required : Bool) (wording : Wording) :
    let verdict := (Validator.compile (some ⟨required,.number rule⟩) wording).value.validate (some raw)
    let x := leadingNumber raw.toList
    (rule.method.Accepts rule.value x → verdict = .ok (.number x)) ∧
      (¬ rule.method.Accepts rule.value x → verdict = .error rule.errorMessage) := by
  intro verdict x
  have asked : verdict = (Check.ofNumberRule rule).value.run raw := Validator.validate_seen seen _
  rw [asked]
  exact Check.number_decides rule raw known

theorem number_verdict (seen : ¬ Text.allBlank raw.toList = true) {rule : NumberRule}
    (known : rule.method ≠ .unrecognized) (required : Bool) (wording : Wording) :
    let verdict := (Validator.compile (some ⟨required,.number rule⟩) wording).value.validate (some raw)
    let x := leadingNumber raw.toList
    ((∃ answer, verdict = .ok answer) ↔ rule.method.Accepts rule.value x) ∧
      (verdict = .ok (.number x) ∨ verdict = .error rule.errorMessage) := by
  intro verdict x
  obtain ⟨accepted,refused⟩ := number_decided seen known required wording
  by_cases passes : rule.method.Accepts rule.value x
  · exact ⟨iff_of_true ⟨_,accepted passes⟩ passes,.inl (accepted passes)⟩
  · refine ⟨iff_of_false ?_ passes,.inr (refused passes)⟩
    rintro ⟨answer,given⟩
    cases given.symm.trans (refused passes)

-- The threshold need not be finite: an infinite one is ordered like any other.
theorem number_methods_ordered (seen : ¬ Text.allBlank raw.toList = true) {threshold : Float}
    (number : threshold.isNaN = false) (required : Bool) (message : String) (wording : Wording) :
    let x := leadingNumber raw.toList
    let verdict (method : NumberMethod) :=
      (Validator.compile (some ⟨required,.number ⟨method,threshold,message⟩⟩) wording).value.validate (some raw)
    let accepts (method : NumberMethod) := ∃ answer, verdict method = .ok answer
    (x.isNaN = false →
      (∃! method, method ∈ [.lessThan,.equal,.greaterThan] ∧ accepts method) ∧
      (accepts .lessThanOrEqual ↔ accepts .lessThan ∨ accepts .equal) ∧
      (accepts .greaterThanOrEqual ↔ accepts .greaterThan ∨ accepts .equal) ∧
      accepts .isNumber) ∧
    (x.isNaN = true → ∀ method, method ≠ .unrecognized → (accepts method ↔ method = .notEqual)) ∧
    (accepts .notEqual ↔ ¬ accepts .equal) ∧
    ∀ method, method ≠ .unrecognized → verdict method = .ok (.number x) ∨ verdict method = .error message := by
  intro x verdict accepts
  have decided (method : NumberMethod) (known : method ≠ .unrecognized) :
      (accepts method ↔ method.Accepts threshold x) ∧ (verdict method = .ok (.number x) ∨ verdict method = .error message) :=
    @number_verdict raw seen ⟨method,threshold,message⟩ known required wording
  refine ⟨?_,?_,?_,fun method known => (decided method known).2⟩
  · intro read
    obtain ⟨order,admits⟩ := NumberMethod.accepts_iff_admits read number
    have goesBy (method : NumberMethod) (known : method ≠ .unrecognized) : accepts method ↔ method.Admits order :=
      (decided method known).1.trans (admits method)
    refine ⟨?_,?_,?_,(goesBy .isNumber (by decide)).mpr trivial⟩
    · obtain ⟨method,⟨listed,admitted⟩,only⟩ := NumberMethod.admits_exactly_one order
      have known : ∀ other ∈ [NumberMethod.lessThan,.equal,.greaterThan], other ≠ .unrecognized := by decide
      refine ⟨method,⟨listed,(goesBy method (known method listed)).mpr admitted⟩,?_⟩
      rintro other ⟨held,accepted⟩
      exact only other ⟨held,(goesBy other (known other held)).mp accepted⟩
    · rw [goesBy .lessThanOrEqual (by decide),goesBy .lessThan (by decide),goesBy .equal (by decide)]
      cases order <;> simp [NumberMethod.Admits]
    · rw [goesBy .greaterThanOrEqual (by decide),goesBy .greaterThan (by decide),goesBy .equal (by decide)]
      cases order <;> simp [NumberMethod.Admits]
  · intro nan method known
    exact (decided method known).1.trans (NumberMethod.accepts_nan_iff nan)
  · rw [(decided .notEqual (by decide)).1,(decided .equal (by decide)).1]
    exact Iff.rfl

-- A zero with a sign is at the threshold without one.
theorem settled_debt_at_zero :
    let raw := " -0.0 €"
    let verdict (method : NumberMethod) :=
      (Validator.compile (some ⟨true,.number ⟨method,0.0,"Not settled"⟩⟩) {}).value.validate (some raw)
    ¬ Text.allBlank raw.toList = true ∧ (0.0 : Float).isNaN = false ∧ (leadingNumber raw.toList).isNaN = false ∧
      verdict .equal = .ok (.number (-0.0)) ∧ verdict .lessThan = .error "Not settled" ∧
      ∃ answer, verdict .lessThanOrEqual = .ok answer := by
  intro raw verdict
  have seen : ¬ Text.allBlank raw.toList = true := by decide
  have number : (0.0 : Float).isNaN = false := by decide +kernel
  have read : (leadingNumber raw.toList).isNaN = false := by decide +kernel
  have level : verdict .equal = .ok (.number (-0.0)) := by decide +kernel
  obtain ⟨ordered,_,_,refused⟩ := number_methods_ordered seen number true "Not settled" {}
  obtain ⟨one,upTo,_,_⟩ := ordered read
  refine ⟨seen,number,read,level,?_,upTo.mpr (.inr ⟨_,level⟩)⟩
  rcases refused .lessThan (by decide) with below | notBelow
  · have same := one.unique ⟨by decide,_,below⟩ ⟨by decide,_,level⟩
    cases same
  · exact notBelow

end Questionnaire
