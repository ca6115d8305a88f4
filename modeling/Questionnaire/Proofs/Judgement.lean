import Questionnaire.Validator
/-!
How a rule sheet reads, stated without validators: who is asked for an answer at all, and which of
the sheet's rules then decides. Compiling a sheet and judging by the validator comes to the same.
-/

namespace Questionnaire

-- An answer that is no number satisfies no comparison, so `notEqual` is what `equal` refuses and
-- not a comparison of its own.
def NumberMethod.Accepts (threshold x : Float) : NumberMethod → Prop
  | .greaterThan => threshold < x
  | .greaterThanOrEqual => threshold ≤ x
  | .lessThan => x < threshold
  | .lessThanOrEqual => x ≤ threshold
  | .equal => (x == threshold) = true
  | .notEqual => ¬ (x == threshold) = true
  | .isNumber => ¬ x.isNaN = true
  | .unrecognized => False

def TextMethod.Accepts (needle raw : String) : TextMethod → Prop
  | .contains => needle ≠ "" ∧ needle.toList <:+: raw.toList
  | .excludes => needle ≠ "" ∧ ¬ needle.toList <:+: raw.toList
  | .email => Mailbox.isValid raw.toList = true
  | .url => Url.isValid raw.toList = true
  | .unrecognized => False

def LengthMethod.Accepts (limit : Float) (raw : String) : LengthMethod → Prop
  | .max => characterCount raw ≤ limit
  | .min => limit ≤ characterCount raw
  | .unrecognized => False

namespace Check

-- Two equations in place of an equivalence: a check is total, so these say what it gives.
def Decides (check : Check) (raw : String) (accepts : Prop) (answer : Answer) (message : String) : Prop :=
  (accepts → check.run raw = .ok answer) ∧ (¬ accepts → check.run raw = .error message)

theorem decides_of_require {check : Check} {raw : String} {accepts : Prop} {answer : Answer} {message : String}
    {holds : Bool} (correct : holds = true ↔ accepts) (run : check.run raw = require holds answer message) :
    check.Decides raw accepts answer message := by
  refine ⟨?_,?_⟩
  · intro pass
    rw [run,require,if_pos (correct.mpr pass)]
  · intro fail
    rw [run,require,if_neg (fun holds => fail (correct.mp holds))]

theorem comparison_exact {method : NumberMethod} {comparison : Comparison}
    (known : comparisonOf? method = some comparison) (threshold x : Float) :
    comparison.holds x threshold = true ↔ method.Accepts threshold x := by
  cases method <;> cases known
  all_goals simp [Comparison.holds,NumberMethod.Accepts,bne]

theorem number_decides (rule : NumberRule) (raw : String) (known : rule.method ≠ .unrecognized) :
    (ofNumberRule rule).value.Decides raw (rule.method.Accepts rule.value (Decimal.leadingNumber raw.toList))
      (.number (Decimal.leadingNumber raw.toList)) rule.errorMessage := by
  obtain ⟨method,threshold,message⟩ := rule
  cases method with
  | unrecognized => exact absurd rfl known
  | isNumber => exact decides_of_require (by simp [NumberMethod.Accepts]) rfl
  | _ => exact decides_of_require (comparison_exact rfl _ _) rfl

theorem text_decides (rule : TextRule) (raw : String) (known : rule.method ≠ .unrecognized) :
    (ofTextRule rule).value.Decides raw (rule.method.Accepts rule.needle raw) (.text raw) rule.errorMessage := by
  obtain ⟨method,needle,message⟩ := rule
  cases method with
  | unrecognized => exact absurd rfl known
  | contains | excludes => exact decides_of_require (by simp [TextMethod.Accepts,← Text.occurs_iff]) rfl
  | email | url => exact decides_of_require Iff.rfl rfl

theorem length_decides (rule : LengthRule) (raw : String) (known : rule.method ≠ .unrecognized) :
    (ofLengthRule rule).value.Decides raw (rule.method.Accepts rule.value raw) (.text raw) rule.errorMessage := by
  obtain ⟨method,limit,message⟩ := rule
  cases method with
  | unrecognized => exact absurd rfl known
  | max | min => exact decides_of_require (by simp [LengthMethod.Accepts]) rfl

theorem number_unrecognized {rule : NumberRule} (unknown : rule.method = .unrecognized) (raw : String) :
    (ofNumberRule rule).value.run raw = .ok (.text raw) := by
  simp [ofNumberRule,unknown,comparisonOf?,run]

theorem text_unrecognized {rule : TextRule} (unknown : rule.method = .unrecognized) (raw : String) :
    (ofTextRule rule).value.run raw = .ok (.text raw) := by
  simp [ofTextRule,unknown,run]

theorem length_unrecognized {rule : LengthRule} (unknown : rule.method = .unrecognized) (raw : String) :
    (ofLengthRule rule).value.run raw = .ok (.text raw) := by
  simp [ofLengthRule,unknown,run]

-- Whatever a check accepts is handed on as it was given, or as the number it starts with.
theorem run_answer {check : Check} {raw : String} {answer : Answer} (accepted : check.run raw = .ok answer) :
    answer = .text raw ∨ answer = .number (Decimal.leadingNumber raw.toList) := by
  have given {holds : Bool} {own : Answer} {message : String} (required : require holds own message = .ok answer) :
      answer = own := by
    unfold require at required
    split at required
    · exact (Except.ok.inj required).symm
    · cases required
  cases check with
  | anything => exact .inl (Except.ok.inj accepted).symm
  | compare | isNumber => exact .inr (given accepted)
  | length bound => cases bound <;> exact .inl (given accepted)
  | contains | excludes | email | url => exact .inl (given accepted)

end Check

namespace Validator

variable {validator : Validator} {answer : Answer}

theorem answer_none (accepted : validator.validate none = .ok answer) : validator.required = none ∧ answer = .missing := by
  obtain ⟨required,check⟩ := validator
  cases required with
  | none => exact ⟨rfl,(Except.ok.inj accepted).symm⟩
  | some message => cases accepted

theorem answer_some {raw : String} (accepted : validator.validate (some raw) = .ok answer) :
    answer = .text raw ∨ answer = .number (Decimal.leadingNumber raw.toList) := by
  rw [validate] at accepted
  split at accepted
  · split at accepted
    · cases accepted
    · exact Check.run_answer accepted
  · split at accepted
    · exact .inl (Except.ok.inj accepted).symm
    · exact Check.run_answer accepted

theorem validate_seen {raw : String} (seen : ¬ Text.allBlank raw.toList = true) (v : Validator) :
    v.validate (some raw) = v.check.run raw := by
  rw [validate]
  split
  · rw [if_neg seen]
  · rw [if_neg (fun empty : raw = "" => seen (by rw [empty]; rfl))]

theorem answer_missing_iff {raw : Option String} (accepted : validator.validate raw = .ok answer) :
    answer = .missing ↔ raw = none := by
  cases raw with
  | none => exact iff_of_true (answer_none accepted).2 rfl
  | some raw =>
    refine iff_of_false ?_ nofun
    rcases answer_some accepted with rfl | rfl <;> nofun

end Validator

namespace RuleSheet

-- The rule that has a say: the one of the declared kind, if it is there and its method is known.
-- The rules of other kinds do not occur.
inductive Decisive (sheet : RuleSheet) (raw : String) : Prop → Answer → String → Prop where
  | number {rule : NumberRule} (declared : sheet.kind = some .number) (given : sheet.number = some rule)
      (known : rule.method ≠ .unrecognized) :
      Decisive sheet raw (rule.method.Accepts rule.value (Decimal.leadingNumber raw.toList))
        (.number (Decimal.leadingNumber raw.toList)) rule.errorMessage
  | text {rule : TextRule} (declared : sheet.kind = some .text) (given : sheet.text = some rule)
      (known : rule.method ≠ .unrecognized) :
      Decisive sheet raw (rule.method.Accepts rule.needle raw) (.text raw) rule.errorMessage
  | length {rule : LengthRule} (declared : sheet.kind = some .length) (given : sheet.length = some rule)
      (known : rule.method ≠ .unrecognized) :
      Decisive sheet raw (rule.method.Accepts rule.value raw) (.text raw) rule.errorMessage

-- Whether the rules are asked about an answer that is there. A blank answer counts as one where
-- none is demanded, an empty one nowhere.
def Consulted (sheet : RuleSheet) (raw : String) : Prop :=
  if sheet.required then ∃ c ∈ raw.toList, Text.isBlank c = false else raw ≠ ""

inductive Judged (sheet : RuleSheet) (wording : Wording) : Option String → Except String Answer → Prop where
  | unanswered {raw : Option String} (required : sheet.required = true)
      (blank : ∀ text, raw = some text → ∀ c ∈ text.toList, Text.isBlank c = true) :
      Judged sheet wording raw (.error wording.required)
  | absent (optional : sheet.required = false) : Judged sheet wording none (.ok .missing)
  | empty (optional : sheet.required = false) : Judged sheet wording (some "") (.ok (.text ""))
  | accepted {raw : String} {accepts : Prop} {answer : Answer} {message : String}
      (consulted : sheet.Consulted raw) (rule : sheet.Decisive raw accepts answer message) (pass : accepts) :
      Judged sheet wording (some raw) (.ok answer)
  | refused {raw : String} {accepts : Prop} {answer : Answer} {message : String}
      (consulted : sheet.Consulted raw) (rule : sheet.Decisive raw accepts answer message) (fail : ¬ accepts) :
      Judged sheet wording (some raw) (.error message)
  | unruled {raw : String} (consulted : sheet.Consulted raw)
      (noRule : ∀ accepts answer message, ¬ sheet.Decisive raw accepts answer message) :
      Judged sheet wording (some raw) (.ok (.text raw))

variable {sheet : RuleSheet} {raw : String} {accepts : Prop} {answer : Answer} {message : String}

theorem rule_exact (sheet : RuleSheet) :
    (∀ named, sheet.rule = .number named ↔ sheet.kind = some .number ∧ sheet.number = some named) ∧
    (∀ named, sheet.rule = .text named ↔ sheet.kind = some .text ∧ sheet.text = some named) ∧
    (∀ named, sheet.rule = .length named ↔ sheet.kind = some .length ∧ sheet.length = some named) := by
  unfold rule
  split
  · simp [*]
  · cases sheet.number <;> simp [*]
  · cases sheet.text <;> simp [*]
  · cases sheet.length <;> simp [*]

theorem decisive_decides (decisive : sheet.Decisive raw accepts answer message) :
    (Check.ofRule sheet.rule).value.Decides raw accepts answer message := by
  obtain ⟨numbers,texts,lengths⟩ := rule_exact sheet
  cases decisive with
  | number declared given known =>
    rw [(numbers _).mpr ⟨declared,given⟩]
    exact Check.number_decides _ raw known
  | text declared given known =>
    rw [(texts _).mpr ⟨declared,given⟩]
    exact Check.text_decides _ raw known
  | length declared given known =>
    rw [(lengths _).mpr ⟨declared,given⟩]
    exact Check.length_decides _ raw known

-- A rule that is there and has no say can only be one whose method nobody knows.
theorem unruled_run (noRule : ∀ accepts answer message, ¬ sheet.Decisive raw accepts answer message) :
    (Check.ofRule sheet.rule).value.run raw = .ok (.text raw) := by
  obtain ⟨numbers,texts,lengths⟩ := rule_exact sheet
  cases kept : sheet.rule with
  | free => rfl
  | missing kind => rfl
  | number named =>
    obtain ⟨declared,given⟩ := (numbers named).mp kept
    have unknown := Decidable.byContradiction fun known => noRule _ _ _ (.number declared given known)
    exact Check.number_unrecognized unknown raw
  | text named =>
    obtain ⟨declared,given⟩ := (texts named).mp kept
    have unknown := Decidable.byContradiction fun known => noRule _ _ _ (.text declared given known)
    exact Check.text_unrecognized unknown raw
  | length named =>
    obtain ⟨declared,given⟩ := (lengths named).mp kept
    have unknown := Decidable.byContradiction fun known => noRule _ _ _ (.length declared given known)
    exact Check.length_unrecognized unknown raw

-- Who is asked at all comes before every rule, for validators as for sheets.
theorem consulted_run (wording : Wording) (consulted : sheet.Consulted raw) :
    (Validator.compile (some sheet.validation) wording).value.validate (some raw) =
      (Check.ofRule sheet.rule).value.run raw := by
  unfold Consulted at consulted
  cases required : sheet.required with
  | true =>
    have seen : Text.allBlank raw.toList = false := by
      simpa [required,Text.allBlank] using consulted
    simp [Validator.compile,validation,required,Validator.validate,seen]
  | false =>
    have given : raw ≠ "" := by simpa [required] using consulted
    simp [Validator.compile,validation,required,Validator.validate,given]

theorem judged_validate {wording : Wording} {raw : Option String} {result : Except String Answer}
    (judged : sheet.Judged wording raw result) :
    (Validator.compile (some sheet.validation) wording).value.validate raw = result := by
  cases judged with
  | unanswered required blank =>
    cases raw with
    | none => simp [Validator.compile,validation,required,Validator.validate]
    | some text =>
      have unseen : Text.allBlank text.toList = true := List.all_eq_true.mpr (blank text rfl)
      simp [Validator.compile,validation,required,Validator.validate,unseen]
  | absent optional => simp [Validator.compile,validation,optional,Validator.validate]
  | empty optional => simp [Validator.compile,validation,optional,Validator.validate]
  | accepted consulted rule pass => rw [consulted_run wording consulted,(decisive_decides rule).1 pass]
  | refused consulted rule fail => rw [consulted_run wording consulted,(decisive_decides rule).2 fail]
  | unruled consulted noRule => rw [consulted_run wording consulted,unruled_run noRule]

theorem consulted_judged (wording : Wording) (consulted : sheet.Consulted raw) :
    ∃ result, sheet.Judged wording (some raw) result := by
  by_cases ruled : ∃ accepts answer message, sheet.Decisive raw accepts answer message
  · obtain ⟨accepts,answer,message,rule⟩ := ruled
    by_cases pass : accepts
    · exact ⟨_,.accepted consulted rule pass⟩
    · exact ⟨_,.refused consulted rule pass⟩
  · exact ⟨_,.unruled consulted fun accepts answer message rule => ruled ⟨accepts,answer,message,rule⟩⟩

theorem judged_total (sheet : RuleSheet) (wording : Wording) (raw : Option String) :
    ∃ result, sheet.Judged wording raw result := by
  cases required : sheet.required with
  | true =>
    by_cases blank : ∀ text, raw = some text → ∀ c ∈ text.toList, Text.isBlank c = true
    · exact ⟨_,.unanswered required blank⟩
    · simp only [Classical.not_forall] at blank
      obtain ⟨text,rfl,c,member,seen⟩ := blank
      refine consulted_judged wording ?_
      rw [Consulted,if_pos required]
      exact ⟨c,member,by simpa using seen⟩
  | false =>
    cases raw with
    | none => exact ⟨_,.absent required⟩
    | some text =>
      by_cases empty : text = ""
      · subst empty; exact ⟨_,.empty required⟩
      · refine consulted_judged wording ?_
        simpa [Consulted,required] using empty

end RuleSheet
end Questionnaire
