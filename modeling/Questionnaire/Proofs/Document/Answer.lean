import Questionnaire.Proofs.Document.Finite
import Questionnaire.Proofs.Document.Saving
import Questionnaire.Proofs.Decimal.Comparison
/-!
Answers as documents print them. A number that is finite is printed in digits and a text in quotes, so `null`
stands for no answer and for the numbers that are not finite; which of these a validation lets through depends
on the comparison it makes.
-/

namespace Questionnaire

open Json Decimal

namespace Decimal

theorem toDigits_starts (n : Nat) : ∃ c rest, toDigits n = c :: rest ∧ c.isDigit = true := by
  obtain ⟨c,rest,digits⟩ := List.exists_cons_of_ne_nil (Nat.toDigits_ne_nil : Nat.toDigits 10 n ≠ [])
  have member : c ∈ Nat.toDigits 10 n := digits ▸ List.mem_cons_self
  exact ⟨c,rest,digits,Nat.isDigit_of_mem_toDigits (by decide) (by decide) member⟩

theorem positionalText_starts (pointZero : Bool) {c : Char} (digit : c.isDigit = true) (rest : List Char)
    (place : Int) :
    ∃ d more, positionalText pointZero (c :: rest) place = d :: more ∧ d.isDigit = true := by
  rw [positionalText]
  split
  · exact ⟨'0',_,rfl,rfl⟩
  · rename_i positive
    obtain ⟨k,place⟩ : ∃ k, place.toNat = k + 1 := ⟨place.toNat - 1,by omega⟩
    rw [place]
    split
    · exact ⟨c,_,rfl,digit⟩
    · exact ⟨c,_,rfl,digit⟩

theorem magnitudeText_starts (layout : Layout) (x : Float) :
    ∃ c rest, layout.magnitudeText x = c :: rest ∧ c.isDigit = true := by
  rw [Layout.magnitudeText]
  dsimp only
  split
  · exact positionalText_starts _ rfl [] 1
  · obtain ⟨c,rest,digits,digit⟩ := toDigits_starts ((Binary.ofFloat x).shortest layout.tie).digits
    rw [digits]
    split
    · exact positionalText_starts _ digit rest _
    · exact ⟨c,_,rfl,digit⟩

end Decimal

theorem Json.Number.text_null_iff {x : Float} : (Number.double x).text = ['n','u','l','l'] ↔ x.isFinite = false := by
  constructor
  · intro written
    by_contra given
    obtain ⟨number,within⟩ := within_of_finite (Bool.of_not_eq_false given)
    obtain ⟨c,rest,starts,digit⟩ := magnitudeText_starts layout x
    rw [text,Layout.text,number,within,starts] at written
    cases signed : signBit x with
    | true =>
      rw [signed] at written
      cases written
    | false =>
      rw [signed] at written
      cases written
      cases digit
  · intro unbounded
    rcases not_finite_iff.mp unbounded with rfl | rfl | rfl <;> decide +kernel

namespace Answer

variable {answer : Answer} {text : String}

theorem isText_iff : answer.toJson.IsText text ↔ text = answer.toJson.compact := by
  have same : answer.toJson.indented = answer.toJson.compact := by
    cases answer <;> rfl
  rw [Value.IsText,same,or_self]

theorem isText_null_iff :
    answer.toJson.IsText "null" ↔ answer = .missing ∨ ∃ x, answer = .number x ∧ x.isFinite = false := by
  have letters : "null" = answer.toJson.compact ↔ answer.toJson.compactText = ['n','u','l','l'] :=
    eq_comm.trans String.ofList_inj
  rw [isText_iff,letters]
  cases answer with
  | missing => exact iff_of_true rfl (.inl rfl)
  | text s => exact iff_of_false nofun (by rintro (⟨⟨⟩⟩ | ⟨_,⟨⟩,_⟩))
  | number x =>
    have written : (toJson (.number x)).compactText = (Number.double x).text := rfl
    rw [written,Number.text_null_iff]
    simp

end Answer

-- A validation that stands in a text, by itself, in a form or in an edit.
inductive Validation.Loaded (v : Validation) : Prop where
  | alone {text : String} (read : (Document.ofText text.toList).read (Validation.read .fromText) = .ok v) : Loaded v
  | asked {text : String} {form : Form} {q : Question} (read : Form.ofText text = .ok form)
      (member : q ∈ form.questions) (given : q.validation = some v) : Loaded v
  | edited {text id : String} {edits : List Edit} (read : Edit.allOfText text = .ok edits)
      (member : .setValidation id (some v) ∈ edits) : Loaded v

theorem Validation.Loaded.finite {v : Validation} (loaded : v.Loaded) : v.rule.Finite := by
  cases loaded with
  | @alone text read =>
    exact validation_finite .fromText _ v (Document.root_finite text.toList) (Document.read_eq_ok read)
  | asked read member given => exact Form.ofText_finite read _ member v given
  | edited read member => exact Edit.allOfText_finite read _ member v rfl

section Judging

variable {v : Validation} {wording : Wording} {raw : String} {x : Float}

-- An answer is a number exactly when a rule on numbers was asked and accepts it.
theorem number_judged_iff : (Validator.compile (some v) wording).value.validate (some raw) = .ok (.number x) ↔
    x = leadingNumber raw.toList ∧ ∃ rule, v.rule = .number rule ∧ (RuleSheet.ofValidation v).Consulted raw ∧
      rule.method.Accepts rule.value x := by
  have whole := RuleSheet.validation_ofValidation v
  have kept : (RuleSheet.ofValidation v).rule = v.rule := congrArg Validation.rule whole
  obtain ⟨numbers,_,_⟩ := RuleSheet.rule_exact (RuleSheet.ofValidation v)
  constructor
  · intro accepted
    obtain ⟨result,judged⟩ := RuleSheet.judged_total (RuleSheet.ofValidation v) wording (some raw)
    have same : result = .ok (.number x) := by
      rw [← RuleSheet.judged_validate judged,whole,accepted]
    rw [same] at judged
    cases judged with
    | accepted consulted rule pass =>
      cases rule with
      | number declared given known =>
        exact ⟨rfl,_,kept.symm.trans ((numbers _).mpr ⟨declared,given⟩),consulted,pass⟩
  · rintro ⟨rfl,rule,given,consulted,accepts⟩
    have known : rule.method ≠ .unrecognized := by
      intro unknown
      rw [unknown] at accepts
      exact accepts
    obtain ⟨declared,held⟩ := (numbers rule).mp (kept.trans given)
    have judged : (RuleSheet.ofValidation v).Judged wording (some raw) _ :=
      .accepted consulted (.number declared held known) accepts
    rw [← RuleSheet.judged_validate judged,whole]

theorem not_number_unruled : (Validator.compile none wording).value.validate (some raw) ≠ .ok (.number x) := by
  intro accepted
  rw [Validator.compile,Validator.validate] at accepted
  dsimp only at accepted
  split at accepted <;> cases accepted

-- A threshold that was loaded is finite, so only an infinite number passes it from afar.
theorem unbounded_judged_iff (loaded : v.Loaded) :
    (Validator.compile (some v) wording).value.validate (some raw) = .ok (.number x) ∧ x.isFinite = false ↔
      x = leadingNumber raw.toList ∧ ∃ rule, v.rule = .number rule ∧ (RuleSheet.ofValidation v).Consulted raw ∧
        rule.method.Unbounded x := by
  have threshold : ∀ rule, v.rule = .number rule → rule.value.isFinite = true := by
    intro rule given
    have finite := loaded.finite
    rw [given] at finite
    exact finite rule.value List.mem_cons_self
  rw [number_judged_iff]
  constructor
  · rintro ⟨⟨read,rule,given,consulted,accepts⟩,unbounded⟩
    have passed := (NumberMethod.accepts_unbounded_iff (threshold rule given)).mp ⟨accepts,unbounded⟩
    exact ⟨read,rule,given,consulted,passed⟩
  · rintro ⟨read,rule,given,consulted,passed⟩
    obtain ⟨accepts,unbounded⟩ := (NumberMethod.accepts_unbounded_iff (threshold rule given)).mpr passed
    exact ⟨⟨read,rule,given,consulted,accepts⟩,unbounded⟩

end Judging

-- What was given and is printed as nothing is told by the method and the number read; the threshold has no
-- part in it.
theorem given_null_iff {validation : Option Validation} (loaded : ∀ v ∈ validation, v.Loaded) (wording : Wording) :
    let validate := (Validator.compile validation wording).value.validate
    (∀ answer : Answer, answer.toJson.IsText "null" ↔
      answer = .missing ∨ ∃ x, answer = .number x ∧ x.isFinite = false) ∧
    (∀ raw answer, validate raw = .ok answer → (answer = .missing ↔ raw = none)) ∧
    (∀ raw : String, (∃ given, validate (some raw) = .ok given ∧ given.toJson.IsText "null") ↔
      ∃ v ∈ validation, ∃ rule, v.rule = .number rule ∧ (RuleSheet.ofValidation v).Consulted raw ∧
        rule.method.Unbounded (leadingNumber raw.toList)) ∧
    ∀ raw given, validate (some raw) = .ok given → ∀ text, Answer.missing.toJson.IsText text →
      (given.toJson.IsText text ↔ ∃ x, given = .number x ∧ x.isFinite = false) := by
  intro validate
  have present {raw : String} {given : Answer} (accepted : validate (some raw) = .ok given) : given ≠ .missing :=
    mt (Validator.answer_missing_iff accepted).mp (Option.some_ne_none raw)
  have null {raw : String} {given : Answer} (accepted : validate (some raw) = .ok given) :
      given.toJson.IsText "null" ↔ ∃ x, given = .number x ∧ x.isFinite = false := by
    rw [Answer.isText_null_iff,or_iff_right (present accepted)]
  refine ⟨fun _ => Answer.isText_null_iff,fun _ _ => Validator.answer_missing_iff,?_,?_⟩
  · intro raw
    constructor
    · rintro ⟨given,accepted,written⟩
      obtain ⟨x,rfl,unbounded⟩ := (null accepted).mp written
      cases validation with
      | none => exact absurd accepted not_number_unruled
      | some v =>
        obtain ⟨rfl,passed⟩ := (unbounded_judged_iff (loaded v rfl)).mp ⟨accepted,unbounded⟩
        exact ⟨v,rfl,passed⟩
    · rintro ⟨v,rfl,passed⟩
      obtain ⟨accepted,unbounded⟩ := (unbounded_judged_iff (loaded v rfl)).mpr ⟨rfl,passed⟩
      exact ⟨_,accepted,(null accepted).mpr ⟨_,rfl,unbounded⟩⟩
  · intro raw given accepted text written
    have same : text = "null" := Answer.isText_iff.mp written
    rw [same]
    exact null accepted

theorem loaded_at_zero (required : Bool) (method : NumberMethod) (message : String) :
    Validation.Loaded ⟨required,.number ⟨method,0.0,message⟩⟩ := by
  have text : (Number.double 0.0).text = ['0','.','0'] := by decide +kernel
  have read : Spelling.scan (Number.double 0.0).text = .ok (⟨false,['0'],some ['0'],none⟩,[]) := by
    rw [text]
    rfl
  have zero : (Number.double 0.0).ReadsBack := (Number.readsBack_iff read).mpr (by decide +kernel)
  exact .alone (validation_reloads (List.forall_mem_singleton.mpr zero) (.inl rfl))

-- What is no number differs from every number, so it passes where only zero would not.
theorem no_number_written_null :
    let v : Validation := ⟨false,.number ⟨.notEqual,0.0,"Not zero"⟩⟩
    let validate := (Validator.compile (some v) {}).value.validate
    v.Loaded ∧ validate none = .ok .missing ∧
      ∃ given, validate (some "none") = .ok given ∧ given ≠ .missing ∧ given.toJson.IsText "null" := by
  intro v validate
  have loaded : v.Loaded := loaded_at_zero false .notEqual "Not zero"
  have consulted : (RuleSheet.ofValidation v).Consulted "none" := by
    simp [RuleSheet.Consulted,RuleSheet.ofValidation,v]
  have read : leadingNumber "none".toList = notANumber := by decide +kernel
  obtain ⟨_,present,null,_⟩ := @given_null_iff (some v) (fun _ held => Option.some.inj held ▸ loaded) {}
  obtain ⟨given,accepted,written⟩ := (null "none").mpr ⟨v,rfl,_,rfl,consulted,.inr (.inr read)⟩
  have answered : given ≠ .missing := mt (present _ _ accepted).mp (Option.some_ne_none "none")
  exact ⟨loaded,rfl,given,accepted,answered,written⟩

theorem infinity_written_null :
    ¬ ∀ v : Validation, v.Loaded → ∀ (wording : Wording) (raw : String) (given : Answer),
      (Validator.compile (some v) wording).value.validate (some raw) = .ok given → ¬ given.toJson.IsText "null" := by
  intro always
  have accepted : (Validator.compile (some ⟨true,.number ⟨.isNumber,0.0,"bad"⟩⟩) {}).value.validate (some "Infinity") =
      .ok (.number infinity) := by decide +kernel
  exact always _ (loaded_at_zero true .isNumber "bad") {} _ _ accepted (Answer.isText_null_iff.mpr (.inr ⟨_,rfl,rfl⟩))

end Questionnaire
