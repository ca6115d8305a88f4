import Questionnaire.Document.Form
import Questionnaire.Proofs.Json.Reading
/-!
Forms read back from their documents as they were, with everything that stands in them.
-/

namespace Questionnaire

open Json

variable {α β : Type}

-- A member that is left out keeps what the record holds for it already, so that has to be nothing.
theorem fills_optional {mode : Mode} {fields : List (FieldReader α)} {members : List (String × Value)} {a c : α}
    {name : String} {read : Reader β} {write : β → Value} {put : Option β → α → α} {given : Option β}
    (restores : ∀ b ∈ given, Restores read write b) (filled : ∀ b, write b ≠ .null) (blank : put none a = a)
    (further : Fills mode fields members (put given a) c) :
    Fills mode (.of name false (readOption read) put :: fields) (optional name write given ++ members) a c := by
  cases given with
  | none => exact .skip rfl (blank ▸ further)
  | some b =>
    refine .put ?_ further
    show (do return put (← readOption read mode (write b).tree) a) = Except.ok (put (some b) a)
    rw [readOption_some (Value.tree_ne_null (filled b)) (restores b rfl mode)]
    rfl

theorem numberMethod_named (method : NumberMethod) : NumberMethod.tags.named method.name = .ok method := by
  cases method <;> rfl

theorem textMethod_named (method : TextMethod) : TextMethod.tags.named method.name = .ok method := by
  cases method <;> rfl

theorem lengthMethod_named (method : LengthMethod) : LengthMethod.tags.named method.name = .ok method := by
  cases method <;> rfl

theorem ruleKind_named (kind : RuleKind) : RuleKind.tags.named kind.name = .ok kind := by
  cases kind <;> rfl

theorem choiceKind_named (kind : ChoiceKind) : ChoiceKind.tags.named kind.name = .ok kind := by
  cases kind <;> rfl

theorem questionKind_named (kind : QuestionKind) : QuestionKind.tags.named kind.name = .ok kind := by
  cases kind <;> rfl

theorem numberRule_restored (rule : NumberRule) : Restores NumberRule.record.read NumberRule.toJson rule := by
  intro mode
  refine Record.read_map ?_ (by decide)
  exact .given (.tag (numberMethod_named rule.method)) (.given (.double rule.value)
    (.given (.text rule.errorMessage) .done))

theorem textRule_restored (rule : TextRule) : Restores TextRule.record.read TextRule.toJson rule := by
  intro mode
  refine Record.read_map ?_ (by decide)
  exact .given (.tag (textMethod_named rule.method)) (.given (.text rule.needle)
    (.given (.text rule.errorMessage) .done))

theorem lengthRule_restored (rule : LengthRule) : Restores LengthRule.record.read LengthRule.toJson rule := by
  intro mode
  refine Record.read_map ?_ (by decide)
  exact .given (.tag (lengthMethod_named rule.method)) (.given (.double rule.value)
    (.given (.text rule.errorMessage) .done))

theorem ruleSheet_restored (sheet : RuleSheet) : Restores RuleSheet.record.read RuleSheet.toJson sheet := by
  intro mode
  refine Record.read_map ?_ (by decide)
  rw [List.append_assoc,List.append_assoc,← List.append_nil (optional "length" _ _)]
  refine .given (.bool sheet.required) ?_
  refine fills_optional (fun kind _ => .tag (ruleKind_named kind)) nofun rfl ?_
  refine fills_optional (fun rule _ => numberRule_restored rule) nofun rfl ?_
  refine fills_optional (fun rule _ => textRule_restored rule) nofun rfl ?_
  exact fills_optional (fun rule _ => lengthRule_restored rule) nofun rfl .done

theorem validation_restored (v : Validation) : Restores Validation.read Validation.toJson v := by
  intro mode
  rw [Validation.read,Validation.toJson,ruleSheet_restored _ mode,Except.map,RuleSheet.validation_ofValidation]

theorem choice_restored (choice : Choice) : Restores Choice.record.read Choice.toJson choice := by
  intro mode
  refine Record.read_map ?_ (by decide)
  exact .given (.text choice.id) (.given (.text choice.label) (.given (.tag (choiceKind_named choice.kind)) .done))

theorem question_restored (question : Question) : Restores Question.record.read Question.toJson question := by
  intro mode
  refine Record.read_map ?_ (by decide)
  simp only [List.append_assoc,List.cons_append,List.nil_append]
  refine .given (.text question.id) (.given (.tag (questionKind_named question.kind)) ?_)
  refine fills_optional (fun text _ => .text text) nofun rfl ?_
  refine fills_optional (fun description _ => .text description) nofun rfl ?_
  refine fills_optional (fun mask _ => .text mask) nofun rfl ?_
  refine fills_optional (fun v _ => validation_restored v) nofun rfl ?_
  exact .given (.list fun choice _ => choice_restored choice) .done

theorem form_restored (form : Form) : Restores Form.record.read Form.toJson form := by
  intro mode
  refine Record.read_map ?_ (by decide)
  exact .given (.text form.title) (.given (.text form.description)
    (.given (.list fun question _ => question_restored question) .done))

def Rule.thresholds : Rule → List Float
  | .number rule => [rule.value]
  | .length rule => [rule.value]
  | _ => []

def Question.thresholds (question : Question) : List Float :=
  question.validation.elim [] fun v => v.rule.thresholds

-- The numbers that stand in the rules of a form. A form holds no others.
def Form.thresholds (form : Form) : List Float := form.questions.flatMap Question.thresholds

theorem validation_numbers (v : Validation) : v.toJson.numbers = v.rule.thresholds.map .double := by
  obtain ⟨required,rule⟩ := v
  cases rule <;> rfl

theorem optional_numbers {name : String} {write : α → Value} {given : Option α} :
    ((optional name write given).flatMap fun member => member.2.numbers) =
      given.elim [] fun a => (write a).numbers := by
  cases given with
  | none => rfl
  | some a => exact List.append_nil _

theorem choices_numbers (choices : List Choice) : Value.itemNumbers (choices.map Choice.toJson) = [] := by
  rw [Value.itemNumbers_eq,List.flatMap_map,List.flatMap_eq_nil_iff]
  exact fun choice _ => rfl

theorem question_numbers (question : Question) : question.toJson.numbers = question.thresholds.map .double := by
  have texts (given : Option String) : (given.elim [] fun _ => ([] : List Number)) = [] := by
    cases given <;> rfl
  have validation : (question.validation.elim [] fun v => v.toJson.numbers) = question.thresholds.map .double := by
    unfold Question.thresholds
    cases question.validation with
    | none => rfl
    | some v => exact validation_numbers v
  rw [Question.toJson,Value.numbers,Value.memberNumbers_eq]
  simp [optional_numbers,texts,validation,choices_numbers,Value.numbers]

theorem form_numbers (form : Form) : form.toJson.numbers = form.thresholds.map .double := by
  rw [Form.toJson,Value.numbers,Value.memberNumbers_eq]
  simp [Value.numbers,Value.itemNumbers_eq,List.flatMap_map,question_numbers,Form.thresholds,List.map_flatMap]

end Questionnaire
