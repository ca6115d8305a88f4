import Questionnaire.Proofs.Edits
import Questionnaire.Proofs.Unanswered
/-!
Requiring an answer. A question that demands one refuses blank responses on top of those its rule refuses, and
judges all others as before: what is handed in under the demand is handed in without it.
-/

namespace Questionnaire

-- Nothing was given, or nothing but blanks.
def LeftBlank (raw : Option String) : Prop := ∀ text, raw = some text → Text.allBlank text.toList = true

namespace Validator

variable {lenient strict : Validator} {raw : Option String} {answer : Answer}

theorem validate_leftBlank {message : String} (demands : strict.required = some message) (blank : LeftBlank raw) :
    strict.validate raw = .error message := by
  cases raw with
  | none => rw [validate,demands]; rfl
  | some text => simp only [validate,demands,if_pos (blank text rfl)]

theorem validate_answered (same : lenient.check = strict.check) (answered : ¬ LeftBlank raw) :
    lenient.validate raw = strict.validate raw := by
  simp only [LeftBlank,Classical.not_forall] at answered
  obtain ⟨text,rfl,seen⟩ := answered
  rw [validate_seen seen,validate_seen seen,same]

-- One check in both, and the one that is eased makes no demand the other does not make.
structure Eases (lenient strict : Validator) : Prop where
  check : lenient.check = strict.check
  required : lenient.required = none ∨ lenient.required = strict.required

theorem validate_eased (eases : Eases lenient strict) (accepted : strict.validate raw = .ok answer) :
    lenient.validate raw = .ok answer := by
  cases demands : strict.required with
  | none =>
    have optional : lenient.required = strict.required := by
      rcases eases.required with optional | same
      · rw [optional,demands]
      · exact same
    have equal : lenient = strict := by
      cases lenient
      cases strict
      rw [mk.injEq]
      exact ⟨optional,eases.check⟩
    rwa [equal]
  | some message =>
    have answered : ¬ LeftBlank raw := by
      intro blank
      rw [validate_leftBlank demands blank] at accepted
      cases accepted
    rwa [validate_answered eases.check answered]

end Validator

namespace Question

variable {q : Question} {wording : Wording} {responses : Responses} {answer : Answer}

theorem compile_setRequired (required : Bool) (q : Question) (wording : Wording) :
    (Validator.compile (q.setRequired required).validation wording).value =
      ⟨if required then some wording.required else none,(Validator.compile q.validation wording).value.check⟩ := by
  cases held : q.validation <;> simp only [setRequired,held] <;> rfl

theorem compile_demands (q : Question) (wording : Wording) :
    (Validator.compile q.validation wording).value.required = none ∨
      (Validator.compile q.validation wording).value.required = some wording.required := by
  cases q.validation with
  | none => exact .inl rfl
  | some v =>
    cases required : v.required with
    | false => exact .inl (by simp [Validator.compile,required])
    | true => exact .inr (by simp [Validator.compile,required])

theorem judge_eased (accepted : q.judge wording responses = .ok answer) :
    (q.setRequired false).judge wording responses = .ok answer := by
  refine Validator.validate_eased ⟨?_,.inl ?_⟩ accepted <;> rw [compile_setRequired]
  rfl

theorem judge_before_required (accepted : (q.setRequired true).judge wording responses = .ok answer) :
    q.judge wording responses = .ok answer := by
  refine Validator.validate_eased ⟨?_,?_⟩ accepted <;> rw [compile_setRequired]
  exact compile_demands q wording

theorem judge_answered (required : Bool) (answered : ¬ LeftBlank responses[q.id]?) :
    (q.setRequired required).judge wording responses = q.judge wording responses := by
  refine Validator.validate_answered ?_ answered
  rw [compile_setRequired]

theorem judge_leftBlank (blank : LeftBlank responses[q.id]?) :
    (q.setRequired true).judge wording responses = .error wording.required := by
  refine Validator.validate_leftBlank ?_ blank
  rw [compile_setRequired]
  rfl

end Question

namespace Submission

variable {wording : Wording} {responses : Responses}

-- Changing the first question with an identifier goes unnoticed where that question asks the same and is judged
-- the same.
theorem told_change {id : String} {edit : Question → Noted Question} {questions : List Question}
    (complete : ∀ q, (edit q).value.isComplete = q.isComplete)
    (kept : ∀ q, questions.find? (·.id = id) = some q → q.isComplete = true →
      (Entry.ofQuestion wording (edit q).value).told responses = (Entry.ofQuestion wording q).told responses) :
    (entries (Questions.change id edit questions).value wording).map (Entry.told responses) =
      (entries questions wording).map (Entry.told responses) := by
  let told? (q : Question) := if q.isComplete then some ((Entry.ofQuestion wording q).told responses) else none
  have asked (questions : List Question) :
      (entries questions wording).map (Entry.told responses) = (questions.map told?).filterMap fun told => told := by
    rw [entries,List.map_map,List.filterMap_map,← List.filterMap_eq_map,List.filterMap_filter]
    rfl
  rw [asked,asked,Questions.map_change_found]
  intro q found
  simp only [told?,complete]
  split
  · rw [kept q found ‹_›]
  · rfl

-- The message under an identifier: of the questions behind one, else of that one, else of those before it.
theorem errors_split (before after : List Question) (q : Question) (wording : Wording) (responses : Responses)
    (id : String) :
    (judge (entries (before ++ q :: after) wording) responses).errors[id]? =
      (judge (entries after wording) responses).errors[id]?.or
        ((if q.isComplete = true ∧ q.id = id then Verdict.refusal? (q.judge wording responses) else none).or
          (judge (entries before wording) responses).errors[id]?) := by
  simp only [judge_errors,entries,List.filter_append,List.map_append,last?_append]
  by_cases complete : q.isComplete = true
  · rw [List.filter_cons_of_pos complete,List.map_cons,last?_cons,Option.or_assoc]
    simp only [complete,true_and]
    rfl
  · rw [List.filter_cons_of_neg complete,if_neg (fun asked => complete asked.1),Option.none_or]

end Submission

open Submission

namespace Form

variable {form : Form} {id : String} {wording : Wording} {responses : Responses}

-- The form with a demand for an answer put on the first question with an identifier, or taken off it.
def requiring (form : Form) (id : String) (required : Bool) : Form :=
  { form with questions := (Questions.update id (Question.setRequired required) form.questions).value }

theorem told_requiring {required : Bool} (kept : ∀ q, form.question? id = some q → q.isComplete = true →
      (q.setRequired required).judge wording responses = q.judge wording responses) :
    (entries (form.requiring id required).questions wording).map (Entry.told responses) =
      (entries form.questions wording).map (Entry.told responses) := by
  refine told_change (fun _ => rfl) fun q found complete => ?_
  exact congrArg (fun outcome => (q.id,q.text.getD "",outcome)) (kept q found complete)

theorem told_optional {answers : List Submitted}
    (accepted : submit (entries form.questions wording) responses = .ok answers) :
    (entries (form.requiring id false).questions wording).map (Entry.told responses) =
      (entries form.questions wording).map (Entry.told responses) := by
  refine told_requiring fun q found complete => ?_
  have held : q ∈ form.completeQuestions := mem_completeQuestions.mpr ⟨List.mem_of_find?_eq_some found,complete⟩
  obtain ⟨answer,judged⟩ := judged_of_valid (submit_eq_ok accepted).1 held
  rw [judged,Question.judge_eased judged]

theorem told_required {answers : List Submitted}
    (accepted : submit (entries (form.requiring id true).questions wording) responses = .ok answers) :
    (entries (form.requiring id true).questions wording).map (Entry.told responses) =
      (entries form.questions wording).map (Entry.told responses) := by
  refine told_requiring fun q found complete => ?_
  have held : q.setRequired true ∈ (form.requiring id true).completeQuestions :=
    mem_completeQuestions.mpr ⟨Questions.changed_mem found _,complete⟩
  obtain ⟨answer,judged⟩ := judged_of_valid (submit_eq_ok accepted).1 held
  rw [judged,Question.judge_before_required judged]

theorem verdict_answered (required : Bool) (answered : ¬ LeftBlank responses[id]?) (wording : Wording) :
    (form.requiring id required).verdict responses wording = form.verdict responses wording := by
  refine judge_congr (told_requiring fun q found _ => Question.judge_answered required ?_)
  rwa [question?_id found]

-- Later questions with the identifier may refuse the response as well, and then theirs is the message that stands.
theorem errors_required (form : Form) (id : String) (blank : LeftBlank responses[id]?) (wording : Wording)
    (other : String) :
    ((form.requiring id true).verdict responses wording).errors[other]? =
        ((form.requiring id false).verdict responses wording).errors[other]? ∨
      other = id ∧ ((form.requiring id true).verdict responses wording).errors[other]? = some wording.required := by
  cases found : form.question? id with
  | none =>
    rw [question?] at found
    have kept (required : Bool) : (form.requiring id required).questions = form.questions := by
      simp only [requiring,Questions.update,Questions.change_absent found]
    rw [verdict,verdict,kept,kept]
    exact .inl rfl
  | some q =>
    obtain ⟨named,before,after,split,others⟩ := List.find?_eq_some_iff_append.mp found
    have named : q.id = id := by simpa using named
    have placed (required : Bool) : (form.requiring id required).questions = before ++ q.setRequired required :: after := by
      simp only [requiring,Questions.update,split]
      rw [Questions.change_append (by simpa using others) named]
    rw [verdict,verdict,placed,placed,errors_split,errors_split,Question.judge_leftBlank (named ▸ blank)]
    have asks (required : Bool) : (q.setRequired required).isComplete = true ∧ (q.setRequired required).id = other ↔
        q.isComplete = true ∧ q.id = other := Iff.rfl
    by_cases asked : q.isComplete = true ∧ q.id = other
    · cases (judge (entries after wording) responses).errors[other]? with
      | some message => exact .inl rfl
      | none =>
        refine .inr ⟨asked.2.symm.trans named,?_⟩
        rw [if_pos ((asks true).mpr asked)]
        rfl
    · rw [if_neg (mt (asks true).mp asked),if_neg (mt (asks false).mp asked)]
      exact .inl rfl

end Form

-- Where identifiers repeat, the demand is one on the first question with the identifier.
theorem requirement_refuses_blanks (form : Form) (id : String) (settings : Settings) (ids : IdSource) (wording : Wording)
    (responses : Responses) :
    ∃ optional required, (form.apply (.setRequired id false) settings ids).result = .ok optional ∧
      (form.apply (.setRequired id true) settings ids).result = .ok required ∧
      (∀ answers, submit (entries form.questions wording) responses = .ok answers →
        submit (entries optional.questions wording) responses = .ok answers) ∧
      (∀ answers, submit (entries required.questions wording) responses = .ok answers →
        submit (entries form.questions wording) responses = .ok answers) ∧
      (¬ LeftBlank responses[id]? → required.verdict responses wording = optional.verdict responses wording) ∧
      ∀ other, (required.verdict responses wording).errors[other]? = (optional.verdict responses wording).errors[other]? ∨
        other = id ∧ LeftBlank responses[id]? ∧
          (required.verdict responses wording).errors[other]? = some wording.required := by
  refine ⟨form.requiring id false,form.requiring id true,rfl,rfl,?_,?_,?_,?_⟩
  · intro answers accepted
    rw [submit_congr (Form.told_optional accepted),accepted]
  · intro answers accepted
    rw [← submit_congr (Form.told_required accepted),accepted]
  · intro answered
    rw [Form.verdict_answered true answered,Form.verdict_answered false answered]
  · intro other
    by_cases blank : LeftBlank responses[id]?
    · rcases Form.errors_required form id blank wording other with same | ⟨rfl,refused⟩
      · exact .inl same
      · exact .inr ⟨rfl,blank,refused⟩
    · rw [Form.verdict_answered true blank,Form.verdict_answered false blank]
      exact .inl rfl

end Questionnaire
