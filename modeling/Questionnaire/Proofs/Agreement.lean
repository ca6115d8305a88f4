import Questionnaire.Command.Run
import Questionnaire.Proofs.Document.Saving
import Questionnaire.Proofs.Preview
/-!
What a preview says of responses, what handing them in comes to and what the command for validation
reports. Each goes through the questions with text on its own; they agree even where questions share an
identifier, since all three ask the one verdict, and ask it by identifier.
-/

namespace Questionnaire

open Submission

variable {form : Form} {responses : Responses} {wording : Wording} {id message : String}

theorem Verdict.isValid_iff {verdict : Verdict} : verdict.isValid = true ↔ ∀ id : String, verdict.errors[id]? = none := by
  rw [isValid,Std.ExtTreeMap.isEmpty_iff,Std.ExtTreeMap.eq_empty_iff_forall_not_mem]
  simp only [Std.ExtTreeMap.mem_iff_isSome_getElem?,Bool.not_eq_true,Option.isSome_eq_false_iff,Option.isNone_iff_eq_none]

-- The verdict on a form, whoever asks for it.
def Form.verdict (form : Form) (responses : Responses) (wording : Wording) : Verdict :=
  judge (entries form.questions wording) responses

theorem Form.error_owned (refused : (form.verdict responses wording).errors[id]? = some message) :
    ∃ q ∈ form.completeQuestions, q.id = id := by
  rw [verdict,judge_errors] at refused
  obtain ⟨entry,member,named,_⟩ := mem_of_last? refused
  obtain ⟨q,held,complete,rfl⟩ := mem_entries.mp member
  exact ⟨q,mem_completeQuestions.mpr ⟨held,complete⟩,named⟩

theorem Form.entries_isEmpty (form : Form) (wording : Wording) :
    (entries form.questions wording).isEmpty = !form.isSubmittable := by
  rw [isSubmittable,Bool.not_not]
  exact List.isEmpty_map

namespace Preview

theorem fields_judged (form : Form) (responses : Responses) (wording : Wording) :
    (ofForm form (some responses) wording).fields = form.completeQuestions.map fun q =>
      .ofQuestion q (responses[q.id]?.map q.shown) (form.verdict responses wording).errors[q.id]? := rfl

theorem fields_eq_nil_iff : (ofForm form (some responses) wording).fields = [] ↔ form.isSubmittable = false := by
  rw [fields_judged,List.map_eq_nil_iff,Form.isSubmittable,Bool.not_eq_false',List.isEmpty_iff]

theorem shows_error_iff :
    (∃ field ∈ (ofForm form (some responses) wording).fields, field.id = id ∧ field.error = some message) ↔
      (form.verdict responses wording).errors[id]? = some message := by
  simp only [fields_judged,List.mem_map,exists_exists_and_eq_and]
  constructor
  · rintro ⟨q,_,rfl,shown⟩
    exact shown
  · intro refused
    obtain ⟨q,member,rfl⟩ := Form.error_owned refused
    exact ⟨q,member,rfl,refused⟩

theorem shows_no_error_iff :
    (∀ field ∈ (ofForm form (some responses) wording).fields, field.error = none) ↔
      (form.verdict responses wording).isValid = true := by
  rw [Verdict.isValid_iff]
  constructor
  · intro silent id
    cases refused : (form.verdict responses wording).errors[id]? with
    | none => rfl
    | some message =>
      obtain ⟨field,member,_,shown⟩ := shows_error_iff.mpr refused
      rw [silent field member] at shown
      cases shown
  · intro accepted field member
    rw [fields_judged] at member
    obtain ⟨q,_,rfl⟩ := List.mem_map.mp member
    exact accepted q.id

end Preview

-- How a form stands with responses: what a preview and a submission make of them, side by side.
inductive Form.Stands (form : Form) (responses : Responses) (wording : Wording) :
    Preview.Status → Except Submission.Refusal (List Submitted) → Prop where
  | empty (none : form.isSubmittable = false) : Stands form responses wording .empty (.error .nothingToSubmit)
  | ready (some : form.isSubmittable = true) (valid : (form.verdict responses wording).isValid = true)
      {answers : List Submitted} : Stands form responses wording .ready (.ok answers)
  | invalid (some : form.isSubmittable = true) (refused : (form.verdict responses wording).isValid = false) :
      Stands form responses wording .invalid (.error (.invalid (form.verdict responses wording)))

theorem Form.stands (form : Form) (responses : Responses) (wording : Wording) :
    form.Stands responses wording (Preview.ofForm form (some responses) wording).status
      (submit (entries form.questions wording) responses) := by
  have empty := form.entries_isEmpty wording
  have status : (Preview.ofForm form (some responses) wording).status =
      if (entries form.questions wording).isEmpty then .empty
      else if (form.verdict responses wording).isValid then .ready else .invalid := rfl
  have submitted : submit (entries form.questions wording) responses =
      if (entries form.questions wording).isEmpty then .error .nothingToSubmit
      else if (form.verdict responses wording).isValid then
        .ok (deal (entries form.questions wording) (form.verdict responses wording).values)
      else .error (.invalid (form.verdict responses wording)) := rfl
  rw [status,submitted,empty]
  cases some : form.isSubmittable with
  | false => exact .empty some
  | true =>
    cases valid : (form.verdict responses wording).isValid with
    | true => exact .ready some valid
    | false => exact .invalid some valid

namespace Form.Stands

variable {status : Preview.Status} {submitted : Except Submission.Refusal (List Submitted)}

theorem empty_iff (stands : form.Stands responses wording status submitted) :
    (status = .empty ↔ submitted = .error .nothingToSubmit) ∧
      (submitted = .error .nothingToSubmit ↔ form.isSubmittable = false) := by
  cases stands with
  | empty none => simp [none]
  | ready some => simp [some]
  | invalid some => simp [some]

theorem ready_iff (stands : form.Stands responses wording status submitted) :
    (status = .ready ↔ ∃ answers, submitted = .ok answers) ∧
      ((∃ answers, submitted = .ok answers) ↔
        form.isSubmittable = true ∧ (form.verdict responses wording).isValid = true) := by
  cases stands with
  | empty none => simp [none]
  | ready some valid => simp [some,valid]
  | invalid some refused => simp [refused]

theorem invalid_iff (stands : form.Stands responses wording status submitted) :
    status = .invalid ↔ ∃ verdict, submitted = .error (.invalid verdict) := by
  cases stands with
  | empty | ready => simp
  | invalid => simp

theorem verdict_eq (stands : form.Stands responses wording status submitted) {verdict : Verdict}
    (refused : submitted = .error (.invalid verdict)) :
    verdict = form.verdict responses wording ∧ verdict.isValid = false := by
  cases stands with
  | empty | ready => cases refused
  | invalid some invalid =>
    cases refused
    exact ⟨rfl,invalid⟩

end Form.Stands

namespace Command

-- What is needed for a validation to get as far as judging anything.
structure Loads (shelf : Shelf) (config : Option String) (path answers : String) (settings : Settings) (form : Form)
    (responses : Responses) : Prop where
  settings : shelf.settings config = .ok settings
  form : shelf.load Form.ofText path = .ok form
  responses : shelf.responses answers = .ok responses

-- Any responses can be put in a file so, and any form whose numbers read back.
theorem loads_saved {shelf : Shelf} {config : Option String} {path answers text given : String} {settings : Settings}
    (configured : shelf.settings config = .ok settings) (form : Form) (responses : Responses)
    (readsBack : ∀ x ∈ form.thresholds, (Json.Number.double x).ReadsBack)
    (stored : shelf path = .ok text) (saved : form.toJson.IsText text)
    (answered : shelf answers = .ok given) (kept : responses.toJson.IsText given) :
    Loads shelf config path answers settings form responses where
  settings := configured
  form := by
    rw [Shelf.load,stored]
    exact congrArg (Except.mapError Failure.document) (form_reloads readsBack saved)
  responses := by
    have loaded : shelf.load Responses.valueOfText answers = .ok responses.toJson := by
      rw [Shelf.load,answered]
      exact congrArg (Except.mapError Failure.document) (Responses.valueOfText_toJson kept)
    rw [Shelf.responses,loaded]
    exact congrArg (Except.mapError Failure.responses) responses.ofValue_toJson

theorem run_validate {shelf : Shelf} {config fallback : Option String} {path answers : String} {settings : Settings}
    (loads : Loads shelf (config <|> fallback) path answers settings form responses) (verbose : Bool) (ids : IdSource) :
    Invocation.run ⟨config,verbose,.validate path answers⟩ shelf fallback ids =
      validation form responses settings.wording := by
  simp only [Invocation.run,Task.run,loads.settings,loads.form,loads.responses,bind,Except.bind,pure,Except.pure]

def errorLine (q : Question) (message : String) : String :=
  "  " ++ q.text.getD "" ++ " (" ++ q.id ++ ") - " ++ message

theorem mem_errorLines {verdict : Verdict} {line : String} :
    line ∈ errorLines form verdict ↔
      ∃ q ∈ form.completeQuestions, ∃ message, verdict.errors[q.id]? = some message ∧ errorLine q message = line := by
  simp only [errorLines,List.mem_filterMap,Option.map_eq_some_iff,errorLine]

theorem errorLine_listed (refused : (form.verdict responses wording).errors[id]? = some message) :
    ∃ q ∈ form.completeQuestions, q.id = id ∧ errorLine q message ∈ errorLines form (form.verdict responses wording) := by
  obtain ⟨q,member,rfl⟩ := Form.error_owned refused
  exact ⟨q,member,rfl,mem_errorLines.mpr ⟨q,member,message,refused,rfl⟩⟩

theorem errorLines_ne_nil (refused : (form.verdict responses wording).isValid = false) :
    errorLines form (form.verdict responses wording) ≠ [] := by
  intro none
  have accepted : (form.verdict responses wording).isValid = true := by
    refine Verdict.isValid_iff.mpr fun id => Option.eq_none_iff_forall_ne_some.mpr fun message refused => ?_
    obtain ⟨q,_,_,listed⟩ := errorLine_listed refused
    rw [none] at listed
    cases listed
  rw [refused] at accepted
  cases accepted

-- What the command prints and whether it fails, by how the form stands.
inductive Reports (form : Form) (verdict : Verdict) (report : Report) : Preview.Status → Prop where
  | nothing (fails : report.exitCode = 1) (silent : report.lines = []) : Reports form verdict report .empty
  | valid (succeeds : report.exitCode = 0) {lines : List String} (answered : report.lines = verdictLine true :: lines) :
      Reports form verdict report .ready
  | invalid (fails : report.exitCode = 1)
      (listed : report.lines = verdictLine false :: "Errors:" :: errorLines form verdict) :
      Reports form verdict report .invalid

theorem validation_reports (form : Form) (responses : Responses) (wording : Wording) :
    Reports form (form.verdict responses wording) (validation form responses wording)
      (Preview.ofForm form (some responses) wording).status := by
  have stands := form.stands responses wording
  rw [validation]
  generalize (Preview.ofForm form (some responses) wording).status = status at stands ⊢
  generalize submit (entries form.questions wording) responses = submitted at stands ⊢
  cases stands with
  | empty => exact .nothing rfl rfl
  | ready => exact .valid rfl rfl
  | invalid => exact .invalid rfl rfl

namespace Reports

variable {verdict : Verdict} {report : Report} {status : Preview.Status}

theorem succeeds_iff (reports : Reports form verdict report status) : report.exitCode = 0 ↔ status = .ready := by
  cases reports with
  | nothing fails | invalid fails => simp [fails]
  | valid succeeds => simp [succeeds]

theorem declares_invalid_iff (reports : Reports form verdict report status) :
    report.lines.head? = some (verdictLine false) ↔ status = .invalid := by
  cases reports with
  | nothing _ silent => simp [silent]
  | valid _ answered =>
    have other : verdictLine true ≠ verdictLine false := by decide
    simp [answered,other]
  | invalid _ listed => simp [listed]

theorem lists_errors (reports : Reports form verdict report .invalid) :
    report.lines = verdictLine false :: "Errors:" :: errorLines form verdict := by
  cases reports with
  | invalid _ listed => exact listed

end Reports
end Command

open Command

theorem preview_submission_command_agree (form : Form) (responses : Responses) (settings : Settings) :
    let preview := Preview.ofForm form (some responses) settings.wording
    let submitted := submit (entries form.questions settings.wording) responses
    ((preview.status = .empty ↔ submitted = .error .nothingToSubmit) ∧
      (submitted = .error .nothingToSubmit ↔ form.isSubmittable = false) ∧
      (form.isSubmittable = false ↔ preview.fields = [])) ∧
    ((preview.status = .ready ↔ ∃ answers, submitted = .ok answers) ∧
      ((∃ answers, submitted = .ok answers) ↔
        preview.fields ≠ [] ∧ ∀ field ∈ preview.fields, field.error = none)) ∧
    ((preview.status = .invalid ↔ ∃ verdict, submitted = .error (.invalid verdict)) ∧
      ∀ verdict, submitted = .error (.invalid verdict) → ∀ id message,
        (∃ field ∈ preview.fields, field.id = id ∧ field.error = some message) ↔ verdict.errors[id]? = some message) ∧
    ∀ shelf config fallback path answers, Loads shelf (config <|> fallback) path answers settings form responses →
      ∀ verbose ids,
        let report := Invocation.run ⟨config,verbose,.validate path answers⟩ shelf fallback ids
        (report.exitCode = 0 ↔ preview.status = .ready) ∧
        (report.lines.head? = some (verdictLine false) ↔ preview.status = .invalid) ∧
        ∀ verdict, submitted = .error (.invalid verdict) →
          ∃ shown, report.lines = verdictLine false :: "Errors:" :: shown ∧ shown ≠ [] ∧
            ∀ id message, verdict.errors[id]? = some message →
              ∃ q ∈ form.completeQuestions, q.id = id ∧ errorLine q message ∈ shown := by
  intro preview submitted
  have stands : form.Stands responses settings.wording preview.status submitted := form.stands responses settings.wording
  have fields : preview.fields = [] ↔ form.isSubmittable = false := Preview.fields_eq_nil_iff
  have silent : (∀ field ∈ preview.fields, field.error = none) ↔ (form.verdict responses settings.wording).isValid = true :=
    Preview.shows_no_error_iff
  have reports : Reports form (form.verdict responses settings.wording)
      (validation form responses settings.wording) preview.status := validation_reports form responses settings.wording
  refine ⟨⟨stands.empty_iff.1,stands.empty_iff.2,fields.symm⟩,⟨stands.ready_iff.1,?_⟩,⟨stands.invalid_iff,?_⟩,?_⟩
  · rw [stands.ready_iff.2,silent,ne_eq,fields,Bool.not_eq_false]
  · intro verdict refused id message
    rw [(stands.verdict_eq refused).1]
    exact Preview.shows_error_iff
  · intro shelf config fallback path answers loads verbose ids report
    have ran : report = validation form responses settings.wording := run_validate loads verbose ids
    rw [ran]
    refine ⟨reports.succeeds_iff,reports.declares_invalid_iff,?_⟩
    intro verdict refused
    obtain ⟨rfl,invalid⟩ := stands.verdict_eq refused
    have status := stands.invalid_iff.mpr ⟨_,refused⟩
    rw [status] at reports
    exact ⟨_,reports.lists_errors,errorLines_ne_nil invalid,fun _ _ => errorLine_listed⟩

-- Two questions share an identifier and with it the message of the one that refuses, though the other
-- asks for nothing.
theorem shared_identifier_agrees :
    let mail : Question := { id := "mail", text := some "Mail" }
    let again : Question :=
      { id := "mail", text := some "Mail again", validation := some ⟨false,.text ⟨.contains,"@","Needs an @"⟩⟩ }
    let form : Form := ⟨"Entry","",[mail,again]⟩
    let responses : Responses := Std.ExtTreeMap.insert ∅ "mail" "me"
    let shelf : Shelf := fun path => .ok (if path = "form" then form.toJson.indented else responses.toJson.compact)
    let report := Invocation.run ⟨none,false,.validate "form" "responses"⟩ shelf none (.numbered "id")
    Loads shelf (none <|> none) "form" "responses" {} form responses ∧
      (Preview.ofForm form (some responses) {}).status = .invalid ∧
      report.lines.head? = some (verdictLine false) ∧
      ∃ q ∈ form.completeQuestions, q.id = "mail" ∧ errorLine q "Needs an @" ∈ report.lines := by
  intro mail again form responses shelf report
  have loads : Loads shelf (none <|> none) "form" "responses" {} form responses :=
    loads_saved rfl form responses (List.forall_mem_nil _) rfl (.inr rfl) rfl (.inl rfl)
  have status : (Preview.ofForm form (some responses) {}).status = .invalid := by decide
  have refused : (form.verdict responses {}).errors["mail"]? = some "Needs an @" := by decide
  obtain ⟨_,_,⟨invalid,_⟩,validates⟩ := preview_submission_command_agree form responses {}
  obtain ⟨_,declared,lists⟩ := validates shelf none none "form" "responses" loads false (.numbered "id")
  obtain ⟨verdict,submitted⟩ := invalid.mp status
  obtain ⟨rfl,_⟩ := (form.stands responses {}).verdict_eq submitted
  obtain ⟨shown,listed,_,every⟩ := lists _ submitted
  obtain ⟨q,member,named,line⟩ := every "mail" "Needs an @" refused
  refine ⟨loads,status,declared.mpr status,q,member,named,?_⟩
  rw [listed]
  exact List.mem_cons_of_mem _ (List.mem_cons_of_mem _ line)

end Questionnaire
