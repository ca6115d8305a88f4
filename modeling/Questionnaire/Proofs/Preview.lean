import Mathlib.Data.List.Forall2
import Questionnaire.Preview
import Questionnaire.Proofs.Mask.Typing
import Questionnaire.Proofs.Reordering
import Questionnaire.Proofs.Verdict
/-!
What a preview shows and what it judges. Masks lay out what is shown; a response is judged as it was
given, as it is when it is handed in.
-/

namespace Questionnaire

theorem Question.shown_shown (q : Question) (raw : String) : q.shown (q.shown raw) = q.shown raw := by
  rw [shown]
  cases given : q.activeMask with
  | none => rw [shown,given]; rfl
  | some template => rw [shown,given]; exact Mask.apply_apply template raw

namespace Form

variable {form : Form}

-- The responses as the preview shows them.
def masked (form : Form) (responses : Responses) : Responses :=
  responses.map fun id raw => (form.question? id).elim raw (·.shown raw)

theorem question?_of_mem (distinct : (form.questions.map Question.id).Nodup) {q : Question}
    (member : q ∈ form.questions) : form.question? q.id = some q :=
  find?_own distinct member

theorem masked_response (distinct : (form.questions.map Question.id).Nodup) {q : Question}
    (member : q ∈ form.questions) (responses : Responses) :
    (form.masked responses)[q.id]? = responses[q.id]?.map q.shown := by
  rw [masked,Std.ExtTreeMap.getElem?_map,question?_of_mem distinct member]
  rfl

theorem mem_completeQuestions {q : Question} :
    q ∈ form.completeQuestions ↔ q ∈ form.questions ∧ q.isComplete = true :=
  List.mem_filter

end Form

namespace Preview

def Field.unjudged (field : Field) : Field := { field with error := none }

def Field.Shows (field : Field) (q : Question) (wording : Wording) (responses : Responses) : Prop :=
  field.id = q.id ∧ field.value = responses[q.id]?.map q.shown ∧
    field.error = Verdict.refusal? (q.judge wording responses)

variable {form : Form} {wording : Wording} {responses other : Responses}

theorem errors_eq_refusal (distinct : (form.questions.map Question.id).Nodup) {q : Question}
    (member : q ∈ form.completeQuestions) :
    (Submission.judge (Submission.entries form.questions wording) responses).errors[q.id]? =
      Verdict.refusal? (q.judge wording responses) := by
  obtain ⟨held,complete⟩ := Form.mem_completeQuestions.mp member
  have exact := Submission.judge_exact distinct wording responses
  refine Option.ext fun message => ?_
  rw [Verdict.refusal?_eq_some]
  constructor
  · intro refused
    obtain ⟨again,heldAgain,_,named,judged⟩ := (exact q.id (.error message)).mp refused
    rwa [List.inj_on_of_nodup_map distinct held heldAgain named.symm]
  · intro judged
    exact (exact q.id (.error message)).mpr ⟨q,held,complete,rfl,judged⟩

theorem fields_eq (distinct : (form.questions.map Question.id).Nodup) :
    (ofForm form (some responses) wording).fields = form.completeQuestions.map fun q =>
      .ofQuestion q (responses[q.id]?.map q.shown) (Verdict.refusal? (q.judge wording responses)) := by
  refine List.map_congr_left fun q member => ?_
  rw [← errors_eq_refusal distinct member]
  rfl

theorem fields_shows (distinct : (form.questions.map Question.id).Nodup) :
    List.Forall₂ (fun q field => field.Shows q wording responses) form.completeQuestions
      (ofForm form (some responses) wording).fields := by
  rw [fields_eq distinct,List.forall₂_map_right_iff,List.forall₂_same]
  exact fun q _ => ⟨rfl,rfl,rfl⟩

theorem status_eq (distinct : (form.questions.map Question.id).Nodup) :
    (ofForm form (some responses) wording).status =
      if form.completeQuestions.isEmpty then .empty
      else if form.completeQuestions.all fun q => (Verdict.refusal? (q.judge wording responses)).isNone then .ready
      else .invalid := by
  have valid : (Submission.judge (Submission.entries form.questions wording) responses).isValid =
      form.completeQuestions.all fun q => (Verdict.refusal? (q.judge wording responses)).isNone := by
    rw [Bool.eq_iff_iff,Verdict.exact_valid_iff (Submission.judge_exact distinct wording responses)]
    simp only [List.all_eq_true,Form.mem_completeQuestions,Option.isNone_iff_eq_none,Option.eq_none_iff_forall_ne_some,
      ne_eq,Verdict.refusal?_eq_some,and_imp]
  have none : (Submission.entries form.questions wording).isEmpty = form.completeQuestions.isEmpty :=
    List.isEmpty_map
  rw [← valid,← none]
  rfl

theorem fields_unjudged (distinct : (form.questions.map Question.id).Nodup) (wording : Wording) (responses : Responses) :
    (ofForm form (some (form.masked responses)) wording).fields.map Field.unjudged =
      (ofForm form (some responses) wording).fields.map Field.unjudged := by
  rw [fields_eq distinct,fields_eq distinct,List.map_map,List.map_map]
  refine List.map_congr_left fun q member => ?_
  rw [Function.comp_apply,Form.masked_response distinct (Form.mem_completeQuestions.mp member).1,Option.map_map]
  simp only [Function.comp_def,Question.shown_shown]
  rfl

theorem status_invalid_iff (distinct : (form.questions.map Question.id).Nodup) :
    (ofForm form (some responses) wording).status = .invalid ↔
      ∃ field ∈ (ofForm form (some responses) wording).fields, field.error ≠ none := by
  have refused : (∃ field ∈ (ofForm form (some responses) wording).fields, field.error ≠ none) ↔
      ∃ q ∈ form.completeQuestions, Verdict.refusal? (q.judge wording responses) ≠ none := by
    simp only [fields_eq distinct,List.mem_map,exists_exists_and_eq_and]
    rfl
  rw [refused,status_eq distinct]
  split
  · rename_i none
    rw [List.isEmpty_iff.mp none]
    simp
  · split
    · rename_i accepted
      simpa using accepted
    · rename_i accepted
      simpa using accepted

theorem status_congr (distinct : (form.questions.map Question.id).Nodup)
    (refusals : ∀ q ∈ form.completeQuestions,
      Verdict.refusal? (q.judge wording other) = Verdict.refusal? (q.judge wording responses)) :
    (ofForm form (some other) wording).status = (ofForm form (some responses) wording).status := by
  have accepted : (form.completeQuestions.all fun q => (Verdict.refusal? (q.judge wording other)).isNone) =
      form.completeQuestions.all fun q => (Verdict.refusal? (q.judge wording responses)).isNone := by
    rw [Bool.eq_iff_iff,List.all_eq_true,List.all_eq_true]
    exact forall₂_congr fun q member => by rw [refusals q member]
  rw [status_eq distinct,status_eq distinct,accepted]

theorem eq_iff_refusals (distinct : (form.questions.map Question.id).Nodup) (wording : Wording) (responses : Responses) :
    ofForm form (some (form.masked responses)) wording = ofForm form (some responses) wording ↔
      ∀ q ∈ form.completeQuestions,
        Verdict.refusal? (q.judge wording (form.masked responses)) = Verdict.refusal? (q.judge wording responses) := by
  constructor
  · intro same q member
    have fields := congrArg Preview.fields same
    rw [fields_eq distinct,fields_eq distinct] at fields
    exact congrArg Field.error (List.map_inj_left.mp fields q member)
  · intro refusals
    have fields : (ofForm form (some (form.masked responses)) wording).fields =
        (ofForm form (some responses) wording).fields := by
      rw [fields_eq distinct,fields_eq distinct]
      refine List.map_congr_left fun q member => ?_
      rw [refusals q member,Form.masked_response distinct (Form.mem_completeQuestions.mp member).1,Option.map_map]
      simp only [Function.comp_def,Question.shown_shown]
    calc ofForm form (some (form.masked responses)) wording
        = ⟨form.title,form.description,(ofForm form (some (form.masked responses)) wording).status,
            (ofForm form (some (form.masked responses)) wording).fields⟩ := rfl
      _ = ofForm form (some responses) wording := by rw [status_congr distinct refusals,fields]; rfl

-- Typed key by key a response is a masked value already, and then what is judged is what is shown.
theorem preview_judges_given {form : Form} (distinct : (form.questions.map Question.id).Nodup) (wording : Wording)
    (responses : Responses) :
    let preview := fun responses => ofForm form (some responses) wording
    let shown := form.masked responses
    ((preview shown).title = (preview responses).title ∧
      (preview shown).description = (preview responses).description ∧
      (preview shown).fields.map Field.unjudged = (preview responses).fields.map Field.unjudged) ∧
    List.Forall₂ (fun q field => field.Shows q wording responses) form.completeQuestions (preview responses).fields ∧
    ((preview responses).status = .invalid ↔ ∃ field ∈ (preview responses).fields, field.error ≠ none) ∧
    (preview shown = preview responses ↔ ∀ q ∈ form.completeQuestions,
      Verdict.refusal? (q.judge wording shown) = Verdict.refusal? (q.judge wording responses)) ∧
    ((∀ q ∈ form.completeQuestions, ∀ raw, responses[q.id]? = some raw → q.shown raw = raw) →
      preview shown = preview responses) := by
  intro preview shown
  refine ⟨⟨rfl,rfl,fields_unjudged distinct wording responses⟩,fields_shows distinct,?_,
    eq_iff_refusals distinct wording responses,?_⟩
  · exact status_invalid_iff distinct
  · intro typed
    refine (eq_iff_refusals distinct wording responses).mpr fun q member => ?_
    have same : shown[q.id]? = responses[q.id]? := by
      rw [Form.masked_response distinct (Form.mem_completeQuestions.mp member).1]
      cases given : responses[q.id]? with
      | none => rfl
      | some raw => rw [Option.map_some,typed q member raw given]
    rw [Question.judge,Question.judge,same]

theorem typed_code_judged_as_shown :
    let code : Question := { id := "code", text := some "Code", mask := some "99/99", validation := some ⟨true,.free⟩ }
    let form : Form := ⟨"Entry","",[code]⟩
    let typed : Responses := Std.ExtTreeMap.insert ∅ "code" "12/3"
    (form.questions.map Question.id).Nodup ∧
      ofForm form (some (form.masked typed)) {} = ofForm form (some typed) {} := by
  intro code form typed
  have distinct : (form.questions.map Question.id).Nodup := by decide
  obtain ⟨_,_,_,_,agree⟩ := preview_judges_given distinct {} typed
  refine ⟨distinct,agree ?_⟩
  intro q member raw given
  rw [List.mem_singleton.mp member] at given ⊢
  have response : typed["code"]? = some "12/3" := by decide
  cases response.symm.trans given
  decide

-- The mask leaves nothing of the response, and nothing is what the preview shows; but something was
-- given, so a question that demands an answer is content.
theorem emptied_response_accepted :
    ¬ ∀ (form : Form) (wording : Wording) (responses : Responses), (form.questions.map Question.id).Nodup →
      ofForm form (some responses) wording = ofForm form (some (form.masked responses)) wording := by
  intro always
  have same := always
    ⟨"Entry","",[{ id := "code", text := some "Code", mask := some "999", validation := some ⟨true,.free⟩ }]⟩ {}
    (Std.ExtTreeMap.insert ∅ "code" "abc") (by decide)
  have status := congrArg Preview.status same
  revert status
  decide

end Preview
end Questionnaire
