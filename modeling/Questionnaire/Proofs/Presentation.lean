import Questionnaire.Proofs.Refusal
import Questionnaire.Proofs.Reordering
import Questionnaire.Proofs.Submission
/-!
Presentation. What a question asks and how it is shown are two things. Edits of titles, descriptions, masks and
choices, and of the order of the questions, leave every verdict as it was, and the same answers are handed in.
-/

namespace Questionnaire

namespace Submission

variable {one two : List Entry}

theorem judge_perm (distinct : (two.map Entry.id).Nodup) (same : one.Perm two) (responses : Responses) :
    judge one responses = judge two responses := by
  have distinctOne : (one.map Entry.id).Nodup := (same.map Entry.id).nodup_iff.mpr distinct
  refine Verdict.ext_tells fun id outcome => ?_
  rw [judge_tells distinctOne,judge_tells distinct]
  exact exists_congr fun entry => and_congr_left fun _ => same.mem_iff

-- The same refusal, or the same answers in an order of their own.
inductive Alike : Except Refusal (List Submitted) → Except Refusal (List Submitted) → Prop where
  | refused (refusal : Refusal) : Alike (.error refusal) (.error refusal)
  | accepted {one two : List Submitted} (same : one.Perm two) : Alike (.ok one) (.ok two)

theorem deal_perm (distinct : (two.map Entry.id).Nodup) (same : one.Perm two) (values : Std.ExtTreeMap String Answer) :
    (deal one values).Perm (deal two values) := by
  have distinctOne : (one.map Entry.id).Nodup := (same.map Entry.id).nodup_iff.mpr distinct
  rw [deal_eq_map distinctOne,deal_eq_map distinct]
  exact same.map _

theorem submit_perm (distinct : (two.map Entry.id).Nodup) (same : one.Perm two) (responses : Responses) :
    Alike (submit one responses) (submit two responses) := by
  have empty : one.isEmpty = two.isEmpty := by
    rw [Bool.eq_iff_iff,List.isEmpty_iff_length_eq_zero,List.isEmpty_iff_length_eq_zero,same.length_eq]
  rw [submit,submit,empty,judge_perm distinct same]
  split
  · exact .refused _
  · dsimp only
    split
    · exact .accepted (deal_perm distinct same _)
    · exact .refused _

end Submission

open Submission

-- A question without what is only shown of it. Nobody who judges an answer looks at the rest.
def Question.bare (q : Question) : Question := { q with description := none, mask := none, choices := [] }

theorem entries_bare (questions : List Question) (wording : Wording) :
    entries (questions.map Question.bare) wording = entries questions wording := by
  have complete : Question.isComplete ∘ Question.bare = Question.isComplete := rfl
  have entry : Entry.ofQuestion wording ∘ Question.bare = Entry.ofQuestion wording := rfl
  rw [entries,entries,List.filter_map,complete,List.map_map,entry]

theorem entries_perm {questions others : List Question} (same : (others.map Question.bare).Perm (questions.map Question.bare))
    (wording : Wording) : (entries others wording).Perm (entries questions wording) := by
  rw [← entries_bare others,← entries_bare questions]
  exact (same.filter _).map _

-- The edits of how a form is shown.
def Edit.presents : Edit → Bool
  | .setTitle _ | .setDescription _ | .setQuestionDescription _ _ | .addDescription _ | .setMask _ _ | .addMask _
  | .addChoice _ _ | .renameChoice _ _ _ | .removeChoice _ _ | .reorderChoices _ _ | .reorderQuestions _ => true
  | .createQuestion | .duplicateQuestion _ | .removeQuestion _ | .setQuestionText _ _ | .setKind _ _
  | .setValidation _ _ | .setRequired _ _ | .setRuleKind _ _ => false

theorem Edit.inPlace_bare {wording : Wording} {edit : Edit} {id : String} {change : Question → Noted Question}
    (presents : edit.presents = true) (inPlace : edit.inPlace? wording = some (id,change)) (q : Question) :
    (change q).value.bare = q.bare := by
  cases edit with
  | addMask =>
    cases inPlace
    simp only [silently,Question.addMask]
    split <;> rfl
  | setQuestionDescription | addDescription | setMask | renameChoice | removeChoice | reorderChoices =>
    cases inPlace
    rfl
  | setTitle | setDescription | addChoice | reorderQuestions => cases inPlace
  | _ => cases presents

namespace Draft

variable {settings : Settings} {draft after : Draft} {edit : Edit}

theorem move_bare (presents : edit.presents = true) (moved : Move settings draft edit after) :
    (after.form.questions.map Question.bare).Perm (draft.form.questions.map Question.bare) := by
  cases moved with
  | created | copied | copiedUnknown | removed => cases presents
  | retitled | redescribed | misordered | extendedUnknown | refused => exact .refl _
  | changed inPlace => exact .of_eq (Questions.map_change (Edit.inPlace_bare presents inPlace) _ _)
  | extended => exact .of_eq (Questions.map_change (fun _ => rfl) _ _)
  | reordered ordered =>
    obtain ⟨once,same⟩ := Questions.isOrderOf_iff.mp ordered
    exact (picked_perm (same.nodup_iff.mp once) same).map _

end Draft

namespace Form

variable {form next : Form} {settings : Settings} {ids : IdSource} {edits : List Edit}

theorem apply_bare {edit : Edit} (presents : edit.presents = true) (ok : (form.apply edit settings ids).result = .ok next) :
    (next.questions.map Question.bare).Perm (form.questions.map Question.bare) := by
  have moved := Draft.next_moves settings ⟨form,ids⟩ edit
  rw [Draft.next_granted ok] at moved
  exact Draft.move_bare presents moved

theorem applyAll_bare (presents : ∀ edit ∈ edits, edit.presents = true)
    (accepted : (form.applyAll edits settings ids).result = .ok next) :
    (next.questions.map Question.bare).Perm (form.questions.map Question.bare) := by
  induction edits generalizing form ids with
  | nil =>
    cases accepted
    exact .refl _
  | cons edit rest ih =>
    obtain ⟨first,later⟩ := List.forall_mem_cons.mp presents
    rw [applyAll_cons] at accepted
    obtain ⟨step,made,accepted⟩ := Outcome.andThen_accepted.mp accepted
    exact (ih later accepted).trans (apply_bare first made)

end Form

-- Two runs side by side: the form as it was and the form as it is shown now, on the same responses.
theorem presentation_judged_alike {form next : Form} (distinct : (form.questions.map Question.id).Nodup)
    {settings : Settings} {ids : IdSource} {edits : List Edit} (presents : ∀ edit ∈ edits, edit.presents = true)
    (accepted : (form.applyAll edits settings ids).result = .ok next) (wording : Wording) (responses : Responses) :
    judge (entries next.questions wording) responses = judge (entries form.questions wording) responses ∧
      Alike (submit (entries next.questions wording) responses) (submit (entries form.questions wording) responses) := by
  have same : (entries next.questions wording).Perm (entries form.questions wording) :=
    entries_perm (Form.applyAll_bare presents accepted) wording
  have apart := entries_distinct distinct wording
  exact ⟨judge_perm apart same responses,submit_perm apart same responses⟩

-- The questions change places, and one loses the mask its response was typed through and gains a choice.
theorem reordered_survey_judged_alike :
    let name : Question := { id := "name", text := some "Name", validation := some ⟨true,.free⟩ }
    let age : Question :=
      { id := "age", text := some "Age", mask := some "99", validation := some ⟨false,.number ⟨.isNumber,0,"A number"⟩⟩ }
    let form : Form := ⟨"Entry","",[name,age]⟩
    let edits : List Edit := [.reorderQuestions ["age","name"],.setMask "age" none,.addChoice "age" true]
    let next : Form := ⟨"Entry","",[{ age with mask := none, choices := [⟨"id-1","Other",.other⟩] },name]⟩
    let responses : Responses := Std.ExtTreeMap.insert ∅ "age" "n/a"
    (form.questions.map Question.id).Nodup ∧ (∀ edit ∈ edits, edit.presents = true) ∧
      (form.applyAll edits {} (.numbered "id")).result = .ok next ∧
      judge (entries next.questions {}) responses = judge (entries form.questions {}) responses ∧
      Alike (submit (entries next.questions {}) responses) (submit (entries form.questions {}) responses) := by
  intro name age form edits next responses
  have distinct : (form.questions.map Question.id).Nodup := by decide
  have presents : ∀ edit ∈ edits, edit.presents = true := by decide
  have accepted : (form.applyAll edits {} (.numbered "id")).result = .ok next := by
    dsimp only [form,edits,next,age,name]
    rfl
  exact ⟨distinct,presents,accepted,presentation_judged_alike distinct presents accepted {} responses⟩

end Questionnaire
