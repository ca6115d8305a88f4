import Questionnaire.Proofs.Refusal
/-!
Edits that come too late: what they name is gone, or an order was made for other questions. They change
nothing wherever in a run they arrive, and no identifier is drawn for them.
-/

namespace Questionnaire

namespace Form

-- What an edit names is looked for in the form as it stands. Nothing is said of the settings: an edit
-- that is stale is not refused either.
inductive Stale (form : Form) : Edit → Prop where
  | unknownQuestion {edit : Edit} {id : String} (names : edit.question? = some id)
      (absent : ∀ q ∈ form.questions, q.id ≠ id) : Stale form edit
  | unknownChoice {edit : Edit} {id choice : String} {q : Question} (names : edit.question? = some id)
      (chooses : edit.choice? = some choice) (found : form.question? id = some q)
      (absent : ∀ c ∈ q.choices, c.id ≠ choice) : Stale form edit
  | disordered {order : List String}
      (disordered : ¬ (order.Nodup ∧ order.Perm (form.questions.map Question.id))) :
      Stale form (.reorderQuestions order)

variable {form : Form} {settings : Settings} {edit : Edit}

theorem stale_granted (stale : form.Stale edit) : ¬ form.Refuses settings edit := by
  rintro ⟨_,id,q,rfl,found,_⟩
  cases stale with
  | unknownQuestion names absent =>
    cases names
    rw [question?_eq_none.mpr absent] at found
    cases found
  | unknownChoice _ chooses => cases chooses

end Form

namespace Draft

variable {settings : Settings} {draft after : Draft} {edit : Edit}

theorem move_unknownQuestion {id : String} (names : edit.question? = some id)
    (absent : ∀ q ∈ draft.form.questions, q.id ≠ id) (moved : Move settings draft edit after) : after = draft := by
  have unknown := Form.question?_eq_none.mpr absent
  cases moved with
  | removed =>
    cases names
    rw [Questions.remove_unknown absent]
    rfl
  | changed inPlace =>
    cases names.symm.trans (Edit.inPlace_question inPlace)
    rw [Questions.change_absent unknown]
    rfl
  | copied found | extended found =>
    cases names
    rw [unknown] at found
    cases found
  | retitled | redescribed | created | reordered => cases names
  | copiedUnknown | misordered | extendedUnknown | refused => rfl

theorem move_unknownChoice {id choice : String} {q : Question} (names : edit.question? = some id)
    (chooses : edit.choice? = some choice) (found : draft.form.question? id = some q)
    (absent : ∀ c ∈ q.choices, c.id ≠ choice) (moved : Move settings draft edit after) : after = draft := by
  cases moved with
  | @changed _ named change inPlace =>
    cases names.symm.trans (Edit.inPlace_question inPlace)
    have same : (change q).value = q := by
      cases edit with
      | renameChoice _ _ label =>
        cases chooses
        cases inPlace
        simp only [Question.renameChoice,Choices.rename_unknown absent]
      | removeChoice =>
        cases chooses
        cases inPlace
        simp only [Edit.silently,Choices.remove_unknown absent]
      | _ => cases chooses
    rw [Questions.change_same found same]
    rfl
  | _ => cases chooses

theorem move_stale (stale : draft.form.Stale edit) (moved : Move settings draft edit after) : after = draft := by
  cases stale with
  | unknownQuestion names absent => exact move_unknownQuestion names absent moved
  | unknownChoice names chooses found absent => exact move_unknownChoice names chooses found absent moved
  | disordered disordered =>
    cases moved with
    | changed inPlace => cases inPlace
    | reordered ordered => exact absurd (Questions.isOrderOf_iff.mp ordered) disordered
    | misordered => rfl

end Draft

namespace Form

variable {form : Form} {edit : Edit}

theorem apply_stale (stale : form.Stale edit) (settings : Settings) (ids : IdSource) :
    (form.apply edit settings ids).effect = (.ok form,ids) := by
  obtain ⟨next,ok⟩ := apply_granted (stale_granted stale) ids
  have same := Draft.move_stale stale (Draft.next_moves settings ⟨form,ids⟩ edit)
  rw [Draft.next_granted ok,Draft.mk.injEq] at same
  rw [Outcome.effect,ok,same.1,same.2]

theorem applyAll_stale (stale : form.Stale edit) (after : List Edit) (settings : Settings) (ids : IdSource) :
    (form.applyAll (edit :: after) settings ids).effect = (form.applyAll after settings ids).effect := by
  obtain ⟨ok,left⟩ := Prod.mk.inj (apply_stale stale settings ids)
  rw [applyAll_cons,Outcome.effect_andThen_ok ok,left]

end Form

-- Where the edits before it are refused a late edit is not reached, and nothing is asked of it.
theorem stale_edits_ignored (form : Form) (settings : Settings) (ids : IdSource) :
    (∀ edit, form.Stale edit → (form.apply edit settings ids).effect = (.ok form,ids)) ∧
    ∀ before edit after,
      (∀ reached, (form.applyAll before settings ids).result = .ok reached → reached.Stale edit) →
        (form.applyAll (before ++ edit :: after) settings ids).effect =
          (form.applyAll (before ++ after) settings ids).effect := by
  refine ⟨fun edit stale => Form.apply_stale stale settings ids,?_⟩
  intro before edit after stale
  rw [Form.applyAll_append,Form.applyAll_append]
  cases made : (form.applyAll before settings ids).result with
  | error rejection => rw [Outcome.andThen_error made,Outcome.andThen_error made]
  | ok reached =>
    rw [Outcome.effect_andThen_ok made,Outcome.effect_andThen_ok made]
    exact Form.applyAll_stale (stale reached made) after settings _

theorem choice_for_removed_question_ignored :
    let strict : Settings := ⟨.strict,{}⟩
    let start := Draft.fresh strict (.numbered "id")
    let late : Edit := .addChoice "id-1" true
    (∀ reached, (start.form.applyAll [.removeQuestion "id-1"] strict start.ids).result = .ok reached →
        reached.Stale late) ∧
      (start.form.applyAll [.removeQuestion "id-1",late,.createQuestion] strict start.ids).effect =
        (start.form.applyAll [.removeQuestion "id-1",.createQuestion] strict start.ids).effect := by
  intro strict start late
  have stale : ∀ reached, (start.form.applyAll [.removeQuestion "id-1"] strict start.ids).result = .ok reached →
      reached.Stale late := by
    intro reached led
    have left : reached.questions = [] := (congrArg Form.questions (Except.ok.inj led)).symm
    refine .unknownQuestion rfl ?_
    rw [left]
    exact List.forall_mem_nil _
  exact ⟨stale,(stale_edits_ignored start.form strict start.ids).2 [.removeQuestion "id-1"] late [.createQuestion] stale⟩

end Questionnaire
