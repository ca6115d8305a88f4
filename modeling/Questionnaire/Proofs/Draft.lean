import Mathlib.Data.List.Induction
import Questionnaire.Proofs.Edits
/-!
Runs of edits. Everything one edit can do to a form is listed once, and where each question of the
next form comes from; what holds along a whole run is derived from that.
-/

namespace Questionnaire

-- A form under editing and the identifiers still to be drawn.
structure Draft where
  form : Form
  ids : IdSource

namespace Draft

def fresh (settings : Settings) (ids : IdSource) : Draft :=
  ⟨(Form.fresh settings.wording ids).1,(Form.fresh settings.wording ids).2⟩

-- Work goes on after a refusal, with the form as it was.
def next (settings : Settings) (draft : Draft) (edit : Edit) : Draft :=
  let outcome := draft.form.apply edit settings draft.ids
  match outcome.result with
  | .ok form => ⟨form,outcome.ids⟩
  | .error _ => ⟨draft.form,outcome.ids⟩

def run (settings : Settings) (draft : Draft) (edits : List Edit) : Draft :=
  edits.foldl (next settings) draft

theorem run_concat (settings : Settings) (draft : Draft) (edits : List Edit) (edit : Edit) :
    draft.run settings (edits ++ [edit]) = (draft.run settings edits).next settings edit := by
  simp [run]

theorem run_preserves {settings : Settings} {Holds : Draft → Prop}
    (step : ∀ draft edit, Holds draft → Holds (draft.next settings edit))
    {draft : Draft} (start : Holds draft) (edits : List Edit) : Holds (draft.run settings edits) := by
  induction edits generalizing draft with
  | nil => exact start
  | cons edit rest ih => exact ih (step _ edit start)

-- A property that some edits break holds after a run in which each of them was left out when its turn came.
theorem run_preserves_unless {settings : Settings} (Holds : Draft → Prop) (Breaks : Draft → Edit → Prop)
    {draft : Draft} (start : Holds draft) {edits : List Edit}
    (step : ∀ draft edit, edit ∈ edits → Holds draft → ¬ Breaks draft edit → Holds (draft.next settings edit))
    (unbroken : ∀ done edit, done ++ [edit] <+: edits → ¬ Breaks (draft.run settings done) edit) :
    Holds (draft.run settings edits) := by
  induction edits using List.reverseRecOn with
  | nil => exact start
  | append_singleton done edit ih =>
    have before : Holds (draft.run settings done) := by
      refine ih (fun draft edit named => step draft edit (List.mem_append_left _ named)) ?_
      intro earlier next soFar
      exact unbroken earlier next (soFar.trans (List.prefix_append done [edit]))
    rw [run_concat]
    exact step _ edit List.mem_concat_self before (unbroken done edit (List.prefix_refl _))

theorem run_holds_iff {settings : Settings} (Holds : Draft → Prop) (Breaks : Draft → Edit → Prop)
    {draft : Draft} (start : Holds draft) {edits : List Edit}
    (step : ∀ draft edit, edit ∈ edits → Holds draft → (Holds (draft.next settings edit) ↔ ¬ Breaks draft edit)) :
    (∀ done, done <+: edits → Holds (draft.run settings done)) ↔
      ∀ done edit, done ++ [edit] <+: edits → ¬ Breaks (draft.run settings done) edit := by
  constructor
  · intro holds done edit soFar
    have before := holds done ((List.prefix_append done [edit]).trans soFar)
    have after := holds (done ++ [edit]) soFar
    rw [run_concat] at after
    exact (step _ edit (soFar.subset List.mem_concat_self) before).mp after
  · intro unbroken done soFar
    refine run_preserves_unless Holds Breaks start ?_ fun earlier edit turn => unbroken earlier edit (turn.trans soFar)
    intro draft edit named held kept
    exact (step draft edit (soFar.subset named) held).mpr kept

-- Every edit of a run has its turn: the first one at the start, the others after the first.
theorem turns_cons {first : Edit} {rest : List Edit} {Turn : List Edit → Edit → Prop} :
    (∀ done edit, done ++ [edit] <+: first :: rest → Turn done edit) ↔
      Turn [] first ∧ ∀ done edit, done ++ [edit] <+: rest → Turn (first :: done) edit := by
  constructor
  · intro turns
    refine ⟨turns [] first ⟨rest,rfl⟩,fun done edit soFar => turns (first :: done) edit ?_⟩
    exact List.cons_prefix_cons.mpr ⟨rfl,soFar⟩
  · rintro ⟨head,later⟩ done edit soFar
    cases done with
    | nil =>
      obtain ⟨rfl,_⟩ := List.cons_prefix_cons.mp soFar
      exact head
    | cons other done =>
      obtain ⟨rfl,tail⟩ := List.cons_prefix_cons.mp soFar
      exact later done edit tail

theorem turns_nil {Turn : List Edit → Edit → Prop} : ∀ done edit, done ++ [edit] <+: [] → Turn done edit := by
  intro done edit soFar
  simp at soFar

def withQuestions (draft : Draft) (questions : List Question) (ids : IdSource) : Draft :=
  ⟨{ draft.form with questions },ids⟩

-- The guards are part of each case, so a move says of an edit also what it found in the form.
inductive Move (settings : Settings) (draft : Draft) : Edit → Draft → Prop where
  | retitled {title : String} :
      Move settings draft (.setTitle title) ⟨{ draft.form with title },draft.ids⟩
  | redescribed {description : String} :
      Move settings draft (.setDescription description) ⟨{ draft.form with description },draft.ids⟩
  | created : Move settings draft .createQuestion
      (draft.withQuestions (draft.form.questions ++ [(Question.fresh settings.wording draft.ids).1])
        (Question.fresh settings.wording draft.ids).2)
  | copied {id : String} {q : Question} (found : draft.form.question? id = some q) :
      Move settings draft (.duplicateQuestion id)
        (draft.withQuestions (draft.form.questions ++ [{ q with id := draft.ids.draw.1, mask := none }])
          draft.ids.draw.2)
  | copiedUnknown {id : String} (absent : draft.form.question? id = none) :
      Move settings draft (.duplicateQuestion id) draft
  | removed {id : String} : Move settings draft (.removeQuestion id)
      (draft.withQuestions (Questions.remove id draft.form.questions) draft.ids)
  | changed {edit : Edit} {id : String} {change : Question → Noted Question}
      (inPlace : edit.inPlace? settings.wording = some (id,change)) :
      Move settings draft edit
        (draft.withQuestions (Questions.change id change draft.form.questions).value draft.ids)
  | reordered {order : List String} (ordered : Questions.isOrderOf order draft.form.questions = true) :
      Move settings draft (.reorderQuestions order)
        (draft.withQuestions (order.filterMap draft.form.question?) draft.ids)
  | misordered {order : List String} (disordered : Questions.isOrderOf order draft.form.questions = false) :
      Move settings draft (.reorderQuestions order) draft
  | extended {id : String} {other : Bool} {q : Question} (found : draft.form.question? id = some q)
      (allowed : Choices.refuses settings q.choices other = false) :
      Move settings draft (.addChoice id other)
        (draft.withQuestions
          (Questions.update id
            ({ · with choices := q.choices ++ [Choices.fresh settings.wording q.choices other draft.ids.draw.1] })
            draft.form.questions).value
          draft.ids.draw.2)
  | extendedUnknown {id : String} {other : Bool} (absent : draft.form.question? id = none) :
      Move settings draft (.addChoice id other) draft
  | refused {id : String} {other : Bool} {q : Question} (found : draft.form.question? id = some q)
      (refuses : Choices.refuses settings q.choices other = true) :
      Move settings draft (.addChoice id other) draft

theorem duplicate_moves (settings : Settings) (draft : Draft) (id : String) :
    Move settings draft (.duplicateQuestion id) (draft.next settings (.duplicateQuestion id)) := by
  cases found : draft.form.question? id with
  | none =>
    have same : draft.next settings (.duplicateQuestion id) = draft := by
      rw [Form.question?] at found
      simp only [next,Form.apply,Questions.duplicate,found,Form.withQuestions]
    rw [same]
    exact .copiedUnknown found
  | some q =>
    have copy : draft.next settings (.duplicateQuestion id) =
        draft.withQuestions (draft.form.questions ++ [{ q with id := draft.ids.draw.1, mask := none }])
          draft.ids.draw.2 := by
      rw [Form.question?] at found
      simp only [next,Form.apply,Questions.duplicate,found,Form.withQuestions,withQuestions]
    rw [copy]
    exact .copied found

theorem reorder_moves (settings : Settings) (draft : Draft) (order : List String) :
    Move settings draft (.reorderQuestions order) (draft.next settings (.reorderQuestions order)) := by
  cases checked : Questions.isOrderOf order draft.form.questions with
  | false =>
    have same : draft.next settings (.reorderQuestions order) = draft := by
      simp [next,Form.apply,Questions.reorder,checked,Form.withQuestions]
    rw [same]
    exact .misordered checked
  | true =>
    have ordered : draft.next settings (.reorderQuestions order) =
        draft.withQuestions (order.filterMap draft.form.question?) draft.ids := by
      simp only [next,Form.apply,Questions.reorder,checked,if_true,Form.withQuestions]
      rfl
    rw [ordered]
    exact .reordered checked

theorem addChoice_moves (settings : Settings) (draft : Draft) (id : String) (other : Bool) :
    Move settings draft (.addChoice id other) (draft.next settings (.addChoice id other)) := by
  cases found : draft.form.question? id with
  | none =>
    have same : draft.next settings (.addChoice id other) = draft := by
      simp only [next,Form.apply,Form.addChoice_unknown found]
    rw [same]
    exact .extendedUnknown found
  | some q =>
    cases refuses : Choices.refuses settings q.choices other with
    | true =>
      have same : draft.next settings (.addChoice id other) = draft := by
        simp only [next,Form.apply,Form.addChoice_refused found refuses]
      rw [same]
      exact .refused found refuses
    | false =>
      have longer : draft.next settings (.addChoice id other) =
          draft.withQuestions
            (Questions.update id
              ({ · with choices := q.choices ++ [Choices.fresh settings.wording q.choices other draft.ids.draw.1] })
              draft.form.questions).value
            draft.ids.draw.2 := by
        simp only [next,Form.apply,Form.addChoice_allowed found refuses,Form.withQuestions,withQuestions]
      rw [longer]
      exact .extended found refuses

theorem inPlace_moves {settings : Settings} {edit : Edit} {id : String} {change : Question → Noted Question}
    (inPlace : edit.inPlace? settings.wording = some (id,change)) (draft : Draft) :
    Move settings draft edit (draft.next settings edit) := by
  have changed : draft.next settings edit =
      draft.withQuestions (Questions.change id change draft.form.questions).value draft.ids := by
    simp only [next,Edit.inPlace_apply inPlace,Form.withQuestions,withQuestions]
  rw [changed]
  exact .changed inPlace

theorem next_moves (settings : Settings) (draft : Draft) (edit : Edit) :
    Move settings draft edit (draft.next settings edit) := by
  cases edit with
  | setTitle title => exact .retitled
  | setDescription description => exact .redescribed
  | createQuestion => exact .created
  | duplicateQuestion id => exact duplicate_moves settings draft id
  | removeQuestion id => exact .removed
  | reorderQuestions order => exact reorder_moves settings draft order
  | addChoice id other => exact addChoice_moves settings draft id other
  | _ => exact inPlace_moves rfl draft

-- Where a question of the next form comes from. What every edit does to its one question is all a
-- property of single questions needs to know about edits.
inductive Origin (settings : Settings) (draft : Draft) (edit : Edit) : Question → Prop where
  | kept {q : Question} (member : q ∈ draft.form.questions) : Origin settings draft edit q
  | created (creates : edit = .createQuestion) :
      Origin settings draft edit (Question.fresh settings.wording draft.ids).1
  | copied {id : String} {q : Question} (copies : edit = .duplicateQuestion id)
      (found : draft.form.question? id = some q) :
      Origin settings draft edit { q with id := draft.ids.draw.1, mask := none }
  | changed {id : String} {change : Question → Noted Question} {q : Question}
      (inPlace : edit.inPlace? settings.wording = some (id,change)) (found : draft.form.question? id = some q) :
      Origin settings draft edit (change q).value
  | extended {id : String} {other : Bool} {q : Question} (adds : edit = .addChoice id other)
      (found : draft.form.question? id = some q) (allowed : Choices.refuses settings q.choices other = false) :
      Origin settings draft edit
        { q with choices := q.choices ++ [Choices.fresh settings.wording q.choices other draft.ids.draw.1] }

theorem origin_of_mem {settings : Settings} {draft : Draft} {edit : Edit} {q : Question}
    (member : q ∈ (draft.next settings edit).form.questions) : Origin settings draft edit q := by
  have moved := next_moves settings draft edit
  generalize draft.next settings edit = after at moved member
  cases moved with
  | created =>
    rcases List.mem_append.mp member with old | new
    · exact .kept old
    · rw [List.mem_singleton.mp new]
      exact .created rfl
  | copied found =>
    rcases List.mem_append.mp member with old | new
    · exact .kept old
    · rw [List.mem_singleton.mp new]
      exact .copied rfl found
  | removed => exact .kept (List.mem_filter.mp member).1
  | changed inPlace =>
    rcases Questions.mem_change member with old | ⟨before,found,rfl⟩
    · exact .kept old
    · exact .changed inPlace found
  | reordered =>
    obtain ⟨id,_,found⟩ := List.mem_filterMap.mp member
    exact .kept (List.mem_of_find?_eq_some found)
  | extended found allowed =>
    rcases Questions.mem_change member with old | ⟨before,again,rfl⟩
    · exact .kept old
    · cases found.symm.trans again
      exact .extended rfl found allowed
  | _ => exact .kept member

end Draft
end Questionnaire
