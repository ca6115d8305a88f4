import Questionnaire.Proofs.Draft
/-!
The choice for free text. Where a second one is refused a question has at most one, up to the first
reordering that names the label of that choice twice.
-/

namespace Questionnaire

namespace Choices

theorem rename_map_kind (id label : String) (choices : List Choice) :
    (rename id label choices).value.map Choice.kind = choices.map Choice.kind := by
  induction choices with
  | nil => rfl
  | cons c rest ih =>
    unfold rename
    by_cases same : c.id = id
    · rw [if_pos same]
      split <;> rfl
    · rw [if_neg same]
      simp only [List.map_cons,ih]

def others (choices : List Choice) : Nat := choices.countP Choice.isOther

theorem others_map_kind (choices : List Choice) :
    others choices = (choices.map Choice.kind).countP fun kind => decide (kind = .other) := by
  rw [List.countP_map]
  rfl

theorem others_rename (id label : String) (choices : List Choice) :
    others (rename id label choices).value = others choices := by
  rw [others_map_kind,rename_map_kind,← others_map_kind]

theorem others_remove (id : String) (choices : List Choice) : others (remove id choices) ≤ others choices :=
  List.Sublist.countP_le List.filter_sublist

-- Whether a reordering that asks for this label gets the choice for free text.
def namesOther (choices : List Choice) (label : String) : Bool :=
  (choices.find? (·.label = label)).any Choice.isOther

theorem others_reorder (order : List String) (choices : List Choice) :
    others (reorder order choices) = order.countP (namesOther choices) := by
  rw [others,reorder,List.countP_filterMap]
  congr 1
  funext label
  rw [namesOther]
  cases choices.find? (·.label = label) <;> rfl

theorem others_add {wording : Wording} {choices : List Choice} {other : Bool} (id : String)
    (allowed : refuses ⟨.strict,wording⟩ choices other = false) (single : others choices ≤ 1) :
    others (choices ++ [fresh wording choices other id]) ≤ 1 := by
  rw [others,List.countP_append,← others]
  cases other with
  | false => simpa [fresh,Choice.isOther] using single
  | true =>
    have none : others choices = 0 := by
      simpa [refuses,hasOther,others,List.countP_eq_zero] using allowed
    simp [none,fresh,Choice.isOther]

end Choices

open Choices

def Question.SingleOther (q : Question) : Prop := others q.choices ≤ 1

instance (q : Question) : Decidable q.SingleOther := inferInstanceAs (Decidable (_ ≤ _))

def Form.SingleOther (form : Form) : Prop := ∀ q ∈ form.questions, q.SingleOther

instance (form : Form) : Decidable form.SingleOther := inferInstanceAs (Decidable (∀ q ∈ form.questions, _))

-- A label named twice is not enough: the first choice with it has to be the one for free text.
def Form.Doubles (form : Form) (edit : Edit) : Prop :=
  ∃ id order q, edit = .reorderChoices id order ∧ form.question? id = some q ∧
    1 < order.countP (namesOther q.choices)

theorem others_onChoices {edit : Edit} {choices : List Choice} (single : others choices ≤ 1)
    (once : ∀ id order, edit = .reorderChoices id order → order.countP (namesOther choices) ≤ 1) :
    others (edit.onChoices choices) ≤ 1 := by
  cases edit with
  | renameChoice id choice label => rw [Edit.onChoices,others_rename]; exact single
  | removeChoice id choice => exact Nat.le_trans (others_remove choice choices) single
  | reorderChoices id order => rw [Edit.onChoices,others_reorder]; exact once id order rfl
  | _ => exact single

namespace Draft

variable {wording : Wording} {draft : Draft} {edit : Edit}

theorem next_singleOther (single : draft.form.SingleOther) (once : ¬ draft.form.Doubles edit) :
    (draft.next ⟨.strict,wording⟩ edit).form.SingleOther := by
  intro q member
  cases origin_of_mem member with
  | kept old => exact single q old
  | created => simp [Question.SingleOther,others,Question.fresh,Choice.isOther]
  | @copied id q _ found => exact single q (List.mem_of_find?_eq_some found)
  | @changed id change q inPlace found =>
    rw [Question.SingleOther,Edit.inPlace_choices inPlace]
    refine others_onChoices (single q (List.mem_of_find?_eq_some found)) ?_
    rintro id order rfl
    cases inPlace
    exact Nat.le_of_not_lt fun twice => once ⟨id,order,q,rfl,found,twice⟩
  | extended _ found allowed => exact others_add _ allowed (single _ (List.mem_of_find?_eq_some found))

theorem next_not_singleOther (doubles : draft.form.Doubles edit) :
    ¬ (draft.next ⟨.strict,wording⟩ edit).form.SingleOther := by
  obtain ⟨id,order,q,rfl,found,twice⟩ := doubles
  intro single
  have reordered : others (reorder order q.choices) ≤ 1 :=
    single { q with choices := reorder order q.choices } (Questions.changed_mem found _)
  rw [others_reorder] at reordered
  omega

theorem fresh_singleOther (ids : IdSource) : (fresh ⟨.strict,wording⟩ ids).form.SingleOther := by
  intro q member
  rw [List.mem_singleton.mp member]
  simp [Question.SingleOther,others,Choice.isOther]

end Draft

-- Every form on the way keeps to one choice for free text, unless a reordering on the way doubles
-- it. No other edit needs watching.
theorem strict_singleOther_iff (wording : Wording) (ids : IdSource) (edits : List Edit) :
    let reached := (Draft.fresh ⟨.strict,wording⟩ ids).run ⟨.strict,wording⟩
    (∀ done, done <+: edits → (reached done).form.SingleOther) ↔
      ∀ done edit, done ++ [edit] <+: edits → ¬ (reached done).form.Doubles edit := by
  refine Draft.run_holds_iff (·.form.SingleOther) (·.form.Doubles ·) (Draft.fresh_singleOther ids) ?_
  intro draft edit _ single
  exact ⟨fun after doubles => Draft.next_not_singleOther doubles after,Draft.next_singleOther single⟩

theorem strict_reorder_doubles_other :
    ¬ ∀ (wording : Wording) (ids : IdSource) (edits : List Edit),
      ((Draft.fresh ⟨.strict,wording⟩ ids).run ⟨.strict,wording⟩ edits).form.SingleOther := by
  intro always
  have single := always {} (.numbered "id") [.addChoice "id-1" true,.reorderChoices "id-1" ["Option 01","Other","Other"]]
  revert single
  decide

end Questionnaire
