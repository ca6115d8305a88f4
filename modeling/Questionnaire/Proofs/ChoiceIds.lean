import Mathlib.Data.List.Nodup
import Questionnaire.Proofs.QuestionIds
/-!
Identifiers of choices. Within a question they stay distinct along a run, up to the first reordering
that asks twice for a label the question has: choices are matched by label there, not by identifier.
-/

namespace Questionnaire

namespace Choices

def identifiers (choices : List Choice) : List String := choices.map Choice.id

theorem identifiers_rename (id label : String) (choices : List Choice) :
    identifiers (rename id label choices).value = identifiers choices := by
  induction choices with
  | nil => rfl
  | cons c rest ih =>
    unfold rename
    by_cases same : c.id = id
    · rw [if_pos same]
      split <;> rfl
    · rw [if_neg same]
      simp only [identifiers,List.map_cons] at ih ⊢
      rw [ih]

theorem identifiers_remove (id : String) (choices : List Choice) :
    (identifiers (remove id choices)).Sublist (identifiers choices) :=
  List.filter_sublist.map Choice.id

-- Two labels that are both found lead to two choices, and those are told apart by their identifiers.
theorem identifiers_reorder_nodup {order : List String} {choices : List Choice}
    (distinct : (identifiers choices).Nodup) (once : ∀ c ∈ choices, order.count c.label ≤ 1) :
    (identifiers (reorder order choices)).Nodup := by
  induction order with
  | nil => exact List.nodup_nil
  | cons label rest ih =>
    have later := ih fun c member => Nat.le_trans List.count_le_count_cons (once c member)
    rw [reorder_eq_picked,picked_cons,← reorder_eq_picked]
    cases found : choices.find? (·.label = label) with
    | none => exact later
    | some c =>
      have member := List.mem_of_find?_eq_some found
      have named : c.label = label := by simpa using List.find?_some found
      refine List.nodup_cons.mpr ⟨?_,later⟩
      intro again
      obtain ⟨d,moved,same⟩ := List.mem_map.mp again
      obtain ⟨held,asked⟩ := mem_picked moved
      have one : d = c := List.inj_on_of_nodup_map distinct held member same
      have atMost := once c member
      have atLeast : 0 < rest.count c.label := List.count_pos_iff.mpr (one ▸ asked)
      rw [← named,List.count_cons_self] at atMost
      omega

theorem identifiers_reorder_repeated {order : List String} {choices : List Choice} {c : Choice}
    (member : c ∈ choices) (twice : 1 < order.count c.label) : ¬ (identifiers (reorder order choices)).Nodup := by
  intro distinct
  cases found : choices.find? (·.label = c.label) with
  | none => simpa using List.find?_eq_none.mp found c member
  | some d =>
    have asked : (List.replicate 2 c.label).Sublist order := List.replicate_sublist_iff.mpr twice
    have moved : (reorder [c.label,c.label] choices).Sublist (reorder order choices) := asked.filterMap _
    have repeated := distinct.sublist (moved.map Choice.id)
    simp [reorder_eq_picked,picked_cons,found] at repeated

end Choices

open Choices

def Form.DistinctChoices (form : Form) : Prop := ∀ q ∈ form.questions, (identifiers q.choices).Nodup

instance (form : Form) : Decidable form.DistinctChoices := inferInstanceAs (Decidable (∀ q ∈ form.questions, _))

def Form.AsksTwice (form : Form) (edit : Edit) : Prop :=
  ∃ id order q, edit = .reorderChoices id order ∧ form.question? id = some q ∧
    ∃ c ∈ q.choices, 1 < order.count c.label

-- The label asked for twice stands on two choices, so an order that follows the list asks for it so.
def Form.Confuses (form : Form) (edit : Edit) : Prop :=
  ∃ id order q, edit = .reorderChoices id order ∧ form.question? id = some q ∧
    ∃ c d, [c,d].Sublist q.choices ∧ c.label = d.label ∧ 1 < order.count c.label

namespace Edit

theorem identifiers_onChoices_subset (edit : Edit) (choices : List Choice) :
    identifiers (edit.onChoices choices) ⊆ identifiers choices := by
  cases edit with
  | renameChoice id choice label => rw [onChoices,identifiers_rename]; exact List.Subset.refl _
  | removeChoice id choice => exact (identifiers_remove choice choices).subset
  | reorderChoices id order => exact List.map_subset Choice.id fun c moved => (mem_picked moved).1
  | _ => exact List.Subset.refl _

theorem identifiers_onChoices_nodup {edit : Edit} {choices : List Choice} (distinct : (identifiers choices).Nodup)
    (once : ∀ id order, edit = .reorderChoices id order → ∀ c ∈ choices, order.count c.label ≤ 1) :
    (identifiers (edit.onChoices choices)).Nodup := by
  cases edit with
  | renameChoice id choice label => rw [onChoices,identifiers_rename]; exact distinct
  | removeChoice id choice => exact distinct.sublist (identifiers_remove choice choices)
  | reorderChoices id order => exact identifiers_reorder_nodup distinct (once id order rfl)
  | _ => exact distinct

end Edit

namespace Draft

variable {settings : Settings} {draft : Draft} {edit : Edit} {source : IdSource}

structure ChoicesIssued (source : IdSource) (draft : Draft) : Prop where
  sequence : draft.ids.id = source.id
  distinct : draft.form.DistinctChoices
  drawn : ∀ q ∈ draft.form.questions, ∀ c ∈ q.choices, ∃ n, n < draft.ids.spent ∧ c.id = source.id n

theorem next_spent_addChoice {id : String} {other : Bool} {q : Question} (found : draft.form.question? id = some q)
    (allowed : refuses settings q.choices other = false) :
    (draft.next settings (.addChoice id other)).ids.spent = draft.ids.spent + 1 := by
  simp only [next,Form.apply,Form.addChoice_allowed found allowed,Form.withQuestions,IdSource.draw]

theorem fresh_choice_id (wording : Wording) (choices : List Choice) (other : Bool) (id : String) :
    (Choices.fresh wording choices other id).id = id := by
  rw [Choices.fresh]
  split <;> rfl

theorem choices_drawn (sequence : draft.ids.id = source.id)
    (drawn : ∀ q ∈ draft.form.questions, ∀ c ∈ q.choices, ∃ n, n < draft.ids.spent ∧ c.id = source.id n) {q : Question}
    (member : q ∈ (draft.next settings edit).form.questions) :
    ∀ c ∈ q.choices, ∃ n, n < (draft.next settings edit).ids.spent ∧ c.id = source.id n := by
  have grown := (move_source (next_moves settings draft edit)).2
  have earlier : ∀ q ∈ draft.form.questions, ∀ id ∈ identifiers q.choices,
      ∃ n, n < (draft.next settings edit).ids.spent ∧ id = source.id n := by
    intro q old id listed
    obtain ⟨c,held,rfl⟩ := List.mem_map.mp listed
    obtain ⟨n,spent,named⟩ := drawn q old c held
    exact ⟨n,Nat.lt_of_lt_of_le spent grown,named⟩
  intro c held
  cases origin_of_mem member with
  | kept old => exact earlier q old c.id (List.mem_map_of_mem held)
  | created creates =>
    subst creates
    refine ⟨draft.ids.spent + 1,Nat.lt_succ_self _,?_⟩
    rw [List.mem_singleton.mp held,← sequence]
  | copied _ found => exact earlier _ (List.mem_of_find?_eq_some found) c.id (List.mem_map_of_mem held)
  | changed inPlace found =>
    rw [Edit.inPlace_choices inPlace] at held
    have before := Edit.identifiers_onChoices_subset edit _ (List.mem_map_of_mem held)
    exact earlier _ (List.mem_of_find?_eq_some found) c.id before
  | extended adds found allowed =>
    subst adds
    rcases List.mem_append.mp held with before | new
    · exact earlier _ (List.mem_of_find?_eq_some found) c.id (List.mem_map_of_mem before)
    · refine ⟨draft.ids.spent,?_,?_⟩
      · rw [next_spent_addChoice found allowed]
        exact Nat.lt_succ_self _
      · rw [List.mem_singleton.mp new,fresh_choice_id,← sequence]
        rfl

theorem next_distinctChoices (injective : Function.Injective source.id) (issued : ChoicesIssued source draft)
    (once : ¬ draft.form.AsksTwice edit) : (draft.next settings edit).form.DistinctChoices := by
  intro q member
  cases origin_of_mem member with
  | kept old => exact issued.distinct q old
  | created => exact List.nodup_singleton _
  | @copied id q _ found => exact issued.distinct q (List.mem_of_find?_eq_some found)
  | @changed id change q inPlace found =>
    rw [Edit.inPlace_choices inPlace]
    refine Edit.identifiers_onChoices_nodup (issued.distinct q (List.mem_of_find?_eq_some found)) ?_
    rintro id order rfl c held
    cases inPlace
    exact Nat.le_of_not_lt fun twice => once ⟨id,order,q,rfl,found,c,held,twice⟩
  | @extended id other q _ found _ =>
    have old := List.mem_of_find?_eq_some found
    simp only [identifiers,List.map_append]
    refine List.nodup_append.mpr ⟨issued.distinct q old,List.nodup_singleton _,?_⟩
    intro before listed new drawn same
    obtain ⟨c,held,rfl⟩ := List.mem_map.mp listed
    obtain ⟨n,spent,named⟩ := issued.drawn q old c held
    have next : new = source.id draft.ids.spent := by
      rw [List.mem_singleton.mp drawn,fresh_choice_id,← issued.sequence]
      rfl
    have equal : n = draft.ids.spent := injective (named.symm.trans (same.trans next))
    omega

theorem next_choicesIssued (injective : Function.Injective source.id) (issued : ChoicesIssued source draft)
    (once : ¬ draft.form.AsksTwice edit) : ChoicesIssued source (draft.next settings edit) where
  sequence := (move_source (next_moves settings draft edit)).1.trans issued.sequence
  distinct := next_distinctChoices injective issued once
  drawn _ member := choices_drawn issued.sequence issued.drawn member

theorem fresh_choicesIssued (settings : Settings) (source : IdSource) :
    ChoicesIssued source (fresh settings source) where
  sequence := rfl
  distinct := by
    intro q member
    rw [List.mem_singleton.mp member]
    exact List.nodup_singleton _
  drawn := by
    intro q member c held
    rw [List.mem_singleton.mp member] at held
    refine ⟨source.spent + 1,Nat.lt_succ_self _,?_⟩
    rw [List.mem_singleton.mp held]

theorem run_choicesIssued (settings : Settings) (injective : Function.Injective source.id) (edits : List Edit)
    (once : ∀ done edit, done ++ [edit] <+: edits →
      ¬ ((fresh settings source).run settings done).form.AsksTwice edit) :
    ChoicesIssued source ((fresh settings source).run settings edits) :=
  run_preserves_unless (ChoicesIssued source) (·.form.AsksTwice ·) (fresh_choicesIssued settings source)
    (fun _ _ _ issued => next_choicesIssued injective issued) once

theorem next_confused (confuses : draft.form.Confuses edit) :
    ∃ q ∈ (draft.next settings edit).form.questions, edit.question? = some q.id ∧ ¬ (identifiers q.choices).Nodup := by
  obtain ⟨id,order,q,rfl,found,c,d,both,_,twice⟩ := confuses
  have named : q.id = id := Form.question?_id found
  have member : c ∈ q.choices := both.subset List.mem_cons_self
  refine ⟨{ q with choices := reorder order q.choices },Questions.changed_mem found _,congrArg some named.symm,?_⟩
  exact identifiers_reorder_repeated member twice

-- The second half is what matching by label comes to: choices that share one cannot be told apart, so
-- following the order shown loses one choice of the question addressed and shows another twice.
theorem choice_ids_distinct (settings : Settings) (stem : String) (edits : List Edit) :
    let reached := (fresh settings (.numbered stem)).run settings
    ((∀ done edit, done ++ [edit] <+: edits → ¬ (reached done).form.AsksTwice edit) →
      (reached edits).form.DistinctChoices) ∧
    ∀ edit, (reached edits).form.Confuses edit →
      ∃ q ∈ (reached (edits ++ [edit])).form.questions, edit.question? = some q.id ∧
        ¬ (identifiers q.choices).Nodup := by
  intro reached
  refine ⟨?_,?_⟩
  · intro once
    exact (run_choicesIssued settings (IdSource.numbered_injective stem) edits once).distinct
  · intro edit confuses
    have last : reached (edits ++ [edit]) = (reached edits).next settings edit := run_concat settings _ edits edit
    rw [last]
    exact next_confused confuses

theorem swapped_choices_distinct :
    let swap := [.addChoice "id-1" false,.reorderChoices "id-1" ["Option 02","Option 01"]]
    let reached := (fresh {} (.numbered "id")).run {}
    (∀ done edit, done ++ [edit] <+: swap → ¬ (reached done).form.AsksTwice edit) ∧
      (reached swap).form.DistinctChoices := by
  intro swap reached
  have once : ∀ done edit, done ++ [edit] <+: swap → ¬ (reached done).form.AsksTwice edit := by
    rintro done edit ⟨rest,split⟩ ⟨id,order,q,rfl,_,c,_,twice⟩
    match done with
    | [] => simp [swap] at split
    | [first] =>
      simp only [swap,List.cons_append,List.nil_append,List.cons.injEq,Edit.reorderChoices.injEq] at split
      obtain ⟨rfl,⟨rfl,rfl⟩,_⟩ := split
      have single := List.nodup_iff_count_le_one.mp (by decide : ["Option 02","Option 01"].Nodup) c.label
      omega
    | first :: second :: more => simp [swap] at split
  exact ⟨once,(choice_ids_distinct {} "id" swap).1 once⟩

theorem shared_label_repeats_choice_id :
    ¬ ∀ (settings : Settings) (stem : String) (edits : List Edit),
      ((fresh settings (.numbered stem)).run settings edits).form.DistinctChoices := by
  intro always
  have distinct := always {} "id" [.addChoice "id-1" false,.renameChoice "id-1" "id-3" "Option 01",
    .reorderChoices "id-1" ["Option 01","Option 01"]]
  revert distinct
  decide

end Draft
end Questionnaire
