import Questionnaire.Proofs.ChoiceIds
import Questionnaire.Proofs.Refusal
import Questionnaire.Proofs.Reordering
/-!
Choices asked for in the order they are shown. They stay as they are unless two of them share a label. A
new label is numbered by how many choices there are, so an author who renames nothing comes to share one
by taking an earlier choice away and adding another.
-/

namespace Questionnaire

namespace Choices

variable {wording : Wording} {choices : List Choice}

def labels (choices : List Choice) : List String := choices.map Choice.label

theorem labels_add (wording : Wording) (choices : List Choice) (id : String) :
    labels (choices ++ [fresh wording choices false id]) =
      labels choices ++ [optionLabel wording (choices.length + 1)] :=
  List.map_append

-- A leading zero adds nothing to the number, so the digits of a place tell the place.
theorem place_digits (place : Nat) :
    Nat.ofDigitChars 10 ((if place < 10 then "0" else "").toList ++ (toString place).toList) 0 = place := by
  have digits : (toString place).toList = Nat.toDigits 10 place := Nat.toList_repr
  rw [Nat.ofDigitChars_append,digits]
  split <;> exact Nat.ofDigitChars_ten_toDigits

theorem optionLabel_injective (wording : Wording) : Function.Injective (optionLabel wording) := by
  intro m n same
  have texts := congrArg String.toList same
  simp only [optionLabel,String.toList_append,List.append_assoc] at texts
  have digits := List.append_cancel_left (List.append_cancel_left texts)
  rw [← place_digits m,digits,place_digits]

theorem reorder_labels_iff (distinct : (identifiers choices).Nodup) :
    reorder (labels choices) choices = choices ↔ (labels choices).Nodup :=
  picked_own_iff (List.Nodup.of_map Choice.id distinct)

-- The labels of choices of which none was renamed, moved or taken from before another.
def Numbered (wording : Wording) (choices : List Choice) : Prop :=
  labels choices = (List.range choices.length).map fun place => optionLabel wording (place + 1)

theorem numbered_labels_nodup (numbered : Numbered wording choices) : (labels choices).Nodup := by
  rw [numbered]
  refine List.nodup_range.map fun m n same => ?_
  have places := optionLabel_injective wording same
  omega

theorem numbered_add (numbered : Numbered wording choices) (id : String) :
    Numbered wording (choices ++ [fresh wording choices false id]) := by
  rw [Numbered] at numbered ⊢
  rw [labels_add,numbered,List.length_append,List.length_singleton,List.range_succ,List.map_append]
  rfl

theorem numbered_dropLast (numbered : Numbered wording choices) : Numbered wording choices.dropLast := by
  rw [Numbered,labels] at numbered ⊢
  rw [List.map_dropLast,numbered,List.length_dropLast]
  cases choices.length with
  | zero => rfl
  | succ n => rw [List.range_succ,List.map_append,List.map_singleton,List.dropLast_concat,Nat.add_sub_cancel]

theorem remove_last {id : String} (kept : ∀ c ∈ choices.dropLast, c.id ≠ id) :
    remove id choices = choices ∨ remove id choices = choices.dropLast := by
  rcases List.eq_nil_or_concat choices with rfl | ⟨before,last,rfl⟩
  · exact .inl rfl
  · rw [List.concat_eq_append,List.dropLast_concat] at kept ⊢
    have earlier : remove id before = before := remove_unknown kept
    rw [remove] at earlier ⊢
    rw [List.filter_append,earlier]
    by_cases named : last.id = id
    · exact .inr (by simp [named])
    · exact .inl (by simp [named])

end Choices

open Choices

-- The edits of an author who renames nothing, copies no question and keeps to plain options.
def Edit.builds : Edit → Bool
  | .createQuestion | .addChoice _ false | .removeChoice _ _ => true
  | _ => false

namespace Form

variable {form : Form} {settings : Settings} {q : Question}

def KeepsShown (settings : Settings) (form : Form) (q : Question) : Prop :=
  ∀ ids, (form.apply (.reorderChoices q.id (labels q.choices)) settings ids).effect = (.ok form,ids)

def DistinctLabels (form : Form) : Prop := ∀ q ∈ form.questions, (labels q.choices).Nodup

-- The label an addition is about to give stands on a choice of the question already.
def Repeats (wording : Wording) (form : Form) (edit : Edit) : Prop :=
  ∃ id q, edit = .addChoice id false ∧ form.question? id = some q ∧
    optionLabel wording (q.choices.length + 1) ∈ labels q.choices

def TakesEarlier (form : Form) (edit : Edit) : Prop :=
  ∃ id choice q, edit = .removeChoice id choice ∧ form.question? id = some q ∧ ∃ c ∈ q.choices.dropLast, c.id = choice

theorem keepsShown_iff (distinct : (form.questions.map Question.id).Nodup) (member : q ∈ form.questions)
    (apart : (identifiers q.choices).Nodup) : form.KeepsShown settings q ↔ (labels q.choices).Nodup := by
  have found : form.question? q.id = some q := find?_own distinct member
  rw [← reorder_labels_iff apart]
  constructor
  · intro kept
    have same : (Questions.update q.id (fun r => { r with choices := reorder (labels q.choices) r.choices })
        form.questions).value = form.questions :=
      congrArg Form.questions (Except.ok.inj (Prod.mk.inj (kept (.numbered ""))).1)
    exact congrArg Question.choices ((Questions.change_eq_iff found _).mp same)
  · intro kept ids
    have same : (Questions.update q.id (fun r => { r with choices := reorder (labels q.choices) r.choices })
        form.questions).value = form.questions := Questions.change_same found (by simp only [kept])
    exact congrArg (fun questions => (Except.ok { form with questions },ids)) same

end Form

namespace Draft

variable {settings : Settings} {draft : Draft} {edit : Edit} {source : IdSource}

-- All that such an edit can make of the choices of a question.
theorem next_of_builds (Holds : List Choice → Prop) (builds : edit.builds = true)
    (before : ∀ q ∈ draft.form.questions, Holds q.choices)
    (created : ∀ id, Holds [⟨id,optionLabel settings.wording 1,.option⟩])
    (removed : ∀ id choice q, edit = .removeChoice id choice → draft.form.question? id = some q → Holds q.choices →
      Holds (remove choice q.choices))
    (added : ∀ id drawn q, edit = .addChoice id false → draft.form.question? id = some q → Holds q.choices →
      Holds (q.choices ++ [Choices.fresh settings.wording q.choices false drawn])) :
    ∀ q ∈ (draft.next settings edit).form.questions, Holds q.choices := by
  intro q member
  cases origin_of_mem member with
  | kept old => exact before q old
  | created => exact created _
  | copied copies => subst copies; cases builds
  | @changed id change q inPlace found =>
    rw [Edit.inPlace_choices inPlace]
    cases edit with
    | removeChoice named choice =>
      cases inPlace
      exact removed id choice q rfl found (before q (List.mem_of_find?_eq_some found))
    | addChoice | createQuestion => cases inPlace
    | _ => cases builds
  | @extended id other q adds found =>
    subst adds
    cases other with
    | true => cases builds
    | false => exact added id _ q rfl found (before q (List.mem_of_find?_eq_some found))

theorem next_distinctLabels_iff (builds : edit.builds = true) (distinct : draft.form.DistinctLabels) :
    (draft.next settings edit).form.DistinctLabels ↔ ¬ draft.form.Repeats settings.wording edit := by
  constructor
  · rintro after ⟨id,q,rfl,found,repeated⟩
    have allowed : refuses settings q.choices false = false := rfl
    have added : { q with choices := q.choices ++ [Choices.fresh settings.wording q.choices false draft.ids.draw.1] } ∈
        (draft.next settings (.addChoice id false)).form.questions := by
      simp only [next,Form.apply,Form.addChoice_allowed found allowed,Form.withQuestions]
      exact Questions.changed_mem found _
    have labelled := after _ added
    rw [labels_add] at labelled
    exact (List.nodup_append.mp labelled).2.2 _ repeated _ (List.mem_singleton.mpr rfl) rfl
  · intro unrepeated
    refine next_of_builds (fun choices => (labels choices).Nodup) builds distinct (fun _ => List.nodup_singleton _) ?_ ?_
    · intro _ choice q _ _ before
      exact before.sublist (List.filter_sublist.map Choice.label)
    · rintro id drawn q rfl found before
      rw [labels_add]
      refine List.nodup_append.mpr ⟨before,List.nodup_singleton _,?_⟩
      rintro label held new given rfl
      rw [List.mem_singleton.mp given] at held
      exact unrepeated ⟨id,q,rfl,found,held⟩

theorem next_numbered (builds : edit.builds = true)
    (numbered : ∀ q ∈ draft.form.questions, Numbered settings.wording q.choices)
    (inward : ¬ draft.form.TakesEarlier edit) :
    ∀ q ∈ (draft.next settings edit).form.questions, Numbered settings.wording q.choices := by
  refine next_of_builds (Numbered settings.wording) builds numbered (fun _ => rfl) ?_
    fun _ drawn _ _ _ before => numbered_add before drawn
  rintro id choice q rfl found before
  have last : ∀ c ∈ q.choices.dropLast, c.id ≠ choice :=
    fun c earlier same => inward ⟨id,choice,q,rfl,found,c,earlier,same⟩
  rcases remove_last last with same | shorter
  · rw [same]
    exact before
  · rw [shorter]
    exact numbered_dropLast before

theorem fresh_distinctLabels (settings : Settings) (source : IdSource) :
    (fresh settings source).form.DistinctLabels := by
  intro q member
  rw [List.mem_singleton.mp member]
  exact List.nodup_singleton _

theorem fresh_numbered (settings : Settings) (source : IdSource) :
    ∀ q ∈ (fresh settings source).form.questions, Numbered settings.wording q.choices := by
  intro q member
  rw [List.mem_singleton.mp member]
  rfl

-- Without a reordering on the way every choice still has an identifier of its own, so two that share a
-- label are two choices.
theorem built_keepsShown_iff (unrepeated : Function.Injective source.id) {edits : List Edit}
    (builds : ∀ edit ∈ edits, edit.builds = true) {q : Question}
    (member : q ∈ ((fresh settings source).run settings edits).form.questions) :
    ((fresh settings source).run settings edits).form.KeepsShown settings q ↔ (labels q.choices).Nodup := by
  have issued : Issued source ((fresh settings source).run settings edits) :=
    run_preserves (fun _ _ => next_issued unrepeated) (fresh_issued settings source) edits
  have choices : ChoicesIssued source ((fresh settings source).run settings edits) := by
    refine run_choicesIssued settings unrepeated edits ?_
    rintro done edit soFar ⟨id,order,_,rfl,_⟩
    cases builds _ (soFar.subset List.mem_concat_self)
  exact Form.keepsShown_iff issued.distinct member (choices.distinct q member)

end Draft

theorem shown_order_kept (settings : Settings) {source : IdSource} (unrepeated : Function.Injective source.id)
    {edits : List Edit} (builds : ∀ edit ∈ edits, edit.builds = true) :
    let reached := (Draft.fresh settings source).run settings
    (∀ q ∈ (reached edits).form.questions,
      (reached edits).form.KeepsShown settings q ↔ (labels q.choices).Nodup) ∧
    ((∀ done, done <+: edits → ∀ q ∈ (reached done).form.questions, (reached done).form.KeepsShown settings q) ↔
      ∀ done edit, done ++ [edit] <+: edits → ¬ (reached done).form.Repeats settings.wording edit) ∧
    ((∀ done edit, done ++ [edit] <+: edits → ¬ (reached done).form.TakesEarlier edit) →
      ∀ q ∈ (reached edits).form.questions, (reached edits).form.KeepsShown settings q) := by
  intro reached
  refine ⟨fun q member => Draft.built_keepsShown_iff unrepeated builds member,?_,?_⟩
  · have each : ∀ done, done <+: edits →
        ((∀ q ∈ (reached done).form.questions, (reached done).form.KeepsShown settings q) ↔
          (reached done).form.DistinctLabels) := by
      intro done soFar
      have built : ∀ edit ∈ done, edit.builds = true := fun edit named => builds edit (soFar.subset named)
      exact forall₂_congr fun q member => Draft.built_keepsShown_iff unrepeated built member
    have along := Draft.run_holds_iff (·.form.DistinctLabels) (·.form.Repeats settings.wording ·)
      (Draft.fresh_distinctLabels settings source) fun draft edit named => Draft.next_distinctLabels_iff (builds edit named)
    exact (forall₂_congr each).trans along
  · intro inward q member
    have numbered := Draft.run_preserves_unless
      (fun draft => ∀ q ∈ draft.form.questions, Numbered settings.wording q.choices) (·.form.TakesEarlier ·)
      (Draft.fresh_numbered settings source) (fun draft edit named => Draft.next_numbered (builds edit named)) inward
    exact (Draft.built_keepsShown_iff unrepeated builds member).mpr (numbered_labels_nodup (numbered q member))

-- The second choice goes and comes again under the label it had.
theorem last_choice_returns :
    let edits : List Edit := [.addChoice "id-1" false,.removeChoice "id-1" "id-3",.createQuestion,.addChoice "id-1" false]
    let reached := (Draft.fresh {} (.numbered "id")).run {}
    Function.Injective (IdSource.numbered "id").id ∧ (∀ edit ∈ edits, edit.builds = true) ∧
      (∀ done edit, done ++ [edit] <+: edits → ¬ (reached done).form.TakesEarlier edit) ∧
      ∀ q ∈ (reached edits).form.questions, (reached edits).form.KeepsShown {} q := by
  intro edits reached
  have unrepeated : Function.Injective (IdSource.numbered "id").id := IdSource.numbered_injective "id"
  have builds : ∀ edit ∈ edits, edit.builds = true := by decide
  have inward : ∀ done edit, done ++ [edit] <+: edits → ¬ (reached done).form.TakesEarlier edit := by
    simp only [edits,Draft.turns_cons]
    refine ⟨?_,?_,?_,?_,Draft.turns_nil⟩
    · rintro ⟨_,_,_,takes,_⟩; cases takes
    · rintro ⟨id,choice,q,takes,found,c,earlier,named⟩
      cases takes
      cases found
      rw [List.mem_singleton.mp earlier] at named
      revert named
      decide
    · rintro ⟨_,_,_,takes,_⟩; cases takes
    · rintro ⟨_,_,_,takes,_⟩; cases takes
  exact ⟨unrepeated,builds,inward,(shown_order_kept {} unrepeated builds).2.2 inward⟩

-- The first of two choices goes, so the next one is the second again and so is its label.
theorem shown_order_repeats_choice :
    ¬ ∀ (stem : String) (edits : List Edit), (∀ edit ∈ edits, edit.builds = true) →
      let form := ((Draft.fresh {} (.numbered stem)).run {} edits).form
      ∀ q ∈ form.questions, form.KeepsShown {} q := by
  intro always
  have kept := always "id" [.addChoice "id-1" false,.removeChoice "id-1" "id-2",.addChoice "id-1" false] (by decide)
    _ List.mem_cons_self (.numbered "id")
  have same := congrArg Form.questions (Except.ok.inj (Prod.mk.inj kept).1)
  revert same
  decide

end Questionnaire
