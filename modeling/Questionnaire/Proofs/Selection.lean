import Questionnaire.Proofs.Reordering
import Questionnaire.Selection
/-!
Which choice a response stands for, said without a search. As long as no two choices share a label, it stands for
the same one in whatever order they are shown.
-/

namespace Questionnaire

theorem Choice.isOther_eq_false_iff {c : Choice} : c.isOther = false ↔ c.kind = .option := by
  rcases c with ⟨_,_,_ | _⟩ <;> simp [Choice.isOther]

namespace Selection

-- The empty response is none at all, even where an option has no label.
inductive StandsFor (choices : List Choice) : Option String → Selection → Prop where
  | absent : StandsFor choices none .empty
  | empty : StandsFor choices (some "") .empty
  | listed {before after : List Choice} {c : Choice} (given : c.label ≠ "") (split : choices = before ++ c :: after)
      (option : c.kind = .option) (first : ∀ other ∈ before, other.kind = .option → other.label ≠ c.label) :
      StandsFor choices (some c.label) (.listed c)
  | custom {text : String} (given : text ≠ "") (unlisted : ∀ c ∈ choices, c.kind = .option → c.label ≠ text) :
      StandsFor choices (some text) (.custom text)

variable {choices : List Choice} {order : List String} {response : Option String} {selection : Selection}

theorem resolve_standsFor (choices : List Choice) (response : Option String) :
    StandsFor choices response (resolve choices response) := by
  cases response with
  | none => exact .absent
  | some text =>
    by_cases given : text = ""
    · subst given
      exact .empty
    · rw [resolve,if_neg given]
      cases found : choices.find? fun c => !c.isOther && c.label = text with
      | none =>
        refine .custom given fun c member option same => ?_
        simpa [Choice.isOther_eq_false_iff.mpr option,same] using List.find?_eq_none.mp found c member
      | some c =>
        obtain ⟨chosen,before,after,split,passed⟩ := List.find?_eq_some_iff_append.mp found
        simp only [Bool.and_eq_true,Bool.not_eq_true',decide_eq_true_eq,Choice.isOther_eq_false_iff] at chosen
        obtain ⟨option,rfl⟩ := chosen
        refine .listed given split option fun other member free same => ?_
        simpa [Choice.isOther_eq_false_iff.mpr free,same] using passed other member

theorem StandsFor.resolves (stands : StandsFor choices response selection) : resolve choices response = selection := by
  cases stands with
  | absent => rfl
  | empty => rfl
  | @listed before after c given split option first =>
    have found : choices.find? (fun other => !other.isOther && other.label = c.label) = some c := by
      refine List.find?_eq_some_iff_append.mpr ⟨by simp [Choice.isOther_eq_false_iff.mpr option],before,after,split,?_⟩
      intro other member
      cases kind : other.kind with
      | option => simp [first other member kind]
      | other => simp [Choice.isOther,kind]
    rw [resolve,if_neg given,found]
  | @custom text given unlisted =>
    have found : choices.find? (fun c => !c.isOther && c.label = text) = none := by
      refine List.find?_eq_none.mpr fun c member chosen => ?_
      simp only [Bool.and_eq_true,Bool.not_eq_true',decide_eq_true_eq,Choice.isOther_eq_false_iff] at chosen
      exact unlisted c member chosen.1 chosen.2
    rw [resolve,if_neg given,found]

theorem standsFor_iff : StandsFor choices response selection ↔ resolve choices response = selection :=
  ⟨StandsFor.resolves,fun same => same ▸ resolve_standsFor choices response⟩

-- Where labels are distinct, the first option with a label is the one choice with it, if that is an option.
theorem find?_option (distinct : (choices.map Choice.label).Nodup) (text : String) :
    (choices.find? fun c => !c.isOther && c.label = text) = (choices.find? (·.label = text)).filter (!·.isOther) := by
  rw [← find?_among distinct,List.find?_filter]
  congr 1
  funext c
  simp

theorem resolve_reorder (distinct : (choices.map Choice.label).Nodup) (same : order.Perm (choices.map Choice.label))
    (response : Option String) : resolve (Choices.reorder order choices) response = resolve choices response := by
  have apart : ((Choices.reorder order choices).map Choice.label).Nodup :=
    ((picked_perm distinct same).map Choice.label).nodup_iff.mpr distinct
  have found (text : String) :
      (Choices.reorder order choices).find? (·.label = text) = choices.find? (·.label = text) := by
    rw [Choices.reorder_eq_picked,find?_picked]
    by_cases named : text ∈ order
    · rw [if_pos named]
    · rw [if_neg named]
      refine (List.find?_eq_none.mpr fun c member asked => named ?_).symm
      rw [same.mem_iff,← of_decide_eq_true asked]
      exact List.mem_map_of_mem member
  cases response with
  | none => rfl
  | some text => rw [resolve,resolve,find?_option apart,find?_option distinct,found]

-- What is hidden depends on the response alone, so hiding and moving can be done in either order.
theorem rows_reorder (distinct : (choices.map Choice.label).Nodup) (same : order.Perm (choices.map Choice.label))
    (response : Option String) :
    rows (Choices.reorder order choices) response = Choices.reorder order (rows choices response) := by
  rw [rows,rows,resolve_reorder distinct same,Choices.reorder_eq_picked,Choices.reorder_eq_picked,picked_filter distinct]

theorem moved_choices_answer_alike (distinct : (choices.map Choice.label).Nodup)
    (same : order.Perm (choices.map Choice.label)) (response : Option String) :
    let moved := Choices.reorder order choices
    resolve moved response = resolve choices response ∧ (rows moved response).Perm (rows choices response) ∧
      (rows moved response).map Choice.label = order.filter (· ∈ (rows choices response).map Choice.label) := by
  intro moved
  refine ⟨resolve_reorder distinct same response,?_,?_⟩
  · rw [rows,rows,resolve_reorder distinct same]
    exact (picked_perm distinct same).filter _
  · rw [rows_reorder distinct same]
    exact map_picked order

-- The label of the choice for free text is free text itself, wherever that choice has been moved to.
theorem moved_other_stays_custom :
    let choices : List Choice := [⟨"c-1","Other",.other⟩,⟨"c-2","Red",.option⟩,⟨"c-3","Green",.option⟩]
    let order := ["Green","Other","Red"]
    let moved := Choices.reorder order choices
    (choices.map Choice.label).Nodup ∧ order.Perm (choices.map Choice.label) ∧
      resolve moved (some "Other") = .custom "Other" ∧
      (rows moved (some "Other")).map Choice.label = ["Green","Red"] := by
  intro choices order moved
  have distinct : (choices.map Choice.label).Nodup := by decide
  have same : order.Perm (choices.map Choice.label) := by decide
  obtain ⟨resolved,_,labels⟩ := moved_choices_answer_alike distinct same (some "Other")
  exact ⟨distinct,same,resolved.trans (by decide),labels.trans (by decide)⟩

end Selection
end Questionnaire
