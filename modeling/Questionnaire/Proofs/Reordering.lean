import Mathlib.Data.List.Nodup
import Questionnaire.Questions
/-!
Reordering by a key. For each key of an order the first element that has it is picked, whatever else has
it. Picking twice is picking once, by what both orders ask for.
-/

namespace Questionnaire

-- Questions are picked by identifier and choices by label, so the key is left open here.
def picked {α : Type} (key : α → String) (order : List String) (elements : List α) : List α :=
  order.filterMap fun asked => elements.find? (key · = asked)

section

variable {α : Type} {key : α → String} {elements : List α}

theorem picked_cons (asked : String) (order : List String) :
    picked key (asked :: order) elements =
      (elements.find? (key · = asked)).toList ++ picked key order elements := by
  rw [picked,List.filterMap_cons]
  cases elements.find? (key · = asked) <;> rfl

-- What is picked under one key is one and the same element, however often the order names the key.
theorem find?_picked (order : List String) (asked : String) :
    (picked key order elements).find? (key · = asked) =
      if asked ∈ order then elements.find? (key · = asked) else none := by
  induction order with
  | nil => rfl
  | cons first rest ih =>
    rw [picked_cons,List.find?_append,ih]
    by_cases same : asked = first
    · subst same
      cases found : elements.find? (key · = asked) with
      | none => simp
      | some x =>
        have named : key x = asked := by simpa using List.find?_some found
        simp [named]
    · have other : ((elements.find? (key · = first)).toList).find? (key · = asked) = none := by
        cases found : elements.find? (key · = first) with
        | none => rfl
        | some x =>
          have named : key x = first := by simpa using List.find?_some found
          simp [named,Ne.symm same]
      simp [other,same]

theorem mem_picked {order : List String} {x : α} (moved : x ∈ picked key order elements) :
    x ∈ elements ∧ key x ∈ order := by
  obtain ⟨asked,named,found⟩ := List.mem_filterMap.mp moved
  have same : key x = asked := by simpa using List.find?_some found
  exact ⟨List.mem_of_find?_eq_some found,same ▸ named⟩

theorem map_picked (order : List String) :
    (picked key order elements).map key = order.filter (· ∈ elements.map key) := by
  induction order with
  | nil => rfl
  | cons asked rest ih =>
    rw [picked_cons,List.map_append,ih]
    cases found : elements.find? (key · = asked) with
    | none =>
      have unknown : asked ∉ elements.map key := by
        intro held
        obtain ⟨x,member,rfl⟩ := List.mem_map.mp held
        simpa using List.find?_eq_none.mp found x member
      rw [List.filter_cons_of_neg (by simpa using unknown)]
      rfl
    | some x =>
      have named : key x = asked := by simpa using List.find?_some found
      have known : asked ∈ elements.map key := named ▸ List.mem_map_of_mem (List.mem_of_find?_eq_some found)
      rw [List.filter_cons_of_pos (by simpa using known)]
      simp [named]

theorem picked_picked (first second : List String) :
    picked key second (picked key first elements) = picked key (second.filter (· ∈ first)) elements := by
  have known : picked key (second.filter (· ∈ first)) elements = second.filterMap fun asked =>
      if asked ∈ first then elements.find? (key · = asked) else none := by
    rw [picked,List.filterMap_filter]
    simp only [decide_eq_true_eq]
  rw [known,picked]
  exact List.filterMap_congr fun asked _ => find?_picked first asked

theorem picked_again (order : List String) :
    picked key order (picked key order elements) = picked key order elements := by
  have all : order.filter (· ∈ order) = order := List.filter_eq_self.mpr fun asked named => decide_eq_true named
  rw [picked_picked,all]

theorem find?_own (distinct : (elements.map key).Nodup) {x : α} (member : x ∈ elements) :
    elements.find? (key · = key x) = some x := by
  cases found : elements.find? (key · = key x) with
  | none => simpa using List.find?_eq_none.mp found x member
  | some y =>
    have same : y = x := List.inj_on_of_nodup_map distinct (List.mem_of_find?_eq_some found) member
      (by simpa using List.find?_some found)
    rw [same]

-- Some of the elements searched for a key: the one that has it is found if it is among them.
theorem find?_among (distinct : (elements.map key).Nodup) (p : α → Bool) (asked : String) :
    (elements.filter p).find? (key · = asked) = (elements.find? (key · = asked)).filter p := by
  cases found : elements.find? (key · = asked) with
  | none =>
    refine List.find?_eq_none.mpr fun x member => ?_
    exact List.find?_eq_none.mp found x (List.mem_filter.mp member).1
  | some x =>
    have member := List.mem_of_find?_eq_some found
    have named : key x = asked := by simpa using List.find?_some found
    subst named
    cases passes : p x with
    | true =>
      have kept : ((elements.filter p).map key).Nodup := distinct.sublist (List.filter_sublist.map key)
      rw [find?_own kept (List.mem_filter.mpr ⟨member,passes⟩),Option.filter_some_pos passes]
    | false =>
      rw [Option.filter_some_neg passes]
      refine List.find?_eq_none.mpr fun y held same => ?_
      obtain ⟨memberToo,passesToo⟩ := List.mem_filter.mp held
      have one : y = x := List.inj_on_of_nodup_map distinct memberToo member (of_decide_eq_true same)
      rw [one,passes] at passesToo
      cases passesToo

theorem picked_filter (distinct : (elements.map key).Nodup) (p : α → Bool) (order : List String) :
    picked key order (elements.filter p) = (picked key order elements).filter p := by
  rw [picked,picked,List.filter_filterMap]
  exact List.filterMap_congr fun asked _ => find?_among distinct p asked

-- Asked for in the order they stand, the elements come back as they are, unless two of them share a key:
-- then the first of the two comes back in the place of both.
theorem picked_own_iff (apart : elements.Nodup) :
    picked key (elements.map key) elements = elements ↔ (elements.map key).Nodup := by
  constructor
  · intro kept
    refine List.nodup_iff_sublist.mpr fun asked twice => ?_
    have both : (picked key [asked,asked] elements).Sublist elements := by
      have moved : (picked key [asked,asked] elements).Sublist (picked key (elements.map key) elements) :=
        twice.filterMap _
      rwa [kept] at moved
    obtain ⟨x,member,rfl⟩ := List.mem_map.mp (twice.subset List.mem_cons_self)
    cases found : elements.find? (key · = key x) with
    | none => simpa using List.find?_eq_none.mp found x member
    | some first =>
      have repeated : [first,first].Sublist elements := by simpa [picked_cons,found,picked] using both
      exact List.nodup_iff_sublist.mp apart first repeated
  · intro distinct
    rw [picked,List.filterMap_map]
    have own : ∀ x ∈ elements, ((fun asked => elements.find? (key · = asked)) ∘ key) x = some x :=
      fun x member => find?_own distinct member
    rw [List.filterMap_congr own,List.filterMap_some]

theorem picked_perm {order : List String} (distinct : (elements.map key).Nodup) (same : order.Perm (elements.map key)) :
    (picked key order elements).Perm elements := by
  have shown : picked key (elements.map key) elements = elements := (picked_own_iff distinct.of_map).mpr distinct
  have moved : (picked key order elements).Perm (picked key (elements.map key) elements) := same.filterMap _
  rwa [shown] at moved

theorem map_picked_perm {order : List String} (same : order.Perm (elements.map key)) :
    (picked key order elements).map key = order := by
  rw [map_picked]
  exact List.filter_eq_self.mpr fun asked named => decide_eq_true (same.mem_iff.mp named)

-- However the elements were moved, asking for them in their first order undoes it.
theorem picked_back {order : List String} (distinct : (elements.map key).Nodup) (same : order.Perm (elements.map key)) :
    picked key (elements.map key) (picked key order elements) = elements := by
  have all : (elements.map key).filter (· ∈ order) = elements.map key :=
    List.filter_eq_self.mpr fun asked named => decide_eq_true (same.mem_iff.mpr named)
  rw [picked_picked,all]
  exact (picked_own_iff distinct.of_map).mpr distinct

end

namespace Choices

theorem reorder_eq_picked (order : List String) (choices : List Choice) :
    reorder order choices = picked Choice.label order choices := rfl

-- Labels may repeat in the choices and in the orders, and an order may ask for labels no choice has.
theorem reorders_compose (choices : List Choice) :
    (∀ first second, reorder second (reorder first choices) = reorder (second.filter (· ∈ first)) choices) ∧
    (∀ order, reorder order (reorder order choices) = reorder order choices) ∧
    ((choices.map Choice.label).Nodup → ∀ order, order.Perm (choices.map Choice.label) →
      (reorder order choices).Perm choices ∧ (reorder order choices).map Choice.label = order ∧
        reorder (choices.map Choice.label) (reorder order choices) = choices) := by
  refine ⟨picked_picked,picked_again,?_⟩
  intro distinct order same
  exact ⟨picked_perm distinct same,map_picked_perm same,picked_back distinct same⟩

theorem moved_choices_return :
    let choices : List Choice := [⟨"c-1","Red",.option⟩,⟨"c-2","Green",.option⟩,⟨"c-3","Other",.other⟩]
    let order := ["Other","Red","Green"]
    (choices.map Choice.label).Nodup ∧ order.Perm (choices.map Choice.label) ∧
      ((reorder order choices).Perm choices ∧ (reorder order choices).map Choice.label = order ∧
        reorder (choices.map Choice.label) (reorder order choices) = choices) ∧
      reorder order choices ≠ choices := by
  intro choices order
  have distinct : (choices.map Choice.label).Nodup := by decide
  have same : order.Perm (choices.map Choice.label) := by decide
  exact ⟨distinct,same,(reorders_compose choices).2.2 distinct order same,by decide⟩

end Choices

namespace Questions

theorem reorder_eq_picked {order : List String} {questions : List Question}
    (ordered : isOrderOf order questions = true) :
    (reorder order questions).value = picked Question.id order questions := by
  rw [reorder,if_pos ordered]
  rfl

theorem reorder_disordered {order : List String} {questions : List Question}
    (disordered : isOrderOf order questions = false) : (reorder order questions).value = questions := by
  rw [reorder,disordered]
  rfl

end Questions
end Questionnaire
