import Questionnaire.Proofs.Edits
import Questionnaire.Proofs.Reordering
/-!
Reordering questions. An order that names each question once puts them into that order, and of several such
orders the last one counts. Any other order is ignored as a whole, so no question is ever lost.
-/

namespace Questionnaire.Questions

-- The order names each question once and nothing else.
structure Ordered (order : List String) (questions : List Question) : Prop where
  distinct : (questions.map Question.id).Nodup
  same : order.Perm (questions.map Question.id)

-- What can be wrong with an order. In the last case it is the questions that are at fault: two of them
-- share an identifier, and no order tells them apart.
inductive Misordered (order : List String) (questions : List Question) : Prop where
  | uneven (other : order.length ≠ questions.length)
  | repeated (twice : ¬ order.Nodup)
  | unknown {id : String} (named : id ∈ order) (absent : ∀ q ∈ questions, q.id ≠ id)
  | missing {q : Question} (member : q ∈ questions) (unnamed : q.id ∉ order)
  | shared (twins : ¬ (questions.map Question.id).Nodup)

variable {order first second : List String} {questions : List Question}

theorem ordered_iff : isOrderOf order questions = true ↔ Ordered order questions := by
  rw [isOrderOf_iff]
  constructor
  · rintro ⟨distinct,same⟩
    exact ⟨same.nodup_iff.mp distinct,same⟩
  · rintro ⟨distinct,same⟩
    exact ⟨same.nodup_iff.mpr distinct,same⟩

theorem Ordered.not_misordered (ordered : Ordered order questions) : ¬ Misordered order questions := by
  have listed : ∀ {id}, id ∈ order ↔ ∃ q ∈ questions, q.id = id := ordered.same.mem_iff.trans List.mem_map
  intro misordered
  cases misordered with
  | uneven other => exact other (by rw [ordered.same.length_eq,List.length_map])
  | repeated twice => exact twice (ordered.same.nodup_iff.mpr ordered.distinct)
  | unknown named absent =>
    obtain ⟨q,member,same⟩ := listed.mp named
    exact absent q member same
  | missing member unnamed => exact unnamed (listed.mpr ⟨_,member,rfl⟩)
  | shared twins => exact twins ordered.distinct

theorem ordered_of_not_misordered (fits : ¬ Misordered order questions) : Ordered order questions := by
  have length : order.length = questions.length := by_contra fun other => fits (.uneven other)
  have distinct : order.Nodup := by_contra fun twice => fits (.repeated twice)
  have known : ∀ id ∈ order, id ∈ questions.map Question.id := by
    intro id named
    by_contra unknown
    exact fits (.unknown named fun q member same => unknown (List.mem_map.mpr ⟨q,member,same⟩))
  have asked : ∀ id ∈ questions.map Question.id, id ∈ order := by
    intro id held
    obtain ⟨q,member,rfl⟩ := List.mem_map.mp held
    by_contra unnamed
    exact fits (.missing member unnamed)
  refine ordered_iff.mp ?_
  simp only [isOrderOf,Bool.and_eq_true,decide_eq_true_eq,List.all_eq_true,List.contains_iff_mem]
  exact ⟨⟨⟨length,distinct⟩,known⟩,asked⟩

theorem misordered_iff : Misordered order questions ↔ ¬ Ordered order questions :=
  ⟨fun misordered ordered => ordered.not_misordered misordered,
    fun unordered => by_contra fun fits => unordered (ordered_of_not_misordered fits)⟩

theorem reorder_ordered (ordered : Ordered order questions) :
    (reorder order questions).value = picked Question.id order questions :=
  reorder_eq_picked (ordered_iff.mpr ordered)

theorem reorder_unordered (unordered : ¬ Ordered order questions) : (reorder order questions).value = questions :=
  reorder_disordered (Bool.eq_false_iff.mpr fun checked => unordered (ordered_iff.mp checked))

theorem reorder_perm (order : List String) (questions : List Question) :
    (reorder order questions).value.Perm questions := by
  by_cases ordered : Ordered order questions
  · rw [reorder_ordered ordered]
    exact picked_perm ordered.distinct ordered.same
  · rw [reorder_unordered ordered]

theorem Ordered.of_perm {moved : List Question} (ordered : Ordered order questions) (same : moved.Perm questions) :
    Ordered order moved where
  distinct := (same.map Question.id).nodup_iff.mpr ordered.distinct
  same := ordered.same.trans (same.map Question.id).symm

-- The first order may be anything: where it is ignored there is nothing to win over.
theorem reorder_last (first : List String) (ordered : Ordered second questions) :
    (reorder second (reorder first questions).value).value = (reorder second questions).value := by
  by_cases earlier : Ordered first questions
  · have all : second.filter (· ∈ first) = second :=
      List.filter_eq_self.mpr fun id named => decide_eq_true
        (earlier.same.mem_iff.mpr (ordered.same.mem_iff.mp named))
    rw [reorder_ordered (ordered.of_perm (reorder_perm first questions)),reorder_ordered earlier,picked_picked,all,
      reorder_ordered ordered]
  · rw [reorder_unordered earlier]

theorem reorder_exact (questions : List Question) :
    (∀ order, (reorder order questions).value.Perm questions) ∧
    (∀ order, Ordered order questions → (reorder order questions).value.map Question.id = order) ∧
    (∀ order, Misordered order questions → (reorder order questions).value = questions) ∧
    (∀ order, Misordered order questions ↔ ¬ Ordered order questions) ∧
    ∀ first second, Ordered second questions →
      (reorder second (reorder first questions).value).value = (reorder second questions).value := by
  refine ⟨fun order => reorder_perm order questions,?_,?_,fun order => misordered_iff,?_⟩
  · intro order ordered
    rw [reorder_ordered ordered]
    exact map_picked_perm ordered.same
  · intro order misordered
    exact reorder_unordered (misordered_iff.mp misordered)
  · intro first second ordered
    exact reorder_last first ordered

-- The order that is ignored has the right length and names no question that is not there.
theorem last_order_counts :
    let questions : List Question := [{ id := "name" },{ id := "age" },{ id := "pets" }]
    let first := ["pets","name","age"]
    let second := ["age","pets","name"]
    let twice := ["age","age","name"]
    Ordered first questions ∧ Ordered second questions ∧ Misordered twice questions ∧
      (reorder first questions).value.map Question.id = first ∧ (reorder twice questions).value = questions ∧
      (reorder second (reorder first questions).value).value = (reorder second questions).value ∧
      (reorder second questions).value ≠ (reorder first questions).value := by
  intro questions first second twice
  have distinct : (questions.map Question.id).Nodup := by decide
  have ordered : Ordered first questions := ⟨distinct,by decide⟩
  have again : Ordered second questions := ⟨distinct,by decide⟩
  have misordered : Misordered twice questions := .repeated (by decide)
  obtain ⟨_,puts,ignores,_,last⟩ := reorder_exact questions
  exact ⟨ordered,again,misordered,puts first ordered,ignores twice misordered,last first second again,by decide⟩

end Questionnaire.Questions
