import Mathlib.Data.List.Nodup
import Std.Data.String.ToNat
import Questionnaire.Proofs.Draft
import Questionnaire.Proofs.Reordering
/-!
Identifiers of questions. Along a run every question holds one that was drawn for it alone, and the
source never yields it again.
-/

namespace Questionnaire

namespace IdSource

-- What the source yields after `n` more draws.
def nth (source : IdSource) : Nat → String
  | 0 => source.draw.1
  | n + 1 => source.draw.2.nth n

theorem nth_eq (source : IdSource) (n : Nat) : source.nth n = source.id (source.spent + n) := by
  induction n generalizing source with
  | zero => rfl
  | succ n ih =>
    rw [nth,ih]
    show source.id (source.spent + 1 + n) = source.id (source.spent + (n + 1))
    congr 1
    omega

theorem numbered_injective (stem : String) : Function.Injective (numbered stem).id := by
  intro m n same
  have texts := congrArg String.toList same
  simp only [numbered,String.toList_append] at texts
  have digits : toString (m + 1) = toString (n + 1) := String.toList_injective (List.append_cancel_left texts)
  have numbers : m + 1 = n + 1 := Nat.repr_injective digits
  omega

end IdSource

namespace Draft

variable {settings : Settings} {draft after : Draft} {edit : Edit}

def questionIds (draft : Draft) : List String := draft.form.questions.map Question.id

theorem move_source (moved : Move settings draft edit after) :
    after.ids.id = draft.ids.id ∧ draft.ids.spent ≤ after.ids.spent := by
  cases moved with
  | created => exact ⟨rfl,Nat.le_add_right _ 2⟩
  | copied => exact ⟨rfl,Nat.le_add_right _ 1⟩
  | extended => exact ⟨rfl,Nat.le_add_right _ 1⟩
  | _ => exact ⟨rfl,Nat.le_refl _⟩

-- An edit draws at most one identifier for a question, and puts it behind all others.
theorem move_questionIds (moved : Move settings draft edit after) :
    after.questionIds.Subperm draft.questionIds ∨
      (after.questionIds = draft.questionIds ++ [draft.ids.draw.1] ∧ draft.ids.spent < after.ids.spent) := by
  cases moved with
  | created =>
    refine .inr ⟨?_,Nat.lt_add_of_pos_right Nat.two_pos⟩
    simp [questionIds,withQuestions,Question.fresh]
  | copied =>
    refine .inr ⟨?_,Nat.lt_add_one _⟩
    simp [questionIds,withQuestions]
  | removed => exact .inl (List.filter_sublist.map _).subperm
  | changed inPlace =>
    refine .inl (List.Perm.subperm (List.Perm.of_eq ?_))
    exact Questions.map_change (Edit.inPlace_id inPlace) _ _
  | extended =>
    refine .inl (List.Perm.subperm (List.Perm.of_eq ?_))
    exact Questions.map_change (fun _ => rfl) _ _
  | @reordered order ordered =>
    refine .inl (List.Nodup.subperm ?_ ?_)
    · have distinct := (Questions.isOrderOf_iff.mp ordered).1
      have named : (order.filterMap draft.form.question?).map Question.id =
          order.filter (· ∈ draft.form.questions.map Question.id) := map_picked order
      rw [questionIds,withQuestions,named]
      exact distinct.filter _
    · intro id member
      obtain ⟨q,ordered,rfl⟩ := List.mem_map.mp member
      obtain ⟨_,_,found⟩ := List.mem_filterMap.mp ordered
      exact List.mem_map_of_mem (List.mem_of_find?_eq_some found)
  | _ => exact .inl (List.Subperm.refl _)

structure Issued (source : IdSource) (draft : Draft) : Prop where
  sequence : draft.ids.id = source.id
  distinct : draft.questionIds.Nodup
  drawn : ∀ id ∈ draft.questionIds, ∃ n, n < draft.ids.spent ∧ id = source.id n

theorem next_issued {source : IdSource} (injective : Function.Injective source.id)
    (issued : Issued source draft) : Issued source (draft.next settings edit) := by
  have moved := next_moves settings draft edit
  obtain ⟨sequence,grown⟩ := move_source moved
  refine ⟨sequence.trans issued.sequence,?_,?_⟩
  · rcases move_questionIds moved with ⟨kept,same,fewer⟩ | ⟨longer,_⟩
    · exact same.nodup (issued.distinct.sublist fewer)
    · rw [longer]
      refine List.nodup_append.mpr ⟨issued.distinct,List.nodup_singleton _,?_⟩
      intro old member new drawn same
      obtain ⟨n,earlier,named⟩ := issued.drawn old member
      have next : new = source.id draft.ids.spent := by
        rw [List.mem_singleton.mp drawn,IdSource.draw,issued.sequence]
      have equal : n = draft.ids.spent := injective (named.symm.trans (same.trans next))
      omega
  · intro id member
    rcases move_questionIds moved with fewer | ⟨longer,spent⟩
    · obtain ⟨n,earlier,named⟩ := issued.drawn id (fewer.subset member)
      exact ⟨n,Nat.lt_of_lt_of_le earlier grown,named⟩
    · rw [longer] at member
      rcases List.mem_append.mp member with old | new
      · obtain ⟨n,earlier,named⟩ := issued.drawn id old
        exact ⟨n,Nat.lt_of_lt_of_le earlier grown,named⟩
      · refine ⟨draft.ids.spent,spent,?_⟩
        rw [List.mem_singleton.mp new,IdSource.draw,issued.sequence]

theorem fresh_issued (settings : Settings) (source : IdSource) : Issued source (fresh settings source) where
  sequence := rfl
  distinct := List.nodup_singleton _
  drawn := by
    intro id member
    refine ⟨source.spent,Nat.lt_add_of_pos_right Nat.two_pos,?_⟩
    rw [List.mem_singleton.mp member]

-- The questions removed on the way are covered as well: what they were called stays spent.
theorem question_ids_unique (settings : Settings) (stem : String) (edits : List Edit) :
    let source := IdSource.numbered stem
    let reached := (fresh settings source).run settings edits
    (reached.form.questions.map Question.id).Nodup ∧
    ∀ q ∈ reached.form.questions,
      (∃ n, n < reached.ids.spent ∧ q.id = source.nth n) ∧ ∀ n, reached.ids.nth n ≠ q.id := by
  intro source reached
  have injective := IdSource.numbered_injective stem
  have issued : Issued source reached :=
    run_preserves (fun _ _ => next_issued injective) (fresh_issued settings source) edits
  refine ⟨issued.distinct,?_⟩
  intro q member
  obtain ⟨n,earlier,named⟩ := issued.drawn q.id (List.mem_map_of_mem member)
  refine ⟨⟨n,earlier,?_⟩,?_⟩
  · rw [IdSource.nth_eq,named]
    show source.id n = source.id (0 + n)
    rw [Nat.zero_add]
  · intro later again
    rw [IdSource.nth_eq,issued.sequence,named] at again
    have same := injective again
    omega

end Draft
end Questionnaire
