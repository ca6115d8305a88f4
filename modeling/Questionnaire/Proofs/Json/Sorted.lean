import Mathlib.Data.List.Induction
import Mathlib.Data.List.Sort
import Questionnaire.Json.Sorted
/-!
Maps by their keys. A key stands for the last member that has it, and members whose keys are in order already are
left as they are.
-/

namespace Questionnaire.Json.Value

variable {members : List (String × Value)} {key : String} {value : Value}

-- What a map says under a key.
def Holds (members : List (String × Value)) (key : String) (value : Value) : Prop :=
  ∃ before after, members = before ++ (key,value) :: after ∧ ∀ member ∈ after, member.1 ≠ key

theorem mem_of_holds (holds : Holds members key value) : (key,value) ∈ members := by
  obtain ⟨before,after,rfl,-⟩ := holds
  exact List.mem_append_right before List.mem_cons_self

theorem holds_concat {last : String × Value} :
    Holds (members ++ [last]) key value ↔ if last.1 = key then last.2 = value else Holds members key value := by
  constructor
  · rintro ⟨before,after,split,others⟩
    rcases List.eq_nil_or_concat after with rfl | ⟨front,other,rfl⟩
    · obtain ⟨-,same⟩ := List.append_inj' split rfl
      cases same
      rw [if_pos rfl]
    · rw [List.concat_eq_append,← List.cons_append,← List.append_assoc] at split
      obtain ⟨rfl,same⟩ := List.append_inj' split rfl
      cases same
      rw [if_neg (others last (by simp))]
      exact ⟨before,front,rfl,fun member mem => others member (by simp [mem])⟩
  · split
    · rename_i named
      rintro rfl
      exact ⟨members,[],by rw [← named],List.forall_mem_nil _⟩
    · rename_i apart
      rintro ⟨before,after,rfl,others⟩
      exact ⟨before,after ++ [last],by simp,List.forall_mem_append.mpr ⟨others,by simpa using apart⟩⟩

theorem holds_insert {before after : List (String × Value)} {other : String × Value} (apart : other.1 ≠ key) :
    Holds (before ++ other :: after) key value ↔ Holds (before ++ after) key value := by
  induction after using List.reverseRecOn with
  | nil => rw [holds_concat,if_neg apart,List.append_nil]
  | append_singleton front last ih =>
    rw [← List.cons_append,← List.append_assoc,← List.append_assoc,holds_concat,holds_concat,ih]

theorem byKey_concat (members : List (String × Value)) (last : String × Value) :
    byKey (members ++ [last]) = (byKey members).insert last.1 last.2 := by
  rw [byKey,byKey,Std.ExtTreeMap.ofList_eq_insertMany_empty,Std.ExtTreeMap.ofList_eq_insertMany_empty,
    Std.ExtTreeMap.insertMany_append,Std.ExtTreeMap.insertMany_cons,Std.ExtTreeMap.insertMany_nil]

theorem byKey_eq_some_iff : (byKey members)[key]? = some value ↔ Holds members key value := by
  induction members using List.reverseRecOn with
  | nil =>
    refine iff_of_false ?_ fun holds => List.not_mem_nil (mem_of_holds holds)
    rw [byKey,Std.ExtTreeMap.ofList_nil,Std.ExtTreeMap.getElem?_empty]
    exact nofun
  | append_singleton front last ih =>
    rw [byKey_concat,holds_concat,Std.ExtTreeMap.getElem?_insert]
    simp only [Std.LawfulEqCmp.compare_eq_iff_eq]
    split
    · exact Option.some_inj
    · exact ih

section

theorem before_irrefl : compare key key ≠ .lt := by
  rw [Std.ReflOrd.compare_self]
  exact nofun

-- Every key comes before the keys that follow it.
def Ordered (members : List (String × Value)) : Prop := (members.map Prod.fst).Pairwise (compare · · = .lt)

theorem holds_of_mem (ordered : Ordered members) (mem : (key,value) ∈ members) : Holds members key value := by
  obtain ⟨before,after,rfl⟩ := List.append_of_mem mem
  obtain ⟨-,later,-⟩ := List.pairwise_append.mp (List.pairwise_map.mp ordered)
  refine ⟨before,after,rfl,fun member held same => ?_⟩
  have less := List.rel_of_pairwise_cons later held
  exact before_irrefl (same ▸ less)

theorem byKey_toList (ordered : Ordered members) : (byKey members).toList = members := by
  have ordered_members := List.pairwise_map.mp ordered
  have irreflexive {one two : String × Value} (less : compare one.1 two.1 = .lt) : one ≠ two := by
    rintro rfl
    exact before_irrefl less
  have sorted : (byKey members).toList.Pairwise fun one two => compare one.1 two.1 = .lt :=
    Std.ExtTreeMap.ordered_keys_toList
  have same : ∀ member, member ∈ (byKey members).toList ↔ member ∈ members := by
    rintro ⟨key,value⟩
    rw [Std.ExtTreeMap.mem_toList_iff_getElem?_eq_some,byKey_eq_some_iff]
    exact ⟨mem_of_holds,holds_of_mem ordered⟩
  have perm : (byKey members).toList.Perm members :=
    (List.perm_ext_iff_of_nodup (sorted.imp irreflexive) (ordered_members.imp irreflexive)).mpr same
  refine perm.eq_of_pairwise ?_ sorted ordered_members
  intro one two _ _ less more
  rw [Std.OrientedOrd.eq_swap,less] at more
  cases more

theorem sortedItems_eq_map (items : List Value) : sortedItems items = items.map sorted := by
  induction items with
  | nil => rfl
  | cons item rest ih => rw [sortedItems,ih,List.map_cons]

theorem sortedMembers_eq_map (members : List (String × Value)) :
    sortedMembers members = members.map fun member => (member.1,member.2.sorted) := by
  induction members with
  | nil => rfl
  | cons member rest ih => rw [sortedMembers,ih,List.map_cons,sortedMember]

-- A value that is in order throughout is left as it is.
theorem sorted_list {items : List Value} (each : ∀ item ∈ items, item.sorted = item) :
    (Value.list items).sorted = .list items := by
  rw [sorted,sortedItems_eq_map,List.map_congr_left each,List.map_id']

theorem sorted_map (ordered : Ordered members) (each : ∀ member ∈ members, member.2.sorted = member.2) :
    (Value.map members).sorted = .map members := by
  have kept : sortedMembers members = members := by
    rw [sortedMembers_eq_map]
    exact (List.map_congr_left fun member mem => by rw [each member mem]).trans (List.map_id' members)
  rw [sorted,kept,byKey_toList ordered]

end

end Questionnaire.Json.Value
