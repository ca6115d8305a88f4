import Questionnaire.Json.Reading
import Questionnaire.Proofs.Json.Parsing
/-!
Readers get back what was written: texts, lists and optional values where their parts do, and
records where every field does.
-/

namespace Questionnaire.Json

variable {α β : Type}

-- For one value and not for all of them, so that a list asks this of its own items only.
def Restores (read : Reader α) (write : α → Value) (a : α) : Prop := ∀ mode, read mode (write a).tree = .ok a

namespace Restores

theorem text (s : String) : Restores readText .text s := fun _ => rfl

theorem bool (b : Bool) : Restores readBool .bool b := fun _ => rfl

theorem double (x : Float) : Restores readFloat (fun x => .number (.double x)) x := fun _ => rfl

theorem tag {tags : Tags α} {name : α → String} {a : α} (named : tags.named (name a) = .ok a) :
    Restores tags.read (fun a => .text (name a)) a := by
  intro mode
  cases mode <;> exact named

theorem list {read : Reader α} {write : α → Value} {items : List α} (restores : ∀ a ∈ items, Restores read write a) :
    Restores (readList read) (fun items => .list (items.map write)) items := by
  intro mode
  show (Value.itemTrees (items.map write)).readAll (read mode) = .ok items
  induction items with
  | nil => rfl
  | cons a items ih =>
    obtain ⟨first,others⟩ := List.forall_mem_cons.mp restores
    rw [List.map_cons,Value.itemTrees,Items.readAll,first mode,ih others]
    rfl

end Restores

theorem Value.tree_ne_null {v : Value} (filled : v ≠ .null) : v.tree ≠ .null := by
  cases v with
  | null => exact absurd rfl filled
  | _ => nofun

theorem readOption_some {read : Reader α} {mode : Mode} {t : Tree} {a : α} (filled : t ≠ .null)
    (found : read mode t = .ok a) : readOption read mode t = .ok (some a) := by
  unfold readOption
  split
  · contradiction
  · rw [found]; rfl

-- The members of a map as a record writes them: in the order of its fields, with some of those left
-- out that may be. The fields put the values into the record one after the other.
inductive Fills (mode : Mode) : List (FieldReader α) → List (String × Value) → α → α → Prop where
  | done {a : α} : Fills mode [] [] a a
  | put {field : FieldReader α} {fields : List (FieldReader α)} {v : Value} {members : List (String × Value)}
      {a b c : α} (found : field.put mode v.tree a = .ok b) (further : Fills mode fields members b c) :
      Fills mode (field :: fields) ((field.name,v) :: members) a c
  | skip {field : FieldReader α} {fields : List (FieldReader α)} {members : List (String × Value)} {a b : α}
      (optional : field.required = false) (further : Fills mode fields members a b) :
      Fills mode (field :: fields) members a b

namespace Fills

variable {mode : Mode} {fields : List (FieldReader α)} {members : List (String × Value)} {a b c : α}
  {name : String} {read : Reader β} {write : β → Value} {put : β → α → α} {x : β}

theorem given {required : Bool} (restores : Restores read write x) (further : Fills mode fields members (put x a) c) :
    Fills mode (.of name required read put :: fields) ((name,write x) :: members) a c := by
  refine Fills.put ?_ further
  show (do return put (← read mode (write x).tree) a) = Except.ok (put x a)
  rw [restores mode]
  rfl

theorem required_present (fills : Fills mode fields members a b) :
    ∀ field ∈ fields, field.required = true → field.name ∈ members.map Prod.fst := by
  induction fills with
  | done => simp
  | put _ _ ih =>
    intro field mem required
    rcases List.mem_cons.mp mem with rfl | later
    · exact List.mem_cons_self
    · exact List.mem_cons_of_mem _ (ih field later required)
  | skip optional _ ih =>
    intro field mem required
    rcases List.mem_cons.mp mem with rfl | later
    · simp [optional] at required
    · exact ih field later required

theorem named (fills : Fills mode fields members a b) :
    ∀ member ∈ members, member.1 ∈ fields.map FieldReader.name := by
  induction fills with
  | done => simp
  | put _ _ ih =>
    refine List.forall_mem_cons.mpr ⟨List.mem_cons_self,fun member mem => ?_⟩
    exact List.mem_cons_of_mem _ (ih member mem)
  | skip _ _ ih => exact fun member mem => List.mem_cons_of_mem _ (ih member mem)

-- The fields that are past are those before the ones still to be filled; no key comes twice as long
-- as no two fields have one name.
theorem readMembers (fills : Fills mode fields members a b) (past : List (FieldReader α))
    (distinct : ((past ++ fields).map FieldReader.name).Nodup) (seen : List String)
    (behind : ∀ key ∈ seen, key ∈ past.map FieldReader.name) :
    Record.readMembers (past ++ fields) mode (Value.memberTrees members) seen a =
      .ok ((members.map Prod.fst).reverse ++ seen,b) := by
  induction fills generalizing past seen with
  | done => rfl
  | @put field fields v members a b c found further ih =>
    have shifted : past ++ field :: fields = (past ++ [field]) ++ fields := by simp
    have apart : ∀ other ∈ past, other.name ≠ field.name := by
      intro other mem same
      rw [List.map_append,List.nodup_append] at distinct
      exact distinct.2.2 _ (List.mem_map_of_mem mem) field.name (by simp) same
    have hit : (past ++ field :: fields).find? (·.name == field.name) = some field := by
      rw [List.find?_append,List.find?_eq_none.mpr (by simpa using apart)]
      simp
    have fresh : field.name ∉ seen := by
      intro again
      obtain ⟨other,mem,same⟩ := List.mem_map.mp (behind _ again)
      exact apart other mem same
    have behind : ∀ key ∈ field.name :: seen, key ∈ (past ++ [field]).map FieldReader.name := by
      intro key mem
      rcases List.mem_cons.mp mem with rfl | earlier
      · simp
      · simp [behind key earlier]
    have rest := ih (past ++ [field]) (shifted ▸ distinct) _ behind
    rw [← shifted] at rest
    have found : field.put mode (Value.memberTree (field.name,v)) a = .ok b := found
    rw [Value.memberTrees,Record.readMembers]
    simp [hit,fresh,found,rest,bind,Except.bind]
  | @skip field fields members a b optional further ih =>
    have shifted : past ++ field :: fields = (past ++ [field]) ++ fields := by simp
    rw [shifted]
    refine ih _ (shifted ▸ distinct) seen fun key mem => ?_
    rw [List.map_append]
    exact List.mem_append_left _ (behind key mem)

end Fills

theorem Record.read_map {record : Record α} {mode : Mode} {members : List (String × Value)} {a : α}
    (fills : Fills mode record.fields members record.blank a)
    (distinct : (record.fields.map FieldReader.name).Nodup) : record.read mode (Value.map members).tree = .ok a := by
  have found := fills.readMembers [] distinct [] (by simp)
  have complete : missing? record.fields (members.map Prod.fst).reverse = none := by
    simp only [missing?,Option.map_eq_none_iff,List.find?_eq_none]
    intro field mem
    have present := fills.required_present field mem
    simp_all
  rw [List.append_nil,List.nil_append] at found
  rw [Value.tree,Record.read]
  simp only [found,complete,bind,Except.bind,pure,Except.pure]

namespace Record

variable {mode : Mode} {members : List (String × Value)}

end Record

-- A value whose lists and maps nest at most so many levels deep.
inductive Value.Fits : Nat → Value → Prop where
  | null {levels : Nat} : Fits levels .null
  | bool {levels : Nat} (b : Bool) : Fits levels (.bool b)
  | number {levels : Nat} (n : Number) : Fits levels (.number n)
  | text {levels : Nat} (s : String) : Fits levels (.text s)
  | list {levels : Nat} {items : List Value} (fit : ∀ item ∈ items, Fits levels item) :
      Fits (levels + 1) (.list items)
  | map {levels : Nat} {members : List (String × Value)} (fit : ∀ member ∈ members, Fits levels member.2) :
      Fits (levels + 1) (.map members)

theorem Value.copy_itemTrees {levels : Nat} {items : List Value}
    (copies : ∀ item ∈ items, item.tree.copy levels = .ok item) : (itemTrees items).copy levels = .ok items := by
  induction items with
  | nil => rfl
  | cons item items ih =>
    obtain ⟨first,others⟩ := List.forall_mem_cons.mp copies
    rw [itemTrees,Items.copy,first,ih others]
    rfl

theorem Value.copy_memberTrees {levels : Nat} {members : List (String × Value)}
    (copies : ∀ member ∈ members, member.2.tree.copy levels = .ok member.2) :
    (memberTrees members).copy levels = .ok members := by
  induction members with
  | nil => rfl
  | cons member members ih =>
    obtain ⟨key,value⟩ := member
    obtain ⟨first,others⟩ := List.forall_mem_cons.mp copies
    rw [memberTrees,memberTree,Members.copy,first,ih others]
    rfl

theorem Value.copy_tree {levels : Nat} {v : Value} (fits : v.Fits levels) : v.tree.copy levels = .ok v := by
  induction fits with
  | null | bool _ | number _ | text _ => rfl
  | list _ ih => simp [tree,Tree.copy,copy_itemTrees ih,Except.map]
  | map _ ih => simp [tree,Tree.copy,copy_memberTrees ih,Except.map]

theorem Document.read_ended (read : Tree → Read α) (t : Tree) : (Document.mk t true).read read = read t := by
  cases found : read t with
  | error _ => simp [Document.read,found,bind,Except.bind]
  | ok _ => simp [Document.read,found,bind,Except.bind,pure,Except.pure]

end Questionnaire.Json
