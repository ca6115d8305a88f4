import Questionnaire.Proofs.Json.Layout
/-!
A written value parses to the tree of that value, with no fault anywhere in it.
-/

namespace Questionnaire.Json

namespace Value

mutual
def tree : Value → Tree
  | .null => .null
  | .bool b => .bool b
  | .number n => .number (some n)
  | .text s => .text (.ok s)
  | .list items => .list (itemTrees items)
  | .map members => .map (memberTrees members)
termination_by structural v => v
def itemTrees : List Value → Items
  | [] => .closed
  | item :: rest => .cons (tree item) (itemTrees rest)
termination_by structural items => items
def memberTrees : List (String × Value) → Members
  | [] => .closed
  | member :: rest => .cons (.ok member.1) (memberTree member) (memberTrees rest)
termination_by structural members => members
def memberTree : String × Value → Tree
  | (_,value) => tree value
termination_by structural member => member
end

end Value

namespace Tree

variable {tokens rest more : List Token} {t : Tree}

-- What a parser finds and what it leaves behind, apart from the bound on how much that is.
def Parses (tokens : List Token) (t : Tree) (rest : List Token) : Prop :=
  (value tokens).1 = t ∧ (value tokens).2.1 = rest

def ParsesItems (tokens : List Token) (found : Items) (rest : List Token) : Prop :=
  (items tokens).1 = found ∧ (items tokens).2.1 = rest

def ParsesMembers (tokens : List Token) (found : Members) (rest : List Token) : Prop :=
  (members tokens).1 = found ∧ (members tokens).2.1 = rest

-- A closing bracket directly behind an opening one is told apart before any item is looked for, and
-- behind a comma it is a fault.
def Opens (tokens : List Token) : Prop := ∃ token more, tokens = token :: more ∧ token ≠ .closeList

theorem parsesItems_last (item : Parses tokens t (.closeList :: rest)) : ParsesItems tokens (.cons t .closed) rest := by
  obtain ⟨found,left⟩ := item
  unfold ParsesItems
  rw [items]
  revert found left
  rcases value tokens with ⟨_,_,_⟩
  rintro rfl rfl
  exact ⟨rfl,rfl⟩

theorem parsesItems_more {others : Items} (item : Parses tokens t (.comma :: more)) (opens : Opens more)
    (further : ParsesItems more others rest) : ParsesItems tokens (.cons t others) rest := by
  obtain ⟨found,left⟩ := item
  obtain ⟨token,_,rfl,inner⟩ := opens
  obtain ⟨rfl,rfl⟩ := further
  unfold ParsesItems
  rw [items]
  revert found left
  rcases value tokens with ⟨_,_,_⟩
  rintro rfl rfl
  cases token <;> first | exact ⟨rfl,rfl⟩ | contradiction

theorem parses_list {found : Items} (opens : Opens tokens) (items : ParsesItems tokens found rest) :
    Parses (.openList :: tokens) (.list found) rest := by
  obtain ⟨token,_,rfl,inner⟩ := opens
  obtain ⟨rfl,rfl⟩ := items
  unfold Parses
  rw [value.eq_def]
  cases token <;> first | exact ⟨rfl,rfl⟩ | contradiction

theorem parses_emptyList (rest : List Token) : Parses (.openList :: .closeList :: rest) (.list .closed) rest := by
  unfold Parses
  rw [value.eq_def]
  exact ⟨rfl,rfl⟩

theorem parsesMembers_last (key : String) (member : Parses tokens t (.closeMap :: rest)) :
    ParsesMembers (.text (.ok key.toList) :: .colon :: tokens) (.cons (.ok key) t .closed) rest := by
  obtain ⟨found,left⟩ := member
  unfold ParsesMembers
  rw [members]
  revert found left
  rcases value tokens with ⟨_,_,_⟩
  rintro rfl rfl
  exact ⟨by simp [Except.map,Rest.within],rfl⟩

theorem parsesMembers_more (key : String) {next : String} {others : Members}
    (member : Parses tokens t (.comma :: .text (.ok next.toList) :: more))
    (further : ParsesMembers (.text (.ok next.toList) :: more) others rest) :
    ParsesMembers (.text (.ok key.toList) :: .colon :: tokens) (.cons (.ok key) t others) rest := by
  obtain ⟨found,left⟩ := member
  obtain ⟨rfl,rfl⟩ := further
  unfold ParsesMembers
  rw [members]
  revert found left
  rcases value tokens with ⟨_,_,_⟩
  rintro rfl rfl
  exact ⟨by simp [Except.map,Rest.within],rfl⟩

theorem parses_map {key : String} {found : Members}
    (members : ParsesMembers (.text (.ok key.toList) :: tokens) found rest) :
    Parses (.openMap :: .text (.ok key.toList) :: tokens) (.map found) rest := by
  obtain ⟨rfl,rfl⟩ := members
  unfold Parses
  rw [value.eq_def]
  exact ⟨rfl,rfl⟩

theorem parses_emptyMap (rest : List Token) : Parses (.openMap :: .closeMap :: rest) (.map .closed) rest := by
  unfold Parses
  rw [value.eq_def]
  exact ⟨rfl,rfl⟩

end Tree

namespace Value

open Questionnaire.Json.Tree

theorem opens_tokens {v : Value} (faithful : v.Faithful) (rest : List Token) : Opens (v.tokens ++ rest) := by
  cases v with
  | number n =>
    obtain ⟨spelling,alone,-⟩ := Number.scan_text (faithful n (by simp [numbers]))
    rw [tokens,alone]
    exact ⟨_,_,rfl,by simp⟩
  | _ => exact ⟨_,_,rfl,by simp⟩

theorem parses_items {item : Value} {items : List Value} (faithful : ∀ other ∈ item :: items, other.Faithful)
    (parses : ∀ other ∈ item :: items, ∀ rest, Parses (other.tokens ++ rest) other.tree rest) (rest : List Token) :
    ParsesItems (itemTokens (item :: items) ++ .closeList :: rest) (itemTrees (item :: items)) rest := by
  induction items generalizing item with
  | nil => simpa [itemTokens,itemTrees] using parsesItems_last (parses item List.mem_cons_self _)
  | cons next items ih =>
    obtain ⟨first,others⟩ := List.forall_mem_cons.mp parses
    have further := ih (List.forall_mem_cons.mp faithful).2 others
    have opens : Opens (itemTokens (next :: items) ++ .closeList :: rest) := by
      simpa [itemTokens] using opens_tokens (faithful next (by simp)) _
    simpa [itemTokens,itemTrees] using parsesItems_more (first _) opens further

theorem parses_members {member : String × Value} {members : List (String × Value)}
    (parses : ∀ other ∈ member :: members, ∀ rest, Parses (other.2.tokens ++ rest) other.2.tree rest)
    (rest : List Token) :
    ParsesMembers (memberTokens (member :: members) ++ .closeMap :: rest)
      (memberTrees (member :: members)) rest := by
  induction members generalizing member with
  | nil =>
    obtain ⟨key,value⟩ := member
    have last := parsesMembers_last key (parses (key,value) List.mem_cons_self (.closeMap :: rest))
    simpa [memberTokens,memberToken,memberTrees,memberTree] using last
  | cons next members ih =>
    obtain ⟨key,value⟩ := member
    obtain ⟨next,after⟩ := next
    obtain ⟨first,others⟩ := List.forall_mem_cons.mp parses
    have further := ih others
    have whole := parsesMembers_more key (first _) further
    simpa [memberTokens,memberToken,memberTrees,memberTree] using whole

theorem parses_tokens {v : Value} (faithful : v.Faithful) (rest : List Token) :
    Parses (v.tokens ++ rest) v.tree rest := by
  induction v using induction generalizing rest with
  | null | bool b =>
    unfold Parses
    rw [tokens,List.singleton_append,value.eq_def]
    exact ⟨rfl,rfl⟩
  | text s =>
    unfold Parses
    rw [tokens,List.singleton_append,value.eq_def]
    exact ⟨by simp [tree,Except.map],rfl⟩
  | number n =>
    obtain ⟨spelling,alone,value⟩ := Number.scan_text (faithful n (by simp [numbers]))
    unfold Parses
    rw [tokens,alone,List.singleton_append,Tree.value.eq_def]
    exact ⟨congrArg Tree.number value,rfl⟩
  | list items ih =>
    cases items with
    | nil => exact parses_emptyList rest
    | cons item items =>
      have each := faithful_item faithful
      have inner := parses_items each (fun other mem => ih other mem (each other mem)) rest
      have opens : Opens (itemTokens (item :: items) ++ .closeList :: rest) := by
        simpa [itemTokens] using opens_tokens (each item List.mem_cons_self) _
      simpa [tokens,tree] using parses_list opens inner
  | map members ih =>
    cases members with
    | nil => exact parses_emptyMap rest
    | cons member members =>
      have each := faithful_member faithful
      have inner := parses_members (fun other mem => ih other mem (each other mem)) rest
      obtain ⟨key,value⟩ := member
      simp only [memberTokens,memberToken,List.cons_append] at inner
      simpa [tokens,memberTokens,memberToken,tree] using parses_map inner

theorem parses_text {v : Value} {text : List Char} (faithful : v.Faithful) (scanned : Token.scan text = v.tokens) :
    Document.ofText text = ⟨v.tree,true⟩ := by
  obtain ⟨found,left⟩ := parses_tokens faithful []
  rw [List.append_nil,← scanned] at found left
  simp [Document.ofText,found,left]

theorem ofText_compact {v : Value} (faithful : v.Faithful) : Document.ofText v.compact.toList = ⟨v.tree,true⟩ := by
  rw [compact,String.toList_ofList]
  exact parses_text faithful (scan_compactText faithful)

theorem ofText_indented {v : Value} (faithful : v.Faithful) : Document.ofText v.indented.toList = ⟨v.tree,true⟩ := by
  rw [indented,String.toList_ofList]
  exact parses_text faithful (scan_indentedText faithful 0)

end Value

end Questionnaire.Json
