import Questionnaire.Proofs.Json.Tokens
/-!
The tokens of a written value. Blanks between them make no difference, so the value on one line and
the value over several lines have the same ones.
-/

namespace Questionnaire.Json.Value

theorem induction {P : Value → Prop} (null : P .null) (bool : ∀ b, P (.bool b)) (number : ∀ n, P (.number n))
    (text : ∀ s, P (.text s)) (list : ∀ items, (∀ item ∈ items, P item) → P (.list items))
    (map : ∀ members, (∀ member ∈ members, P member.2) → P (.map members)) : ∀ v, P v := by
  intro v
  refine Value.rec (motive_1 := P) (motive_2 := fun items => ∀ item ∈ items, P item)
    (motive_3 := fun members => ∀ member ∈ members, P member.2) (motive_4 := fun member => P member.2)
    null bool number text list map (by simp) ?_ (by simp) ?_ (fun _ _ holds => holds) v
  · exact fun _ _ first others => List.forall_mem_cons.mpr ⟨first,others⟩
  · exact fun _ _ first others => List.forall_mem_cons.mpr ⟨first,others⟩

mutual
def numbers : Value → List Number
  | .number n => [n]
  | .list items => itemNumbers items
  | .map members => memberNumbers members
  | _ => []
termination_by structural v => v
def itemNumbers : List Value → List Number
  | [] => []
  | item :: rest => numbers item ++ itemNumbers rest
termination_by structural items => items
def memberNumbers : List (String × Value) → List Number
  | [] => []
  | member :: rest => memberNumber member ++ memberNumbers rest
termination_by structural members => members
def memberNumber : String × Value → List Number
  | (_,value) => numbers value
termination_by structural member => member
end

-- A number that does not read back may fall into any tokens at all.
mutual
def tokens : Value → List Token
  | .null => [.null]
  | .bool b => [.bool b]
  | .number n => Token.scan n.text
  | .text s => [.text (.ok s.toList)]
  | .list items => .openList :: (itemTokens items ++ [.closeList])
  | .map members => .openMap :: (memberTokens members ++ [.closeMap])
termination_by structural v => v
def itemTokens : List Value → List Token
  | [] => []
  | item :: rest => tokens item ++ (if rest.isEmpty then [] else [.comma]) ++ itemTokens rest
termination_by structural items => items
def memberTokens : List (String × Value) → List Token
  | [] => []
  | member :: rest => memberToken member ++ (if rest.isEmpty then [] else [.comma]) ++ memberTokens rest
termination_by structural members => members
def memberToken : String × Value → List Token
  | (key,value) => .text (.ok key.toList) :: .colon :: tokens value
termination_by structural member => member
end

open Token (Scans)

theorem scans_word {c : Char} {word : List Char} {token : Token} (solid : Token.isSpace c = false)
    (found : ∀ rest, Token.next c (word ++ rest) = (token,some rest)) : Scans (c :: word) [token] :=
  fun rest _ => Token.scan_next solid (found rest)

theorem scans_null : Scans ['n','u','l','l'] [.null] := scans_word (by decide) fun _ => rfl

theorem scans_true : Scans ['t','r','u','e'] [.bool true] := scans_word (by decide) fun _ => rfl

theorem scans_false : Scans ['f','a','l','s','e'] [.bool false] := scans_word (by decide) fun _ => rfl

theorem scans_number {n : Number} (readsBack : n.ReadsBack) : Scans n.text (Token.scan n.text) := by
  obtain ⟨spelling,tokens,-⟩ := Number.scan_text readsBack
  intro rest ends
  rw [tokens]
  exact Token.scan_only_number tokens ends

theorem itemNumbers_eq (items : List Value) : itemNumbers items = items.flatMap numbers := by
  induction items with
  | nil => rfl
  | cons item items ih => rw [itemNumbers,ih,List.flatMap_cons]

theorem memberNumbers_eq (members : List (String × Value)) :
    memberNumbers members = members.flatMap fun member => member.2.numbers := by
  induction members with
  | nil => rfl
  | cons member members ih =>
    obtain ⟨key,value⟩ := member
    rw [memberNumbers,memberNumber,ih,List.flatMap_cons]

-- Every number of the value can be told again from its text.
def Faithful (v : Value) : Prop := ∀ n ∈ v.numbers, n.ReadsBack

theorem faithful_item {items : List Value} (faithful : (list items).Faithful) : ∀ item ∈ items, item.Faithful := by
  intro item mem n inside
  exact faithful n (by rw [numbers,itemNumbers_eq]; exact List.mem_flatMap_of_mem mem inside)

theorem faithful_member {members : List (String × Value)} (faithful : (map members).Faithful) :
    ∀ member ∈ members, member.2.Faithful := by
  intro member mem n inside
  exact faithful n (by rw [numbers,memberNumbers_eq]; exact List.mem_flatMap.mpr ⟨member,mem,inside⟩)

theorem no_blanks : ∀ c ∈ ([] : List Char), Token.isSpace c = true := by simp

theorem scans_compactItems {items : List Value} (scans : ∀ item ∈ items, Scans item.compactText item.tokens) :
    Scans (compactItems items) (itemTokens items) :=
  .separated ⟨rfl,rfl⟩ (fun _ _ => ⟨rfl,rfl⟩) scans

theorem scans_compactMembers {members : List (String × Value)}
    (scans : ∀ member ∈ members, Scans member.2.compactText member.2.tokens) :
    Scans (compactMembers members) (memberTokens members) := by
  have each : ∀ member ∈ members, Scans (compactMember member) (memberToken member) := by
    rintro ⟨key,value⟩ mem
    exact .key key no_blanks (scans _ mem)
  exact .separated ⟨rfl,rfl⟩ (fun _ _ => ⟨rfl,rfl⟩) each

theorem scans_compactText {v : Value} (faithful : v.Faithful) : Scans v.compactText v.tokens := by
  induction v using induction with
  | null => exact scans_null
  | bool b =>
    cases b with
    | false => exact scans_false
    | true => exact scans_true
  | number n => exact scans_number (faithful n (by simp [numbers]))
  | text s => exact fun rest _ => Token.scan_quote s rest
  | list items ih =>
    have inner := scans_compactItems fun item mem => ih item mem (faithful_item faithful item mem)
    simpa [compactText,tokens] using inner.list no_blanks
  | map members ih =>
    have inner := scans_compactMembers fun member mem => ih member mem (faithful_member faithful member mem)
    simpa [compactText,tokens] using inner.map no_blanks

theorem blank_newLine (level : Nat) : ∀ c ∈ newLine level, Token.isSpace c = true := by
  intro c mem
  rcases List.mem_cons.mp mem with rfl | space
  · decide
  · rw [List.eq_of_mem_replicate space]; decide

theorem blank_beforeEnd {α : Type} (items : List α) (level : Nat) :
    ∀ c ∈ (if items.isEmpty then [] else newLine level), Token.isSpace c = true := by
  split
  · exact no_blanks
  · exact blank_newLine level

theorem scans_indentedItems {items : List Value} (level : Nat)
    (scans : ∀ item ∈ items, Scans (item.indentedText level) item.tokens) :
    Scans (indentedItems level items) (itemTokens items) := by
  have each : ∀ item ∈ items, Scans (newLine level ++ item.indentedText level) item.tokens :=
    fun item mem => (scans item mem).indented (blank_newLine level)
  exact .separated ⟨rfl,rfl⟩ (fun _ _ => ⟨rfl,rfl⟩) each

theorem scans_indentedMembers {members : List (String × Value)} (level : Nat)
    (scans : ∀ member ∈ members, Scans (member.2.indentedText level) member.2.tokens) :
    Scans (indentedMembers level members) (memberTokens members) := by
  have space : ∀ c ∈ [' '], Token.isSpace c = true := by simp [Token.isSpace]
  have each : ∀ member ∈ members, Scans (newLine level ++ indentedMember level member) (memberToken member) := by
    rintro ⟨key,value⟩ mem
    exact .indented (blank_newLine level) (.key key space (scans _ mem))
  exact .separated ⟨rfl,rfl⟩ (fun _ _ => ⟨rfl,rfl⟩) each

theorem scans_indentedText {v : Value} (faithful : v.Faithful) (level : Nat) :
    Scans (v.indentedText level) v.tokens := by
  induction v using induction generalizing level with
  | null => exact scans_null
  | bool b =>
    cases b with
    | false => exact scans_false
    | true => exact scans_true
  | number n => exact scans_number (faithful n (by simp [numbers]))
  | text s => exact fun rest _ => Token.scan_quote s rest
  | list items ih =>
    have inner := scans_indentedItems (level + 1) fun item mem => ih item mem (faithful_item faithful item mem) _
    exact inner.list (blank_beforeEnd items level)
  | map members ih =>
    have inner := scans_indentedMembers (level + 1) fun member mem =>
      ih member mem (faithful_member faithful member mem) _
    exact inner.map (blank_beforeEnd members level)

theorem scan_compactText {v : Value} (faithful : v.Faithful) : Token.scan v.compactText = v.tokens := by
  have whole := scans_compactText faithful [] (by simp [Spelling.Ends])
  simpa [Token.scan] using whole

theorem scan_indentedText {v : Value} (faithful : v.Faithful) (level : Nat) :
    Token.scan (v.indentedText level) = v.tokens := by
  have whole := scans_indentedText faithful level [] (by simp [Spelling.Ends])
  simpa [Token.scan] using whole

end Questionnaire.Json.Value
