import Questionnaire.Json.Token
/-!
The value a text spells, with every fault left standing where it was found. A reader walks the tree
in text order, so whatever it objects to first comes first in the text.
-/

namespace Questionnaire.Json

mutual
inductive Tree where
  | null
  | bool (b : Bool)
  -- `none` is a number out of range.
  | number (value : Option Number)
  -- The error is an escape without its partner.
  | text (content : Except Fault String)
  | list (items : Items)
  | map (members : Members)
  | broken (fault : Break)
inductive Items where
  | closed
  | fault (fault : Break)
  | cons (item : Tree) (rest : Items)
inductive Members where
  | closed
  | fault (fault : Break)
  | stray (found : Tree)
  | cons (key : Except Fault String) (value : Tree) (rest : Members)
end

structure Document where
  root : Tree
  ended : Bool

namespace Tree

abbrev Rest (tokens : List Token) := { rest : List Token // rest.length ≤ tokens.length }

def Rest.all (tokens : List Token) : Rest tokens := ⟨tokens,Nat.le_refl _⟩

def Rest.within {tokens tokens' : List Token} (rest : Rest tokens)
    (h : tokens.length ≤ tokens'.length) : Rest tokens' :=
  ⟨rest.1,Nat.le_trans rest.2 h⟩

theorem le_cons (token : Token) (tokens : List Token) : tokens.length ≤ (token :: tokens).length := by
  simp

-- `items` and `members` start behind the opening bracket or behind a comma, where a closing
-- bracket may not stand; the empty list and the empty map are told apart before.
mutual
def value (tokens : List Token) : Tree × Rest tokens :=
  match tokens with
  | [] => (.broken (.of .endInValue),.all _)
  | .null :: rest => (.null,(Rest.all rest).within (le_cons ..))
  | .bool b :: rest => (.bool b,(Rest.all rest).within (le_cons ..))
  | .number spelling :: rest => (.number spelling.value?,(Rest.all rest).within (le_cons ..))
  | .text content :: rest => (.text (content.map String.ofList),(Rest.all rest).within (le_cons ..))
  | .openList :: rest =>
    match rest with
    | [] => (.list (.fault (.of .endInList)),(Rest.all []).within (by simp))
    | .closeList :: after => (.list .closed,(Rest.all after).within (by simp; omega))
    | more =>
      let (found,after) := items more
      (.list found,after.within (le_cons ..))
  | .openMap :: rest =>
    match rest with
    | [] => (.map (.fault (.of .endInMap)),(Rest.all []).within (by simp))
    | .closeMap :: after => (.map .closed,(Rest.all after).within (by simp; omega))
    | more =>
      let (found,after) := members more
      (.map found,after.within (le_cons ..))
  | .brokenText fault :: rest => (.broken fault,(Rest.all rest).within (le_cons ..))
  | .broken fault :: rest => (.broken fault,(Rest.all rest).within (le_cons ..))
  | _ :: rest => (.broken (.of .valueWanted),(Rest.all rest).within (le_cons ..))
termination_by (tokens.length,0)

def items (tokens : List Token) : Items × Rest tokens :=
  let (item,⟨after,le⟩) := value tokens
  match after with
  | [] => (.cons item (.fault (.of .endInList)),⟨[],by simp⟩)
  | [.comma] => (.cons item (.fault (.of .endInValue)),⟨[],by simp⟩)
  | .comma :: .closeList :: _ => (.cons item (.fault ⟨.trailingComma,.valueWanted⟩),⟨[],by simp⟩)
  | .comma :: rest =>
    let (others,last) := items rest
    (.cons item others,last.within (by simp only [List.length_cons] at le; omega))
  | .closeList :: rest => (.cons item .closed,⟨rest,by simp only [List.length_cons] at le; omega⟩)
  | _ => (.cons item (.fault (.of .listCommaWanted)),⟨[],by simp⟩)
termination_by (tokens.length,1)

def members (tokens : List Token) : Members × Rest tokens :=
  match tokens with
  | .text key :: rest =>
    let (found,⟨after,le⟩) : Tree × Rest rest :=
      match rest with
      | [] => (.broken (.of .endInMap),.all _)
      | .colon :: behind =>
        let (found,after) := value behind
        (found,after.within (le_cons ..))
      | _ => (.broken (.of .colonWanted),.all _)
    let member := Members.cons (key.map String.ofList) found
    match after with
    | [] => (member (.fault (.of .endInMap)),⟨[],by simp⟩)
    | [.comma] => (member (.fault ⟨.endInValue,.endInMap⟩),⟨[],by simp⟩)
    | .comma :: .closeMap :: _ => (member (.fault ⟨.trailingComma,.keyNotText⟩),⟨[],by simp⟩)
    | .comma :: behind =>
      have shorter : behind.length < rest.length + 1 := by simp only [List.length_cons] at le; omega
      let (others,last) := members behind
      (member others,last.within (by simp only [List.length_cons]; omega))
    | .closeMap :: behind => (member .closed,⟨behind,by simp only [List.length_cons] at le ⊢; omega⟩)
    | _ => (member (.fault (.of .mapCommaWanted)),⟨[],by simp⟩)
  | .brokenText fault :: _ => (.fault fault,⟨[],by simp⟩)
  | tokens => (.stray (value tokens).1,⟨[],by simp⟩)
termination_by (tokens.length,1)
end

end Tree

def Document.ofText (text : List Char) : Document :=
  let (root,rest) := Tree.value (Token.scan text)
  ⟨root,rest.1.isEmpty⟩

end Questionnaire.Json
