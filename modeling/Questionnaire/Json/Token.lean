import Questionnaire.Json.Quoted
import Questionnaire.Json.Spelling
/-!
The tokens of a document. Scanning stops at the first place that starts no token, since nothing
behind it can be told apart.
-/

namespace Questionnaire.Json

inductive Token where
  | openMap
  | closeMap
  | openList
  | closeList
  | comma
  | colon
  | null
  | bool (b : Bool)
  | number (spelling : Spelling)
  | text (content : Except Fault (List Char))
  | brokenText (fault : Break)
  | broken (fault : Break)

namespace Token

def isSpace (c : Char) : Bool := c = ' ' || c = '\n' || c = '\t' || c = '\r'

def expectWord : List Char → List Char → Except Fault (List Char)
  | [],after => .ok after
  | _ :: _,[] => .error .endInValue
  | w :: word,c :: rest => if c = w then expectWord word rest else .error .wordWanted

def next (c : Char) (rest : List Char) : Token × Option (List Char) :=
  let word (letters : List Char) (token : Token) : Token × Option (List Char) :=
    match expectWord letters rest with
    | .ok after => (token,some after)
    | .error fault => (.broken (.of fault),none)
  match c with
  | '\x7b' => (.openMap,some rest)
  | '\x7d' => (.closeMap,some rest)
  | '[' => (.openList,some rest)
  | ']' => (.closeList,some rest)
  | ',' => (.comma,some rest)
  | ':' => (.colon,some rest)
  | 'n' => word ['u','l','l'] .null
  | 't' => word ['r','u','e'] (.bool true)
  | 'f' => word ['a','l','s','e'] (.bool false)
  | '"' =>
    match Quoted.skip rest with
    | .ok after => (.text (Quoted.content rest),some after)
    | .error fault =>
      let kept := match Quoted.content rest with
        | .error kept => kept
        | .ok _ => fault
      (.brokenText ⟨kept,fault⟩,none)
  | _ =>
    if c = '-' || Decimal.isDigit c then
      match Spelling.scan (c :: rest) with
      | .ok (spelling,after) => (.number spelling,some after)
      | .error fault => (.broken fault,none)
    else (.broken (.of .valueWanted),none)

theorem expectWord_le {word rest after : List Char} (h : expectWord word rest = .ok after) :
    after.length ≤ rest.length := by
  fun_induction expectWord word rest with
  | case1 rest =>
    cases h
    exact Nat.le_refl _
  | case3 _ _ _ ih => exact Nat.le_succ_of_le (ih h)
  | case2 | case4 => cases h

theorem next_le {c : Char} {rest after : List Char} {token : Token}
    (h : next c rest = (token,some after)) : after.length ≤ rest.length := by
  have word : ∀ (letters : List Char) (found : Token),
      (match expectWord letters rest with
        | .ok after => (found,some after)
        | .error fault => (.broken (.of fault),none)) = (token,some after) →
      after.length ≤ rest.length := by
    intro letters found equal
    cases expected : expectWord letters rest with
    | error _ => simp [expected] at equal
    | ok tail =>
      simp only [expected,Prod.mk.injEq,Option.some.injEq] at equal
      exact equal.2 ▸ expectWord_le expected
  unfold next at h
  split at h
  case h_7 => exact word _ _ h
  case h_8 => exact word _ _ h
  case h_9 => exact word _ _ h
  case h_10 =>
    cases skipped : Quoted.skip rest with
    | error _ => simp [skipped] at h
    | ok tail =>
      simp only [skipped,Prod.mk.injEq,Option.some.injEq] at h
      exact h.2 ▸ Nat.le_of_lt (Quoted.skip_shorter skipped)
  case h_11 =>
    split at h
    · cases scanned : Spelling.scan (c :: rest) with
      | error _ => simp [scanned] at h
      | ok pair =>
        simp only [scanned,Prod.mk.injEq,Option.some.injEq] at h
        have shorter : pair.2.length < _ := Spelling.scan_shorter scanned
        rw [List.length_cons] at shorter
        rw [← h.2]
        omega
    · simp at h
  all_goals
    simp only [Prod.mk.injEq,Option.some.injEq] at h
    simp [h.2]

def scan : List Char → List Token
  | [] => []
  | c :: rest =>
    if isSpace c then scan rest
    else match _ : next c rest with
      | (token,some after) => token :: scan after
      | (token,none) => [token]
termination_by text => text.length
decreasing_by
  · simp
  · have := next_le ‹_›
    simp only [List.length_cons]
    omega

end Token

end Questionnaire.Json
