import Questionnaire.Decimal.Layout
import Questionnaire.Json.Number
/-!
Values as they are written: on one line, or indented by two blanks a level.
-/

namespace Questionnaire.Json

inductive Value where
  | null
  | bool (b : Bool)
  | number (n : Number)
  | text (s : String)
  | list (items : List Value)
  | map (members : List (String × Value))

-- An exponent below a hundred-thousandth and from ten to the sixteenth on, a fraction always, and
-- `null` for what is no number.
def layout : Decimal.Layout where
  tie := .even
  positional place := -5 < place && place ≤ 16
  pointZero := true
  infinite := ['n','u','l','l']
  negativeInfinite := ['n','u','l','l']
  notANumber := ['n','u','l','l']

def wholeText (n : Int) : List Char :=
  (if n < 0 then ['-'] else []) ++ Decimal.toDigits n.natAbs

def Number.text : Number → List Char
  | .whole n => wholeText n
  | .double x => layout.text x

def hexDigit (n : Nat) : Char := Char.ofNat (if n < 10 then '0'.toNat + n else 'a'.toNat + (n - 10))

def escape (c : Char) : List Char :=
  match c with
  | '"' => ['\\','"']
  | '\\' => ['\\','\\']
  | '\x08' => ['\\','b']
  | '\x0c' => ['\\','f']
  | '\n' => ['\\','n']
  | '\r' => ['\\','r']
  | '\t' => ['\\','t']
  | _ =>
    if c < ' ' then ['\\','u','0','0',hexDigit (c.toNat / 16),hexDigit (c.toNat % 16)] else [c]

def quote (s : String) : List Char := '"' :: (s.toList.flatMap escape ++ ['"'])

namespace Value

mutual
def compactText : Value → List Char
  | .null => ['n','u','l','l']
  | .bool true => ['t','r','u','e']
  | .bool false => ['f','a','l','s','e']
  | .number n => n.text
  | .text s => quote s
  | .list items => '[' :: (compactItems items ++ [']'])
  | .map members => '\x7b' :: (compactMembers members ++ ['\x7d'])
termination_by structural v => v
def compactItems : List Value → List Char
  | [] => []
  | item :: rest => compactText item ++ (if rest.isEmpty then [] else [',']) ++ compactItems rest
termination_by structural items => items
def compactMembers : List (String × Value) → List Char
  | [] => []
  | member :: rest =>
    compactMember member ++ (if rest.isEmpty then [] else [',']) ++ compactMembers rest
termination_by structural members => members
def compactMember : String × Value → List Char
  | (key,value) => quote key ++ ':' :: compactText value
termination_by structural member => member
end

def newLine (level : Nat) : List Char := '\n' :: List.replicate (2 * level) ' '

mutual
def indentedText (level : Nat) : Value → List Char
  | .null => ['n','u','l','l']
  | .bool true => ['t','r','u','e']
  | .bool false => ['f','a','l','s','e']
  | .number n => n.text
  | .text s => quote s
  | .list items =>
    '[' :: (indentedItems (level + 1) items ++
      (if items.isEmpty then [] else newLine level) ++ [']'])
  | .map members =>
    '\x7b' :: (indentedMembers (level + 1) members ++
      (if members.isEmpty then [] else newLine level) ++ ['\x7d'])
termination_by structural v => v
def indentedItems (level : Nat) : List Value → List Char
  | [] => []
  | item :: rest =>
    newLine level ++ indentedText level item ++ (if rest.isEmpty then [] else [',']) ++
      indentedItems level rest
termination_by structural items => items
def indentedMembers (level : Nat) : List (String × Value) → List Char
  | [] => []
  | member :: rest =>
    newLine level ++ indentedMember level member ++ (if rest.isEmpty then [] else [',']) ++
      indentedMembers level rest
termination_by structural members => members
def indentedMember (level : Nat) : String × Value → List Char
  | (key,value) => quote key ++ ':' :: ' ' :: indentedText level value
termination_by structural member => member
end

def compact (v : Value) : String := String.ofList v.compactText

def indented (v : Value) : String := String.ofList (v.indentedText 0)

end Value

end Questionnaire.Json
