import Questionnaire.Text.Split
/-!
Character tables written as text: lines of words between blanks, each word starting with a code
point in hexadecimal digits or with the first and the last code point of a range.
-/

namespace Questionnaire.Unicode

def hexValue (c : Char) : Nat :=
  if c.toNat < 'A'.toNat then c.toNat - '0'.toNat else c.toNat - 'A'.toNat + 10

def ofHex (digits : List Char) : Nat := digits.foldl (fun n c => 16 * n + hexValue c) 0

def isHexDigit (c : Char) : Bool := ('0' ≤ c && c ≤ '9') || ('A' ≤ c && c ≤ 'F')

structure Row (α : Type) where
  first : Nat
  last : Nat
  entry : α

def words (table : String) : List (List Char) :=
  ((Text.split '\n' table.toList).flatMap (Text.split ' ')).filter (· ≠ [])

def Row.ofWord (word : List Char) : Row (List Char) :=
  let first := ofHex (word.takeWhile isHexDigit)
  match word.dropWhile isHexDigit with
  | '-' :: rest => ⟨first,ofHex (rest.takeWhile isHexDigit),rest.dropWhile isHexDigit⟩
  | rest => ⟨first,first,rest⟩

def rowsOf (table : String) : Array (Row (List Char)) :=
  ((words table).map Row.ofWord).toArray

def lookup {α : Type} (rows : Array (Row α)) (c : Char) : Option α :=
  (rows.find? fun row => row.first ≤ c.toNat && c.toNat ≤ row.last).map Row.entry

def listed {α : Type} (rows : Array (Row α)) (c : Char) : Bool := (lookup rows c).isSome

def sequenceOf (text : List Char) : List Char :=
  if text = [] then [] else (Text.split '.' text).map fun digits => Char.ofNat (ofHex digits)

end Questionnaire.Unicode
