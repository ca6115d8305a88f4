import Questionnaire.Decimal.Digits
/-!
Masks: templates that reformat what was typed. Each `9` of a template takes the next digit, every
other character is written as it stands.
-/

namespace Questionnaire.Mask

open Decimal (isDigit)

def slot : Char := '9'

-- Digit slots pass over everything that is no digit; a literal takes up one character if that is
-- the literal itself. It ends with either side, so nothing is written behind the last character
-- typed.
def fit : List Char → List Char → List Char
  | [],_ => []
  | _ :: _,[] => []
  | m :: template,c :: rest =>
    if m = slot then
      match (c :: rest).dropWhile (!isDigit ·) with
      | [] => []
      | digit :: later => digit :: fit template later
    else m :: fit template (if c = m then rest else c :: rest)

def apply (template raw : String) : String := String.ofList (fit template.toList raw.toList)

def keystrokes (template : String) (typed : List Char) : List String :=
  go "" typed
where
  go (current : String) : List Char → List String
    | [] => []
    | c :: rest =>
      let next := apply template (current.push c)
      next :: go next rest

example : apply "999.999.999-99" "12345678901" = "123.456.789-01" := by decide
example : apply "999.999.999-99" "1234" = "123.4" := by decide
example : apply "99/99" "1a2b3" = "12/3" := by decide

end Questionnaire.Mask
