/-!
Decimal digits: their values, the numbers they write, and the signs and rows of digits at the head
of a text.
-/

namespace Questionnaire.Decimal

def isDigit (c : Char) : Bool := '0' ≤ c && c ≤ '9'

def digitValue (c : Char) : Nat := c.toNat - '0'.toNat

def ofDigits (digits : List Char) : Nat :=
  digits.foldl (fun n c => 10 * n + digitValue c) 0

def toDigits (n : Nat) : List Char := Nat.toDigits 10 n

def splitDigits (text : List Char) : List Char × List Char :=
  (text.takeWhile isDigit,text.dropWhile isDigit)

def isSign (c : Char) : Bool := c = '+' || c = '-'

def splitSign : List Char → List Char × List Char
  | [] => ([],[])
  | c :: rest => if isSign c then ([c],rest) else ([],c :: rest)

theorem splitDigits_append (text : List Char) :
    (splitDigits text).1 ++ (splitDigits text).2 = text :=
  List.takeWhile_append_dropWhile

theorem splitSign_append (text : List Char) : (splitSign text).1 ++ (splitSign text).2 = text := by
  cases text with
  | nil => rfl
  | cons c rest => simp only [splitSign]; split <;> simp

theorem length_splitSign_le (text : List Char) : (splitSign text).2.length ≤ text.length := by
  have whole := congrArg List.length (splitSign_append text)
  rw [List.length_append] at whole
  omega

end Questionnaire.Decimal
