import Questionnaire.Unicode.Invisible
/-!
A text between quotes in which every character can be seen: the invisible ones appear by their
number.
-/

namespace Questionnaire.Text

def lowerHex (n : Nat) : List Char := Nat.toDigits 16 n

def visibleChar (c : Char) : List Char :=
  match c with
  | '\x00' => ['\\','0']
  | '\t' => ['\\','t']
  | '\r' => ['\\','r']
  | '\n' => ['\\','n']
  | '\\' => ['\\','\\']
  | '"' => ['\\','"']
  | _ =>
    if Unicode.isInvisible c then '\\' :: 'u' :: '\x7b' :: (lowerHex c.toNat ++ ['\x7d']) else [c]

def visible (text : String) : String :=
  String.ofList ('"' :: (text.toList.flatMap visibleChar ++ ['"']))

end Questionnaire.Text
