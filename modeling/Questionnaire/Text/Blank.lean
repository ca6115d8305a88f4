/-!
Blanks: the characters that count as white space around an answer, and the tests built on them.
-/

namespace Questionnaire.Text

-- The Unicode property White_Space: twenty-five characters, seventeen of them outside ASCII
-- and Latin-1, so `Char.isWhitespace` is too narrow here.
def blanks : List (Nat × Nat) :=
  [(0x9,0xD),(0x20,0x20),(0x85,0x85),(0xA0,0xA0),(0x1680,0x1680),(0x2000,0x200A),
   (0x2028,0x2029),(0x202F,0x202F),(0x205F,0x205F),(0x3000,0x3000)]

def isBlank (c : Char) : Bool :=
  blanks.any fun range => range.1 ≤ c.toNat && c.toNat ≤ range.2

def trimStart (text : List Char) : List Char := text.dropWhile isBlank

def allBlank (text : List Char) : Bool := text.all isBlank

example : (blanks.map fun range => range.2 - range.1 + 1).sum = 25 := by decide

end Questionnaire.Text
