import Questionnaire.Unicode.CombiningClass
import Questionnaire.Unicode.Decomposition
/-!
The composed normal form of a text: every character is taken apart, marks are put in the order of
their classes, and what can be joined again is joined.
-/

namespace Questionnaire.Unicode

-- A syllable is numbered by its leading consonant, its vowel and its trailing consonant.
def syllableBase : Nat := 0xAC00
def leadBase : Nat := 0x1100
def vowelBase : Nat := 0x1161
-- One below the first trailing consonant: number zero is the syllable without one.
def trailBase : Nat := 0x11A7
def leadCount : Nat := 19
def vowelCount : Nat := 21
def trailCount : Nat := 28
def syllableCount : Nat := leadCount * vowelCount * trailCount

def isSyllable (c : Char) : Bool :=
  syllableBase ≤ c.toNat && c.toNat < syllableBase + syllableCount

def splitSyllable (c : Char) : List Char :=
  let n := c.toNat - syllableBase
  let lead := Char.ofNat (leadBase + n / (vowelCount * trailCount))
  let vowel := Char.ofNat (vowelBase + n / trailCount % vowelCount)
  if n % trailCount = 0 then [lead,vowel]
  else [lead,vowel,Char.ofNat (trailBase + n % trailCount)]

def joinSyllable? (a b : Char) : Option Char :=
  if leadBase ≤ a.toNat && a.toNat < leadBase + leadCount &&
      vowelBase ≤ b.toNat && b.toNat < vowelBase + vowelCount then
    some (Char.ofNat (syllableBase +
      ((a.toNat - leadBase) * vowelCount + (b.toNat - vowelBase)) * trailCount))
  else if isSyllable a && (a.toNat - syllableBase) % trailCount = 0 &&
      trailBase < b.toNat && b.toNat < trailBase + trailCount then
    some (Char.ofNat (a.toNat + (b.toNat - trailBase)))
  else none

def decomposeOnce (c : Char) : List Char :=
  if isSyllable c then splitSyllable c
  else ((decompositions.find? (·.composite = c)).map Decomposition.parts).getD [c]

-- No character of the table needs more than three steps.
def decompose (text : List Char) : List Char :=
  ((text.flatMap decomposeOnce).flatMap decomposeOnce).flatMap decomposeOnce

def place (c : Char) : List Char → List Char
  | [] => [c]
  | d :: rest =>
    if combiningClass d ≠ 0 && combiningClass d < combiningClass c then d :: place c rest
    else c :: d :: rest

-- Marks between two characters of class zero stand in the order of their classes, equal classes as
-- they came.
def reorder (text : List Char) : List Char := text.foldr place []

def compose? (a b : Char) : Option Char :=
  match joinSyllable? a b with
  | some c => some c
  | none => (decompositions.find? fun d => d.primary && d.parts == [a,b]).map Decomposition.composite

-- `starter` is the last character of class zero; `marks` are those that stayed behind it, latest
-- first. A mark of the same class or a higher one blocks the way.
def composeAfter (starter : Char) (marks : List Char) : List Char → List Char
  | [] => starter :: marks.reverse
  | c :: rest =>
    let blocked := marks.head?.elim false fun mark => combiningClass c ≤ combiningClass mark
    match if blocked then none else compose? starter c with
    | some joined => composeAfter joined marks rest
    | none =>
      if combiningClass c = 0 then starter :: (marks.reverse ++ composeAfter c [] rest)
      else composeAfter starter (c :: marks) rest

def compose : List Char → List Char
  | [] => []
  | c :: rest => if combiningClass c = 0 then composeAfter c [] rest else c :: compose rest

def normalForm (text : List Char) : List Char := compose (reorder (decompose text))

end Questionnaire.Unicode
