import Questionnaire.Address.Punycode
import Questionnaire.Text.Split
import Questionnaire.Unicode.Direction
import Questionnaire.Unicode.HostMapping
import Questionnaire.Unicode.Joining
import Questionnaire.Unicode.Mark
import Questionnaire.Unicode.Normal
/-!
Domain names in any script. A name is mapped character by character and brought to its composed
normal form; its labels then have to keep the rules for joiners, marks and directions.
-/

namespace Questionnaire.Domain

open Unicode

def isForbidden (c : Char) : Bool :=
  c ≤ ' ' || c = '\x7f' ||
    ['#','%','/',':','<','>','?','@','[','\\',']','^','|'].contains c

-- A sign that a mark turns into another character is not forbidden.
def mapped? (name : List Char) : Option (List Char) := do
  let pieces ← name.mapM fun c =>
    match hostFate c with
    | .stands => some [c]
    | .becomes text => some text
    | .forbidden => none
  let text := normalForm pieces.flatten
  if text.any isForbidden then none else some text

def nonJoiner : Char := '\u200c'
def joiner : Char := '\u200d'

def virama : Nat := 9

def joinsNext (sides : List Joining) (text : List Char) : Bool :=
  match text.dropWhile (joining? · = some .transparent) with
  | [] => false
  | c :: _ => sides.any fun side => joining? c = some side

-- A joiner stands behind a virama; a non-joiner may also stand between characters that would join.
-- `before` is the text up to here, last character first.
def joinersFit (before : List Char) : List Char → Bool
  | [] => true
  | c :: rest =>
    let afterVirama := before.head?.elim false fun d => combiningClass d = virama
    let fits :=
      if c = joiner then afterVirama
      else if c = nonJoiner then
        afterVirama || (joinsNext [.left,.both] before && joinsNext [.right,.both] rest)
      else true
    fits && joinersFit (c :: before) rest

def isRightToLeft (c : Char) : Bool :=
  match direction c with
  | .rightToLeft | .arabicLetter | .arabicNumber => true
  | _ => false

def lastDirection? (label : List Char) : Option Direction :=
  (label.map direction).reverse.find? (· ≠ .nonspacingMark)

def weak : List Direction :=
  [.europeanNumber,.europeanSeparator,.commonSeparator,.europeanTerminator,.neutral,
    .boundaryNeutral,.nonspacingMark]

def directionsFit (label : List Char) : Bool :=
  match label.map direction with
  | [] => true
  | .leftToRight :: rest =>
    rest.all (fun d => d = .leftToRight || weak.contains d) &&
      (lastDirection? label).any fun d => [.leftToRight,.europeanNumber].contains d
  | first :: rest =>
    [Direction.rightToLeft,.arabicLetter].contains first &&
      rest.all (fun d =>
        [Direction.rightToLeft,.arabicLetter,.arabicNumber].contains d || weak.contains d) &&
      (lastDirection? label).any (fun d =>
        [Direction.rightToLeft,.arabicLetter,.europeanNumber,.arabicNumber].contains d) &&
      !(rest.contains .europeanNumber && rest.contains .arabicNumber)

def codedMark : List Char := ['x','n','-','-']

-- Longer labels are refused rather than decoded or encoded.
def longestCoded : Nat := 2000
def longestPlain : Nat := 1000

def isAscii (label : List Char) : Bool := label.all (·.toNat < 128)

-- What a coded label stands for has to need the coding, and must be what mapping would have left as
-- it is.
def plainLabel? (label : List Char) : Option (List Char) :=
  if codedMark.isPrefixOf label then do
    let coded := label.drop codedMark.length
    let plain ← if coded.length ≤ longestCoded then Punycode.decode coded else none
    if isAscii plain || codedMark.isPrefixOf plain || normalForm plain ≠ plain then none
    else some plain
  else some label

def labelFits (label : List Char) : Bool :=
  label.all (hostFate · = .stands) && !(label.head?.any isMark) && joinersFit [] label &&
    (isAscii label || label.length ≤ longestPlain)

def name? (name : List Char) : Option (List Char) := do
  let text ← mapped? name
  let labels ← (Text.split '.' text).mapM plainLabel?
  let bidirectional := labels.any (·.any isRightToLeft)
  if labels.all labelFits && (!bidirectional || labels.all directionsFit) then some text else none

end Questionnaire.Domain
