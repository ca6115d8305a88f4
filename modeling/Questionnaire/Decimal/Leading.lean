import Questionnaire.Decimal.Nearest
import Questionnaire.Text.Blank
/-!
The number a free text starts with. Blanks before it and anything after it are ignored, so that
`" 12 kg"` reads as twelve; a text that starts with no number reads as not-a-number.
-/

namespace Questionnaire.Decimal

structure Power where
  mark : Char
  sign : List Char
  digits : List Char
deriving DecidableEq, Repr

inductive Numeral where
  | infinite (sign : List Char)
  | decimal (sign whole : List Char) (fraction : Option (List Char)) (power : Option Power)
deriving DecidableEq, Repr

def infinityWord : List Char := ['I','n','f','i','n','i','t','y']

-- A bare point counts only behind digits.
def splitFraction (whole : List Char) : List Char → Option (List Char) × List Char
  | '.' :: rest =>
    let (digits,after) := splitDigits rest
    if whole = [] && digits = [] then (none,'.' :: rest) else (some digits,after)
  | text => (none,text)

def splitPower : List Char → Option Power × List Char
  | c :: rest =>
    let (sign,unsigned) := splitSign rest
    let (digits,after) := splitDigits unsigned
    if (c = 'e' || c = 'E') && digits ≠ [] then (some ⟨c,sign,digits⟩,after)
    else (none,c :: rest)
  | [] => (none,[])

def Numeral.leading? (text : List Char) : Option Numeral :=
  let (sign,unsigned) := splitSign text
  if infinityWord.isPrefixOf unsigned then some (.infinite sign)
  else
    let (whole,afterWhole) := splitDigits unsigned
    let (fraction,afterFraction) := splitFraction whole afterWhole
    if whole = [] && fraction = none then none
    else some (.decimal sign whole fraction (splitPower afterFraction).1)

def Power.text (p : Power) : List Char := p.mark :: (p.sign ++ p.digits)

def Numeral.text : Numeral → List Char
  | .infinite sign => sign ++ infinityWord
  | .decimal sign whole fraction power =>
    sign ++ whole ++ (fraction.elim [] ('.' :: ·)) ++ (power.elim [] Power.text)

def Power.value (p : Power) : Int :=
  if p.sign = ['-'] then -(ofDigits p.digits) else ofDigits p.digits

def Numeral.value : Numeral → Float
  | .infinite sign => signed (sign = ['-']) infinity
  | .decimal sign whole fraction power =>
    let places := fraction.getD []
    nearest (sign = ['-']) (ofDigits (whole ++ places))
      (power.elim 0 Power.value - (places.length : Int))

def leadingNumber (text : List Char) : Float :=
  ((Numeral.leading? (Text.trimStart text)).map Numeral.value).getD notANumber

end Questionnaire.Decimal
