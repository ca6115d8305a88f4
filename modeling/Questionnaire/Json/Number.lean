import Questionnaire.Decimal.Nearest
/-!
Numbers in documents: how a number is spelt, and the value it stands for.
-/

namespace Questionnaire.Json

open Decimal (isDigit digitValue)

inductive Number where
  | whole (n : Int)
  | double (x : Float)
deriving DecidableEq

structure Spelling where
  negative : Bool
  whole : List Char
  fraction : Option (List Char)
  power : Option Int
deriving DecidableEq

def absorb (n : Nat) : List Char → Nat × List Char
  | [] => (n,[])
  | c :: rest =>
    if 10 * n + digitValue c < Nat.pow 2 64 then absorb (10 * n + digitValue c) rest else (n,c :: rest)

def powerOfTen (n : Nat) : Float := OfScientific.ofScientific 1 false n

def scaleDown (x : Float) (places : Nat) : Float :=
  if places ≤ 308 then x / powerOfTen places
  else if x == 0.0 then x
  else scaleDown (x / powerOfTen 308) (places - 308)
termination_by places

-- One rounding for the significand and one for the scaling: the result can differ from the nearest
-- double in its last bit.
def scaled (significand : Nat) (places : Int) : Option Float :=
  let x := Float.ofNat significand
  if places < 0 then some (scaleDown x places.natAbs)
  else if 308 < places then if x == 0.0 then some x else none
  else
    let y := x * powerOfTen places.toNat
    if y.isInf then none else some y

-- Digits past the sixty-four bits are dropped, those before the point counting as places.
def Spelling.double? (s : Spelling) : Option Float :=
  let (significand,dropped) := absorb 0 s.whole
  let fraction := s.fraction.getD []
  let (significand,ignored) := absorb significand fraction
  let places := dropped.length - ((fraction.length - ignored.length : Nat) : Int) + s.power.getD 0
  (scaled significand places).map (Decimal.signed s.negative)

-- Without point and power a spelling is a whole number if that fits; minus zero is a double.
def Spelling.value? (s : Spelling) : Option Number :=
  let n := Decimal.ofDigits s.whole
  if s.fraction.isNone && s.power.isNone && !s.negative && n < Nat.pow 2 64 then some (.whole n)
  else if s.fraction.isNone && s.power.isNone && s.negative && n ≠ 0 && n ≤ Nat.pow 2 63 then
    some (.whole (-n))
  else s.double?.map .double

def Number.toFloat : Number → Float
  | .whole n => Decimal.nearest (n < 0) n.natAbs 0
  | .double x => x

end Questionnaire.Json
