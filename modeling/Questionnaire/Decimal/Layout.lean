import Questionnaire.Decimal.Nearest
import Questionnaire.Decimal.Shortest
/-!
Writing a double: the shortest digits laid out with a point or with an exponent.
-/

namespace Questionnaire.Decimal

-- The place of the point is the number of digits before it, negative when zeros follow it.
-- `positional` tells the places at which no exponent is written.
structure Layout where
  tie : Tie
  positional : Int → Bool
  pointZero : Bool
  infinite : List Char
  negativeInfinite : List Char
  notANumber : List Char

def positionalText (pointZero : Bool) (digits : List Char) (place : Int) : List Char :=
  if place ≤ 0 then '0' :: '.' :: (List.replicate (-place).toNat '0' ++ digits)
  else if place.toNat < digits.length then digits.take place.toNat ++ '.' :: digits.drop place.toNat
  else digits ++ List.replicate (place.toNat - digits.length) '0' ++
    (if pointZero then ['.','0'] else [])

def exponentText (digits : List Char) (place : Int) : List Char :=
  let power := place - 1
  digits.take 1 ++ (if digits.length ≤ 1 then [] else '.' :: digits.drop 1) ++
    'e' :: (if power < 0 then '-' else '+') :: toDigits power.natAbs

def Layout.magnitudeText (layout : Layout) (x : Float) : List Char :=
  let b := Binary.ofFloat x
  if b.m = 0 then positionalText layout.pointZero ['0'] 1
  else
    let shortest := b.shortest layout.tie
    let digits := toDigits shortest.digits
    let place := digits.length + shortest.exponent
    if layout.positional place then positionalText layout.pointZero digits place
    else exponentText digits place

def Layout.text (layout : Layout) (x : Float) : List Char :=
  if x.isNaN then layout.notANumber
  else if x.isInf then if signBit x then layout.negativeInfinite else layout.infinite
  else (if signBit x then ['-'] else []) ++ layout.magnitudeText x

end Questionnaire.Decimal
