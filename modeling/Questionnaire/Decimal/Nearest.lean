import Questionnaire.Decimal.Digits
/-!
The double nearest to a whole number times a power of ten.
-/

namespace Questionnaire.Decimal

def infinity : Float := 1.0 / 0.0

def notANumber : Float := 0.0 / 0.0

-- Beyond these places of the leading digit every value rounds to infinity or to zero,
-- so no power of ten larger than the digits warrant is ever computed.
def largestPlace : Int := 310
def smallestPlace : Int := -330

def magnitude (significand : Nat) (exponent : Int) : Float :=
  let place := (toDigits significand).length + exponent
  if significand = 0 then 0.0
  else if largestPlace < place then infinity
  else if place < smallestPlace then 0.0
  else OfScientific.ofScientific significand (exponent < 0) exponent.natAbs

def signed (negative : Bool) (x : Float) : Float := if negative then -x else x

def nearest (negative : Bool) (significand : Nat) (exponent : Int) : Float :=
  signed negative (magnitude significand exponent)

end Questionnaire.Decimal
