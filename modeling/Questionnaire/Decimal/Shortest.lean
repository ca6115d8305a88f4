/-!
The fewest decimal digits that still name one double and no other. A positive double is taken as
`m * 2 ^ q`; the reals that round to it form an interval, and the coarsest power-of-ten grid with a
point in that interval gives the digits.
-/

namespace Questionnaire.Decimal

inductive Tie where
  | up
  | even
deriving DecidableEq, Repr

structure Binary where
  m : Nat
  q : Int
deriving DecidableEq, Repr

def signBit (x : Float) : Bool := x.toBits.toNat / Nat.pow 2 63 = 1

def exponentField (x : Float) : Nat := x.toBits.toNat / Nat.pow 2 52 % Nat.pow 2 11

def fractionField (x : Float) : Nat := x.toBits.toNat % Nat.pow 2 52

def Binary.ofFloat (x : Float) : Binary :=
  if exponentField x = 0 then ⟨fractionField x,-1074⟩
  else ⟨Nat.pow 2 52 + fractionField x,exponentField x - 1075⟩

-- A power of two has its lower neighbour at half the distance of the upper one, except where the
-- doubles are evenly spaced, at the smallest exponent.
def Binary.nearBelow (b : Binary) : Bool := b.m = Nat.pow 2 52 && -1074 < b.q

-- One point of a grid against the interval of one double, both scaled to whole numbers: the double
-- stands at `4 * m * unit`, the points at the multiples of `step`.
structure Ruler where
  low : Nat
  value : Nat
  high : Nat
  step : Nat
  closed : Bool

-- The interval reaches half way to either neighbour and holds its ends when `m` is even.
def Binary.ruler (b : Binary) (k : Int) : Ruler :=
  let unit := Nat.pow 2 (b.q - 2).toNat * Nat.pow 10 (-k).toNat
  { low := (4 * b.m - (if b.nearBelow then 1 else 2)) * unit
    value := 4 * b.m * unit
    high := (4 * b.m + 2) * unit
    step := Nat.pow 2 (2 - b.q).toNat * Nat.pow 10 k.toNat
    closed := b.m % 2 = 0 }

def Ruler.holds (r : Ruler) (point : Nat) : Bool :=
  if r.closed then r.low ≤ point * r.step && point * r.step ≤ r.high
  else r.low < point * r.step && point * r.step < r.high

def Ruler.pick (r : Ruler) (tie : Tie) : Option Nat :=
  let below := r.value / r.step
  let above := below + 1
  match r.holds below,r.holds above with
  | false,false => none
  | true,false => some below
  | false,true => some above
  | true,true =>
    let down := r.value - below * r.step
    let up := above * r.step - r.value
    if down < up then some below
    else if up < down then some above
    else match tie with
      | .up => some above
      | .even => some (if below % 2 = 0 then below else above)

structure Figures where
  digits : Nat
  exponent : Int
deriving DecidableEq, Repr

-- Every double lies between the grids 10 ^ 309 and 10 ^ -324, and the finest of them is finer
-- than the distance of any two doubles.
def grids : List Int := (List.range 634).map fun i : Nat => 309 - Int.ofNat i

def Binary.shortest (b : Binary) (tie : Tie) : Figures :=
  (grids.findSome? fun k => ((b.ruler k).pick tie).map (⟨·,k⟩)).getD ⟨0,0⟩

example : (Binary.ofFloat 0.1).shortest .even = ⟨1,-1⟩ := by decide +kernel
example : (Binary.ofFloat 5e-324).shortest .even = ⟨5,-324⟩ := by decide +kernel
example : (Binary.ofFloat 1125899906842624.25).shortest .up = ⟨11258999068426243,-1⟩ := by
  decide +kernel
example : (Binary.ofFloat 1125899906842624.25).shortest .even = ⟨11258999068426242,-1⟩ := by
  decide +kernel

end Questionnaire.Decimal
