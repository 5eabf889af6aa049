import EnvInject.Number.Binary64

/-!
# Shortest decimals

The shortest decimal that reads back as a given floating point number, and of several the one
nearest to it. The decimals that read back are those in an interval around the number; on the grid
of decimals of a given length only the number's two neighbours need be tried.

* `interval` : the ratios that round to a magnitude;
* `onGrid?` : the neighbour on a grid that reads back, the nearer of two, the even one on a tie;
* `shortest` : the first grid of 1, 2, … 17 digits with a neighbour that reads back.
-/

namespace EnvInject

/-- `digits * 10 ^ exponent`. -/
structure Decimal where
  digits : Nat
  exponent : Int
  deriving DecidableEq, Repr

namespace Decimal

open Binary64 (Magnitude unscale decimalWidth)

/-- Four times a positive magnitude and the two ends of its rounding interval, over one
denominator. -/
structure Interval where
  value : Nat
  low : Nat
  high : Nat
  den : Nat
  /-- Whether the ends round to the magnitude too. -/
  closed : Bool

/-- The rounding interval of a positive magnitude. The spacing below a power of two is half of that
above it. -/
def interval (m : Magnitude) : Interval :=
  let (scale, den) := unscale 1 1 (-m.2)
  let narrow := m.1 == Binary64.leadingBit && m.2 != Binary64.leastExponent
  { value := 4 * m.1 * scale
    low := (4 * m.1 - if narrow then 1 else 2) * scale
    high := (4 * m.1 + 2) * scale
    den := 4 * den
    closed := m.1 % 2 == 0 }

/-- Whether the decimal `n * 10 ^ exponent` lies in the interval. -/
def Interval.holds (i : Interval) (n : Nat) (exponent : Int) : Bool :=
  let point := n * Nat.pow 10 exponent.toNat * i.den
  let scale := Nat.pow 10 (-exponent).toNat
  if i.closed then i.low * scale ≤ point && point ≤ i.high * scale
  else i.low * scale < point && point < i.high * scale

/-- The exponent of ten of the first digit of `num / den`. -/
def leadingExponent (num den : Nat) : Int :=
  if den ≤ num then (decimalWidth (num / den) : Int) - 1
  else
    let width := decimalWidth (den / num)
    if den ≤ num * Nat.pow 10 (width - 1) then -((width : Int) - 1) else -(width : Int)

/-- The decimal with last place `10 ^ exponent` that reads back, if one does. -/
def onGrid? (i : Interval) (exponent : Int) : Option Nat :=
  let num := i.value * Nat.pow 10 (-exponent).toNat
  let den := i.den * Nat.pow 10 exponent.toNat
  let below := num / den
  let twiceRest := 2 * (num % den)
  match i.holds below exponent, i.holds (below + 1) exponent with
  | true, true =>
    if twiceRest < den then some below
    else if den < twiceRest then some (below + 1)
    else some (below + below % 2)
  | true, false => some below
  | false, true => some (below + 1)
  | false, false => none

def stripZeros : (fuel : Nat) → Decimal → Decimal
  | 0, d => d
  | fuel + 1, d =>
    if d.digits ≠ 0 ∧ d.digits % 10 = 0 then stripZeros fuel ⟨d.digits / 10, d.exponent + 1⟩
    else d

/-- The first grid with a neighbour that reads back, from `count` digits on. -/
def firstGrid (i : Interval) (leading : Int) : (count more : Nat) → Decimal
  | count, 0 => ⟨(onGrid? i (leading - count + 1)).getD 0, leading - count + 1⟩
  | count, more + 1 =>
    match onGrid? i (leading - count + 1) with
    | some n => ⟨n, leading - count + 1⟩
    | none => firstGrid i leading (count + 1) more

/-- The shortest decimal that reads back as `m`. -/
def shortest (m : Magnitude) : Decimal :=
  if m.1 = 0 then ⟨0, 0⟩
  else
    let i := interval m
    stripZeros 20 (firstGrid i (leadingExponent i.value i.den) 1 16)

end Decimal

end EnvInject
