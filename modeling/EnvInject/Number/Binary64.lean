/-!
# Binary floating point

The numbers that 64 bits hold as sign, 53-bit significand and binary exponent, in exact integer
arithmetic. Every operation is the exact result, rounded once to the nearest number held, a tie to
the even significand.

* `Binary64.round` : the number nearest to a ratio scaled by a power of two;
* `ofNat`, `ofDecimal`, `times`, `dividedBy` : rounded conversions and operations on magnitudes.
-/

namespace EnvInject

/-- A floating point number. A finite magnitude is `significand * 2 ^ exponent`, where the
significand is below `2 ^ 53` and the exponent the least possible one, at least `-1074`. -/
inductive Binary64 where
  | finite (negative : Bool) (significand : Nat) (exponent : Int)
  | infinite (negative : Bool)
  | nan
  deriving DecidableEq, Repr

namespace Binary64

/-- A finite magnitude: its significand and its exponent. -/
abbrev Magnitude := Nat × Int

/-- The least significand of a magnitude whose exponent is not the least one, `2 ^ 52`. -/
def leadingBit : Nat := 0x10000000000000

def leastExponent : Int := -1074

def greatestExponent : Int := 971

/-- The quotient of `num` and `den` rounded to an integer, a tie to the even one. -/
def divideToEven (num den : Nat) : Nat :=
  let q := num / den
  let r := num % den
  if 2 * r < den then q else if den < 2 * r then q + 1 else q + q % 2

/-- `num / den` as a ratio after division by `2 ^ shift`. -/
def unscale (num den : Nat) (shift : Int) : Nat × Nat :=
  if shift < 0 then (num <<< (-shift).toNat, den) else (num, den <<< shift.toNat)

/-- The magnitude nearest to `num / den * 2 ^ scale`, or `none` if that is beyond the greatest. -/
def round (num den : Nat) (scale : Int) : Option Magnitude :=
  if num = 0 then some (0, leastExponent)
  else
    let bits : Int := (Nat.log2 num : Int) - (Nat.log2 den : Int) + scale
    let guess := max (bits - 52) leastExponent
    let atGuess := unscale num den (guess - scale)
    let exponent :=
      if atGuess.1 / atGuess.2 < leadingBit then max (guess - 1) leastExponent else guess
    let ratio := unscale num den (exponent - scale)
    let significand := divideToEven ratio.1 ratio.2
    let result :=
      if significand = 2 * leadingBit then (leadingBit, exponent + 1) else (significand, exponent)
    if greatestExponent < result.2 then none else some result

def ofNat (n : Nat) : Option Magnitude := round n 1 0

def decimalWidth (n : Nat) : Nat := (Nat.toDigits 10 n).length

/-- The magnitude nearest to `digits * 10 ^ exponent`. -/
def ofDecimal (digits : Nat) (exponent : Int) : Option Magnitude :=
  let width := (decimalWidth digits : Int) + exponent
  if digits = 0 || width < -330 then some (0, leastExponent)
  else if 310 < width then none
  else if exponent < 0 then round digits (Nat.pow 10 (-exponent).toNat) 0
  else round (digits * Nat.pow 10 exponent.toNat) 1 0

def times (a b : Magnitude) : Option Magnitude := round (a.1 * b.1) 1 (a.2 + b.2)

def dividedBy (a b : Magnitude) : Option Magnitude := round a.1 b.1 (a.2 - b.2)

/-- The number with a sign and a magnitude; a magnitude beyond the greatest is infinite. -/
def signed (negative : Bool) : Option Magnitude → Binary64
  | some (significand, exponent) => finite negative significand exponent
  | none => infinite negative

/-- Equality of value: the two zeros are equal, and so is `nan` to itself. -/
def sameValue : Binary64 → Binary64 → Bool
  | finite s m e, finite s' m' e' => (m == 0 && m' == 0) || (s == s' && m == m' && e == e')
  | infinite s, infinite s' => s == s'
  | nan, nan => true
  | _, _ => false

end Binary64

end EnvInject
