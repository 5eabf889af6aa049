import EnvInject.Number.Shortest

/-!
# Numbers in documents

A number in a document is an integer or a floating point number. Its text is the integer's digits,
or the shortest decimal that reads back, laid out as the document's format has it.

* `Number` : the numbers;
* `Number.Layout` : how a format writes floating point numbers;
* `Number.text` : the text under a layout.
-/

namespace EnvInject

inductive Number where
  | int (n : Int)
  | float (x : Binary64)
  deriving DecidableEq, Repr

namespace Number

structure Layout where
  /-- The least exponent of the first digit that is written without an exponent. -/
  leastPositional : Int
  /-- The greatest exponent of the first digit that is written without an exponent. -/
  greatestPositional : Int
  /-- What stands before a positive exponent. -/
  plus : String
  /-- The texts of what is not finite. -/
  infinity : String := ".inf"
  negativeInfinity : String := "-.inf"
  notANumber : String := ".nan"

/-- Equality of value among numbers of one kind; an integer never equals a floating point number. -/
def sameValue : Number → Number → Bool
  | int n, int n' => n == n'
  | float x, float x' => x.sameValue x'
  | _, _ => false

def zeros (n : Nat) : String := String.ofList (List.replicate n '0')

/-- A decimal as a layout writes it: with a point, `.0` if it is whole, or with an exponent. -/
def decimalText (layout : Layout) (d : Decimal) : String :=
  let digits := toString d.digits
  let width := digits.length
  let leading := (width : Int) - 1 + d.exponent
  if d.digits = 0 then "0.0"
  else if layout.leastPositional ≤ leading ∧ leading ≤ layout.greatestPositional then
    if 0 ≤ d.exponent then digits ++ zeros d.exponent.toNat ++ ".0"
    else if 0 ≤ leading then
      let whole := (leading + 1).toNat
      String.ofList (digits.toList.take whole) ++ "." ++ String.ofList (digits.toList.drop whole)
    else "0." ++ zeros (-leading - 1).toNat ++ digits
  else
    let fraction := if width = 1 then "" else "." ++ String.ofList (digits.toList.drop 1)
    let sign := if leading < 0 then "" else layout.plus
    String.ofList (digits.toList.take 1) ++ fraction ++ "e" ++ sign ++ toString leading

def floatText (layout : Layout) : Binary64 → String
  | .finite negative significand exponent =>
    (if negative then "-" else "") ++ decimalText layout (Decimal.shortest (significand, exponent))
  | .infinite negative => if negative then layout.negativeInfinity else layout.infinity
  | .nan => layout.notANumber

def text (layout : Layout) : Number → String
  | int n => toString n
  | float x => floatText layout x

end Number

end EnvInject
