import EnvInject.Text.Digits
import EnvInject.Yaml.Value

/-!
# Plain scalars

What a scalar without quotes means.

* `Plain.bool?`, `Plain.integer`, `Plain.float?` : the truth values and numbers;
* `Plain.value?` : the value of a plain scalar.
-/

namespace EnvInject.Yaml.Plain

def isNull (s : String) : Bool := s == "null" || s == "Null" || s == "NULL" || s == "~"

def bool? (s : String) : Option Bool :=
  if s == "true" || s == "True" || s == "TRUE" then some true
  else if s == "false" || s == "False" || s == "FALSE" then some false
  else none

/-! ## Integers -/

/-- Whether a text is digits of which the first is a zero that says nothing. -/
def isPadded (s : String) : Bool :=
  let digits := match s.toList with
    | '-' :: rest | '+' :: rest => rest
    | cs => cs
  1 < digits.length && digits.head? == some '0' && digits.all Char.isDigit

/-- The number of digits with the sign of their base in front: `0x`, `0o`, `0b` or none. -/
def magnitude? : List Char → Option Nat
  | '0' :: 'x' :: digits => Digits.number? 16 digits
  | '0' :: 'o' :: digits => Digits.number? 8 digits
  | '0' :: 'b' :: digits => Digits.number? 2 digits
  | digits => Digits.number? 10 digits

def signed? (cs : List Char) : Option Int :=
  match cs with
  | '-' :: rest => (magnitude? rest).map fun n => -(n : Int)
  | '+' :: rest => (magnitude? rest).map fun n => (n : Int)
  | cs => (magnitude? cs).map fun n => (n : Int)

inductive IntegerText where
  | integer (n : Int)
  /-- An integer of more than 64 bits. -/
  | tooWide
  | other

/-- Whether a word of this size holds an integer, with or without a sign. -/
def fits (size : Nat) (n : Int) : Bool := -((size / 2 : Nat) : Int) ≤ n && n < size

/-- Reads an integer. One of more than 128 bits is no integer. -/
def integer (s : String) : IntegerText :=
  if isPadded s then .other
  else match signed? s.toList with
    | none => .other
    | some n =>
      if fits UInt64.size n then .integer n
      else if fits (UInt64.size * UInt64.size) n then .tooWide
      else .other

/-! ## Floating point numbers -/

def exponent? : List Char → Option Int
  | '-' :: digits => (Digits.number? 10 digits).map fun n => -(n : Int)
  | '+' :: digits => (Digits.number? 10 digits).map fun n => (n : Int)
  | digits => (Digits.number? 10 digits).map fun n => (n : Int)

/-- The magnitude of digits with or without a point and an exponent, if it is not too great. -/
def decimal? (cs : List Char) : Option Binary64.Magnitude := do
  let whole := cs.takeWhile Char.isDigit
  let afterWhole := cs.dropWhile Char.isDigit
  let (fraction, afterFraction) := match afterWhole with
    | '.' :: rest => (rest.takeWhile Char.isDigit, rest.dropWhile Char.isDigit)
    | rest => ([], rest)
  let digits ← Digits.number? 10 (whole ++ fraction)
  let shift ← match afterFraction with
    | [] => some 0
    | 'e' :: rest | 'E' :: rest => exponent? rest
    | _ => none
  Binary64.ofDecimal digits (shift - fraction.length)

def float? (s : String) : Option Binary64 :=
  let infinities := [".inf", ".Inf", ".INF"]
  let finite? (negative : Bool) (cs : List Char) : Option Binary64 :=
    (decimal? cs).map fun m => Binary64.signed negative (some m)
  match s.toList with
  | '+' :: rest =>
    if infinities.contains (String.ofList rest) then some (.infinite false)
    else finite? false rest
  | '-' :: rest =>
    if infinities.contains (String.ofList rest) then some (.infinite true)
    else finite? true rest
  | cs =>
    if infinities.contains s then some (.infinite false)
    else if s == ".nan" || s == ".NaN" || s == ".NAN" then some .nan
    else finite? false cs

/-! ## Values -/

/-- The value of a plain scalar: what it can be read as first, and at last its text. -/
def value? (s : String) : Option Value :=
  if s.isEmpty || isNull s then some .null
  else match bool? s, integer s with
    | some b, _ => some (.bool b)
    | none, .integer n => some (.number (.int n))
    | none, .tooWide => none
    | none, .other =>
      match if isPadded s then none else float? s with
      | some x => some (.number (.float x))
      | none => some (.string s)

end EnvInject.Yaml.Plain
