import EnvInject.Json
import EnvInject.Text.Digits

/-!
# JSON tokens

The text of a JSON document is cut into tokens by an automaton that reads one character at a time.

* `Json.Token` : punctuation, and complete scalar values;
* `Json.number?` : the number of a number text;
* `Json.tokens?` : the tokens of a text, if every part of it is one.
-/

namespace EnvInject.Json

inductive Token where
  | openArray
  | closeArray
  | openObject
  | closeObject
  | comma
  | colon
  | text (s : String)
  | scalar (value : Json)

/-! ## Numbers -/

/-- Powers of ten above this are divided out step by step. -/
def greatestPower : Nat := 308

def powerOfTen (n : Nat) : Binary64.Magnitude :=
  (Binary64.ofDecimal 1 n).getD (0, Binary64.leastExponent)

/-- Scales `m` by a power of ten in floating point arithmetic; `none` beyond the greatest number. -/
def scaleByTen (m : Binary64.Magnitude) (exponent : Int) : Option Binary64.Magnitude :=
  if exponent.natAbs ≤ greatestPower then
    if exponent < 0 then Binary64.dividedBy m (powerOfTen exponent.natAbs)
    else Binary64.times m (powerOfTen exponent.natAbs)
  else if m.1 = 0 then some m
  else if 0 < exponent then none
  else
    match Binary64.dividedBy m (powerOfTen greatestPower) with
    | none => none
    | some m' => scaleByTen m' (exponent + greatestPower)
termination_by exponent.natAbs
decreasing_by simp only [greatestPower] at *; omega

/-- Takes digits as long as the significand fits 64 bits. -/
def takeDigits (value : Nat) : List Char → Nat × List Char
  | [] => (value, [])
  | c :: rest =>
    let next := value * 10 + (c.toNat - 48)
    if next < UInt64.size then takeDigits next rest else (value, c :: rest)

def isDigits (cs : List Char) : Bool := !cs.isEmpty && cs.all Char.isDigit

def digitsValue (cs : List Char) : Nat := cs.foldl (fun n c => n * 10 + (c.toNat - 48)) 0

def exponent? : List Char → Option Int
  | '-' :: digits => if isDigits digits then some (-(digitsValue digits : Int)) else none
  | '+' :: digits => if isDigits digits then some (digitsValue digits : Int) else none
  | digits => if isDigits digits then some (digitsValue digits : Int) else none

/-- The number with these parts. Without fraction and exponent it is an integer if 64 bits hold it;
else it is the significand's floating point number scaled by the power of ten that is left. Digits
that do not fit the significand are dropped. -/
def assemble (negative : Bool) (whole : List Char) (fraction exponent : Option (List Char)) :
    Option Number :=
  let (lead, rest) := takeDigits 0 whole
  let floating (value : Nat) (scale : Int) : Option Number := do
    let m ← Binary64.ofNat value
    let scaled ← scaleByTen m scale
    pure (.float (Binary64.signed negative (some scaled)))
  match fraction, exponent with
  | none, none =>
    if !rest.isEmpty then floating lead rest.length
    else if !negative then some (.int lead)
    else if 0 < lead ∧ lead ≤ UInt64.size / 2 then some (.int (-(lead : Int)))
    else floating lead 0
  | fraction, exponent => do
    let (value, unread) := takeDigits lead (fraction.getD [])
    let taken := (fraction.getD []).length - unread.length
    let shift ← match exponent with
      | none => some 0
      | some e => exponent? e
    floating value ((rest.length : Int) - taken + shift)

def number? (cs : List Char) : Option Number :=
  let negative := cs.head? == some '-'
  let body := if negative then cs.drop 1 else cs
  let whole := body.takeWhile Char.isDigit
  let afterWhole := body.dropWhile Char.isDigit
  if !isDigits whole || (whole.head? == some '0' && 1 < whole.length) then none
  else
    let (fraction, afterFraction) := match afterWhole with
      | '.' :: rest => (some (rest.takeWhile Char.isDigit), rest.dropWhile Char.isDigit)
      | rest => (none, rest)
    if fraction == some [] then none
    else match afterFraction with
      | [] => assemble negative whole fraction none
      | c :: exponent =>
        if c == 'e' || c == 'E' then
          if (exponent? exponent).isSome then assemble negative whole fraction (some exponent)
          else none
        else none

/-! ## Cutting the text -/

/-- What the automaton is in the middle of; collected characters stand in reverse. -/
inductive Reading where
  | between
  | string (seen : List Char)
  /-- After a backslash. -/
  | escape (seen : List Char)
  /-- In the four digits after `\u`, with the first half of a pair if one came before. -/
  | unicode (seen : List Char) (high : Option Nat) (digits value : Nat)
  /-- After the first half of a pair, where `\u` must follow. -/
  | pairBackslash (seen : List Char) (high : Nat)
  | pairU (seen : List Char) (high : Nat)
  | number (seen : List Char)
  | word (seen : List Char)

def isNumberChar (c : Char) : Bool :=
  c.isDigit || c == '-' || c == '+' || c == '.' || c == 'e' || c == 'E'

def word? : String → Option Token
  | "null" => some (.scalar .null)
  | "true" => some (.scalar (.bool true))
  | "false" => some (.scalar (.bool false))
  | _ => none

/-- What a character starts, and the token it is by itself. -/
def start (c : Char) : Option (List Token × Reading) :=
  if c == ' ' || c == '\n' || c == '\t' || c == '\r' then some ([], .between)
  else if c == '[' then some ([.openArray], .between)
  else if c == ']' then some ([.closeArray], .between)
  else if c == '{' then some ([.openObject], .between)
  else if c == '}' then some ([.closeObject], .between)
  else if c == ',' then some ([.comma], .between)
  else if c == ':' then some ([.colon], .between)
  else if c == '"' then some ([], .string [])
  else if c == '-' || c.isDigit then some ([], .number [c])
  else if c.isAlpha then some ([], .word [c])
  else none

/-- The token that ends where the reading is, if it may end there. -/
def finish : Reading → Option (List Token)
  | .between => some []
  | .number seen => (number? seen.reverse).map fun n => [.scalar (.number n)]
  | .word seen => (word? (String.ofList seen.reverse)).map fun t => [t]
  | _ => none

/-- The character that a backslash and `c` stand for. -/
def escaped? (c : Char) : Option Char :=
  if c == '"' || c == '\\' || c == '/' then some c
  else if c == 'b' then some '\x08'
  else if c == 'f' then some '\x0c'
  else if c == 'n' then some '\n'
  else if c == 'r' then some '\r'
  else if c == 't' then some '\t'
  else none

/-- Goes on after the four digits of a `\u`. The first half of a pair must be followed by the
second, which never stands alone. -/
def afterUnicode (seen : List Char) (high : Option Nat) (value : Nat) : Option Reading :=
  match high with
  | some h =>
    if 0xDC00 ≤ value ∧ value < 0xE000 then
      some (.string (Char.ofNat (0x10000 + (h - 0xD800) * 0x400 + (value - 0xDC00)) :: seen))
    else none
  | none =>
    if 0xD800 ≤ value ∧ value < 0xDC00 then some (.pairBackslash seen value)
    else if 0xDC00 ≤ value ∧ value < 0xE000 then none
    else some (.string (Char.ofNat value :: seen))

def readChar (reading : Reading) (c : Char) : Option (List Token × Reading) :=
  match reading with
  | .between => start c
  | .string seen =>
    if c == '"' then some ([.text (String.ofList seen.reverse)], .between)
    else if c == '\\' then some ([], .escape seen)
    else if c.toNat < 0x20 then none
    else some ([], .string (c :: seen))
  | .escape seen =>
    if c == 'u' then some ([], .unicode seen none 0 0)
    else (escaped? c).map fun e => ([], .string (e :: seen))
  | .unicode seen high digits value => do
    let value := value * 16 + (← Digits.value? 16 c)
    if digits = 3 then (afterUnicode seen high value).map fun r => ([], r)
    else some ([], .unicode seen high (digits + 1) value)
  | .pairBackslash seen high => if c == '\\' then some ([], .pairU seen high) else none
  | .pairU seen high => if c == 'u' then some ([], .unicode seen (some high) 0 0) else none
  | .number seen =>
    if isNumberChar c then some ([], .number (c :: seen))
    else do
      let done ← finish (.number seen)
      let (tokens, reading) ← start c
      pure (done ++ tokens, reading)
  | .word seen =>
    if c.isAlpha then some ([], .word (c :: seen))
    else do
      let done ← finish (.word seen)
      let (tokens, reading) ← start c
      pure (done ++ tokens, reading)

def tokensFrom : Reading → List Char → Option (List Token)
  | reading, [] => finish reading
  | reading, c :: rest => do
    let (tokens, next) ← readChar reading c
    return tokens ++ (← tokensFrom next rest)

def tokens? (s : String) : Option (List Token) := tokensFrom .between s.toList

end EnvInject.Json
