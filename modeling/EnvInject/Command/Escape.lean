import EnvInject.Text.Digits
import EnvInject.Text.Utf8

/-!
# Backslash escapes

The commands that print agree on most escapes and differ in a few.

* `EscapeRules` : where they differ;
* `EscapeRules.resolve` : the bytes that a text with escapes stands for.
-/

namespace EnvInject

/-- Where the commands that print differ in their escapes. -/
structure EscapeRules where
  /-- Whether an octal escape may begin with a zero that does not count as a digit. -/
  zero : Bool
  /-- Whether there are hexadecimal escapes. -/
  hex : Bool
  deriving DecidableEq, Repr

namespace EscapeRules

/-- Whether `\c` ends all output. -/
def stops (rules : EscapeRules) : Bool := rules.zero || rules.hex

end EscapeRules

/-- What stands before the next character. -/
inductive Escape where
  | text
  | backslash
  /-- After a zero that counts as a digit only if no other follows. -/
  | zero
  /-- In an octal escape that may have so many more digits. -/
  | octal (left value : Nat)
  /-- In a hexadecimal escape, with the value of the digits so far. -/
  | hex (left : Nat) (value : Option Nat)

namespace Escape

def letter? (c : Char) : Option UInt8 :=
  match c with
  | '\\' => some 0x5C
  | 'a' => some 0x07
  | 'b' => some 0x08
  | 'e' => some 0x1B
  | 'f' => some 0x0C
  | 'n' => some 0x0A
  | 'r' => some 0x0D
  | 't' => some 0x09
  | 'v' => some 0x0B
  | _ => none

/-- The bytes that are outstanding when the text ends. -/
def bytes : Escape → Bytes
  | text => []
  | backslash => Utf8.encode "\\"
  | zero => [0]
  | octal _ value => [UInt8.ofNat value]
  | hex _ (some value) => [UInt8.ofNat value]
  | hex _ none => Utf8.encode "\\x"

/-- The bytes of a character that is text, and what stands before the next one. -/
def textStep (c : Char) : Bytes × Escape :=
  if c == '\\' then ([], .backslash) else (Utf8.encode c.toString, .text)

def backslashStep (rules : EscapeRules) (c : Char) : Bytes × Escape :=
  match letter? c, Digits.value? 8 c with
  | some byte, _ => ([byte], .text)
  | none, some digit => ([], if rules.zero && digit = 0 then .zero else .octal 2 digit)
  | none, none =>
    if rules.hex && c == 'x' then ([], .hex 2 none)
    else (Utf8.encode (String.ofList ['\\', c]), .text)

def step (rules : EscapeRules) (e : Escape) (c : Char) : Bytes × Escape :=
  let ended : Bytes × Escape := (e.bytes ++ (textStep c).1, (textStep c).2)
  match e, Digits.value? 8 c, Digits.value? 16 c with
  | .text, _, _ => textStep c
  | .backslash, _, _ => backslashStep rules c
  | .zero, some digit, _ => ([], .octal 2 digit)
  | .octal (left + 1) value, some digit, _ => ([], .octal left (value * 8 + digit))
  | .hex (left + 1) value, _, some digit => ([], .hex left (some (value.getD 0 * 16 + digit)))
  | _, _, _ => ended

/-- The bytes of a text from where another ends, and whether all output ends there. -/
def resolveFrom (rules : EscapeRules) : Escape → List Char → Bytes × Bool
  | e, [] => (e.bytes, false)
  | e, c :: rest =>
    match e, c == 'c' && rules.stops with
    | .backslash, true => ([], true)
    | e, _ =>
      let (first, e) := e.step rules c
      let (bytes, ends) := resolveFrom rules e rest
      (first ++ bytes, ends)

end Escape

/-- The bytes that a text with escapes stands for, and whether it ends all output. -/
def EscapeRules.resolve (rules : EscapeRules) (cs : List Char) : Bytes × Bool :=
  Escape.resolveFrom rules .text cs

end EnvInject
