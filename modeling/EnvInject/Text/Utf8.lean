/-!
# UTF-8

Reading text from bytes. A byte sequence is read one front at a time: either a whole character, or
the longest run of bytes that begins a character and is then broken off.

* `decode?` : the text, if every front is a character;
* `decodeLossy` : the text with U+FFFD for each broken front.
-/

namespace EnvInject

abbrev Bytes := List UInt8

namespace Utf8

/-- What a lead byte announces: the number of continuation bytes, the range of the first of them,
and the bits that the lead byte gives. -/
def announced? (lead : UInt8) : Option (Nat × UInt8 × UInt8 × Nat) :=
  let n := lead.toNat
  if n < 0x80 then some (0, 0x80, 0xBF, n)
  else if n < 0xC2 then none
  else if n < 0xE0 then some (1, 0x80, 0xBF, n - 0xC0)
  else if n == 0xE0 then some (2, 0xA0, 0xBF, 0)
  else if n == 0xED then some (2, 0x80, 0x9F, 0xD)
  else if n < 0xF0 then some (2, 0x80, 0xBF, n - 0xE0)
  else if n == 0xF0 then some (3, 0x90, 0xBF, 0)
  else if n < 0xF4 then some (3, 0x80, 0xBF, n - 0xF0)
  else if n == 0xF4 then some (3, 0x80, 0x8F, 4)
  else none

/-- Reads `count` continuation bytes, the first of them in `low ≤ · ≤ high`. The number read so far
is kept only if none is missing. -/
def continuation : (count : Nat) → (low high : UInt8) → (read : Nat) → (bytes : Bytes) →
    Option Nat × { rest : Bytes // rest.length ≤ bytes.length }
  | 0, _, _, read, bytes => (some read, ⟨bytes, Nat.le_refl _⟩)
  | _ + 1, _, _, _, [] => (none, ⟨[], Nat.le_refl _⟩)
  | count + 1, low, high, read, b :: bytes =>
    if low ≤ b && b ≤ high then
      let (code, rest) := continuation count 0x80 0xBF (read * 64 + b.toNat % 64) bytes
      (code, ⟨rest.1, Nat.le_succ_of_le rest.2⟩)
    else (none, ⟨b :: bytes, Nat.le_refl _⟩)

/-- The first front of `lead :: bytes`, and what follows it. -/
def front (lead : UInt8) (bytes : Bytes) :
    Option Char × { rest : Bytes // rest.length ≤ bytes.length } :=
  match announced? lead with
  | none => (none, ⟨bytes, Nat.le_refl _⟩)
  | some (count, low, high, bits) =>
    let (code, rest) := continuation count low high bits bytes
    (code.map Char.ofNat, rest)

/-- The fronts of a byte sequence, `none` for a broken one. -/
def fronts : Bytes → List (Option Char)
  | [] => []
  | lead :: bytes =>
    have := (front lead bytes).2.2
    (front lead bytes).1 :: fronts (front lead bytes).2.1
termination_by bytes => bytes.length
decreasing_by simp only [List.length_cons]; omega

def decode? (bytes : Bytes) : Option String :=
  ((fronts bytes).mapM id).map String.ofList

/-- The text of the bytes, with U+FFFD in place of each broken front. -/
def decodeLossy (bytes : Bytes) : String :=
  String.ofList ((fronts bytes).map (·.getD (Char.ofNat 0xFFFD)))

def encode (s : String) : Bytes := s.toByteArray.data.toList

end Utf8

end EnvInject
