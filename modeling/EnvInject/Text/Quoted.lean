import EnvInject.Text.Invisible

/-!
# Quoted text

Text between double quotes, as shown in messages. A quote, a backslash and the usual control
characters are written with a backslash; what would not be seen is written by number.

* `quote` : the quoted form of a text;
* `quoteList` : a bracketed list of quoted texts.
-/

namespace EnvInject.Text

/-- `n` in lower-case hexadecimal digits, without leading zeros. -/
def hexDigits (n : Nat) : List Char := Nat.toDigits 16 n

def quoteChar (c : Char) : List Char :=
  if c == '"' || c == '\\' then ['\\', c]
  else if c == '\n' then ['\\', 'n']
  else if c == '\r' then ['\\', 'r']
  else if c == '\t' then ['\\', 't']
  else if c.toNat == 0 then ['\\', '0']
  else if 0x20 ≤ c.toNat && c.toNat < 0x7F then [c]
  else if isGraphemeExtend c || isUnprintable c then
    ['\\', 'u', '\x7b'] ++ hexDigits c.toNat ++ ['\x7d']
  else [c]

def quote (s : String) : String :=
  "\"" ++ String.ofList (s.toList.flatMap quoteChar) ++ "\""

/-- The texts of `parts` with `, ` between them. -/
def commaList (parts : List String) : String := String.intercalate ", " parts

def quoteList (texts : List String) : String := "[" ++ commaList (texts.map quote) ++ "]"

end EnvInject.Text
