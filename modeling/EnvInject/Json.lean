import EnvInject.Number
import EnvInject.Ordered

/-!
# JSON values

* `Json` : the values; the members of an object are listed by ascending key when they were read;
* `Json.text` : the compact text.
-/

namespace EnvInject

inductive Json where
  | null
  | bool (b : Bool)
  | number (n : Number)
  | string (s : String)
  | array (items : List Json)
  | object (members : List (String × Json))

namespace Json

/-- Floating point numbers in JSON: `100.0`, `0.00001`, `1e-7`, `1e+20`. -/
def layout : Number.Layout where
  leastPositional := -5
  greatestPositional := 15
  plus := "+"

def boolText (b : Bool) : String := if b then "true" else "false"

def escapeChar (c : Char) : List Char :=
  let hex (n : Nat) := Nat.digitChar n
  if c == '"' || c == '\\' then ['\\', c]
  else if c == '\x08' then ['\\', 'b']
  else if c == '\x0c' then ['\\', 'f']
  else if c == '\n' then ['\\', 'n']
  else if c == '\r' then ['\\', 'r']
  else if c == '\t' then ['\\', 't']
  else if c.toNat < 0x20 then ['\\', 'u', '0', '0', hex (c.toNat / 16), hex (c.toNat % 16)]
  else [c]

def stringText (s : String) : String := "\"" ++ String.ofList (s.toList.flatMap escapeChar) ++ "\""

mutual

/-- The compact text of a value. -/
def text : Json → String
  | null => "null"
  | bool b => boolText b
  | number n => n.text layout
  | string s => stringText s
  | array items => "[" ++ ",".intercalate (itemTexts items) ++ "]"
  | object members => "\x7b" ++ ",".intercalate (memberTexts members) ++ "\x7d"

def itemTexts : List Json → List String
  | [] => []
  | item :: rest => text item :: itemTexts rest

def memberTexts : List (String × Json) → List String
  | [] => []
  | (key, value) :: rest => (stringText key ++ ":" ++ text value) :: memberTexts rest

end

end Json

end EnvInject
