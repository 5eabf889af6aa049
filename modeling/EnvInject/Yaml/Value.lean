import EnvInject.Number
import EnvInject.Text.Quoted

/-!
# YAML values

* `Value` : the values; the pairs of a mapping stand in the order of the text;
* `Value.text` : a value as messages show it;
* `Value.same` : equality, by which no two keys of a mapping may agree.
-/

namespace EnvInject.Yaml

inductive Value where
  | null
  | bool (b : Bool)
  | number (n : Number)
  | string (s : String)
  | sequence (items : List Value)
  | mapping (pairs : List (Value × Value))
  | tagged (tag : String) (value : Value)

namespace Value

/-! ## Texts -/

/-- Floating point numbers in YAML: `100.0`, `0.00001`, `1e-7`, `1e20`. -/
def layout : Number.Layout where
  leastPositional := -5
  greatestPositional := 15
  plus := ""

def boolText (b : Bool) : String := if b then "true" else "false"

def tagName (tag : String) : String :=
  match tag.toList with
  | '!' :: c :: rest => String.ofList (c :: rest)
  | _ => tag

/-- A scalar as it stands in front of a colon, without its kind. -/
def bareText? : Value → Option String
  | bool b => some (boolText b)
  | number n => some (n.text layout)
  | string s => some (Text.quote s)
  | _ => none

mutual

/-- A value as messages show it. -/
def text : Value → String
  | null => "Null"
  | bool b => "Bool(" ++ boolText b ++ ")"
  | number n => "Number(" ++ n.text layout ++ ")"
  | string s => "String(" ++ Text.quote s ++ ")"
  | sequence items => "Sequence [" ++ Text.commaList (itemTexts items) ++ "]"
  | mapping pairs => "Mapping \x7b" ++ Text.commaList (pairTexts pairs) ++ "\x7d"
  | tagged tag value =>
    "TaggedValue \x7b tag: !" ++ tagName tag ++ ", value: " ++ text value ++ " \x7d"

def itemTexts : List Value → List String
  | [] => []
  | item :: rest => text item :: itemTexts rest

def pairTexts : List (Value × Value) → List String
  | [] => []
  | (key, value) :: rest =>
    ((bareText? key).getD (text key) ++ ": " ++ text value) :: pairTexts rest

end

/-! ## Equality -/

mutual

/-- Equality of values; the order of a mapping does not count. -/
def same : Value → Value → Bool
  | null, null => true
  | bool b, bool b' => b == b'
  | number n, number n' => n.sameValue n'
  | string s, string s' => s == s'
  | sequence items, sequence items' => sameItems items items'
  | mapping pairs, mapping pairs' => pairs.length == pairs'.length && allIn pairs pairs'
  | tagged tag value, tagged tag' value' => tagName tag == tagName tag' && same value value'
  | _, _ => false

def sameItems : List Value → List Value → Bool
  | [], [] => true
  | item :: rest, item' :: rest' => same item item' && sameItems rest rest'
  | _, _ => false

def allIn : List (Value × Value) → List (Value × Value) → Bool
  | [], _ => true
  | (key, value) :: rest, pairs =>
    pairs.any (fun (key', value') => same key key' && same value value') && allIn rest pairs

end

def distinctKeys : List (Value × Value) → Bool
  | [] => true
  | (key, _) :: rest => rest.all (fun (key', _) => !same key key') && distinctKeys rest

end Value

end EnvInject.Yaml
