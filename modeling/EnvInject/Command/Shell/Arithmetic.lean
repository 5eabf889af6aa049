import EnvInject.Command.Format

/-!
# Arithmetic in scripts

* `Arithmetic.Token` : numbers, names and signs;
* `Arithmetic.evaluate` : the number that an expression stands for.
-/

namespace EnvInject.Shell.Arithmetic

inductive Token where
  | number (n : Int)
  | name (s : String)
  | sign (s : String)
  deriving DecidableEq, Repr

/-- The signs between two parts of an expression; those in a later list bind tighter. -/
def levels : List (List String) :=
  [["||"], ["&&"], ["|"], ["^"], ["&"], ["==", "!="], ["<=", ">=", "<", ">"], ["<<", ">>"],
    ["+", "-"], ["*", "/", "%"]]

def doubleSigns : List String := ["||", "&&", "==", "!=", "<=", ">=", "<<", ">>"]

/-- Cuts an expression into tokens. `fuel` bounds its characters. -/
def tokens : (fuel : Nat) → List Char → List Token
  | 0, _ | _, [] => []
  | fuel + 1, c :: rest =>
    let cs := c :: rest
    if c == ' ' || c == '\t' || c == '\n' then tokens fuel rest
    else if c.isDigit then
      let (base, digits, rest) := leadingDigits cs
      .number ((Digits.number? base digits).getD 0) :: tokens fuel rest
    else if c.isAlpha || c == '_' then
      let isNameChar (c : Char) : Bool := c.isAlphanum || c == '_'
      .name (String.ofList (cs.takeWhile isNameChar)) :: tokens fuel (cs.dropWhile isNameChar)
    else
      let two := String.ofList (cs.take 2)
      if doubleSigns.contains two then .sign two :: tokens fuel (cs.drop 2)
      else .sign c.toString :: tokens fuel rest

def truth (b : Bool) : Int := if b then 1 else 0

def apply (sign : String) (a b : Int) : Except String Int :=
  match sign with
  | "||" => .ok (truth (a != 0 || b != 0))
  | "&&" => .ok (truth (a != 0 && b != 0))
  | "|" => .ok ((Int64.ofInt a ||| Int64.ofInt b).toInt)
  | "^" => .ok ((Int64.ofInt a ^^^ Int64.ofInt b).toInt)
  | "&" => .ok ((Int64.ofInt a &&& Int64.ofInt b).toInt)
  | "==" => .ok (truth (a == b))
  | "!=" => .ok (truth (a != b))
  | "<=" => .ok (truth (a ≤ b))
  | ">=" => .ok (truth (b ≤ a))
  | "<" => .ok (truth (a < b))
  | ">" => .ok (truth (b < a))
  | "<<" => .ok ((Int64.ofInt a <<< Int64.ofInt b).toInt)
  | ">>" => .ok ((Int64.ofInt a >>> Int64.ofInt b).toInt)
  | "+" => .ok (Int64.ofInt (a + b)).toInt
  | "-" => .ok (Int64.ofInt (a - b)).toInt
  | "*" => .ok (Int64.ofInt (a * b)).toInt
  | "/" => if b = 0 then .error "division by zero" else .ok (a.tdiv b)
  | _ => if b = 0 then .error "division by zero" else .ok (a.tmod b)

/-- Where the value of a name comes from. -/
abbrev Values := String → Except String Int

mutual

/-- Evaluates what signs of a level and of tighter ones join. -/
def level (values : Values) : (fuel : Nat) → List (List String) → List Token →
    Except String (Int × List Token)
  | 0, _, _ => .error "expecting primary"
  | fuel + 1, [], ts => unary values fuel ts
  | fuel + 1, signs :: tighter, ts => do
    let (n, rest) ← level values fuel tighter ts
    joined values fuel signs tighter n rest

def joined (values : Values) : (fuel : Nat) → List String → List (List String) → Int → List Token →
    Except String (Int × List Token)
  | 0, _, _, _, _ => .error "expecting primary"
  | fuel + 1, signs, tighter, n, ts =>
    match ts with
    | .sign s :: rest =>
      if signs.contains s then do
        let (m, rest) ← level values fuel tighter rest
        joined values fuel signs tighter (← apply s n m) rest
      else .ok (n, ts)
    | ts => .ok (n, ts)

def unary (values : Values) : (fuel : Nat) → List Token → Except String (Int × List Token)
  | 0, _ => .error "expecting primary"
  | fuel + 1, ts =>
    match ts with
    | .number n :: rest => .ok (n, rest)
    | .name s :: rest => do pure (← values s, rest)
    | .sign "-" :: rest => do
      let (n, rest) ← unary values fuel rest
      pure (-n, rest)
    | .sign "+" :: rest => unary values fuel rest
    | .sign "!" :: rest => do
      let (n, rest) ← unary values fuel rest
      pure (truth (n == 0), rest)
    | .sign "~" :: rest => do
      let (n, rest) ← unary values fuel rest
      pure (-n - 1, rest)
    | .sign "(" :: rest => do
      match ← level values fuel levels rest with
      | (n, .sign ")" :: rest) => pure (n, rest)
      | _ => throw "expecting ')'"
    | _ => .error "expecting primary"

end

def evaluate (values : Values) (text : String) : Except String Int := do
  let ts := tokens text.length text.toList
  match ← level values (16 * ts.length + 16) levels ts with
  | (n, []) => pure n
  | _ => throw "expecting EOF"

end EnvInject.Shell.Arithmetic
