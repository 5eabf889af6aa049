import EnvInject.Command.Printing

/-!
# Formats

The command `printf` writes its arguments as a format says, and goes through the format as often as
there are arguments left. It is a command of the shell and a program; they differ in complaints.

* `Conversion` : how a format writes an argument;
* `Format` : the parts of a format;
* `Format.ofText` : reads a format;
* `Format.printf` : the command.
-/

namespace EnvInject

structure Conversion where
  /-- The signs in front: `-`, `0`, `+`, a space and `#`. -/
  flags : List Char := []
  width : Nat := 0
  precision : Option Nat := none
  letter : Char
  deriving DecidableEq, Repr

namespace Conversion

def has (c : Conversion) (flag : Char) : Bool := c.flags.contains flag

def letters : List Char := "sbcdiuxXo".toList

def read? (cs : List Char) : Option (Conversion × List Char) :=
  let isFlag (c : Char) : Bool := "-0+ #".toList.contains c
  let flags := cs.takeWhile isFlag
  let rest := cs.dropWhile isFlag
  let width := rest.takeWhile Char.isDigit
  let rest := rest.dropWhile Char.isDigit
  let (precision, rest) := match rest with
    | '.' :: rest =>
      (some ((Digits.number? 10 (rest.takeWhile Char.isDigit)).getD 0), rest.dropWhile Char.isDigit)
    | rest => (none, rest)
  match rest with
  | letter :: rest =>
    if letters.contains letter then
      some ({ flags, width := (Digits.number? 10 width).getD 0, precision, letter }, rest)
    else none
  | [] => none

def pad (c : Conversion) (bs : Bytes) : Bytes :=
  let blanks := List.replicate (c.width - bs.length) 0x20
  if c.has '-' then bs ++ blanks else blanks ++ bs

def text (c : Conversion) (bs : Bytes) : Bytes :=
  c.pad (match c.precision with
    | some n => bs.take n
    | none => bs)

/-- What stands in front of the digits of a number. -/
def front (c : Conversion) (n : Int) : String :=
  let signed := c.letter == 'd' || c.letter == 'i'
  if signed && n < 0 then "-"
  else if signed && c.has '+' then "+"
  else if signed && c.has ' ' then " "
  else if c.has '#' && n != 0 && (c.letter == 'x' || c.letter == 'X') then
    String.ofList ['0', c.letter]
  else ""

/-- The digits of a number. A negative number in a conversion without sign is taken for the one that
has the same bits. -/
def digits (c : Conversion) (n : Int) : String :=
  let bits : Nat := (if n < 0 then n + UInt64.size else n).toNat
  match c.letter with
  | 'u' => toString bits
  | 'x' => String.ofList (Nat.toDigits 16 bits)
  | 'X' => (String.ofList (Nat.toDigits 16 bits)).toUpper
  | 'o' => (if c.has '#' && n != 0 then "0" else "") ++ String.ofList (Nat.toDigits 8 bits)
  | _ => toString n.natAbs

def number (c : Conversion) (n : Int) : Bytes :=
  let front := c.front n
  let digits := c.digits n
  let least := match c.precision with
    | some least => least
    | none => if c.has '0' && !c.has '-' then c.width - front.length else 0
  let zeros := String.ofList (List.replicate (least - digits.length) '0')
  c.pad (Utf8.encode (front ++ zeros ++ digits))

end Conversion

/-! ## Numbers in arguments -/

/-- The digits in front of a text with their base, and what follows them. -/
def leadingDigits (cs : List Char) : Nat × List Char × List Char :=
  let digits (base : Nat) (cs : List Char) : Nat × List Char × List Char :=
    let isDigit (c : Char) : Bool := (Digits.value? base c).isSome
    (base, cs.takeWhile isDigit, cs.dropWhile isDigit)
  match cs with
  | '0' :: x :: c :: rest =>
    if (x == 'x' || x == 'X') && (Digits.value? 16 c).isSome then digits 16 (c :: rest)
    else digits 8 cs
  | '0' :: _ => digits 8 cs
  | cs => digits 10 cs

/-- The number that an argument writes, and the complaint about one that writes none or writes more
than that. -/
def argumentNumber (isProgram : Bool) (arg : String) : Int × Option String :=
  let isBlank (c : Char) : Bool := c == ' ' || c == '\t' || c == '\n'
  let (negative, cs) := match arg.toList.dropWhile isBlank with
    | '-' :: rest => (true, rest)
    | '+' :: rest => (false, rest)
    | rest => (false, rest)
  let (base, digits, rest) := leadingDigits cs
  let size : Nat := (Digits.number? base digits).getD 0
  let n : Int := if negative then -(size : Int) else size
  match arg.toList with
  | '\'' :: c :: _ | '"' :: c :: _ => (((Utf8.encode c.toString).headD 0).toNat, none)
  | _ =>
    let shown := if isProgram then "'" ++ arg ++ "'" else arg
    if digits.isEmpty then
      (0, some (shown ++ (if isProgram then ": expected a numeric value"
        else ": expected numeric value")))
    else if rest.isEmpty then (n, none)
    else (n, some (shown ++ (if isProgram then ": value not completely converted"
      else ": not completely converted")))

/-! ## Formats -/

inductive FormatPart where
  | bytes (bs : Bytes)
  | conversion (c : Conversion)
  /-- All output ends here, perhaps with a complaint. -/
  | stop (complaint : Option String)

abbrev Format := List FormatPart

structure Printed where
  output : Bytes := []
  complaints : List String := []
  /-- Whether all output ends. -/
  ends : Bool := false
  /-- Whether it ends because the format is not understood. -/
  failed : Bool := false
  /-- The arguments that are left. -/
  left : List String := []

/-- Puts what a part writes in front of what the rest writes. -/
def Printed.before (first rest : Printed) : Printed :=
  { rest with
    output := first.output ++ rest.output
    complaints := first.complaints ++ rest.complaints }

namespace Format

def textParts (isProgram : Bool) (seen : List Char) : Format :=
  match ({ zero := false, hex := isProgram } : EscapeRules).resolve seen.reverse with
  | (bytes, true) => [.bytes bytes, .stop none]
  | (bytes, false) => [.bytes bytes]

def unknown (isProgram : Bool) (cs : List Char) : String :=
  let isPlain (c : Char) : Bool := !Conversion.letters.contains c && !c.isAlpha
  let text := String.ofList ('%' :: cs.takeWhile isPlain ++ (cs.dropWhile isPlain).take 1)
  if isProgram then text ++ ": invalid conversion specification"
  else if cs.isEmpty then "missing format character"
  else text ++ ": invalid directive"

/-- Reads a format after text. `fuel` bounds its characters. -/
def ofTextWithin (isProgram : Bool) : (fuel : Nat) → (seen : List Char) → List Char → Format
  | 0, seen, _ | _, seen, [] => textParts isProgram seen
  | fuel + 1, seen, '%' :: '%' :: rest =>
    textParts isProgram seen ++ .bytes (Utf8.encode "%") :: ofTextWithin isProgram fuel [] rest
  | fuel + 1, seen, '%' :: rest =>
    textParts isProgram seen ++
      match Conversion.read? rest with
      | some (c, rest) => .conversion c :: ofTextWithin isProgram fuel [] rest
      | none => [.stop (some (unknown isProgram rest))]
  | fuel + 1, seen, '\\' :: c :: rest => ofTextWithin isProgram fuel (c :: '\\' :: seen) rest
  | fuel + 1, seen, c :: rest => ofTextWithin isProgram fuel (c :: seen) rest

def ofText (isProgram : Bool) (s : String) : Format :=
  ofTextWithin isProgram s.length [] s.toList

/-- Writes an argument, or what stands for one that is missing. -/
def convert (isProgram : Bool) (c : Conversion) (arg? : Option String) : Printed :=
  let arg := arg?.getD ""
  match c.letter with
  | 'b' =>
    let (bytes, ends) := (Printing.argumentRules isProgram).resolve arg.toList
    { output := c.text bytes, ends }
  | 'c' => { output := c.pad [(Utf8.encode arg).headD 0] }
  | 's' => { output := c.text (Utf8.encode arg) }
  | _ =>
    match arg? with
    | none => { output := c.number 0 }
    | some arg =>
      let (n, complaint) := argumentNumber isProgram arg
      { output := c.number n, complaints := complaint.toList }

def onePass (isProgram : Bool) : Format → List String → Printed
  | [], args => { left := args }
  | .bytes bs :: rest, args =>
    Printed.before { output := bs } (onePass isProgram rest args)
  | .stop complaint :: _, _ =>
    { ends := true, failed := complaint.isSome, complaints := complaint.toList }
  | .conversion c :: rest, args =>
    let printed := convert isProgram c args.head?
    if printed.ends then printed else Printed.before printed (onePass isProgram rest (args.drop 1))

/-- Goes through a format until the arguments are used up, at most `fuel` times. -/
def passes (isProgram : Bool) (format : Format) : (fuel : Nat) → List String → Printed
  | 0, args => { left := args }
  | fuel + 1, args =>
    let printed := onePass isProgram format args
    if printed.ends || printed.left.isEmpty || args.length ≤ printed.left.length then printed
    else Printed.before printed (passes isProgram format fuel printed.left)

/-- Writes the arguments behind a format as it says; `name` is what complaints begin with. -/
def printWith (isProgram : Bool) (name format : String) (args : List String) : Outcome :=
  let printed := passes isProgram (ofText isProgram format) (args.length + 1) args
  let excess := if isProgram && !printed.ends then printed.left.take 1 else []
  let warnings := excess.map fun arg =>
    "warning: ignoring excess arguments, starting with '" ++ arg ++ "'"
  let code :=
    if printed.complaints.isEmpty then 0 else if printed.failed && !isProgram then 2 else 1
  { ending := .exited code
    output := printed.output
    errors := Utf8.encode (String.join
      ((printed.complaints ++ warnings).map fun complaint => name ++ ": " ++ complaint ++ "\n")) }

/-- The command: without arguments there is no format, and the shell takes a sign for an option. -/
def printf (isProgram : Bool) (name : String) (args : List String) : Outcome :=
  match args with
  | [] | ["--"] =>
    if isProgram then
      .fails 1 s!"{name}: missing operand\nTry '{name} --help' for more information."
    else .fails 2 (name ++ ": usage: printf format [arg ...]")
  | "--" :: format :: args => printWith isProgram name format args
  | format :: args =>
    match format.toList, isProgram with
    | '-' :: c :: _, false => .fails 2 (name ++ ": Illegal option -" ++ c.toString)
    | _, _ => printWith isProgram name format args

end Format

end EnvInject
