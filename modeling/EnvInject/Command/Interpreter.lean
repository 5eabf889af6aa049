import EnvInject.Text.Utf8

/-!
# First lines of scripts

A script begins with `#!`, the path of the program that runs it, and at most one argument, which may
hold blanks.

* `interpreter?` : the program that a script names, with the argument.
-/

namespace EnvInject

def scriptHeadBytes : Nat := 256

def isLineBlank (b : UInt8) : Bool := b == 0x20 || b == 0x09

def endsPath (b : UInt8) : Bool := isLineBlank b || b == 0

def trimLine (line : Bytes) : Bytes :=
  ((line.dropWhile isLineBlank).reverse.dropWhile isLineBlank).reverse

/-- The first line of a script; `none` if so much is looked at that the path may go on. -/
def scriptLine? (content : Bytes) : Option Bytes :=
  let head := content.take scriptHeadBytes
  match head with
  | 0x23 :: 0x21 :: rest =>
    if head.contains 0x0A || head.length < scriptHeadBytes
        || (rest.dropWhile isLineBlank).any endsPath then
      some (rest.takeWhile (· != 0x0A))
    else none
  | _ => none

/-- The program that the first line of a script names, and what the line has it take first. -/
def interpreter? (content : Bytes) : Option (String × Option String) := do
  let line := trimLine (← scriptLine? content)
  let path := line.takeWhile (!endsPath ·)
  let argument := (line.drop path.length).dropWhile isLineBlank |>.takeWhile (· != 0)
  if path.isEmpty then none
  else some (Utf8.decodeLossy path,
    if argument.isEmpty then none else some (Utf8.decodeLossy argument))

end EnvInject
