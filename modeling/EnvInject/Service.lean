import EnvInject.Error
import EnvInject.Text.Split

/-!
# Service names

A service name is one or more segments joined by single slashes, at most 2048 bytes in all. A
segment is made of ASCII letters, digits, `-`, `_` and `.`, and is neither `.` nor `..`.

* `Service.segments` : the parts between the slashes;
* `Service.check` : accepts a name, or says what is wrong with its first bad segment.
-/

namespace EnvInject.Service

inductive Fault where
  | empty
  | tooLong
  | emptySegment
  | relativeSegment
  | invalidChar (c : Char)
  deriving DecidableEq, Repr

def Fault.reason : Fault → String
  | empty => "service name cannot be empty"
  | tooLong => "service name is too long"
  | emptySegment => "service name cannot contain empty path segments"
  | relativeSegment => "service name cannot contain relative path segments"
  | invalidChar c => s!"invalid character '{c}'"

def maxBytes : Nat := 2048

def segments (name : String) : List String := Text.split '/' name

def isNameChar (c : Char) : Bool := c.isAlphanum || c == '-' || c == '_' || c == '.'

def segmentFault? (segment : String) : Option Fault :=
  if segment.isEmpty then some .emptySegment
  else if segment = "." || segment = ".." then some .relativeSegment
  else (segment.toList.find? fun c => !isNameChar c).map .invalidChar

/-- What is wrong with a name, if anything: for a name of admissible length, the fault of its first
bad segment. -/
def fault? (name : String) : Option Fault :=
  if name.isEmpty then some .empty
  else if maxBytes < name.utf8ByteSize then some .tooLong
  else (segments name).findSome? segmentFault?

/-- Accepts a service name or says why not. -/
def check (name : String) : Except ExecError Unit :=
  match fault? name with
  | some fault => .error (.invalidService name fault.reason)
  | none => .ok ()

end EnvInject.Service
