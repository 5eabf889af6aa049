import EnvInject.Text.Utf8
import EnvInject.Yaml.Scalar

/-!
# Tags and directives in a YAML text

A tag is a handle and a suffix. The suffix is kept in bytes, because its `%XX` escapes need not make
up a text.

* `Tag.handle?` : a handle such as `!`, `!!` or `!e!`;
* `Tag.uri?` : the characters of a tag, with `%XX` escapes resolved;
* `Tag.visible` : what counts of them, which ends before the first NUL;
* `Tag.read?` : a whole tag;
* `directive?` : a `%YAML` or `%TAG` line.
-/

namespace EnvInject.Yaml

def atChar (p : Char → Bool) (cs : List Char) : Bool := (cs.head?.map p).getD false

namespace Tag

/-- The characters of a tag beside those of names; `listed` adds the ones that would end a tag
inside a flow collection. -/
def isUriChar (listed : Bool) (c : Char) : Bool :=
  isWordChar c || ";/?:@&=+$.!~*'()%".toList.contains c || (listed && ",[]".toList.contains c)

/-- How many bytes a character has whose UTF-8 form starts with this byte. -/
def octetCount (lead : Nat) : Nat :=
  if lead < 0x80 then 1
  else if lead / 0x20 = 6 then 2
  else if lead / 0x10 = 14 then 3
  else if lead / 0x08 = 30 then 4
  else 0

/-- Reads on in a tag. While `pending` bytes of a character are outstanding only escapes of such
bytes may follow. The bytes read so far stand in reverse. -/
def uriFrom (listed : Bool) (seen : Bytes) (pending : Nat) (m : Mark) :
    List Char → Option (Bytes × Nat × Cursor)
  | '%' :: high :: low :: rest => do
    let octet := (← Digits.value? 16 high) * 16 + (← Digits.value? 16 low)
    let pending ←
      if 0 < pending then if octet / 0x40 = 2 then some (pending - 1) else none
      else if octetCount octet = 0 then none
      else some (octetCount octet - 1)
    uriFrom listed (UInt8.ofNat octet :: seen) pending (m.afterAll ['%', high, low]) rest
  | c :: rest =>
    if pending = 0 ∧ isUriChar listed c ∧ c ≠ '%' then
      uriFrom listed ((Utf8.encode c.toString).reverse ++ seen) 0 (m.after c) rest
    else if pending = 0 ∧ c ≠ '%' then some (seen, 0, ⟨m, c :: rest⟩)
    else none
  | [] => if pending = 0 then some (seen, 0, ⟨m, []⟩) else none

def uri? (listed : Bool) (head : String) (c : Cursor) : Option (Bytes × Cursor) := do
  let (seen, _, after) ← uriFrom listed [] 0 c.mark c.rest
  pure (Utf8.encode head ++ seen.reverse, after)

/-- What counts of a tag's bytes: those before the first NUL. -/
def visible (bs : Bytes) : Bytes := bs.takeWhile (· != 0)

/-- Reads a handle: an exclamation mark, name characters and perhaps another exclamation mark. -/
def handle? (c : Cursor) : Option (String × Cursor) :=
  if c.rest.head? == some '!' then
    let (name, after) := takeRun isWordChar (c.skip 1)
    if after.rest.head? == some '!' then
      some (String.ofList ('!' :: name ++ ['!']), after.skip 1)
    else some (String.ofList ('!' :: name), after)
  else none

def isClosed (handle : String) : Bool := handle != "!" && handle.toList.getLast? == some '!'

def mayEnd (flow : Bool) (rest : List Char) : Bool :=
  atGap rest || (flow && atChar (· == ',') rest)

/-- Reads a tag: its handle, empty if there is none, and its suffix. -/
def read? (flow : Bool) (c : Cursor) : Option (String × Bytes × Cursor) := do
  let (handle, suffix, after) ←
    match c.rest with
    | '!' :: '<' :: _ => do
      let (suffix, after) ← uri? true "" (c.skip 2)
      if suffix.isEmpty || !atChar (· == '>') after.rest then none
      else pure ("", visible suffix, after.skip 1)
    | _ => do
      let (handle, afterHandle) ← handle? c
      if isClosed handle then
        let (suffix, after) ← uri? false "" afterHandle
        if suffix.isEmpty then none else pure (handle, visible suffix, after)
      else
        let (bs, after) ← uri? false (String.ofList (handle.toList.drop 1)) afterHandle
        let suffix := visible bs
        pure (if suffix.isEmpty then ("", Utf8.encode "!", after) else ("!", suffix, after))
  if mayEnd flow after.rest then pure (handle, suffix, after) else none

end Tag

/-! ## Directives -/

inductive Directive where
  | version (major minor : Nat)
  | tag (handle : String) (stem : Bytes)

def maxVersionDigits : Nat := 9

def versionPart? (c : Cursor) : Option (Nat × Cursor) :=
  let (digits, after) := takeRun Char.isDigit c
  if digits.isEmpty || maxVersionDigits < digits.length then none
  else some (digits.foldl (fun n d => n * 10 + (d.toNat - 48)) 0, after)

def version? (c : Cursor) : Option (Directive × Cursor) := do
  let (major, afterMajor) ← versionPart? (skipBlanks c)
  if afterMajor.rest.head? == some '.' then
    let (minor, after) ← versionPart? (afterMajor.skip 1)
    pure (.version major minor, after)
  else none

def tagDirective? (c : Cursor) : Option (Directive × Cursor) := do
  let (handle, afterHandle) ← Tag.handle? (skipBlanks c)
  if (handle == "!" || Tag.isClosed handle) && atChar isBlank afterHandle.rest then
    let (stem, after) ← Tag.uri? true "" (skipBlanks afterHandle)
    if stem.isEmpty || !atGap after.rest then none
    else pure (.tag handle (Tag.visible stem), after)
  else none

/-- Reads a directive at its percent sign, to the end of its line. -/
def directive? (c : Cursor) : Option (Directive × Cursor) := do
  let (name, afterName) := takeRun isWordChar (c.skip 1)
  if !atGap afterName.rest then none
  else
    let (directive, after) ←
      match String.ofList name with
      | "YAML" => version? afterName
      | "TAG" => tagDirective? afterName
      | _ => none
    pure (directive, ← endLine? after)

end EnvInject.Yaml
