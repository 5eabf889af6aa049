/-!
# Faults of documents

What keeps a document from giving secrets. A fault at a value names the path of the value.

* `Format` : the formats of documents;
* `Fault.message` : the text of a fault.
-/

namespace EnvInject.Document

inductive Format where
  | env
  | json
  | yaml
  deriving DecidableEq, Repr

def Format.title : Format → String
  | env => "ENV"
  | json => "JSON"
  | yaml => "YAML"

/-- What keeps a document from giving secrets. -/
inductive Fault where
  /-- The bytes are not UTF-8. -/
  | notText
  /-- The text does not follow the format. The words are those of the parser, if it has any. -/
  | invalid (format : Format) (words : Option String)
  /-- The document is neither null nor made of keys and values. -/
  | notKeyed (format : Format)
  /-- The wrapper of a decrypted document stands beside other keys. -/
  | wrapperNotAlone
  /-- A value that is no secret. -/
  | value (format : Format) (path found : String)
  /-- A key that is no text. -/
  | key (format : Format) (found : String)
  deriving DecidableEq, Repr

def Fault.message : Fault → String
  | notText => "secrets are not valid UTF-8"
  | invalid format none => s!"invalid {format.title}"
  | invalid format (some words) => s!"invalid {format.title}: {words}"
  | notKeyed .json => "JSON must be an object with key-value pairs"
  | notKeyed format => s!"{format.title} must be a mapping with key-value pairs"
  | wrapperNotAlone => "'data' wrapper must be the only top-level key besides 'sops' metadata"
  | value format path found =>
    s!"{format.title} value for key '{path}' must be a string, found: {found}"
  | key format found => s!"{format.title} key must be a string, found: {found}"

end EnvInject.Document
