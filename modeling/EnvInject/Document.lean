import EnvInject.Document.JsonSecrets
import EnvInject.Document.YamlSecrets
import EnvInject.Dotenv
import EnvInject.File.Path
import EnvInject.Text.Utf8

/-!
# Documents

A document gives entries according to its format, which the extension of its path tells.

* `Format.ofPath` : the format of a path;
* `entries` : the entries of a document's bytes.
-/

namespace EnvInject.Document

open Secret (Entry)

/-- The format of a document at `path`; what is neither ENV nor JSON is YAML. -/
def Format.ofPath (path : String) : Format :=
  match Path.extension? path with
  | some "env" => .env
  | some "json" => .json
  | _ => .yaml

def textEntries (engine : Engine) (mode : KeyMode) (content : String) :
    Format → Except Fault (List Entry)
  | .env => .ok (Dotenv.entries content)
  | .json => JsonSecrets.entries engine mode content
  | .yaml => YamlSecrets.entries engine mode content

def entries (engine : Engine) (mode : KeyMode) (format : Format) (bytes : Bytes) :
    Except Fault (List Entry) :=
  match Utf8.decode? bytes with
  | none => .error .notText
  | some content => textEntries engine mode content format

end EnvInject.Document
