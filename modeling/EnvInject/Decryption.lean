import EnvInject.Command.Launch
import EnvInject.Store
import EnvInject.Text.Blank

/-!
# Decryption

Encrypted documents are read through the command `sops -d`, which writes the document in the clear.

* `Decryption.Fault` : what keeps a document from being decrypted;
* `Decryption.decrypt` : the document at a path in the clear;
* `Store.source` : the secrets of a store on a host.
-/

namespace EnvInject

namespace Decryption

def command : String := "sops"

inductive Fault where
  | notInstalled (cause : Command.SearchError)
  /-- The decrypting command was found and could not be started. -/
  | notStarted (path : String) (cause : SystemError)
  /-- The decrypting command failed with a complaint. -/
  | failed (complaint : String)
  deriving DecidableEq, Repr

def Fault.message : Fault → String
  | notInstalled cause => s!"SOPS is not installed or not in PATH: {cause.message}"
  | notStarted path cause => s!"failed to execute SOPS on '{path}': {cause.message}"
  | failed complaint =>
    let text := Text.trimmed complaint
    if text.isEmpty then "Unknown error" else text

/-- The document at a path in the clear. -/
def decrypt (host : Host) (path : String) : Except Fault Bytes := do
  let program ← (Command.find host command).mapError .notInstalled
  let o ← (Command.startAt start host.tree program ["-d", path]
    host.captured.environment).mapError (.notStarted path)
  if o.succeeded then pure o.output else throw (.failed (Utf8.decodeLossy o.errors))

end Decryption

namespace Store

def decryptingReader (host : Host) : DocumentReader := fun service path =>
  (Decryption.decrypt host path).mapError fun fault => .undecryptable service fault.message

def reader (store : Store) (host : Host) : DocumentReader :=
  match store.engine with
  | .file => plainReader host.tree
  | .sops => decryptingReader host

/-- The secrets of a store on a host. -/
def source (store : Store) (host : Host) : Source :=
  store.fetchWith host.tree (store.reader host)

end Store

end EnvInject
