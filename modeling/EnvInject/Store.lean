import EnvInject.Document
import EnvInject.File.Tree
import EnvInject.Source

/-!
# Stores

A store is a directory with one document for each service: service `team/api` is at
`team/api.yaml`, or with one of the other extensions.

* `Store.candidates` : the places where a service's document may be, in order;
* `Store.locate` : the first of them that is a file;
* `Store.fetch` : the secrets of a service.
-/

namespace EnvInject

/-- A directory of documents, and how they are read. -/
structure Store where
  root : String
  engine : Engine

namespace Store

/-- The extensions of documents, in the order in which they are tried. -/
def extensions : List String := ["yaml", "yml", "json", "env"]

/-- The directory of a service's document, and the file name without its extension. -/
def target (store : Store) (service : String) : String × String :=
  let segments := Text.split '/' service
  (segments.dropLast.foldl Path.join store.root, segments.getLast?.getD service)

def candidate (store : Store) (service extension : String) : String :=
  let (directory, name) := store.target service
  Path.join directory (name ++ "." ++ extension)

def candidates (store : Store) (service : String) : List String :=
  extensions.map (store.candidate service)

/-- Where a service's document was looked for, as shown to the user. -/
def lookedFor (store : Store) (service : String) : String :=
  Path.withExtension (store.candidate service "yaml") "\x7byaml,yml,json,env\x7d"

/-- The first candidate that is a file. -/
def locate (store : Store) (tree : FileTree) (service : String) : Except StoreError String :=
  match (store.candidates service).find? tree.isFile with
  | some path => .ok path
  | none => .error (.notFound service (store.lookedFor service))

/-- Reads the bytes of a service's document, or says why not. -/
abbrev DocumentReader := (service path : String) → Except StoreError Bytes

def plainReader (tree : FileTree) : DocumentReader := fun service path =>
  (tree.read path).mapError fun e => .unreadable service s!"{path}: {e.message}"

/-- The secrets of a service, from the document that `read` gives. -/
def fetchWith (store : Store) (tree : FileTree) (read : DocumentReader) : Source :=
  fun service mode => do
    let path ← store.locate tree service
    let bytes ← read service path
    let entries ← (Document.entries store.engine mode (.ofPath path) bytes).mapError
      fun fault => .malformed service fault.message
    Secret.collect service mode entries

end Store

end EnvInject
