import QueryNotebook.Disk
import QueryNotebook.Json.Printer
import QueryNotebook.Json.Reader
import QueryNotebook.Store

/-!
# Stores in files

A store that is a JSON object of texts in a file.  It is read once, when it is opened, and written
whole whenever a text is put; a text that could not be written stays in the store and is written with
the next one.
-/

namespace QueryNotebook

/-- A store in a file. -/
structure FileStore where
  path : Path
  values : Dictionary String

/-- What is wrong with a JSON text, in short. -/
def Json.Fault.reason : Json.Fault → String
  | .malformed => "malformed JSON"
  | .endOfText => "unexpected end of JSON"
  | .data fault => fault.message Json.numberStyle

namespace FileStore

/-- One member of the object. -/
def readMember (values : Dictionary String) (name : String) (text : List Char) :
    Except Json.Fault (Dictionary String × List Char) := do
  let value ← Json.afterColon text
  let (member, rest) ← Json.readText .text value
  .ok (values.insert name member, rest)

/-- The texts that the contents of a file give; the last text under a name counts. -/
def parse (contents : String) : Except Json.Fault (Dictionary String) :=
  match Json.skipSpace contents.toList with
  | [] => .error .endOfText
  | '\x7b' :: members => do
      let (values, rest) ← Json.readMembers readMember .empty members
      Json.endDocument rest
      .ok values
  | other => .error (Json.unexpectedAt .map other)

/-- The texts as plain data. -/
def datum (values : Dictionary String) : Datum :=
  .object (values.entries.map fun entry => (entry.1, .text entry.2))

/-- The contents of a file that holds the texts. -/
def render (values : Dictionary String) : String :=
  Json.indentedString (datum values)

/-- The store of a file.  A file that is missing or not to be read gives an empty store, and so does
one that does not parse, with a warning. -/
def openAt (path : Path) : Disk FileStore := do
  match ← Disk.read path with
  | .error _ => pure ⟨path, .empty⟩
  | .ok contents =>
      match parse contents with
      | .ok values => pure ⟨path, values⟩
      | .error fault => do
          Disk.note (.storeIgnored path fault.reason)
          pure ⟨path, .empty⟩

instance : Store FileStore Disk where
  get? store name := store.values.get? name
  put store name text := do
    let next : FileStore := { store with values := store.values.insert name text }
    let written ← Disk.writeInFolder next.path (render next.values)
    match written with
    | .ok () => pure ⟨next, none⟩
    | .error fault => pure ⟨next, some fault⟩

end FileStore

end QueryNotebook
