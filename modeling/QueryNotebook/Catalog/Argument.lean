import QueryNotebook.Catalog
import QueryNotebook.Text.Quoted
import QueryNotebook.Text.Split

/-!
# Catalog entries on a command line

A table is written as its name, or as its name, `=` and an example query.  A server is written as
its name, or as its name, `:` and its driver.  The name of a server may itself hold colons, as in
`host:port`, so the last part counts as a driver only when it names one.
-/

namespace QueryNotebook

/-- Why an argument describes no catalog entry. -/
inductive ArgumentFault where
  /-- No name stands before the query. -/
  | emptyTableName (source : String)
  /-- Nothing but blanks where a server was wanted. -/
  | emptyServer
  /-- A driver without a name before it. -/
  | emptyServerName (source : String)
deriving DecidableEq, Repr

/-- The wording of a fault. -/
def ArgumentFault.message : ArgumentFault → String
  | .emptyTableName source => "empty table name in " ++ Text.quotedString source
  | .emptyServer => "empty server name"
  | .emptyServerName source => "empty server name in " ++ Text.quotedString source

/-- The table that an argument describes.  An empty example counts as none. -/
def Table.ofArgument (source : String) : Except ArgumentFault Table :=
  let parts := (Text.splitFirst? '=' source.toList).getD (source.toList, [])
  let name := Text.trim parts.1
  let query := Text.trim parts.2
  if name.isEmpty then .error (.emptyTableName source)
  else .ok ⟨String.ofList name, if query.isEmpty then [] else [String.ofList query]⟩

/-- The driver that the last part of an argument names, unless it is only a part of the server's
name. -/
def ServerDriver.named? (text : List Char) : Option ServerDriver :=
  match ServerDriver.ofName text with
  | .other => if Text.asciiEqual text "other".toList then some .other else none
  | driver => some driver

/-- The server that an argument describes. -/
def Server.ofArgument (source : String) : Except ArgumentFault Server :=
  let trimmed := Text.trim source.toList
  let shown := String.ofList trimmed
  if trimmed.isEmpty then .error .emptyServer
  else
    match Text.splitLast? ':' trimmed with
    | none => .ok ⟨shown, .other⟩
    | some (name, last) =>
        match ServerDriver.named? last with
        | none => .ok ⟨shown, .other⟩
        | some driver =>
            if name.isEmpty then .error (.emptyServerName shown)
            else .ok ⟨String.ofList name, driver⟩

end QueryNotebook
