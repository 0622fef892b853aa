import QueryNotebook.Path
import QueryNotebook.Text.Case
import QueryNotebook.Text.Utf8

/-!
# Documents

An open document: its text, the caret and the kind of document it is.  The caret counts characters;
the text is cut at byte positions.
-/

namespace QueryNotebook

/-- The kind of a document. -/
inductive DocumentMode where
  | markup
  | query
  | unknown
deriving DecidableEq, Repr

namespace DocumentMode

/-- The name of a mode. -/
def name : DocumentMode → String
  | .markup => "markup"
  | .query => "query"
  | .unknown => "unknown"

/-- The text with its ASCII capitals made small. -/
def small (text : String) : String :=
  String.ofList (Text.asciiLower text.toList)

/-- The mode of files with an extension. -/
def ofExtension (extension : String) : DocumentMode :=
  let name := small extension
  if name = "md" ∨ name = "markdown" ∨ name = "qmd" then .markup
  else if name = "sql" ∨ name = "q" ∨ name = "k" then .query
  else .unknown

/-- The mode of a file. -/
def ofPath (path : Path) : DocumentMode :=
  match path.extension? with
  | some extension => ofExtension extension
  | none => .unknown

/-- A name that is no mode's, in small letters. -/
structure Fault where
  name : String
deriving DecidableEq, Repr

/-- The wording of a fault. -/
def Fault.message (fault : Fault) : String :=
  "unknown document mode '" ++ fault.name ++ "'"

/-- The mode of the given name. -/
def ofName (text : String) : Except Fault DocumentMode :=
  let name := small text
  if name = "markup" ∨ name = "markdown" ∨ name = "md" then .ok .markup
  else if name = "query" ∨ name = "sql" ∨ name = "q" then .ok .query
  else if name = "unknown" ∨ name = "plain" ∨ name = "text" then .ok .unknown
  else .error ⟨name⟩

end DocumentMode

/-- A text with a caret. -/
structure Document where
  text : String
  /-- The number of characters before the caret. -/
  caret : Nat
  mode : DocumentMode
deriving DecidableEq, Repr

namespace Document

/-- A document with the caret at its end. -/
def ofText (text : String) (mode : DocumentMode) : Document :=
  ⟨text, text.toList.length, mode⟩

/-- The document with the caret after the given number of characters, or at its end. -/
def moveCaret (document : Document) (caret : Nat) : Document :=
  { document with caret := min caret document.text.toList.length }

/-- The document with a text inserted at the caret, which ends up behind it. -/
def insert (document : Document) (inserted : String) : Document :=
  let parts := Text.cutAt document.text.toList document.caret
  { document with
    text := String.ofList (parts.1 ++ inserted.toList ++ parts.2)
    caret := document.caret + inserted.toList.length }

@[simp] theorem mode_moveCaret (document : Document) (caret : Nat) :
    (document.moveCaret caret).mode = document.mode := rfl

@[simp] theorem mode_insert (document : Document) (inserted : String) :
    (document.insert inserted).mode = document.mode := rfl

end Document

end QueryNotebook
