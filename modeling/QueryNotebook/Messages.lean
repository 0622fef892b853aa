import QueryNotebook.Datum.Fault
import QueryNotebook.Text.Split
import QueryNotebook.Toml.Reader

/-!
# Messages

The texts that the program shows on its own.  Each has an English wording; a TOML table of message
names and texts replaces any of them.  A message with a gap, written as a pair of braces, is about
one thing, whose name fills the gap.
-/

namespace QueryNotebook

/-- A text that the program shows. -/
inductive MessageKey where
  | paletteTitle
  | palettePlaceholder
  | paletteEmpty
  | openRecent
  | insertSnippet
  | codeBlockFor
  | tableLabel
  | chartTypeLabel
  | serverLabel
  | noCompletions
deriving DecidableEq, Repr

namespace MessageKey

/-- Every message. -/
def all : List MessageKey := [
  .paletteTitle, .palettePlaceholder, .paletteEmpty, .openRecent, .insertSnippet, .codeBlockFor,
  .tableLabel, .chartTypeLabel, .serverLabel, .noCompletions]

/-- The name of a message in a table of replacements. -/
def name : MessageKey → String
  | .paletteTitle => "palette_title"
  | .palettePlaceholder => "palette_placeholder"
  | .paletteEmpty => "palette_empty"
  | .openRecent => "open_recent"
  | .insertSnippet => "insert_snippet"
  | .codeBlockFor => "code_block_for"
  | .tableLabel => "table_label"
  | .chartTypeLabel => "chart_type_label"
  | .serverLabel => "server_label"
  | .noCompletions => "no_completions"

/-- The message of the given name. -/
def ofName? (name : String) : Option MessageKey :=
  all.find? fun key => key.name == name

/-- The English wording. -/
def english : MessageKey → String
  | .paletteTitle => "Command Palette"
  | .palettePlaceholder => "Type to filter commands"
  | .paletteEmpty => "No matching commands"
  | .openRecent => "Open Recent: \x7b\x7d"
  | .insertSnippet => "Insert Snippet: \x7b\x7d"
  | .codeBlockFor => "Code block for \x7b\x7d"
  | .tableLabel => "Table"
  | .chartTypeLabel => "Chart type"
  | .serverLabel => "Server"
  | .noCompletions => "No completions"

/-- A message is found under its own name. -/
@[simp] theorem ofName?_name (key : MessageKey) : ofName? key.name = some key := by
  cases key <;> decide

end MessageKey

/-- The gap in a message. -/
def messageGap : List Char := ['\x7b', '\x7d']

/-- A wording with the first gap filled. -/
def fillGap (wording argument : String) : String :=
  String.ofList (Text.replaceFirst messageGap argument.toList wording.toList)

/-- The wording of every message. -/
structure Messages where
  wording : MessageKey → String

namespace Messages

/-- The English messages. -/
def english : Messages where
  wording := MessageKey.english

/-- The messages with one of them worded otherwise. -/
def set (key : MessageKey) (text : String) (messages : Messages) : Messages where
  wording other := if other = key then text else messages.wording other

/-- A message whose gap names the given thing. -/
def format (messages : Messages) (key : MessageKey) (argument : String) : String :=
  fillGap (messages.wording key) argument

/-- The messages with those of a table replaced; names of no message change nothing. -/
def replaceAll (replacements : List (String × String)) (messages : Messages) : Messages :=
  replacements.foldl (fun known replacement =>
    match MessageKey.ofName? replacement.1 with
    | some key => known.set key replacement.2
    | none => known) messages

/-- The names in a table that name no message, sorted. -/
def unknownNames (replacements : List (String × String)) : List String :=
  ((replacements.map Prod.fst).filter fun name => (MessageKey.ofName? name).isNone).mergeSort
    fun left right => left ≤ right

@[simp] theorem wording_set_self (key : MessageKey) (text : String) (messages : Messages) :
    (messages.set key text).wording key = text := by
  simp [set]

@[simp] theorem wording_set_of_ne {key other : MessageKey} (different : other ≠ key) (text : String)
    (messages : Messages) : (messages.set key text).wording other = messages.wording other := by
  simp [set, different]

end Messages

/-! ## Reading a table of replacements -/

/-- Why a TOML text is not the wanted data. -/
inductive Toml.Fault where
  /-- The text is not TOML. -/
  | malformed
  /-- The text is TOML, but not the wanted data. -/
  | data (fault : DataFault)
deriving DecidableEq, Repr

/-- The style of a double in a message about TOML. -/
def Toml.numberStyle : Binary64.Style where
  tie := .larger
  layout := .positional

/-- A table of texts. -/
def textTable : List (String × Datum) → Except DataFault (List (String × String))
  | [] => .ok []
  | (name, value) :: rest => do
      let text ← value.asText
      let others ← textTable rest
      pure ((name, text) :: others)

/-- The replacements that a TOML text lists. -/
def Messages.readReplacements (source : String) : Except Toml.Fault (List (String × String)) :=
  match Toml.readDocument source.toList with
  | none => .error .malformed
  | some entries => (textTable entries).mapError .data

/-- The English messages with the replacements of a TOML text, and the names in it that name no
message. -/
def Messages.ofReplacements (source : String) : Except Toml.Fault (Messages × List String) :=
  (Messages.readReplacements source).map fun replacements =>
    (Messages.english.replaceAll replacements, Messages.unknownNames replacements)

end QueryNotebook
