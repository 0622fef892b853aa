import QueryNotebook.Json.Printer
import QueryNotebook.Json.Reader
import QueryNotebook.Path
import QueryNotebook.Platform
import QueryNotebook.RecencyList

/-!
# Settings

The six settings, their names in a settings file, and reading and writing such a file.  The file is
JSON with one liberty: a line that starts with two slashes is a comment.  A setting that the file
does not name keeps its default, and names of no setting are passed over.
-/

namespace QueryNotebook

/-- The settings. -/
structure Settings where
  /-- The number of documents that the recent list keeps. -/
  recentCapacity : Nat
  /-- Completions are offered. -/
  completionEnabled : Bool
  /-- The number of rows that the palette shows at most. -/
  paletteMaxResults : Nat
  /-- The server of generated code blocks when none is selected. -/
  defaultServer : Option String
  /-- The snippet library to use instead of the one in the configuration folder. -/
  snippetsFile : Option Path
  /-- Which key the primary modifier is. -/
  modifierStyle : ModifierStyle

namespace Settings

/-- The settings without a file. -/
def default : Settings where
  recentCapacity := RecencyList.defaultCapacity
  completionEnabled := true
  paletteMaxResults := 50
  defaultServer := none
  snippetsFile := none
  modifierStyle := .platform

/-! ## Fields -/

/-- One of the settings. -/
inductive Field where
  | recentCapacity
  | completionEnabled
  | paletteMaxResults
  | defaultServer
  | snippetsFile
  | modifierStyle
deriving DecidableEq, Repr

namespace Field

/-- The fields in the order of a record that is written as a sequence. -/
def all : List Field := [
  .recentCapacity, .completionEnabled, .paletteMaxResults, .defaultServer, .snippetsFile,
  .modifierStyle]

/-- The name of a field in a settings file. -/
def key : Field → String
  | .recentCapacity => "recent.capacity"
  | .completionEnabled => "completion.enabled"
  | .paletteMaxResults => "palette.maxResults"
  | .defaultServer => "editor.defaultServer"
  | .snippetsFile => "editor.snippetsFile"
  | .modifierStyle => "keyboard.modifierStyle"

/-- The field of the given name. -/
def ofKey? (name : String) : Option Field :=
  all.find? fun field => field.key == name

/-- A field is found under its own name. -/
@[simp] theorem ofKey?_key (field : Field) : ofKey? field.key = some field := by
  cases field <;> decide

end Field

/-! ## Reading -/

/-- The modifier style of the name that follows, from the text after its opening quote. -/
def readStyleName (text : List Char) : Json.Scan ModifierStyle :=
  match Json.scanString text with
  | .error fault => .error fault
  | .ok (characters, rest) =>
      let name := String.ofList characters
      match ModifierStyle.ofName? name with
      | some style => .ok (style, rest)
      | none =>
          let allowed := (ModifierStyle.platform.name, ModifierStyle.control.name)
          .error (.data (.unknownChoice name allowed.1 allowed.2))

/-- A modifier style: its name, or an object whose only member has that name and is null. -/
def readStyle (text : List Char) : Except Json.Fault (ModifierStyle × List Char) :=
  match Json.skipSpace text with
  | [] => .error .endOfText
  | '\x22' :: name => readStyleName name
  | '\x7b' :: rest =>
      match Json.skipSpace rest with
      | '\x22' :: name => do
          let (style, afterName) ← readStyleName name
          let afterColon ← Json.afterColon afterName
          let ((), afterNull) ← Json.readNull afterColon
          match Json.skipSpace afterNull with
          | '\x7d' :: last => .ok (style, last)
          | other => .error (Json.faultAt other)
      | other => .error (Json.faultAt other)
  | _ :: _ => .error .malformed

/-- The settings with a field replaced by the value that follows. -/
def readField (settings : Settings) (text : List Char) : Field → Json.Scan Settings
  | .recentCapacity =>
      (Json.readCount text).map fun read => ({ settings with recentCapacity := read.1 }, read.2)
  | .completionEnabled =>
      (Json.readBoolean text).map fun read =>
        ({ settings with completionEnabled := read.1 }, read.2)
  | .paletteMaxResults =>
      (Json.readCount text).map fun read =>
        ({ settings with paletteMaxResults := read.1 }, read.2)
  | .defaultServer =>
      (Json.readText? .text text).map fun read =>
        ({ settings with defaultServer := read.1 }, read.2)
  | .snippetsFile =>
      (Json.readText? .path text).map fun read =>
        ({ settings with snippetsFile := read.1.map Path.mk }, read.2)
  | .modifierStyle =>
      (readStyle text).map fun read => ({ settings with modifierStyle := read.1 }, read.2)

/-- The settings so far, with the fields that have been given. -/
abbrev Progress := Settings × List Field

/-- One member of an object.  A field that is given twice is refused before its second value. -/
def readMember (progress : Progress) (name : String) (text : List Char) :
    Except Json.Fault (Progress × List Char) :=
  match Field.ofKey? name with
  | none => do
      let value ← Json.afterColon text
      let rest ← Json.skipAny value
      .ok (progress, rest)
  | some field =>
      if field ∈ progress.2 then .error (.data (.duplicateField field.key))
      else do
        let value ← Json.afterColon text
        let (settings, rest) ← readField progress.1 value field
        .ok ((settings, field :: progress.2), rest)

/-- The fields as the elements of an array, which may end early. -/
def readElements : List Field → Bool → Settings → List Char → Json.Scan Settings
  | [], _, settings, text => (Json.endArray text).map fun rest => (settings, rest)
  | field :: fields, first, settings, text =>
      match Json.nextElement? first text with
      | .error fault => .error fault
      | .ok none => readElements fields first settings text
      | .ok (some element) =>
          match readField settings element field with
          | .error fault => .error fault
          | .ok (next, rest) => readElements fields false next rest

/-- The settings that a JSON value gives, over the defaults. -/
def readValue (text : List Char) : Json.Scan Settings :=
  match Json.skipSpace text with
  | [] => .error .endOfText
  | '\x7b' :: rest =>
      (Json.readMembers readMember (default, []) rest).map fun read => (read.1.1, read.2)
  | '[' :: rest => readElements Field.all true default rest
  | other => .error (Json.unexpectedAt .settings other)

/-- The settings that a JSON document gives. -/
def readDocument (text : List Char) : Except Json.Fault Settings := do
  let (settings, rest) ← readValue text
  Json.endDocument rest
  .ok settings

/-- A line that is a comment: its first characters that are not blank are two slashes. -/
def isComment (line : List Char) : Bool :=
  (Text.dropStart? ['/', '/'] (Text.trim line)).isSome

/-- The text without the lines that are comments. -/
def dropComments (text : List Char) : List Char :=
  Text.join '\n' ((Text.lines text).filter fun line => !isComment line)

/-- The settings that the contents of a settings file give. -/
def parse (contents : String) : Except Json.Fault Settings :=
  readDocument (dropComments contents.toList)

/-! ## Writing -/

/-- The value of a field as plain data. -/
def fieldDatum (settings : Settings) : Field → Datum
  | .recentCapacity => .ofNat settings.recentCapacity
  | .completionEnabled => .boolean settings.completionEnabled
  | .paletteMaxResults => .ofNat settings.paletteMaxResults
  | .defaultServer => .ofText? settings.defaultServer
  | .snippetsFile => .ofText? (settings.snippetsFile.map Path.text)
  | .modifierStyle => .text settings.modifierStyle.name

/-- The settings as plain data. -/
def datum (settings : Settings) : Datum :=
  .object (Field.all.map fun field => (field.key, settings.fieldDatum field))

/-- The contents of a file that holds the settings. -/
def render (settings : Settings) : String :=
  Json.indentedString settings.datum

/-- The contents of the file that is made when there is none: the defaults, with comments. -/
def defaultFile : String :=
  String.intercalate "\n" [
    "\x7b",
    "    // Number of documents kept in File > Open Recent",
    "    \"recent.capacity\": 9,",
    "",
    "    // Offer completions while typing",
    "    \"completion.enabled\": true,",
    "",
    "    // Maximum rows shown in the command palette",
    "    \"palette.maxResults\": 50,",
    "",
    "    // Server used in generated code blocks when none is selected",
    "    \"editor.defaultServer\": null,",
    "",
    "    // Custom snippet library (TOML); null = ~/.config/querypad/snippets.toml",
    "    \"editor.snippetsFile\": null,",
    "",
    "    // Keyboard (macOS only: \"platform\" = Cmd, \"ctrl\" = Ctrl)",
    "    \"keyboard.modifierStyle\": \"platform\"",
    "\x7d",
    ""]

end Settings

end QueryNotebook
