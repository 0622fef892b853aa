import QueryNotebook.Disk
import QueryNotebook.Settings
import QueryNotebook.Snippet
import QueryNotebook.Store.File

/-!
# Configuration files

Where the files of the configuration are, and loading them.  Every file has two ways to be loaded:
one that reports a fault, and one that goes on without the file and leaves a warning.
-/

namespace QueryNotebook

/-- What the surroundings say about where the configuration is. -/
structure Surroundings where
  /-- The folder for the configurations of all programs, if one is set. -/
  configHome : Option Path
  /-- The reader's own folder. -/
  home : Option Path
  /-- The settings file to use instead of the one in the configuration folder. -/
  settingsFile : Option String

/-- The program's folder among the configurations. -/
def configFolderName : Path := ⟨"querypad"⟩

/-- The folder that holds the configuration files.  A folder for all configurations counts only if it
is absolute. -/
def Surroundings.configFolder (surroundings : Surroundings) : Path :=
  let usual : Path :=
    match surroundings.home with
    | some home => home.join ⟨".config"⟩
    | none => ⟨"."⟩
  let all : Path :=
    match surroundings.configHome with
    | some folder => if folder.isAbsolute then folder else usual
    | none => usual
  all.join configFolderName

/-- What is wrong with a TOML text, in short. -/
def Toml.Fault.reason : Toml.Fault → String
  | .malformed => "malformed TOML"
  | .data fault => fault.message Toml.numberStyle

/-- The text of a configuration file. -/
def readConfig (path : Path) : Disk (Except ConfigFault String) := do
  let contents ← Disk.read path
  pure (contents.mapError (ConfigFault.file path))

/-! ## Settings -/

namespace Settings

/-- The settings file of the configuration folder. -/
def defaultPath (surroundings : Surroundings) : Path :=
  surroundings.configFolder.join ⟨"settings.json"⟩

/-- The settings that a file gives. -/
def read (path : Path) : Disk (Except ConfigFault Settings) := do
  match ← readConfig path with
  | .error fault => pure (.error fault)
  | .ok contents =>
      pure ((parse contents).mapError fun fault => .notParsed path fault.reason)

/-- The settings that a file gives, or the defaults. -/
def readOrDefault (path : Path) : Disk Settings := do
  match ← read path with
  | .ok settings => pure settings
  | .error fault => do
      Disk.note (.settingsIgnored fault)
      pure default

/-- The settings of the configuration folder.  Without a settings file there, one with the defaults
is written. -/
def readOrCreate (surroundings : Surroundings) : Disk Settings := do
  let path := defaultPath surroundings
  if ← Disk.present path then readOrDefault path
  else do
    match ← Disk.writeInFolder path defaultFile with
    | .ok () => pure default
    | .error fault => do
        Disk.note (.settingsNotWritten fault)
        pure default

/-- The settings written to a file. -/
def writeTo (settings : Settings) (path : Path) : Disk (Except ConfigFault Unit) :=
  Disk.writeInFolder path settings.render

/-- The settings written to the configuration folder. -/
def write (settings : Settings) (surroundings : Surroundings) : Disk (Except ConfigFault Unit) :=
  settings.writeTo (defaultPath surroundings)

/-- The snippet library to use. -/
def libraryPath (settings : Settings) (surroundings : Surroundings) : Path :=
  settings.snippetsFile.getD (surroundings.configFolder.join ⟨"snippets.toml"⟩)

end Settings

/-! ## Snippets -/

namespace SnippetLibrary

/-- The library that a file gives. -/
def read (path : Path) : Disk (Except ConfigFault SnippetLibrary) := do
  match ← readConfig path with
  | .error fault => pure (.error fault)
  | .ok contents =>
      pure ((ofToml contents).mapError fun fault => .notParsed path fault.reason)

/-- The library that a file gives, or the one that is offered without a file. -/
def readOrStandard (path : Path) : Disk SnippetLibrary := do
  if ← Disk.present path then
    match ← read path with
    | .ok library => pure library
    | .error fault => do
        Disk.note (.snippetsIgnored fault)
        pure standard
  else pure standard

end SnippetLibrary

/-! ## Messages -/

namespace Messages

/-- The messages file of the configuration folder. -/
def defaultPath (surroundings : Surroundings) : Path :=
  surroundings.configFolder.join ⟨"strings.toml"⟩

/-- The messages with the replacements that a file gives. -/
def read (path : Path) : Disk (Except ConfigFault Messages) := do
  match ← readConfig path with
  | .error fault => pure (.error fault)
  | .ok contents =>
      match ofReplacements contents with
      | .error fault => pure (.error (.notParsed path fault.reason))
      | .ok (messages, unknown) => do
          Disk.noteAll (unknown.map Warning.unknownMessage)
          pure (.ok messages)

/-- The messages with the replacements that a file gives, or the English ones. -/
def readOrEnglish (path : Path) : Disk Messages := do
  if ← Disk.present path then
    match ← read path with
    | .ok messages => pure messages
    | .error fault => do
        Disk.note (.messagesIgnored fault)
        pure english
  else pure english

end Messages

/-- The store file of the configuration folder. -/
def FileStore.defaultPath (surroundings : Surroundings) : Path :=
  surroundings.configFolder.join ⟨"prefs.json"⟩

end QueryNotebook
