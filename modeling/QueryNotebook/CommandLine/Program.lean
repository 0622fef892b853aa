import QueryNotebook.CommandLine.Arguments
import QueryNotebook.Completion.Completer
import QueryNotebook.ConfigFiles
import QueryNotebook.Palette
import QueryNotebook.RecentDocuments

/-!
# The program

What the program does for each request: the files that it reads and writes, and what it reports.
All output is JSON, with the members of an object in the order of their names.
-/

namespace QueryNotebook.CommandLine

/-- Why a request was not met. -/
structure Failure where
  /-- The exit code. -/
  code : Nat
  message : String
  hint? : Option String
deriving DecidableEq, Repr

/-- The exit code of a request that was met. -/
def codeSuccess : Nat := 0

/-- The exit code of a request that failed while it was carried out. -/
def codeError : Nat := 1

/-- The exit code of arguments that make no sense. -/
def codeUsage : Nat := 2

/-- A failure while a request was carried out. -/
def Failure.ofError (message : String) : Failure :=
  ⟨codeError, message, none⟩

/-- A failure of the arguments, with a hint. -/
def Failure.ofArguments (message hint : String) : Failure :=
  ⟨codeUsage, message, some hint⟩

/-- What a request gives: data to print, or a failure. -/
abbrev Result := Except Failure Datum

/-! ## Completion -/

/-- The document at a place.  The caret is at the end unless the place says otherwise. -/
def documentAt (place : Place) : Disk (Except Failure Document) := do
  match ← readConfig place.file with
  | .error fault => pure (.error (.ofError fault.message))
  | .ok text =>
      let document := Document.ofText text (place.mode?.getD (.ofPath place.file))
      let length := text.toList.length
      match place.offset? with
      | none => pure (.ok document)
      | some offset =>
          if length < offset then
            pure (.error (.ofArguments
              ("--offset " ++ toString offset ++ " is past the end of " ++ place.file.text ++ " (" ++
                toString length ++ " chars)")
              "offsets count characters, not bytes"))
          else pure (.ok (document.moveCaret offset))

/-- The trigger at the caret of a document. -/
def classifyReport (document : Document) : Datum :=
  let context := Context.atCaret document.text document.caret document.mode
  .object
    [ ("mode", .text document.mode.name),
      ("offset", .ofNat document.caret),
      ("prefix", .text context.typed),
      ("trigger", .ofText? (context.trigger?.map Trigger.name)) ]

/-- Report the trigger at a caret. -/
def classify (place : Place) : Disk Result := do
  match ← documentAt place with
  | .error failure => pure (.error failure)
  | .ok document => pure (.ok (classifyReport document))

/-- The key of an icon, or null. -/
def iconDatum (icon? : Option Icon) : Datum :=
  .ofText? (icon?.map Icon.key)

/-- A candidate as it is listed. -/
def candidateDatum (candidate : Candidate) : Datum :=
  .object
    [ ("icon", iconDatum candidate.icon?),
      ("insert", .text candidate.insertion),
      ("label", .text candidate.label) ]

/-- The candidates at the caret of a document. -/
def completeReport (messages : Messages) (snapshot : Snapshot) (document : Document) :
    Datum × List Warning :=
  let found := (Completer.standard messages).complete document.text document.caret
    document.mode (some snapshot)
  (.array (found.candidates.map candidateDatum), found.warnings)

/-- List the candidates at a caret. -/
def complete (surroundings : Surroundings) (place : Place) (snapshot : Snapshot) : Disk Result := do
  match ← documentAt place with
  | .error failure => pure (.error failure)
  | .ok document => do
      let messages ← Messages.readOrEnglish (Messages.defaultPath surroundings)
      let (listed, warnings) := completeReport messages snapshot document
      Disk.noteAll warnings
      pure (.ok listed)

/-! ## Commands -/

/-- The number of the action that lists all commands. -/
def showSerial : Nat := 0

/-- The number of the action that forgets the recent documents. -/
def clearSerial : Nat := 1

/-- The name of the action that forgets the recent documents. -/
def clearId : String := "recent.clear"

/-- The actions of the program. -/
def programActions (platform : Platform) : List Action :=
  [ { Action.ofTitle showSerial "palette.show" "Show All Commands" with
        keystroke? := some (platform.shiftedShortcut "p") },
    Action.ofTitle clearSerial clearId "Clear Recent Documents" ]

/-- What the palette of the program is made from. -/
structure PaletteSetup where
  messages : Messages
  settings : Settings
  library : SnippetLibrary
  recent : RecentDocuments

namespace PaletteSetup

/-- The platform of the program. -/
def platform (setup : PaletteSetup) : Platform :=
  .ofBuild setup.settings.modifierStyle

/-- The switches: the recent documents can be forgotten when there are any. -/
def switches (setup : PaletteSetup) : Switches :=
  Switches.allOn.turn clearSerial (!setup.recent.isEmpty)

/-- The sources of commands, in order. -/
def registry (setup : PaletteSetup) : CommandRegistry :=
  ((CommandRegistry.empty.register (.actions (programActions setup.platform))).register
    (.snippets setup.library)).register (.recent setup.recent.paths)

/-- What the sources may look at. -/
def context (setup : PaletteSetup) : PollContext where
  messages := setup.messages
  platform := setup.platform
  mode := .unknown
  switches := setup.switches

/-- The palette opened and searched, with the warnings. -/
def palette (setup : PaletteSetup) (query? : Option String) : Palette × List Warning :=
  let opened := (Palette.ofSettings setup.registry setup.settings).openWith setup.context
  match query? with
  | none => opened
  | some query => (opened.1.setQuery query, opened.2)

end PaletteSetup

/-- A command as it is listed. -/
def commandDatum (platform : Platform) (command : Command) : Datum :=
  .object
    [ ("detail", .text (command.shown platform)),
      ("icon", iconDatum command.icon?),
      ("keystroke", .ofText? (command.keystroke?.map Keystroke.display)),
      ("title", .text command.title) ]

/-- The commands that a palette shows. -/
def listReport (platform : Platform) (palette : Palette) : Datum :=
  .array (palette.results.map (commandDatum platform))

/-- What a command that was run has asked for. -/
structure SideEffects where
  inserted? : Option String
  opened? : Option Path
  clears : Bool

namespace SideEffects

/-- Nothing has been asked for. -/
def none : SideEffects := ⟨Option.none, Option.none, false⟩

/-- One more effect. -/
def observe (effects : SideEffects) : Work → SideEffects
  | .perform ⟨_, .insertText text⟩ => { effects with inserted? := some text }
  | .perform ⟨_, .openDocument path⟩ => { effects with opened? := some path }
  | .perform ⟨_, .action name⟩ => { effects with clears := effects.clears || name == clearId }
  | .insertCompletion _ => effects

/-- The effects of the work that a drain did. -/
def ofWork (work : List Work) : SideEffects :=
  work.foldl observe none

end SideEffects

/-- The command that the palette settles on, and its effects once the queue is drained. -/
def runHighlighted (palette : Palette) : Option (Command × SideEffects) :=
  match palette.commit .empty with
  | (none, _, _) => none
  | (some command, _, queue) => some (command, .ofWork queue.drain.labels)

/-- What is reported of a command that was run. -/
def runReport (command : Command) (effects : SideEffects) : Datum :=
  .object
    [ ("inserted", .ofText? effects.inserted?),
      ("opened", .ofText? (effects.opened?.map Path.text)),
      ("ran", .text command.title) ]

/-- A step of the program that leaves the recent documents, their store and warnings. -/
def noted (change : RecentChange FileStore) : Disk (RecentDocuments × FileStore) := do
  Disk.noteAll change.warnings
  pure (change.recent, change.store)

/-- The recent documents after the effects of a command. -/
def settle (recent : RecentDocuments) (store : FileStore) (effects : SideEffects) :
    Disk (RecentDocuments × FileStore) := do
  let (recent, store) ←
    match effects.opened? with
    | some path => do
        let change ← recent.recordIn path store
        noted change
    | none => pure (recent, store)
  if effects.clears then do
    let change ← recent.clearIn store
    noted change
  else pure (recent, store)

/-- The store to use. -/
def openStore (surroundings : Surroundings) (store? : Option Path) : Disk FileStore :=
  FileStore.openAt (store?.getD (FileStore.defaultPath surroundings))

/-- The snippet library to use.  One that the arguments name must load. -/
def openLibrary (surroundings : Surroundings) (settings : Settings) (snippets? : Option Path) :
    Disk (Except ConfigFault SnippetLibrary) := do
  match snippets? with
  | some path => SnippetLibrary.read path
  | none => do
      let library ← SnippetLibrary.readOrStandard (settings.libraryPath surroundings)
      pure (.ok library)

/-- List the palette's commands, or run the first one. -/
def commands (surroundings : Surroundings) (settings : Settings) (query? : Option String)
    (snippets? store? : Option Path) (run : Bool) : Disk Result := do
  let messages ← Messages.readOrEnglish (Messages.defaultPath surroundings)
  let store ← openStore surroundings store?
  let recent := RecentDocuments.ofStore store settings.recentCapacity
  match ← openLibrary surroundings settings snippets? with
  | .error fault => pure (.error (.ofError fault.message))
  | .ok library =>
      let setup : PaletteSetup := ⟨messages, settings, library, recent⟩
      let (palette, warnings) := setup.palette query?
      Disk.noteAll warnings
      if !run then pure (.ok (listReport setup.platform palette))
      else
        match runHighlighted palette with
        | none =>
            pure (.error (.ofArguments "no command matches"
              "run without --run to see available commands"))
        | some (command, effects) => do
            let _ ← settle recent store effects
            pure (.ok (runReport command effects))

/-! ## Recent documents -/

/-- The recent documents and the last folder. -/
def recentReport (recent : RecentDocuments) (store : FileStore) : Datum :=
  .object
    [ ("documents", .array (recent.paths.map fun path => .text path.text)),
      ("lastFolder", .ofText? ((usedFolder? store).map Path.text)) ]

/-- The folder of a document that was opened, stored as the last one if it has a name. -/
def storeFolder (store : FileStore) (path : Path) : Disk FileStore := do
  match path.parent? with
  | none => pure store
  | some folder =>
      if folder.text = "" then pure store
      else do
        let (next, warnings) ← keepUsedFolder store folder
        Disk.noteAll warnings
        pure next

/-- Show or change the recent documents. -/
def recent (surroundings : Surroundings) (settings : Settings) (request : RecentRequest)
    (store? : Option Path) : Disk Result := do
  let store ← openStore surroundings store?
  let recent := RecentDocuments.ofStore store settings.recentCapacity
  let (recent, store) ←
    match request with
    | .list => pure (recent, store)
    | .add path => do
        let store ← storeFolder store path
        let change ← recent.recordIn path store
        noted change
    | .clear => do
        let change ← recent.clearIn store
        noted change
  pure (.ok (recentReport recent store))

/-! ## All requests -/

/-- The settings of an invocation. -/
def loadSettings (surroundings : Surroundings) (file? : Option Path) : Disk Settings :=
  match file? with
  | some path => Settings.readOrDefault path
  | none => Settings.readOrCreate surroundings

/-- Meet a request. -/
def meet (surroundings : Surroundings) (settings : Settings) : Request → Disk Result
  | .classify place => classify place
  | .complete place tables servers selectedServer? =>
      complete surroundings place
        { Snapshot.initial with
          tables := tables
          servers := servers
          selectedServer? := selectedServer?.or settings.defaultServer }
  | .commands query? snippets? store? run =>
      commands surroundings settings query? snippets? store? run
  | .recent request store? => recent surroundings settings request store?

/-- What the program leaves for its caller. -/
structure Report where
  code : Nat
  output : String
  error? : Option String
  hint? : Option String
deriving DecidableEq, Repr

/-- A report of text alone. -/
def Report.ofText (output : String) : Report :=
  ⟨codeSuccess, output, none, none⟩

/-- The report of a result: the data on lines of their own, or the failure. -/
def Report.ofResult : Result → Report
  | .ok datum => .ofText (Json.indentedString datum ++ "\n")
  | .error failure => ⟨failure.code, "", some failure.message, failure.hint?⟩

/-- The name and the version of the program. -/
def versionText : String := "qpad 0.3.0"

/-- What an invocation comes to. -/
inductive Reply where
  /-- The arguments are not understood. -/
  | usage
  /-- Help was asked for. -/
  | help
  | report (report : Report)
deriving DecidableEq, Repr

/-- The program. -/
def run (surroundings : Surroundings) (arguments : List String) : Disk Reply := do
  match parseArguments surroundings.settingsFile arguments with
  | .error .usage => pure .usage
  | .error .help => pure .help
  | .error .version => pure (.report (.ofText (versionText ++ "\n")))
  | .ok invocation => do
      let settings ← loadSettings surroundings invocation.settingsFile?
      let result ← meet surroundings settings invocation.request
      pure (.report (.ofResult result))

end QueryNotebook.CommandLine
