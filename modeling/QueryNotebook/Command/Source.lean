import QueryNotebook.Command
import QueryNotebook.Document
import QueryNotebook.Messages
import QueryNotebook.Poll
import QueryNotebook.RecentDocuments
import QueryNotebook.Snippet
import QueryNotebook.Warning

/-!
# Command sources

Where the palette's commands come from: actions that the host registers, snippets, and recent
documents.  The host can switch an action off and on after it is registered; the switches are kept
apart from the actions, so that a source is asked with the switches as they are now.
-/

namespace QueryNotebook

/-- The switches of the registered actions, all of them on but the listed ones. -/
structure Switches where
  off : List Nat
deriving DecidableEq, Repr

namespace Switches

/-- Every switch is on. -/
def allOn : Switches := ⟨[]⟩

/-- A switch is on. -/
def isOn (switches : Switches) (switch : Nat) : Bool :=
  !switches.off.contains switch

/-- The switches with one of them turned. -/
def turn (switches : Switches) (switch : Nat) (on : Bool) : Switches :=
  let others := switches.off.filter fun other => other != switch
  ⟨if on then others else switch :: others⟩

/-- A turned switch is as it was turned. -/
@[simp] theorem isOn_turn_self (switches : Switches) (switch : Nat) (on : Bool) :
    (switches.turn switch on).isOn switch = on := by
  cases on <;> simp [turn, isOn]

/-- Turning a switch leaves the others. -/
@[simp] theorem isOn_turn_of_ne {switch other : Nat} (different : other ≠ switch)
    (switches : Switches) (on : Bool) :
    (switches.turn switch on).isOn other = switches.isOn other := by
  cases on <;> simp [turn, isOn, different]

end Switches

/-- What a source may look at. -/
structure PollContext where
  messages : Messages
  platform : Platform
  mode : DocumentMode
  switches : Switches

/-- One poll of one source: the number of the round, and the place of the source in it. -/
structure PollRound where
  round : Nat
  place : Nat

/-- A handler made for an item in a poll. -/
def PollRound.handler (poll : PollRound) (item : Nat) (effect : CommandEffect) : Handler :=
  ⟨.polled poll.round poll.place item, effect⟩

/-- A source of commands. -/
structure CommandSource where
  name : String
  commands : PollContext → PollRound → Poll Command

/-! ## Actions -/

/-- An action that the host registers. -/
structure Action where
  id : String
  title : String
  detail : String
  keystroke? : Option Keystroke
  icon? : Option Icon
  /-- The switch of the action; a copy of the action has the same. -/
  switch : Nat
  handler : Handler

namespace Action

/-- An action with the usual icon, whose handler and switch have the given number. -/
def ofTitle (serial : Nat) (id title : String) : Action where
  id := id
  title := title
  detail := ""
  keystroke? := none
  icon? := some .command
  switch := serial
  handler := ⟨.registered serial, .action id⟩

/-- The command of an action. -/
def command (action : Action) : Command where
  title := action.title
  detail := action.detail
  icon? := action.icon?
  keystroke? := action.keystroke?
  handler := action.handler

end Action

/-- The switches with that of the first action of a name turned, if there is one. -/
def Switches.turnNamed? (switches : Switches) (actions : List Action) (id : String) (on : Bool) :
    Option Switches :=
  (actions.find? fun action => action.id == id).map fun action => switches.turn action.switch on

namespace CommandSource

/-- The actions that are switched on. -/
def actions (actions : List Action) : CommandSource where
  name := "actions"
  commands context _ :=
    .answered
      ((actions.filter fun action => context.switches.isOn action.switch).map Action.command)

/-! ## Snippets -/

/-- The command that inserts a snippet. -/
def snippetCommand (messages : Messages) (handler : Handler) (snippet : Snippet) : Command where
  title := messages.format .insertSnippet snippet.title
  detail := snippet.summary
  icon? := some .snippet
  keystroke? := snippet.keystroke
  handler := handler

/-- A command for every snippet. -/
def snippets (library : SnippetLibrary) : CommandSource where
  name := "snippets"
  commands context poll :=
    .answered <| library.snippets.zipIdx.map fun (snippet, item) =>
      snippetCommand context.messages (poll.handler item (.insertText snippet.body)) snippet

/-! ## Recent documents -/

/-- What a recent document is called: its file name, or its whole path without one. -/
def documentName (path : Path) : String :=
  path.fileName?.getD path.text

/-- The command that opens a recent document. -/
def recentCommand (messages : Messages) (handler : Handler) (path : Path) : Command where
  title := messages.format .openRecent (documentName path)
  detail := (path.parent?.map Path.text).getD ""
  icon? := some .document
  keystroke? := none
  handler := handler

/-- A command for every recent document. -/
def recent (paths : List Path) : CommandSource where
  name := "recent_documents"
  commands context poll :=
    .answered <| paths.zipIdx.map fun (path, item) =>
      recentCommand context.messages (poll.handler item (.openDocument path)) path

end CommandSource

/-! ## All sources together -/

/-- The registered sources, in order, and the number of rounds in which they were asked. -/
structure CommandRegistry where
  sources : List CommandSource
  rounds : Nat

/-- What a round of polling gives. -/
structure Collected where
  commands : List Command
  warnings : List Warning
  registry : CommandRegistry

namespace CommandRegistry

/-- No source. -/
def empty : CommandRegistry := ⟨[], 0⟩

/-- The sources with one more, after the others. -/
def register (registry : CommandRegistry) (source : CommandSource) : CommandRegistry :=
  { registry with sources := registry.sources ++ [source] }

/-- The names of the sources. -/
def sourceNames (registry : CommandRegistry) : List String :=
  registry.sources.map CommandSource.name

/-- The commands of all sources one after another, and a warning for every source that failed. -/
def collect (registry : CommandRegistry) (context : PollContext) : Collected :=
  let polled := pollAll (fun source => source.1.name)
    (fun source => source.1.commands context ⟨registry.rounds, source.2⟩) registry.sources.zipIdx
  { commands := polled.1
    warnings := polled.2.map Warning.sourceSkipped
    registry := { registry with rounds := registry.rounds + 1 } }

end CommandRegistry

end QueryNotebook
