import QueryNotebook.CommandLine.Program
import QueryNotebook.Proofs.Palette.Execution
import QueryNotebook.Proofs.Polling
import QueryNotebook.Proofs.Selection.Steps

/-!
# The entries of the program's palette

What the palette of the program offers, told without the palette: the entries that there can be, what
each of them looks like and does, and which of them are listed for a query.  The palette shows the
commands of these entries, up to which handler stands behind a command, and running it performs the
first of them.
-/

namespace QueryNotebook

/-- A search highlights the first command that it shows. -/
theorem Palette.highlighted?_search (palette : Palette) (query : String) :
    (palette.search query).highlighted? = (palette.search query).results.head? := by
  rw [highlighted?, results, search, Selection.highlighted?_withItems, Selection.items_withItems]

namespace CommandLine

/-- An entry that the palette of the program can have. -/
inductive Entry where
  | showCommands
  | clearRecent
  | insertSnippet (snippet : Snippet)
  | openRecent (path : Path)

namespace Entry

/-- What an entry looks like, with what it does. -/
def command (messages : Messages) (platform : Platform) : Entry → Command
  | .showCommands =>
      { title := "Show All Commands"
        detail := ""
        icon? := some .command
        keystroke? := some (platform.shiftedShortcut "p")
        handler := ⟨.registered 0, .action "palette.show"⟩ }
  | .clearRecent =>
      { title := "Clear Recent Documents"
        detail := ""
        icon? := some .command
        keystroke? := none
        handler := ⟨.registered 0, .action clearId⟩ }
  | .insertSnippet snippet =>
      CommandSource.snippetCommand messages ⟨.registered 0, .insertText snippet.body⟩ snippet
  | .openRecent path =>
      CommandSource.recentCommand messages ⟨.registered 0, .openDocument path⟩ path

/-- What running an entry asks for. -/
def effects : Entry → SideEffects
  | .showCommands => ⟨none, none, false⟩
  | .clearRecent => ⟨none, none, true⟩
  | .insertSnippet snippet => ⟨some snippet.body, none, false⟩
  | .openRecent path => ⟨none, some path, false⟩

end Entry

namespace PaletteSetup

variable (setup : PaletteSetup) (query? : Option String)

/-- An entry as a command of this palette. -/
def offer (entry : Entry) : Command :=
  entry.command setup.messages setup.platform

/-- All entries, in order.  There is something to clear only when documents are remembered. -/
def entries : List Entry :=
  [.showCommands] ++ (if setup.recent.isEmpty then [] else [.clearRecent]) ++
    setup.library.snippets.map .insertSnippet ++ setup.recent.paths.map .openRecent

/-- The entries that are listed: those whose titles answer the query, up to the number of rows. -/
def listed : List Entry :=
  (setup.entries.filter fun entry => (setup.offer entry).Answers (query?.getD "")).take
    setup.settings.paletteMaxResults

/-- The actions that are switched on show the commands and, when there is something to clear, clear
it. -/
theorem map_detached_actions :
    (((programActions setup.platform).filter fun action =>
        setup.switches.isOn action.switch).map Action.command).map Command.detached =
      ([Entry.showCommands] ++ (if setup.recent.isEmpty then [] else [Entry.clearRecent])).map
        setup.offer := by
  have shows : setup.switches.isOn 0 = true :=
    Switches.isOn_turn_of_ne (by decide) _ _
  have clears : setup.switches.isOn 1 = !setup.recent.isEmpty :=
    Switches.isOn_turn_self _ _ _
  cases nothing : setup.recent.isEmpty with
  | true =>
      simp [programActions, Action.ofTitle, shows, clears, nothing, showSerial, clearSerial]
      rfl
  | false =>
      simp [programActions, Action.ofTitle, shows, clears, nothing, showSerial, clearSerial]
      exact ⟨rfl, rfl⟩

/-- The sources are asked one after another. -/
theorem commands_collect :
    (setup.registry.collect setup.context).commands =
      ((programActions setup.platform).filter fun action =>
          setup.switches.isOn action.switch).map Action.command ++
        (setup.library.snippets.zipIdx.map fun item =>
          CommandSource.snippetCommand setup.messages
            (PollRound.handler ⟨0, 1⟩ item.2 (.insertText item.1.body)) item.1) ++
        setup.recent.paths.zipIdx.map fun item =>
          CommandSource.recentCommand setup.messages
            (PollRound.handler ⟨0, 2⟩ item.2 (.openDocument item.1)) item.1 := by
  rw [List.append_assoc]
  simp only [registry, CommandRegistry.collect, pollAll, CommandRegistry.register,
    CommandRegistry.empty, List.nil_append, List.cons_append, List.zipIdx_cons, List.zipIdx_nil,
    List.flatMap_cons, List.flatMap_nil, List.append_nil]
  rfl

/-- Commands that a source makes anew for its items differ only in what the items are. -/
theorem map_detached_zipIdx {α : Type} (numbered : α × Nat → Command) (offered : α → Command)
    (items : List α) (same : ∀ item, (numbered item).detached = offered item.1) :
    (items.zipIdx.map numbered).map Command.detached = items.map offered := by
  have unnumbered : Command.detached ∘ numbered = offered ∘ Prod.fst := funext same
  rw [List.map_map, unnumbered, ← List.map_map, List.zipIdx_map_fst]

/-- The sources give the commands of the entries. -/
theorem map_detached_collect :
    (setup.registry.collect setup.context).commands.map Command.detached =
      setup.entries.map setup.offer := by
  simp only [commands_collect, entries, List.map_append, List.map_map]
  refine congrArg₂ (· ++ ·) (congrArg₂ (· ++ ·) ?actions ?snippets) ?recent
  case actions => simpa using setup.map_detached_actions
  case snippets =>
    rw [← List.map_map]
    exact map_detached_zipIdx _ _ _ fun _ => rfl
  case recent =>
    rw [← List.map_map]
    exact map_detached_zipIdx _ _ _ fun _ => rfl

/-! ## The palette -/

/-- The palette has searched for the query among all commands; without a query it is one that every
command answers. -/
theorem exists_search :
    ∃ opened : Palette, opened.isOpen = true ∧
      opened.all = (setup.registry.collect setup.context).commands ∧
      opened.maxResults = setup.settings.paletteMaxResults ∧
      (setup.palette query?).1 = opened.search (query?.getD "") := by
  let start := Palette.ofSettings setup.registry setup.settings
  let opened : Palette :=
    { start with
      registry := (start.registry.collect setup.context).registry
      all := (start.registry.collect setup.context).commands
      isOpen := true }
  cases query? with
  | none => exact ⟨opened, rfl, rfl, rfl, rfl⟩
  | some query => exact ⟨opened.search "", rfl, rfl, rfl, rfl⟩

/-- The palette shows the commands of the entries that are listed. -/
theorem map_detached_results :
    (setup.palette query?).1.results.map Command.detached =
      (setup.listed query?).map setup.offer := by
  obtain ⟨opened, isOpen, all, rows, searched⟩ := setup.exists_search query?
  have results : (setup.palette query?).1.results =
      (opened.all.filter fun command => command.Answers (query?.getD "")).take
        opened.maxResults := by
    rw [searched]
    exact (Palette.shows_search isOpen (query?.getD "")).results
  -- Whether a command answers a query is a matter of its title.
  have answers : (fun command : Command => decide (command.Answers (query?.getD ""))) =
      (fun command => decide (command.Answers (query?.getD ""))) ∘ Command.detached := rfl
  rw [results, listed, all, rows, List.map_take, List.map_take, answers, ← List.filter_map,
    map_detached_collect, List.filter_map]
  rfl

/-- The palette lists the data of the entries that are listed. -/
theorem listReport_palette :
    listReport setup.platform (setup.palette query?).1 =
      .array ((setup.listed query?).map fun entry => commandDatum setup.platform (setup.offer entry)) := by
  have same : commandDatum setup.platform = commandDatum setup.platform ∘ Command.detached := rfl
  rw [listReport, same, ← List.map_map, map_detached_results, List.map_map]
  rfl

/-! ## Running the first entry -/

/-- What a command asks for is a matter of its effect. -/
theorem ofWork_perform {entry : Entry} {command : Command}
    (offered : command.detached = setup.offer entry) :
    SideEffects.ofWork [.perform command.handler] = entry.effects := by
  have effect : command.handler.effect = (setup.offer entry).handler.effect :=
    congrArg (fun command => command.handler.effect) offered
  have handler : command.handler = ⟨command.handler.id, (setup.offer entry).handler.effect⟩ := by
    rw [← effect]
  rw [handler]
  cases entry <;> rfl

/-- Draining the queue performs the one command that was settled on. -/
theorem labels_drain_single (work : Work) :
    ((JobQueue.empty.defer (.simple work)).drain).labels = [work] :=
  rfl

/-- Running the highlighted command runs the first entry that is listed, if there is one. -/
theorem runHighlighted_palette :
    match (setup.listed query?).head? with
    | none => runHighlighted (setup.palette query?).1 = none
    | some entry =>
        ∃ command, runHighlighted (setup.palette query?).1 = some (command, entry.effects) ∧
          command.title = (setup.offer entry).title := by
  obtain ⟨opened, isOpen, -, -, searched⟩ := setup.exists_search query?
  have isOpen : (setup.palette query?).1.isOpen = true := by
    rw [searched]
    exact isOpen
  have highlighted : (setup.palette query?).1.highlighted? = (setup.palette query?).1.results.head? := by
    rw [searched]
    exact Palette.highlighted?_search _ _
  have first := congrArg List.head? (setup.map_detached_results query?)
  rw [List.head?_map, List.head?_map, ← highlighted] at first
  cases listed : (setup.listed query?).head? with
  | none =>
      have nothing : (setup.palette query?).1.highlighted? = none := by simpa [listed] using first
      have settled := (Palette.commit_of_nothing (.inr nothing) .empty).1
      dsimp only
      rw [runHighlighted]
      generalize (setup.palette query?).1.commit .empty = outcome at settled
      obtain ⟨_, closed, queue⟩ := outcome
      obtain rfl := settled
      rfl
  | some entry =>
      obtain ⟨command, shown, offered⟩ : ∃ command,
          (setup.palette query?).1.highlighted? = some command ∧
            command.detached = setup.offer entry := by
        simpa [listed] using first
      have title : command.detached.title = (setup.offer entry).title :=
        congrArg Command.title offered
      refine ⟨command, ?_, title⟩
      rw [runHighlighted, Palette.commit_of_highlighted isOpen shown .empty]
      dsimp only
      rw [labels_drain_single, setup.ofWork_perform offered]

end PaletteSetup

end CommandLine

end QueryNotebook
