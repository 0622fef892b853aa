import Mathlib.Data.List.Induction
import QueryNotebook.Proofs.Command.Matching
import QueryNotebook.Proofs.Palette.Host

/-!
# What a palette shows

What the user sees of a palette can be told from its history: from the commands that its latest
opening collected and from the query that the edits since then spell.  How the query came about does
not matter.  A palette that was not opened, or that was left since, shows nothing, and nothing but
opening it changes that.
-/

namespace QueryNotebook

/-! ## One palette -/

namespace Palette

/-- The palette is open, and shows those of some commands that answer a query, as far as it may. -/
structure Shows (palette : Palette) (all : List Command) (query : String) : Prop where
  isOpen : palette.isOpen = true
  collected : palette.all = all
  asked : palette.query = query
  results : palette.results =
    (all.filter fun command => command.Answers query).take palette.maxResults
  matchCount : palette.matchCount = (all.filter fun command => command.Answers query).length

/-- The palette is closed, and nothing is left of what it showed. -/
structure Cleared (palette : Palette) : Prop where
  isClosed : palette.isOpen = false
  results : palette.results = []
  query : palette.query = ""
  matchCount : palette.matchCount = 0

/-- Where nothing is shown, nothing is highlighted. -/
theorem Cleared.highlighted? {palette : Palette} (cleared : palette.Cleared) :
    palette.highlighted? = none := by
  have nothing : palette.selection.items = [] := cleared.results
  simp [Palette.highlighted?, Selection.highlighted?, nothing]

/-- A search in an open palette shows what answers its query. -/
theorem shows_search {palette : Palette} (isOpen : palette.isOpen = true) (query : String) :
    (palette.search query).Shows palette.all query where
  isOpen := isOpen
  collected := rfl
  asked := rfl
  results := by
    rw [← Command.matching_eq_filter]
    exact Selection.items_withItems palette.selection _
  matchCount := by
    rw [← Command.matching_eq_filter]
    rfl

/-- An opened palette shows all commands that its sources give. -/
theorem shows_openWith (palette : Palette) (context : PollContext) :
    (palette.openWith context).1.Shows (palette.registry.collect context).commands "" :=
  shows_search rfl ""

/-- A closed palette has nothing left of what it showed. -/
theorem cleared_close (palette : Palette) : palette.close.Cleared where
  isClosed := rfl
  results := Selection.items_withItems palette.selection []
  query := rfl
  matchCount := rfl

/-- Settling on a command leaves nothing of what was shown, and so does settling on none. -/
theorem cleared_commit {palette : Palette} (isOpen : palette.isOpen = true)
    (queue : JobQueue Work) : (palette.commit queue).2.1.Cleared := by
  rw [commit, if_pos isOpen]
  split <;> exact cleared_close palette

/-- Turning away leaves nothing of what was shown. -/
theorem cleared_cancel {palette : Palette} (isOpen : palette.isOpen = true) :
    palette.cancel.Cleared := by
  rw [cancel, if_pos isOpen]
  exact ⟨rfl, Selection.items_cancel _, rfl, rfl⟩

end Palette

/-! ## The history of a palette -/

/-- The event opens the palette. -/
def HostEvent.opens : HostEvent → Bool
  | .used step => step.opens
  | _ => false

/-- The event neither opens nor leaves the palette. -/
def HostEvent.stays : HostEvent → Bool
  | .used (.opened ..) => false
  | .used .committed => false
  | .used .cancelled => false
  | _ => true

/-- The query that an event makes of another. -/
def HostEvent.edit (query : String) : HostEvent → String
  | .used (.searched wanted) => wanted
  | .used (.typed c) => query.push c
  | .used .erased => String.ofList query.toList.dropLast
  | _ => query

/-- The query that the edits among some events spell, the oldest of them first. -/
def spelled (events : List HostEvent) : String :=
  events.foldl HostEvent.edit ""

/-- A history parts at an opening that no later event replaced or ended. -/
structure LatestOpening (events earlier : List HostEvent) (messages : Messages)
    (platform : Platform) (mode : DocumentMode) (since : List HostEvent) : Prop where
  parts : events = earlier ++ .used (.opened messages platform mode) :: since
  stays : ∀ event ∈ since, event.stays = true

@[simp] theorem spelled_concat (events : List HostEvent) (event : HostEvent) :
    spelled (events ++ [event]) = event.edit (spelled events) := by
  simp [spelled]

namespace PaletteHost

/-- While a palette stays open, what it shows follows the query. -/
theorem shows_handle {host : PaletteHost} {all : List Command} {query : String}
    (shows : host.palette.Shows all query) {event : HostEvent} (stays : event.stays = true) :
    (host.handle event).palette.Shows all (event.edit query) := by
  have isOpen := shows.isOpen
  have search (wanted : String) : (host.palette.search wanted).Shows all wanted :=
    shows.collected ▸ Palette.shows_search isOpen wanted
  cases event with
  | switched switch on => exact shows
  | drained => exact shows
  | used step =>
      cases step with
      | opened | committed | cancelled => contradiction
      | searched wanted =>
          simp only [handle, PaletteHost.step, Palette.setQuery, isOpen, if_true]
          exact search wanted
      | typed c =>
          simp only [handle, PaletteHost.step, Palette.typeChar, isOpen, if_true, shows.asked]
          exact search (query.push c)
      | erased =>
          simp only [handle, PaletteHost.step, Palette.backspace, isOpen, Bool.true_and,
            shows.asked, HostEvent.edit]
          split
          · exact search _
          · next nothing =>
            obtain rfl : query = "" := by simpa using nothing
            exact shows
      | moved distance =>
          simp only [handle, PaletteHost.step, Palette.moveBy, isOpen, if_true]
          have results := (Selection.items_moveBy host.palette.selection distance).trans
            shows.results
          exact ⟨rfl, shows.collected, shows.asked, results, shows.matchCount⟩

/-- A palette that shows nothing is changed by no step but opening it. -/
theorem step_of_cleared {host : PaletteHost} (cleared : host.palette.Cleared) {step : PaletteStep}
    (opensNot : step.opens = false) : host.step step = host := by
  have isClosed := cleared.isClosed
  cases step with
  | opened => contradiction
  | searched wanted => simp [PaletteHost.step, Palette.setQuery, isClosed]
  | typed c => simp [PaletteHost.step, Palette.typeChar, isClosed]
  | erased => simp [PaletteHost.step, Palette.backspace, isClosed]
  | moved distance => simp [PaletteHost.step, Palette.moveBy, isClosed]
  | committed => simp [PaletteHost.step, Palette.commit, isClosed]
  | cancelled => simp [PaletteHost.step, Palette.cancel, isClosed]

/-- Nothing but opening a palette makes it show something. -/
theorem cleared_handle {host : PaletteHost} (cleared : host.palette.Cleared) {event : HostEvent}
    (opensNot : event.opens = false) : (host.handle event).palette.Cleared := by
  cases event with
  | switched switch on => exact cleared
  | drained => exact cleared
  | used step =>
      rw [handle, step_of_cleared cleared opensNot]
      exact cleared

/-- A palette that is left shows nothing. -/
theorem cleared_handle_of_leaves {host : PaletteHost} {all : List Command} {query : String}
    (shows : host.palette.Shows all query) {event : HostEvent} (leaves : event.stays = false)
    (opensNot : event.opens = false) : (host.handle event).palette.Cleared := by
  cases event with
  | switched | drained => contradiction
  | used step =>
      cases step with
      | opened | searched | typed | erased | moved => contradiction
      | committed => exact Palette.cleared_commit shows.isOpen host.queue
      | cancelled => exact Palette.cleared_cancel shows.isOpen

/-! ## Whole runs -/

/-- An opened palette shows what its sources gave, narrowed down to the query spelled since. -/
theorem shows_after_opening (host : PaletteHost) (messages : Messages) (platform : Platform)
    (mode : DocumentMode) {since : List HostEvent} (stays : ∀ event ∈ since, event.stays = true) :
    ((host.handle (.used (.opened messages platform mode))).after since).palette.Shows
      (host.collected messages platform mode) (spelled since) := by
  induction since using List.reverseRecOn with
  | nil => exact Palette.shows_openWith host.palette _
  | append_singleton since event inductionHypothesis =>
      have before := inductionHypothesis fun other member =>
        stays other (List.mem_append_left _ member)
      rw [after_concat, spelled_concat]
      exact shows_handle before (stays event (by simp))

/-- What is shown after any events is what the latest opening collected, narrowed down. -/
theorem shows_after (start : PaletteHost) {events earlier since : List HostEvent}
    {messages : Messages} {platform : Platform} {mode : DocumentMode}
    (latest : LatestOpening events earlier messages platform mode since) :
    (start.after events).palette.Shows ((start.after earlier).collected messages platform mode)
      (spelled since) := by
  have shows := shows_after_opening (start.after earlier) messages platform mode latest.stays
  rw [latest.parts]
  simpa [after] using shows

/-- A palette that was not opened yet shows nothing. -/
theorem cleared_ofRegistry (registry : CommandRegistry) (maxResults : Nat) (queue : JobQueue Work)
    (switches : Switches) : (ofRegistry registry maxResults queue switches).palette.Cleared :=
  ⟨rfl, rfl, rfl, rfl⟩

/-- At every moment a palette shows nothing, or there is an opening that no later event replaced or
ended. -/
theorem cleared_or_latestOpening {start : PaletteHost} (cleared : start.palette.Cleared)
    (events : List HostEvent) :
    (start.after events).palette.Cleared ∨
      ∃ earlier messages platform mode since,
        LatestOpening events earlier messages platform mode since := by
  induction events using List.reverseRecOn with
  | nil => exact .inl cleared
  | append_singleton events event inductionHypothesis =>
      rw [after_concat]
      by_cases opens : event.opens = true
      · right
        obtain ⟨messages, platform, mode, rfl⟩ :
            ∃ messages platform mode, event = .used (.opened messages platform mode) := by
          cases event with
          | switched | drained => contradiction
          | used step =>
              cases step with
              | opened messages platform mode => exact ⟨messages, platform, mode, rfl⟩
              | searched | typed | erased | moved | committed | cancelled => contradiction
        exact ⟨events, messages, platform, mode, [], rfl, by simp⟩
      · have opensNot : event.opens = false := Bool.eq_false_iff.mpr opens
        rcases inductionHypothesis with before | ⟨earlier, messages, platform, mode, since, latest⟩
        · exact .inl (cleared_handle before opensNot)
        · by_cases stays : event.stays = true
          · refine .inr ⟨earlier, messages, platform, mode, since ++ [event], ?_, ?_⟩
            · rw [latest.parts, List.append_assoc, List.cons_append]
            · intro other member
              rcases List.mem_append.mp member with early | last
              · exact latest.stays other early
              · exact List.mem_singleton.mp last ▸ stays
          · have shows := shows_after start latest
            exact .inl (cleared_handle_of_leaves shows (Bool.eq_false_iff.mpr stays) opensNot)

/-- What the user sees of a palette after any events.  It has the sources it came with, and is open
exactly when an opening was not followed by another, by settling or by turning away.  Then it shows
the first of the commands which that opening collected and which answer the query spelled since,
counts all of them, and has that query; so two ways to spell one query end in the same view.
Otherwise it shows nothing, and no step but opening it changes anything. -/
theorem view_after (registry : CommandRegistry) (maxResults : Nat) (queue : JobQueue Work)
    (switches : Switches) (events : List HostEvent) :
    let start := ofRegistry registry maxResults queue switches
    let host := start.after events
    host.palette.registry.sources = registry.sources ∧
    (host.palette.isOpen = true ↔ ∃ earlier messages platform mode since,
      LatestOpening events earlier messages platform mode since) ∧
    (∀ earlier messages platform mode since,
      LatestOpening events earlier messages platform mode since →
        let found := ((start.after earlier).collected messages platform mode).filter
          fun command => command.Answers (spelled since)
        host.palette.results = found.take maxResults ∧ host.palette.matchCount = found.length ∧
          host.palette.query = spelled since ∧
          ∀ other, (∀ event ∈ other, event.stays = true) → spelled other = spelled since →
            let others := start.after (earlier ++ .used (.opened messages platform mode) :: other)
            others.palette.results = host.palette.results ∧
              others.palette.matchCount = host.palette.matchCount ∧
              others.palette.query = host.palette.query) ∧
    (host.palette.isOpen = false →
      host.palette.results = [] ∧ host.palette.query = "" ∧ host.palette.matchCount = 0 ∧
        host.palette.highlighted? = none ∧ (host.palette.commit host.queue).1 = none ∧
        ∀ step : PaletteStep, step.opens = false → host.step step = host) := by
  intro start host
  have cleared : start.palette.Cleared := cleared_ofRegistry registry maxResults queue switches
  have room : ∀ history, (start.after history).palette.maxResults = maxResults :=
    fun history => (setup_after start history).2
  refine ⟨(setup_after start events).1, ⟨?_, ?_⟩, ?_, ?_⟩
  · intro isOpen
    rcases cleared_or_latestOpening cleared events with nothing | latest
    · rw [nothing.isClosed] at isOpen
      contradiction
    · exact latest
  · rintro ⟨earlier, messages, platform, mode, since, latest⟩
    exact (shows_after start latest).isOpen
  · intro earlier messages platform mode since latest found
    have shows : host.palette.Shows _ _ := shows_after start latest
    have results : host.palette.results = found.take maxResults := room events ▸ shows.results
    refine ⟨results, shows.matchCount, shows.asked, ?_⟩
    intro other stays same others
    have latestToo : LatestOpening (earlier ++ .used (.opened messages platform mode) :: other)
        earlier messages platform mode other := ⟨rfl, stays⟩
    have showsToo : others.palette.Shows _ _ := shows_after start latestToo
    rw [same] at showsToo
    have resultsToo : others.palette.results = found.take maxResults :=
      room (earlier ++ _ :: other) ▸ showsToo.results
    exact ⟨resultsToo.trans results.symm, showsToo.matchCount.trans shows.matchCount.symm,
      showsToo.asked.trans shows.asked.symm⟩
  · intro isClosed
    have nothing : host.palette.Cleared := by
      rcases cleared_or_latestOpening cleared events with nothing | ⟨_, _, _, _, _, latest⟩
      · exact nothing
      · have isOpen : host.palette.isOpen = true := (shows_after start latest).isOpen
        rw [isClosed] at isOpen
        contradiction
    refine ⟨nothing.results, nothing.query, nothing.matchCount, nothing.highlighted?, ?_, ?_⟩
    · rw [Palette.commit, if_neg (by simp [isClosed])]
    · exact fun step => step_of_cleared nothing

end PaletteHost

end QueryNotebook
