import QueryNotebook.Palette

/-!
# A palette and its host

The palette seen from outside: what its user does with it, and what happens between two of these
steps without it.  The host owns the queue to which the palette defers a command and the switches of
the actions; it may turn a switch or drain the queue at any time.
-/

namespace QueryNotebook

/-- What the user of a palette does. -/
inductive PaletteStep where
  | opened (messages : Messages) (platform : Platform) (mode : DocumentMode)
  | searched (query : String)
  | typed (c : Char)
  | erased
  | moved (distance : Int)
  | committed
  | cancelled

/-- The step opens the palette. -/
def PaletteStep.opens : PaletteStep → Bool
  | .opened .. => true
  | _ => false

/-- What happens at the host of a palette. -/
inductive HostEvent where
  /-- The palette is used. -/
  | used (step : PaletteStep)
  /-- The switch of an action is turned. -/
  | switched (switch : Nat) (on : Bool)
  /-- The deferred commands are performed. -/
  | drained

/-- A palette, the queue to which it defers commands, and the switches that its sources look at. -/
structure PaletteHost where
  palette : Palette
  queue : JobQueue Work
  switches : Switches

namespace PaletteHost

/-- What a source is asked with when the palette is opened. -/
def pollContext (host : PaletteHost) (messages : Messages) (platform : Platform)
    (mode : DocumentMode) : PollContext :=
  ⟨messages, platform, mode, host.switches⟩

/-- The host after a step of the user. -/
def step (host : PaletteHost) : PaletteStep → PaletteHost
  | .opened messages platform mode =>
      { host with
        palette := (host.palette.openWith (host.pollContext messages platform mode)).1 }
  | .searched query => { host with palette := host.palette.setQuery query }
  | .typed c => { host with palette := host.palette.typeChar c }
  | .erased => { host with palette := host.palette.backspace }
  | .moved distance => { host with palette := host.palette.moveBy distance }
  | .committed =>
      let (_, palette, queue) := host.palette.commit host.queue
      { host with palette := palette, queue := queue }
  | .cancelled => { host with palette := host.palette.cancel }

/-- The host after an event. -/
def handle (host : PaletteHost) : HostEvent → PaletteHost
  | .used step => host.step step
  | .switched switch on => { host with switches := host.switches.turn switch on }
  | .drained => { host with queue := host.queue.drain.queue }

/-- The host after several events, the oldest of them first. -/
def after (host : PaletteHost) (events : List HostEvent) : PaletteHost :=
  events.foldl handle host

@[simp] theorem after_nil (host : PaletteHost) : host.after [] = host := rfl

@[simp] theorem after_concat (host : PaletteHost) (events : List HostEvent) (event : HostEvent) :
    host.after (events ++ [event]) = (host.after events).handle event := by
  simp [after]

/-- A host whose palette was not opened yet. -/
def ofRegistry (registry : CommandRegistry) (maxResults : Nat) (queue : JobQueue Work)
    (switches : Switches) : PaletteHost :=
  ⟨.ofRegistry registry maxResults, queue, switches⟩

/-- The commands that opening the palette now would collect. -/
def collected (host : PaletteHost) (messages : Messages) (platform : Platform)
    (mode : DocumentMode) : List Command :=
  (host.palette.registry.collect (host.pollContext messages platform mode)).commands

/-- No step changes the sources of a palette and the number of commands that it shows at most. -/
theorem setup_step (host : PaletteHost) (step : PaletteStep) :
    (host.step step).palette.registry.sources = host.palette.registry.sources ∧
      (host.step step).palette.maxResults = host.palette.maxResults := by
  cases step with
  | opened messages platform mode => exact ⟨rfl, rfl⟩
  | searched query =>
      simp only [PaletteHost.step, Palette.setQuery]
      split <;> exact ⟨rfl, rfl⟩
  | typed c =>
      simp only [PaletteHost.step, Palette.typeChar]
      split <;> exact ⟨rfl, rfl⟩
  | erased =>
      simp only [PaletteHost.step, Palette.backspace]
      split <;> exact ⟨rfl, rfl⟩
  | moved distance =>
      simp only [PaletteHost.step, Palette.moveBy]
      split <;> exact ⟨rfl, rfl⟩
  | committed =>
      simp only [PaletteHost.step, Palette.commit]
      split
      · split <;> exact ⟨rfl, rfl⟩
      · exact ⟨rfl, rfl⟩
  | cancelled =>
      simp only [PaletteHost.step, Palette.cancel]
      split <;> exact ⟨rfl, rfl⟩

/-- No events change the sources of a palette and the number of commands that it shows at most. -/
theorem setup_after (host : PaletteHost) (events : List HostEvent) :
    (host.after events).palette.registry.sources = host.palette.registry.sources ∧
      (host.after events).palette.maxResults = host.palette.maxResults := by
  induction events generalizing host with
  | nil => exact ⟨rfl, rfl⟩
  | cons event later inductionHypothesis =>
      have once : (host.handle event).palette.registry.sources = host.palette.registry.sources ∧
          (host.handle event).palette.maxResults = host.palette.maxResults := by
        cases event with
        | switched | drained => exact ⟨rfl, rfl⟩
        | used step => exact setup_step host step
      obtain ⟨sources, maxResults⟩ := inductionHypothesis (host.handle event)
      exact ⟨sources.trans once.1, maxResults.trans once.2⟩

end PaletteHost

end QueryNotebook
