import QueryNotebook.Proofs.JobQueue.Kinds
import QueryNotebook.Proofs.Palette.View

/-!
# Commands are performed once

From settling on a command to performing it.  A palette only defers what it settles on; the drains
of its host do the rest, whenever they come and whatever else waits in the queue.  What is
performed and what is still pending, taken together, are the commands that were settled on, in
that order.
-/

namespace QueryNotebook

/-- The handler of the command that a piece of work performs. -/
def Work.handler? : Work → Option Handler
  | .perform handler => some handler
  | .insertCompletion _ => none

/-! ## Settling on a command -/

namespace Palette

/-- An open palette settles on the highlighted command, and defers it. -/
theorem commit_of_highlighted {palette : Palette} (isOpen : palette.isOpen = true)
    {command : Command} (highlighted : palette.highlighted? = some command)
    (queue : JobQueue Work) :
    palette.commit queue =
      (some command, palette.close, queue.defer (.simple (.perform command.handler))) := by
  have chosen : palette.selection.commit = some command := highlighted
  rw [commit, if_pos isOpen, chosen]

/-- A palette that is closed, or highlights nothing, settles on nothing and defers nothing. -/
theorem commit_of_nothing {palette : Palette}
    (nothing : palette.isOpen = false ∨ palette.highlighted? = none) (queue : JobQueue Work) :
    (palette.commit queue).1 = none ∧ (palette.commit queue).2.2 = queue := by
  rcases nothing with isClosed | nothing
  · rw [commit, if_neg (by simp [isClosed])]
    exact ⟨rfl, rfl⟩
  · have chosen : palette.selection.commit = none := nothing
    rw [commit, chosen]
    split <;> exact ⟨rfl, rfl⟩

end Palette

namespace PaletteHost

/-! ## What becomes of commands -/

/-- The command that is settled on in an event. -/
def settled? (host : PaletteHost) : HostEvent → Option Command
  | .used .committed => (host.palette.commit host.queue).1
  | _ => none

/-- The handlers of the commands that are performed in an event. -/
def performed (host : PaletteHost) : HostEvent → List Handler
  | .drained => host.queue.drain.labels.filterMap Work.handler?
  | _ => []

/-- The handlers of the commands that wait to be performed. -/
def awaiting (host : PaletteHost) : List Handler :=
  (host.queue.pending.map Job.label).filterMap Work.handler?

/-- What is seen in several events, one after another. -/
def seenIn {α : Type} (see : PaletteHost → HostEvent → List α) (host : PaletteHost) :
    List HostEvent → List α
  | [] => []
  | event :: later => see host event ++ (host.handle event).seenIn see later

/-- The commands that are settled on in several events. -/
def settledIn (host : PaletteHost) (events : List HostEvent) : List Command :=
  host.seenIn (fun host event => (host.settled? event).toList) events

/-- The handlers of the commands that are performed in several events. -/
def performedIn (host : PaletteHost) (events : List HostEvent) : List Handler :=
  host.seenIn performed events

theorem seenIn_concat {α : Type} (see : PaletteHost → HostEvent → List α) (host : PaletteHost)
    (events : List HostEvent) (event : HostEvent) :
    host.seenIn see (events ++ [event]) =
      host.seenIn see events ++ see (host.after events) event := by
  induction events generalizing host with
  | nil => simp [seenIn]
  | cons first events inductionHypothesis =>
      rw [List.cons_append, seenIn, seenIn, inductionHypothesis, List.append_assoc]
      rfl

/-- No pending job defers a command in turn; commands come from the palette alone. -/
def Unmixed (host : PaletteHost) : Prop :=
  ∀ job ∈ host.queue.pending, job.LeadsTo fun work => work.handler? = none

/-- A palette that highlights a command is open. -/
theorem isOpen_of_highlighted {start : PaletteHost} (cleared : start.palette.Cleared)
    (events : List HostEvent) {command : Command}
    (highlighted : (start.after events).palette.highlighted? = some command) :
    (start.after events).palette.isOpen = true := by
  rcases cleared_or_latestOpening cleared events with nothing | ⟨_, _, _, _, _, latest⟩
  · rw [nothing.highlighted?] at highlighted
    contradiction
  · exact (shows_after start latest).isOpen

/-- Only settling on a command touches the queue. -/
theorem step_of_ne_committed (host : PaletteHost) {step : PaletteStep}
    (other : step ≠ .committed) :
    (host.step step).queue = host.queue ∧ host.settled? (.used step) = none := by
  cases step with
  | committed => exact absurd rfl other
  | opened | searched | typed | erased | moved | cancelled => exact ⟨rfl, rfl⟩

/-- Settling on a highlighted command defers it, and does nothing else to the queue. -/
theorem step_committed_of_highlighted {host : PaletteHost} (isOpen : host.palette.isOpen = true)
    {command : Command} (highlighted : host.palette.highlighted? = some command) :
    (host.step .committed).queue = host.queue.defer (.simple (.perform command.handler)) ∧
      host.settled? (.used .committed) = some command := by
  have chosen := Palette.commit_of_highlighted isOpen highlighted host.queue
  simp [PaletteHost.step, settled?, chosen]

/-- Settling in a palette that is closed, or highlights nothing, leaves the queue as it is. -/
theorem step_committed_of_nothing {host : PaletteHost}
    (nothing : host.palette.isOpen = false ∨ host.palette.highlighted? = none) :
    (host.step .committed).queue = host.queue ∧ host.settled? (.used .committed) = none := by
  obtain ⟨chosen, queue⟩ := Palette.commit_of_nothing nothing host.queue
  exact ⟨queue, chosen⟩

/-- A step of the user leaves every pending job where it waits.  Behind these jobs comes the command
that is settled on in the step, if there is one. -/
theorem pending_step {host : PaletteHost}
    (openOf : ∀ command, host.palette.highlighted? = some command → host.palette.isOpen = true)
    (step : PaletteStep) :
    (host.step step).queue.pending = host.queue.pending ++
      (host.settled? (.used step)).toList.map fun command => .simple (.perform command.handler) := by
  by_cases committed : step = .committed
  · subst committed
    cases highlighted : host.palette.highlighted? with
    | none =>
        obtain ⟨queue, none⟩ := step_committed_of_nothing (.inr highlighted)
        simp [queue, none]
    | some command =>
        obtain ⟨queue, some⟩ :=
          step_committed_of_highlighted (openOf command highlighted) highlighted
        simp [queue, some]
  · obtain ⟨queue, none⟩ := step_of_ne_committed host committed
    simp [queue, none]

/-- What is performed in an event, and what waits after it, is what waited before it and what is
settled on in it. -/
theorem performed_append_awaiting {host : PaletteHost} (unmixed : host.Unmixed)
    (openOf : ∀ command, host.palette.highlighted? = some command → host.palette.isOpen = true)
    (event : HostEvent) :
    host.performed event ++ (host.handle event).awaiting =
        host.awaiting ++ (host.settled? event).toList.map Command.handler ∧
      (host.handle event).Unmixed := by
  cases event with
  | switched switch on => exact ⟨(List.append_nil _).symm, unmixed⟩
  | drained =>
      obtain ⟨done, left⟩ := JobQueue.filterMap_labels_drain unmixed
      refine ⟨?_, fun job member => (left job member).leadsTo⟩
      have nothing : (host.handle .drained).awaiting = [] :=
        JobQueue.filterMap_labels_of_only left
      rw [nothing, performed, done, awaiting]
      rfl
  | used step =>
      rw [awaiting, awaiting, Unmixed, handle, pending_step openOf step]
      cases host.settled? (.used step) with
      | none => exact ⟨by simp [performed], by simpa [Unmixed] using unmixed⟩
      | some command =>
          refine ⟨by simp [performed, Work.handler?], ?_⟩
          exact List.forall_mem_append.mpr
            ⟨unmixed, List.forall_mem_singleton.mpr (Job.leadsTo_simple _ _)⟩

/-! ## Whole runs -/

/-- What is performed in some events, and what waits after them, is what waited before them and what
is settled on in them. -/
theorem performedIn_append_awaiting {start : PaletteHost} (cleared : start.palette.Cleared)
    (unmixed : start.Unmixed) (events : List HostEvent) :
    start.performedIn events ++ (start.after events).awaiting =
        start.awaiting ++ (start.settledIn events).map Command.handler ∧
      (start.after events).Unmixed := by
  induction events using List.reverseRecOn with
  | nil => exact ⟨by simp [performedIn, settledIn, seenIn], unmixed⟩
  | append_singleton events event inductionHypothesis =>
      obtain ⟨before, still⟩ := inductionHypothesis
      obtain ⟨now, after⟩ :=
        performed_append_awaiting still (fun _ => isOpen_of_highlighted cleared events) event
      rw [after_concat]
      refine ⟨?_, after⟩
      rw [performedIn, settledIn, seenIn_concat, seenIn_concat, List.append_assoc, now,
        ← List.append_assoc, ← performedIn, before, ← settledIn, List.map_append,
        List.append_assoc]

/-- Commands are performed exactly once, and in the order in which they were settled on, whatever
else waits in the queue of their host at first.  At every moment the commands performed so far and
those that still wait are the commands that were settled on.  These are the highlighted ones;
settling on one defers its own handler.  No step of the user performs a command: the jobs that waited
before it still wait after it, with the command that it settles on behind them.  None but settling on
a highlighted command in an open palette touches the queue. -/
theorem performed_once (registry : CommandRegistry) (maxResults : Nat) (queue : JobQueue Work)
    (switches : Switches) (events : List HostEvent)
    (foreign : ∀ job ∈ queue.pending, job.Only fun work => work.handler? = none) :
    let start := ofRegistry registry maxResults queue switches
    let host := start.after events
    start.performedIn events ++ host.awaiting = (start.settledIn events).map Command.handler ∧
    host.settled? (.used .committed) = host.palette.highlighted? ∧
    (∀ command, host.palette.highlighted? = some command →
      (host.step .committed).queue = host.queue.defer (.simple (.perform command.handler))) ∧
    ∀ step : PaletteStep,
      (host.step step).queue.pending = host.queue.pending ++
        (host.settled? (.used step)).toList.map
          (fun command => .simple (.perform command.handler)) ∧
      (step ≠ .committed ∨ host.palette.highlighted? = none ∨ host.palette.isOpen = false →
        (host.step step).queue = host.queue) := by
  intro start host
  have cleared : start.palette.Cleared := cleared_ofRegistry registry maxResults queue switches
  have unmixed : start.Unmixed := fun job member => (foreign job member).leadsTo
  have nothing : start.awaiting = [] := JobQueue.filterMap_labels_of_only foreign
  have openOf {command : Command} (highlighted : host.palette.highlighted? = some command) :
      host.palette.isOpen = true := isOpen_of_highlighted cleared events highlighted
  refine ⟨?_, ?_, ?_, fun step => ⟨pending_step (fun _ => openOf) step, ?_⟩⟩
  · simpa [nothing] using (performedIn_append_awaiting cleared unmixed events).1
  · cases highlighted : host.palette.highlighted? with
    | none => exact (step_committed_of_nothing (.inr highlighted)).2
    | some command => exact (step_committed_of_highlighted (openOf highlighted) highlighted).2
  · intro command highlighted
    exact (step_committed_of_highlighted (openOf highlighted) highlighted).1
  · rintro (other | nothing)
    · exact (step_of_ne_committed host other).1
    · by_cases committed : step = .committed
      · exact committed ▸ (step_committed_of_nothing nothing.symm).1
      · exact (step_of_ne_committed host committed).1

/-- Two commands are settled on, and the first of them is performed among insertions that the queue
held before. -/
theorem performed_once_among_insertions :
    let insertion : Job Work := .mk (.insertCompletion "a") [.simple (.insertCompletion "b")] true
    let first := Action.ofTitle 0 "save" "Save"
    let second := Action.ofTitle 1 "close" "Close"
    let start := ofRegistry ⟨[.actions [first, second]], 0⟩ 9 ⟨[insertion]⟩ .allOn
    let opening := HostEvent.used (.opened .english .desktop .markup)
    let events := [opening, .used (.moved 1), .used .committed, .used .committed, .drained, opening,
      .used .committed]
    (∀ job ∈ start.queue.pending, job.Only fun work => work.handler? = none) ∧
      (start.performedIn events ++ (start.after events).awaiting).map Handler.id =
        [second.handler.id, first.handler.id] := by
  intro insertion first second start opening events
  have performsNothing : insertion.Only fun work => work.handler? = none := by
    refine Job.only_mk rfl fun next deferred => ?_
    obtain rfl := List.mem_singleton.mp deferred
    exact Job.only_simple rfl
  have foreign : ∀ job ∈ start.queue.pending, job.Only fun work => work.handler? = none :=
    List.forall_mem_singleton.mpr performsNothing
  refine ⟨foreign, ?_⟩
  rw [(performed_once _ 9 ⟨[insertion]⟩ .allOn events foreign).1]
  decide +kernel

end PaletteHost

end QueryNotebook
