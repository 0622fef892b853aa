import Mathlib.Data.List.Induction
import QueryNotebook.Proofs.Completion.Deferral

/-!
# Requests of a completion session

What a host can rely on that computes completions elsewhere and comes back with a result.  A
session shows nothing but what its latest request found, and nothing at all while it is disabled.
The number of a request stays current until something supersedes the request, and never becomes
current again.
-/

namespace QueryNotebook

/-- What happens to a completion session.  It does not matter to the session which document a
candidate is taken over into, or which queue waits for that. -/
inductive SessionEvent where
  | requested (document : Document) (snapshot? : Option Snapshot)
  | moved (distance : Int)
  | accepted (document : Document)
  | acceptedLater (queue : JobQueue Work)
  | dismissed
  | switched (enabled : Bool)

/-- The event is a request. -/
def SessionEvent.isRequest : SessionEvent → Bool
  | .requested .. => true
  | _ => false

/-- Among some events there is a latest request. -/
structure LatestRequest (events earlier : List SessionEvent) (document : Document)
    (snapshot? : Option Snapshot) (later : List SessionEvent) : Prop where
  parts : events = earlier ++ .requested document snapshot? :: later
  latest : ∀ event ∈ later, event.isRequest = false

/-- What a completer finds at the caret of a document. -/
def Completer.completeIn (completer : Completer) (document : Document)
    (snapshot? : Option Snapshot) : Completion :=
  completer.complete document.text document.caret document.mode snapshot?

namespace CompletionSession

/-- The session after an event. -/
def handle (session : CompletionSession) : SessionEvent → CompletionSession
  | .requested document snapshot? => (session.update document snapshot?).1
  | .moved distance => session.moveBy distance
  | .accepted document => (session.accept document).2.1
  | .acceptedLater queue => (session.acceptLater queue).2.1
  | .dismissed => session.dismiss
  | .switched enabled => session.setEnabled enabled

/-- The session after several events, the oldest of them first. -/
def after (session : CompletionSession) (events : List SessionEvent) : CompletionSession :=
  events.foldl handle session

/-- The event supersedes the latest request: it is another request, takes over a candidate, turns
away from them, or disables the session.  Where no candidate is highlighted, none is taken over. -/
def supersedes (session : CompletionSession) : SessionEvent → Bool
  | .requested .. => true
  | .moved _ => false
  | .accepted document => (session.accept document).1.isSome
  | .acceptedLater queue => (session.acceptLater queue).1.isSome
  | .dismissed => true
  | .switched enabled => !enabled

/-- A session as its editor sets it up, with settings or without. -/
def setUp (completer : Completer) : Option Settings → CompletionSession
  | none => ofCompleter completer
  | some settings => ofSettings completer settings

@[simp] theorem after_nil (session : CompletionSession) : session.after [] = session := rfl

@[simp] theorem after_cons (session : CompletionSession) (event : SessionEvent)
    (events : List SessionEvent) :
    session.after (event :: events) = (session.handle event).after events := rfl

theorem after_append (session : CompletionSession) (events others : List SessionEvent) :
    session.after (events ++ others) = (session.after events).after others :=
  List.foldl_append

/-! ## What an event makes of a session -/

/-- A session has come to an end: it shows nothing, waits for nothing, and its latest request is no
longer current. -/
structure Ended (before after : CompletionSession) : Prop where
  candidates : after.candidates = []
  context : after.context = .none
  generation : after.generation = before.generation + 1

/-- A session still shows what it showed, on account of the same request. -/
structure Kept (before after : CompletionSession) : Prop where
  candidates : after.candidates = before.candidates
  context : after.context = before.context
  generation : after.generation = before.generation

theorem ended_close (session : CompletionSession) : session.Ended session.close where
  candidates := Selection.items_withItems session.selection []
  context := rfl
  generation := rfl

theorem ended_dismiss (session : CompletionSession) : session.Ended session.dismiss where
  candidates := Selection.items_cancel session.selection
  context := rfl
  generation := rfl

theorem handle_accepted (session : CompletionSession) (document : Document) :
    session.handle (.accepted document) = session.taken ∧
      session.supersedes (.accepted document) = session.highlighted?.isSome := by
  rw [handle, supersedes, accept_eq]
  exact ⟨rfl, rfl⟩

theorem handle_acceptedLater (session : CompletionSession) (queue : JobQueue Work) :
    session.handle (.acceptedLater queue) = session.taken ∧
      session.supersedes (.acceptedLater queue) = session.highlighted?.isSome := by
  rw [handle, supersedes, acceptLater_eq]
  exact ⟨rfl, rfl⟩

/-- Taking over the highlighted candidate ends a session that has one. -/
theorem ended_or_kept_taken (session : CompletionSession) :
    if session.highlighted?.isSome then session.Ended session.taken
    else session.Kept session.taken := by
  unfold taken
  split
  · exact ended_close session
  · exact ⟨rfl, rfl, rfl⟩

/-- An event other than a request ends a session if it supersedes the latest request, and otherwise
leaves what is shown. -/
theorem ended_or_kept (session : CompletionSession) {event : SessionEvent}
    (other : event.isRequest = false) :
    if session.supersedes event then session.Ended (session.handle event)
    else session.Kept (session.handle event) := by
  cases event with
  | requested => contradiction
  | moved distance =>
      exact ⟨Selection.items_moveBy session.selection distance, rfl, rfl⟩
  | accepted document =>
      obtain ⟨handled, superseded⟩ := handle_accepted session document
      rw [handled, superseded]
      exact ended_or_kept_taken session
  | acceptedLater queue =>
      obtain ⟨handled, superseded⟩ := handle_acceptedLater session queue
      rw [handled, superseded]
      exact ended_or_kept_taken session
  | dismissed => exact ended_dismiss session
  | switched enabled =>
      cases enabled with
      | true => exact ⟨rfl, rfl, rfl⟩
      | false =>
          have ended := ended_close { session with enabled := false }
          exact ⟨ended.candidates, ended.context, ended.generation⟩

/-- A request of an enabled session shows what its completer finds. -/
theorem handle_requested {session : CompletionSession} (enabled : session.enabled = true)
    (document : Document) (snapshot? : Option Snapshot) :
    let found := session.completer.completeIn document snapshot?
    let next := session.handle (.requested document snapshot?)
    next.candidates = found.candidates ∧ next.context = found.context ∧
      next.generation = session.generation + 1 := by
  intro found next
  have answered : next = session.renew found.context found.candidates := by
    rw [show next = (session.update document snapshot?).1 from rfl, update, if_pos enabled]
    rfl
  rw [answered]
  exact ⟨Selection.items_withItems session.selection found.candidates, rfl, rfl⟩

/-- A request of a disabled session ends it. -/
theorem ended_handle_requested {session : CompletionSession} (disabled : session.enabled = false)
    (document : Document) (snapshot? : Option Snapshot) :
    session.Ended (session.handle (.requested document snapshot?)) := by
  rw [handle, update, if_neg (by simp [disabled])]
  exact ended_close session

/-- No event changes the completer of a session, and only a switch enables or disables it. -/
theorem setup_handle (session : CompletionSession) (event : SessionEvent) :
    (session.handle event).completer = session.completer ∧
      ((session.handle event).enabled = session.enabled ∨
        event = .switched (session.handle event).enabled) := by
  have taken : session.taken.completer = session.completer ∧
      session.taken.enabled = session.enabled := by
    unfold CompletionSession.taken
    split <;> exact ⟨rfl, rfl⟩
  cases event with
  | requested document snapshot? =>
      rw [handle, update]
      split <;> exact ⟨rfl, .inl rfl⟩
  | moved distance => exact ⟨rfl, .inl rfl⟩
  | accepted document =>
      rw [(handle_accepted session document).1]
      exact ⟨taken.1, .inl taken.2⟩
  | acceptedLater queue =>
      rw [(handle_acceptedLater session queue).1]
      exact ⟨taken.1, .inl taken.2⟩
  | dismissed => exact ⟨rfl, .inl rfl⟩
  | switched enabled => cases enabled <;> exact ⟨rfl, .inr rfl⟩

/-! ## The numbers of requests -/

/-- The number of a session grows with every event that supersedes its latest request, and with no
other. -/
theorem generation_handle (session : CompletionSession) (event : SessionEvent) :
    (session.handle event).generation =
      session.generation + if session.supersedes event then 1 else 0 := by
  cases request : event.isRequest with
  | true =>
      cases event with
      | requested document snapshot? =>
          cases enabled : session.enabled with
          | true => exact (handle_requested enabled document snapshot?).2.2
          | false => exact (ended_handle_requested enabled document snapshot?).generation
      | _ => contradiction
  | false =>
      have outcome := ended_or_kept session request
      split at outcome
      · next superseded => rw [outcome.generation, if_pos superseded]
      · next superseded => rw [outcome.generation, if_neg superseded, Nat.add_zero]

/-- The number of a session never becomes smaller. -/
theorem generation_le_after (session : CompletionSession) (events : List SessionEvent) :
    session.generation ≤ (session.after events).generation := by
  induction events generalizing session with
  | nil => exact Nat.le_refl _
  | cons event later inductionHypothesis =>
      have once := generation_handle session event
      have rest := inductionHypothesis (session.handle event)
      rw [after_cons]
      omega

/-- The number of a session grows at most by one with every event. -/
theorem generation_after_le (session : CompletionSession) (events : List SessionEvent) :
    (session.after events).generation ≤ session.generation + events.length := by
  induction events generalizing session with
  | nil => exact Nat.le_refl _
  | cons event later inductionHypothesis =>
      have once := generation_handle session event
      have rest := inductionHypothesis (session.handle event)
      rw [after_cons, List.length_cons]
      split at once <;> omega

/-- The events of a session do not supersede the request that was its latest before them. -/
def Undisturbed (session : CompletionSession) (events : List SessionEvent) : Prop :=
  ∀ before event rest, events = before ++ event :: rest →
    (session.after before).supersedes event = false

theorem undisturbed_nil (session : CompletionSession) : session.Undisturbed [] := by
  intro before event rest parts
  simp at parts

theorem undisturbed_cons_iff {session : CompletionSession} {event : SessionEvent}
    {later : List SessionEvent} :
    session.Undisturbed (event :: later) ↔
      session.supersedes event = false ∧ (session.handle event).Undisturbed later := by
  constructor
  · intro undisturbed
    refine ⟨undisturbed [] event later rfl, ?_⟩
    rintro before other rest rfl
    exact undisturbed (event :: before) other rest rfl
  · rintro ⟨first, others⟩ before other rest parts
    cases before with
    | nil =>
        obtain ⟨rfl, rfl⟩ := List.cons.inj parts
        exact first
    | cons _ before =>
        obtain ⟨rfl, same⟩ := List.cons.inj parts
        exact others before other rest same

/-- The number of a session stays the same exactly as long as nothing supersedes its latest
request. -/
theorem generation_after_eq_iff {session : CompletionSession} {events : List SessionEvent} :
    (session.after events).generation = session.generation ↔ session.Undisturbed events := by
  induction events generalizing session with
  | nil => simp [undisturbed_nil]
  | cons event later inductionHypothesis =>
      have once := generation_handle session event
      rw [after_cons, undisturbed_cons_iff]
      cases superseded : session.supersedes event with
      | true =>
          have grown := generation_le_after (session.handle event) later
          rw [superseded, if_pos rfl] at once
          simp only [Bool.true_eq_false, false_and, iff_false]
          omega
      | false =>
          have same : (session.handle event).generation = session.generation := by
            rw [once, superseded]
            rfl
          rw [← same, inductionHypothesis]
          simp

/-! ## What a session shows -/

/-- What a session shows is what the latest of some events that is a request found; a disabled
session shows nothing. -/
structure Reflects (session : CompletionSession) (completer : Completer)
    (events : List SessionEvent) : Prop where
  asks : session.completer = completer
  disabled : session.enabled = false → session.candidates = [] ∧ session.context = .none
  shown : session.candidates ≠ [] → ∃ earlier document snapshot? later,
    LatestRequest events earlier document snapshot? later ∧
      session.candidates = (completer.completeIn document snapshot?).candidates ∧
        session.context = (completer.completeIn document snapshot?).context

theorem reflects_setUp (completer : Completer) (settings? : Option Settings) :
    (setUp completer settings?).Reflects completer [] := by
  cases settings? <;> exact ⟨rfl, fun _ => ⟨rfl, rfl⟩, fun found => absurd rfl found⟩

/-- A session that shows nothing reflects whatever has happened. -/
theorem Ended.reflects {before after : CompletionSession} (ended : before.Ended after)
    {completer : Completer} (same : after.completer = completer) (events : List SessionEvent) :
    after.Reflects completer events :=
  ⟨same, fun _ => ⟨ended.candidates, ended.context⟩, fun found => absurd ended.candidates found⟩

/-- A session goes on to reflect what has happened. -/
theorem Reflects.handle {session : CompletionSession} {completer : Completer}
    {events : List SessionEvent} (reflects : session.Reflects completer events)
    (event : SessionEvent) : (session.handle event).Reflects completer (events ++ [event]) := by
  obtain ⟨sameCompleter, switching⟩ := setup_handle session event
  have completerNow := sameCompleter.trans reflects.asks
  cases request : event.isRequest with
  | true =>
      cases event with
      | requested document snapshot? =>
          cases enabled : session.enabled with
          | true =>
              obtain ⟨candidates, context, -⟩ := handle_requested enabled document snapshot?
              rw [reflects.asks] at candidates context
              have stillEnabled := switching.resolve_right (by simp)
              refine ⟨completerNow, fun disabled => ?_, fun _ => ?_⟩
              · rw [stillEnabled, enabled] at disabled
                contradiction
              · exact ⟨events, document, snapshot?, [], ⟨rfl, by simp⟩, candidates, context⟩
          | false =>
              exact (ended_handle_requested enabled document snapshot?).reflects completerNow _
      | _ => contradiction
  | false =>
      have outcome := ended_or_kept session request
      split at outcome
      · exact outcome.reflects completerNow _
      · next current =>
        refine ⟨completerNow, fun disabled => ?_, fun found => ?_⟩
        · rcases switching with same | switched
          · rw [outcome.candidates, outcome.context]
            exact reflects.disabled (same ▸ disabled)
          · rw [switched, disabled] at current
            exact absurd rfl current
        · rw [outcome.candidates] at found
          obtain ⟨earlier, document, snapshot?, later, latest, candidates, context⟩ :=
            reflects.shown found
          refine ⟨earlier, document, snapshot?, later ++ [event], ⟨?_, ?_⟩,
            outcome.candidates.trans candidates, outcome.context.trans context⟩
          · rw [latest.parts, List.append_assoc, List.cons_append]
          · exact List.forall_mem_append.mpr ⟨latest.latest, List.forall_mem_singleton.mpr request⟩

/-- At every moment a session reflects what has happened to it. -/
theorem reflects_after (completer : Completer) (settings? : Option Settings)
    (events : List SessionEvent) :
    ((setUp completer settings?).after events).Reflects completer events := by
  induction events using List.reverseRecOn with
  | nil => exact reflects_setUp completer settings?
  | append_singleton events event inductionHypothesis =>
      rw [after_append]
      exact inductionHypothesis.handle event

/-- A completer finds nothing where nothing is wanted. -/
theorem context_ne_none_of_candidates {completer : Completer} {document : Document}
    {snapshot? : Option Snapshot}
    (found : (completer.completeIn document snapshot?).candidates ≠ []) :
    (completer.completeIn document snapshot?).context ≠ .none := by
  intro nothing
  apply found
  change (completer.candidates (completer.completeIn document snapshot?).context snapshot?).1 = []
  rw [nothing, Completer.candidates_none]

/-! ## The protocol -/

/-- What a host can rely on, whatever happens to a session.  Its number is bounded by the number
of events.  Disabled, it shows nothing and waits for nothing.  What it shows is what its latest
request found, where something was wanted.  The number that a request returns is current exactly
as long as nothing supersedes the request; later requests return larger numbers, and a number that
is not current never becomes current again. -/
theorem requests_protocol (completer : Completer) (settings? : Option Settings)
    (events : List SessionEvent) :
    let start := setUp completer settings?
    let session := start.after events
    session.generation ≤ events.length ∧
    (session.enabled = false → session.candidates = [] ∧ session.context = .none) ∧
    (session.candidates ≠ [] → session.context ≠ .none ∧ ∃ earlier document snapshot? later,
      LatestRequest events earlier document snapshot? later ∧
        session.candidates = (completer.completeIn document snapshot?).candidates ∧
          session.context = (completer.completeIn document snapshot?).context) ∧
    ∀ earlier document snapshot? later,
      events = earlier ++ .requested document snapshot? :: later →
        let asked := start.after (earlier ++ [.requested document snapshot?])
        (session.isCurrent asked.generation = true ↔
          ∀ between event rest, later = between ++ event :: rest →
            (asked.after between).supersedes event = false) ∧
        (∀ between otherDocument otherSnapshot? rest,
          later = between ++ .requested otherDocument otherSnapshot? :: rest →
            asked.generation <
              (asked.after (between ++ [.requested otherDocument otherSnapshot?])).generation) ∧
        (session.isCurrent asked.generation = false →
          ∀ more, (session.after more).isCurrent asked.generation = false) := by
  intro start session
  have reflects : session.Reflects completer events := reflects_after completer settings? events
  have fresh : start.generation = 0 := by
    cases settings? <;> rfl
  refine ⟨?_, reflects.disabled, fun found => ?_, ?_⟩
  · have bound := generation_after_le start events
    rwa [fresh, Nat.zero_add] at bound
  · obtain ⟨earlier, document, snapshot?, later, latest, candidates, context⟩ :=
      reflects.shown found
    refine ⟨?_, earlier, document, snapshot?, later, latest, candidates, context⟩
    rw [context]
    exact context_ne_none_of_candidates (candidates ▸ found)
  · intro earlier document snapshot? later parts asked
    have since : session = asked.after later := by
      rw [← after_append, List.append_assoc, List.singleton_append, ← parts]
    have grown : asked.generation ≤ session.generation := since ▸ generation_le_after asked later
    refine ⟨?_, ?_, ?_⟩
    · rw [isCurrent, beq_iff_eq, eq_comm, since]
      exact generation_after_eq_iff
    · intro between otherDocument otherSnapshot? rest _
      have before := generation_le_after asked between
      have once := generation_handle (asked.after between)
        (.requested otherDocument otherSnapshot?)
      rw [supersedes, if_pos rfl] at once
      rw [after_append, after_cons, after_nil]
      omega
    · intro stale more
      rw [isCurrent, beq_eq_false_iff_ne] at stale ⊢
      have further := generation_le_after session more
      omega

end CompletionSession

end QueryNotebook
