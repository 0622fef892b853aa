import Mathlib.Algebra.GroupWithZero.Nat
import QueryNotebook.Proofs.JobQueue.Rules

/-!
# No job is lost

What becomes of the jobs that a host and its jobs defer: each of them runs once or is still pending.
A drain may be called while another is under way, so the batch of the outer one is then neither
pending nor done.  What a drain owes can be told from the trace all the same: the jobs that were
pending when it started, in their order, and nothing else outside of the drains within it.
-/

open scoped List

namespace QueryNotebook

variable {α : Type}

/-! ## Reading a trace -/

/-- The job that is deferred in an event. -/
def QueueEvent.deferred? : QueueEvent α → Option (Job α)
  | .deferred job => some job
  | _ => none

/-- The count that a drain returns in an event. -/
def QueueEvent.count? : QueueEvent α → Option Nat
  | .drained count => some count
  | _ => none

/-- What an event makes of the pending jobs: a drain takes all of them. -/
def QueueEvent.waiting (pending : List (Job α)) : QueueEvent α → List (Job α)
  | .deferred job => pending ++ [job]
  | .started => []
  | .ran _ => pending
  | .drained _ => pending

/-- The jobs that are deferred in a trace, in order. -/
def deferredIn (trace : List (QueueEvent α)) : List (Job α) :=
  trace.filterMap QueueEvent.deferred?

/-- The counts that the drains of a trace return, in order. -/
def countsIn (trace : List (QueueEvent α)) : List Nat :=
  trace.filterMap QueueEvent.count?

/-- The jobs that wait after a trace, if some were pending before it. -/
def waitingAfter (pending : List (Job α)) (trace : List (QueueEvent α)) : List (Job α) :=
  trace.foldl QueueEvent.waiting pending

theorem deferredIn_drain (inside trace : List (QueueEvent α)) (count : Nat) :
    deferredIn (.started :: (inside ++ .drained count :: trace)) =
      deferredIn inside ++ deferredIn trace := by
  simp [deferredIn, QueueEvent.deferred?, List.filterMap_cons]

theorem append_deferredIn_deferred (pending : List (Job α)) (job : Job α)
    (trace : List (QueueEvent α)) :
    pending ++ deferredIn (.deferred job :: trace) = pending ++ [job] ++ deferredIn trace := by
  rw [List.append_assoc]
  rfl

theorem countsIn_drain (inside trace : List (QueueEvent α)) (count : Nat) :
    countsIn (.started :: (inside ++ .drained count :: trace)) =
      countsIn inside ++ count :: countsIn trace := by
  simp [countsIn, QueueEvent.count?, List.filterMap_cons]

/-- Every drain that starts in a trace also ends in it; some jobs, in order, are all that ran
outside of these drains. -/
inductive Complete : List (QueueEvent α) → List (Job α) → Prop where
  | nil : Complete [] []
  | deferred {job : Job α} {trace : List (QueueEvent α)} {jobs : List (Job α)}
      (rest : Complete trace jobs) : Complete (.deferred job :: trace) jobs
  | ran {job : Job α} {trace : List (QueueEvent α)} {jobs : List (Job α)}
      (rest : Complete trace jobs) : Complete (.ran job :: trace) (job :: jobs)
  | drained {inside trace : List (QueueEvent α)} {inner jobs : List (Job α)} {count : Nat}
      (within : Complete inside inner) (rest : Complete trace jobs) :
      Complete (.started :: (inside ++ .drained count :: trace)) jobs

/-- Every drain of a trace comes to its end, and returns how many jobs were pending at its start.
These are the jobs that it runs itself, in their order. -/
def DrainsPending (pending : List (Job α)) (trace : List (QueueEvent α)) : Prop :=
  ∀ before rest, trace = before ++ .started :: rest →
    ∃ inside after, rest = inside ++ .drained (waitingAfter pending before).length :: after ∧
      Complete inside (waitingAfter pending before)

theorem drainsPending_nil (pending : List (Job α)) : DrainsPending pending [] := by
  intro before rest parts
  simp at parts

/-- An event in front of a trace is no matter for its drains, as long as none starts there. -/
theorem DrainsPending.cons {pending : List (Job α)} {event : QueueEvent α}
    {trace : List (QueueEvent α)} (startsNot : event ≠ .started)
    (drains : DrainsPending (event.waiting pending) trace) :
    DrainsPending pending (event :: trace) := by
  intro before rest parts
  cases before with
  | nil => exact absurd (List.cons.inj parts).1 startsNot
  | cons first before =>
      obtain ⟨rfl, later⟩ := List.cons.inj parts
      exact drains before rest later

/-- A drain that takes what is pending may be followed by others, and may hold others. -/
theorem DrainsPending.drain {pending between : List (Job α)} {inside trace : List (QueueEvent α)}
    (complete : Complete inside pending) (within : DrainsPending [] inside)
    (waiting : waitingAfter [] inside = between) (later : DrainsPending between trace) :
    DrainsPending pending (.started :: (inside ++ .drained pending.length :: trace)) := by
  intro before rest parts
  cases before with
  | nil =>
      obtain ⟨-, rfl⟩ := List.cons.inj parts
      exact ⟨inside, trace, rfl, complete⟩
  | cons first before =>
      obtain ⟨rfl, shared⟩ := List.cons.inj parts
      rcases List.append_eq_append_iff.mp shared with ⟨more, rfl, ends⟩ | ⟨more, rfl, starts⟩
      · -- The other drain starts after the end of this one.
        cases more with
        | nil => simp at ends
        | cons _ before =>
            obtain ⟨rfl, others⟩ := List.cons.inj ends
            subst waiting
            simpa [waitingAfter, QueueEvent.waiting] using later before rest others
      · -- It starts within this one, and so it ends within it.
        cases more with
        | nil => simp at starts
        | cons _ more =>
            obtain ⟨rfl, rfl⟩ := List.cons.inj starts
            obtain ⟨deep, after, rfl, ended⟩ := within before more rfl
            exact ⟨deep, after ++ .drained pending.length :: trace, by simp [waitingAfter,
              QueueEvent.waiting], ended⟩

namespace JobQueue

/-! ## What the rules conserve -/

section Rules

variable {steps : List (JobStep α)} {batch pending left : List (Job α)}
  {trace : List (QueueEvent α)}

/-- A drain runs its batch, and leaves the drains within it complete. -/
theorem Runs.complete (runs : Runs steps batch pending trace left) : Complete trace batch := by
  induction runs with
  | done => exact .nil
  | next _ inductionHypothesis => exact .ran inductionHypothesis
  | defer _ inductionHypothesis => exact .deferred inductionHypothesis
  | drain _ _ innerHypothesis inductionHypothesis =>
      exact .drained innerHypothesis inductionHypothesis

/-- A drain leaves pending what waits after its trace. -/
theorem Runs.waitingAfter_eq (runs : Runs steps batch pending trace left) :
    waitingAfter pending trace = left := by
  induction runs with
  | done => rfl
  | next _ inductionHypothesis => exact inductionHypothesis
  | defer _ inductionHypothesis => exact inductionHypothesis
  | drain _ _ innerHypothesis inductionHypothesis =>
      unfold waitingAfter at innerHypothesis inductionHypothesis ⊢
      rw [List.foldl_cons, List.foldl_append, List.foldl_cons]
      dsimp only [QueueEvent.waiting]
      rw [innerHypothesis, inductionHypothesis]

/-- Every drain within another takes what is pending at its start. -/
theorem Runs.drainsPending (runs : Runs steps batch pending trace left) :
    DrainsPending pending trace := by
  induction runs with
  | done => exact drainsPending_nil _
  | next _ inductionHypothesis => exact inductionHypothesis.cons (by simp)
  | defer _ inductionHypothesis => exact .cons (by simp) inductionHypothesis
  | drain inner _ innerHypothesis inductionHypothesis =>
      exact .drain inner.complete innerHypothesis inner.waitingAfter_eq inductionHypothesis

/-- What ran and what is left are what was there and what was deferred. -/
theorem Runs.perm (runs : Runs steps batch pending trace left) :
    ranIn trace ++ left ~ batch ++ (pending ++ deferredIn trace) := by
  induction runs with
  | done => simp [ranIn, deferredIn]
  | next _ inductionHypothesis => exact inductionHypothesis.cons _
  | defer _ inductionHypothesis =>
      rw [append_deferredIn_deferred]
      exact inductionHypothesis
  | @drain _ batch pending between left inside trace _ _ innerHypothesis inductionHypothesis =>
      rw [ranIn_drain, deferredIn_drain, List.append_assoc]
      calc ranIn inside ++ (ranIn trace ++ left)
        _ ~ ranIn inside ++ (batch ++ (between ++ deferredIn trace)) :=
            inductionHypothesis.append_left _
        _ ~ batch ++ (ranIn inside ++ (between ++ deferredIn trace)) :=
            List.perm_append_comm_assoc ..
        _ = batch ++ (ranIn inside ++ between ++ deferredIn trace) := by
            rw [List.append_assoc]
        _ ~ batch ++ (pending ++ deferredIn inside ++ deferredIn trace) :=
            (innerHypothesis.append_right _).append_left _
        _ = batch ++ (pending ++ (deferredIn inside ++ deferredIn trace)) := by
            rw [List.append_assoc]

/-- A drain returns the size of its batch; together with what the drains within it return, that is
the number of jobs that ran. -/
theorem Runs.length_ranIn (runs : Runs steps batch pending trace left) :
    (ranIn trace).length = batch.length + (countsIn trace).sum := by
  induction runs with
  | done => rfl
  | @next job batch _ _ trace _ inductionHypothesis =>
      have ran : ranIn (.ran job :: trace) = job :: ranIn trace := rfl
      have counts : countsIn (.ran job :: trace) = countsIn trace := rfl
      rw [ran, counts, List.length_cons, List.length_cons]
      omega
  | defer _ inductionHypothesis => exact inductionHypothesis
  | @drain _ _ pending _ _ inside trace _ _ innerHypothesis inductionHypothesis =>
      rw [ranIn_drain, countsIn_drain, List.length_append, List.sum_append, List.sum_cons]
      omega

/-- Jobs that do not drain the queue run in the order in which they were deferred.  Draining is up
to the host then, which has no batch under way. -/
theorem Runs.append_left_eq (runs : Runs steps batch pending trace left)
    (alone : .drain ∈ steps → batch = []) (drainsNot : ∀ job ∈ ranIn trace, .drain ∉ job.steps) :
    ranIn trace ++ left = batch ++ (pending ++ deferredIn trace) := by
  induction runs with
  | done => simp [ranIn, deferredIn]
  | @next job _ _ _ trace _ inductionHypothesis =>
      obtain ⟨first, others⟩ := List.forall_mem_cons.mp drainsNot
      exact congrArg (job :: ·) (inductionHypothesis (absurd · first) others)
  | defer _ inductionHypothesis =>
      have same := inductionHypothesis (fun drains => alone (.tail _ drains)) drainsNot
      rw [append_deferredIn_deferred]
      exact same
  | @drain _ batch pending between left inside trace _ _ innerHypothesis inductionHypothesis =>
      obtain rfl : batch = [] := alone (.head _)
      rw [ranIn_drain] at drainsNot ⊢
      obtain ⟨within, after⟩ := List.forall_mem_append.mp drainsNot
      have inner := innerHypothesis (by simp) within
      have later := inductionHypothesis (fun _ => rfl) after
      calc ranIn inside ++ ranIn trace ++ left
        _ = ranIn inside ++ between ++ deferredIn trace := by
            rw [List.append_assoc, later, List.nil_append, List.append_assoc]
        _ = pending ++ deferredIn inside ++ deferredIn trace := by
            rw [inner, List.nil_append]
        _ = pending ++ deferredIn (.started :: (inside ++ .drained pending.length :: trace)) := by
            rw [deferredIn_drain, List.append_assoc]

end Rules

/-! ## What a host does -/

/-- What happens at a queue while a host does some steps with it, and the queue after them.  What
the host does is what a running job can do; between two steps no drain is under way. -/
def perform (queue : JobQueue α) : List (JobStep α) → List (QueueEvent α) × JobQueue α
  | [] => ([], queue)
  | .defer job :: steps =>
      let later := (queue.defer job).perform steps
      (.deferred job :: later.1, later.2)
  | .drain :: steps =>
      let drain := queue.drain
      let later := drain.queue.perform steps
      (.started :: (drain.trace ++ .drained drain.count :: later.1), later.2)

/-- What a host does follows the rules as well. -/
theorem runs_perform (queue : JobQueue α) (steps : List (JobStep α)) :
    Runs steps [] queue.pending (queue.perform steps).1 (queue.perform steps).2.pending := by
  induction steps generalizing queue with
  | nil => exact .done
  | cons step steps inductionHypothesis =>
      cases step with
      | defer job => exact .defer (inductionHypothesis (queue.defer job))
      | drain => exact .drain (runs_drain queue) (inductionHypothesis queue.drain.queue)

/-- What becomes of jobs that a host and its jobs defer.  There is one way in which things can go
on by the rules, and it is over after a finite trace.  Each job that was deferred ran once or is
pending once.  Each drain, those that jobs call included, comes to its end and returns how many
jobs were pending at its start; these it runs, in their order, and no others but in drains within
it.  The returned numbers add up to the number of jobs that ran.  If no job drains the queue, the
jobs ran in the order in which they were deferred, and the rest of them are pending in that order.
-/
theorem perform_conserves (steps : List (JobStep α)) :
    let trace := (empty.perform steps).1
    let pending := (empty.perform steps).2.pending
    (∀ events left, Runs steps [] [] events left ↔ events = trace ∧ left = pending) ∧
    ranIn trace ++ pending ~ deferredIn trace ∧
    pending = waitingAfter [] trace ∧
    DrainsPending [] trace ∧
    (countsIn trace).sum = (ranIn trace).length ∧
    ((∀ job ∈ ranIn trace, .drain ∉ job.steps) → ranIn trace ++ pending = deferredIn trace) := by
  intro trace pending
  have runs : Runs steps [] [] trace pending := runs_perform empty steps
  refine ⟨fun events left => ⟨fun others => runs.unique others, ?_⟩, runs.perm,
    runs.waitingAfter_eq.symm, runs.drainsPending, ?_, runs.append_left_eq fun _ => rfl⟩
  · rintro ⟨rfl, rfl⟩
    exact runs
  · simpa using runs.length_ranIn.symm

/-- An inner drain runs what its job deferred, while the rest of the outer batch waits. -/
example :
    (JobQueue.mk [.mk "first" [.simple "follow-up"] true, .simple "second"]).drain.events =
      [.ran "first", .ran "follow-up", .drained 1, .ran "second"] := rfl

end JobQueue

end QueryNotebook
