/-!
# Deferred jobs

Work that is put off until the host is ready for it.  A drain runs the jobs that are pending when
it starts, in the order in which they were deferred; what they defer in turn waits for a later
drain.  A job may itself drain the queue, and that inner drain runs what is pending then.

A job is described by what it does to the queue, step by step; what else it does is its label.  A
drain keeps a trace of what happens at the queue, inner drains included.
-/

namespace QueryNotebook

mutual

/-- A deferred job: its label, and what it does to the queue when it runs, in order. -/
inductive Job (α : Type) where
  | scripted (label : α) (steps : List (JobStep α))

/-- What a running job, or the host, does to the queue at a time. -/
inductive JobStep (α : Type) where
  /-- A job is deferred. -/
  | defer (job : Job α)
  /-- The pending jobs are run. -/
  | drain

end

namespace Job

variable {α : Type}

/-- What the job does besides its work on the queue. -/
def label : Job α → α
  | .scripted label _ => label

/-- What the job does to the queue. -/
def steps : Job α → List (JobStep α)
  | .scripted _ steps => steps

/-- A job that defers some jobs and then may drain the queue. -/
def mk (label : α) (followUps : List (Job α)) (drains : Bool) : Job α :=
  .scripted label (followUps.map .defer ++ if drains then [.drain] else [])

/-- A job that only does its work. -/
def simple (label : α) : Job α :=
  .scripted label []

@[simp] theorem label_simple (label : α) : (simple label).label = label := rfl

@[simp] theorem steps_simple (label : α) : (simple label).steps = [] := rfl

end Job

mutual

/-- How much a job sets in motion: its own run, its steps, and all that follows from them. -/
def Job.size {α : Type} : Job α → Nat
  | .scripted _ steps => 1 + JobStep.sizes steps

/-- How much some steps set in motion: each of them, and all that follows from the deferred jobs. -/
def JobStep.sizes {α : Type} : List (JobStep α) → Nat
  | [] => 0
  | .defer job :: rest => 1 + job.size + JobStep.sizes rest
  | .drain :: rest => 1 + JobStep.sizes rest

end

/-- How much a list of jobs sets in motion. -/
def Job.sizes {α : Type} : List (Job α) → Nat
  | [] => 0
  | job :: jobs => job.size + Job.sizes jobs

/-- What happens at a queue. -/
inductive QueueEvent (α : Type) where
  /-- A job is put at the end of the queue. -/
  | deferred (job : Job α)
  /-- A drain starts: it takes the jobs that are pending. -/
  | started
  /-- A job starts to run. -/
  | ran (job : Job α)
  /-- A drain ends and returns the number of jobs that it took. -/
  | drained (count : Nat)

/-- What is reported of a drain: a job ran, or an inner drain returned its count. -/
inductive DrainEvent (α : Type) where
  | ran (label : α)
  | drained (count : Nat)
deriving DecidableEq, Repr

/-- What is reported of an event. -/
def QueueEvent.report? {α : Type} : QueueEvent α → Option (DrainEvent α)
  | .ran job => some (.ran job.label)
  | .drained count => some (.drained count)
  | .deferred _ => none
  | .started => none

/-- The job that runs in an event. -/
def QueueEvent.ran? {α : Type} : QueueEvent α → Option (Job α)
  | .ran job => some job
  | _ => none

/-- The jobs that run in a trace, in order. -/
def ranIn {α : Type} (trace : List (QueueEvent α)) : List (Job α) :=
  trace.filterMap QueueEvent.ran?

/-- Jobs in the order in which they were deferred. -/
structure JobQueue (α : Type) where
  pending : List (Job α)

namespace JobQueue

variable {α : Type}

/-- A queue without jobs. -/
def empty : JobQueue α :=
  ⟨[]⟩

/-- The queue with one more job at its end. -/
def defer (queue : JobQueue α) (job : Job α) : JobQueue α :=
  ⟨queue.pending ++ [job]⟩

/-- The number of pending jobs. -/
def size (queue : JobQueue α) : Nat :=
  queue.pending.length

/-- No job is pending. -/
def isEmpty (queue : JobQueue α) : Bool :=
  queue.pending.isEmpty

/-- Goes on with a drain: the steps of the job that runs, and then the batch of jobs behind it,
over a queue of pending jobs.  The result is the trace, and the jobs pending after it.  The first
argument bounds how much all of these set in motion. -/
def runBatch : Nat → List (JobStep α) → List (Job α) → List (Job α) →
    List (QueueEvent α) × List (Job α)
  | 0, _, _, pending => ([], pending)
  | _ + 1, [], [], pending => ([], pending)
  | fuel + 1, [], job :: batch, pending =>
      let later := runBatch fuel job.steps batch pending
      (.ran job :: later.1, later.2)
  | fuel + 1, .defer job :: steps, batch, pending =>
      let later := runBatch fuel steps batch (pending ++ [job])
      (.deferred job :: later.1, later.2)
  | fuel + 1, .drain :: steps, batch, pending =>
      let inner := runBatch fuel [] pending []
      let later := runBatch fuel steps batch inner.2
      (.started :: (inner.1 ++ .drained pending.length :: later.1), later.2)

/-- The result of a drain. -/
structure Drain (α : Type) where
  /-- The number of jobs that were pending when it started. -/
  count : Nat
  /-- What happened between its start and its end, in order. -/
  trace : List (QueueEvent α)
  /-- The queue after it. -/
  queue : JobQueue α

/-- Runs the jobs that are pending now. -/
def drain (queue : JobQueue α) : Drain α :=
  let result := runBatch (Job.sizes queue.pending) [] queue.pending []
  ⟨queue.pending.length, result.1, ⟨result.2⟩⟩

/-- What is reported of a drain, in order. -/
def Drain.events (drain : Drain α) : List (DrainEvent α) :=
  drain.trace.filterMap QueueEvent.report?

/-- The labels of the jobs that a drain ran, in order. -/
def Drain.labels (drain : Drain α) : List α :=
  (ranIn drain.trace).map Job.label

/-- A queue as a diagnostic shows it. -/
def describe (queue : JobQueue α) : String :=
  "TaskQueue \x7b pending: " ++ toString queue.size ++ " \x7d"

@[simp] theorem pending_defer (queue : JobQueue α) (job : Job α) :
    (queue.defer job).pending = queue.pending ++ [job] := rfl

@[simp] theorem count_drain (queue : JobQueue α) :
    queue.drain.count = queue.pending.length := rfl

end JobQueue

end QueryNotebook
