import QueryNotebook.Proofs.JobQueue.Rules

/-!
# Jobs of one kind among others

A queue is shared: what one part of the program defers waits among the jobs of others.  As long as
these others bring in nothing of the kind that it looks at, it may ignore them, with all that they
defer and drain in turn.  A drain then does the work of this kind that was pending, in its order.
-/

namespace QueryNotebook

variable {α β : Type}

namespace Job

/-- A job whose work is of a kind, and that defers only such jobs in turn. -/
inductive Only (kind : α → Prop) : Job α → Prop where
  | intro {job : Job α} (own : kind job.label)
      (followUps : ∀ next, .defer next ∈ job.steps → Only kind next) : Only kind job

/-- A job that defers only jobs of a kind, whatever it does itself. -/
def LeadsTo (kind : α → Prop) (job : Job α) : Prop :=
  ∀ next, .defer next ∈ job.steps → next.Only kind

theorem Only.own {kind : α → Prop} {job : Job α} (only : job.Only kind) : kind job.label := by
  cases only with
  | intro own _ => exact own

theorem Only.leadsTo {kind : α → Prop} {job : Job α} (only : job.Only kind) :
    job.LeadsTo kind := by
  cases only with
  | intro _ followUps => exact followUps

/-- A job that only does its work defers no job of another kind. -/
theorem leadsTo_simple (kind : α → Prop) (label : α) : (simple label).LeadsTo kind := by
  intro next member
  contradiction

theorem only_simple {kind : α → Prop} {label : α} (own : kind label) :
    (simple label).Only kind :=
  .intro own (leadsTo_simple kind label)

theorem only_mk {kind : α → Prop} {label : α} {followUps : List (Job α)} {drains : Bool}
    (own : kind label) (others : ∀ job ∈ followUps, job.Only kind) :
    (mk label followUps drains).Only kind := by
  refine .intro own fun next member => others next ?_
  cases drains <;> simpa [mk, steps] using member

end Job

namespace JobQueue

/-- Nothing can be read of the labels of jobs of which nothing can be read at all. -/
theorem filterMap_labels_of_only {read : α → Option β} {jobs : List (Job α)}
    (unread : ∀ job ∈ jobs, job.Only fun label => read label = none) :
    (jobs.map Job.label).filterMap read = [] := by
  rw [List.filterMap_eq_nil_iff]
  intro label member
  obtain ⟨job, inJobs, rfl⟩ := List.mem_map.mp member
  exact (unread job inJobs).own

/-- What a drain does of the work that can be read in some way is what its batch brings, in order,
if nothing can be read of all that is deferred.  Nothing can be read of what is left then. -/
theorem Runs.filterMap_labels {read : α → Option β} {steps : List (JobStep α)}
    {batch pending left : List (Job α)} {trace : List (QueueEvent α)}
    (runs : Runs steps batch pending trace left)
    (unread : ∀ next, .defer next ∈ steps → next.Only fun label => read label = none)
    (batchUnread : ∀ job ∈ batch, job.LeadsTo fun label => read label = none)
    (pendingUnread : ∀ job ∈ pending, job.Only fun label => read label = none) :
    ((ranIn trace).map Job.label).filterMap read = (batch.map Job.label).filterMap read ∧
      ∀ job ∈ left, job.Only fun label => read label = none := by
  induction runs with
  | done => exact ⟨rfl, pendingUnread⟩
  | @next job batch _ _ trace _ inductionHypothesis =>
      obtain ⟨first, others⟩ := List.forall_mem_cons.mp batchUnread
      obtain ⟨same, after⟩ := inductionHypothesis first others pendingUnread
      refine ⟨?_, after⟩
      change ((job :: ranIn trace).map Job.label).filterMap read = _
      rw [List.map_cons, List.map_cons, List.filterMap_cons, List.filterMap_cons, same]
  | defer _ inductionHypothesis =>
      refine inductionHypothesis (fun next member => unread next (.tail _ member)) batchUnread ?_
      intro job member
      rcases List.mem_append.mp member with early | last
      · exact pendingUnread job early
      · exact List.mem_singleton.mp last ▸ unread _ (.head _)
  | drain _ _ innerHypothesis inductionHypothesis =>
      obtain ⟨inner, between⟩ := innerHypothesis (by simp)
        (fun job member => (pendingUnread job member).leadsTo) (by simp)
      obtain ⟨same, after⟩ := inductionHypothesis
        (fun next member => unread next (.tail _ member)) batchUnread between
      refine ⟨?_, after⟩
      rw [ranIn_drain, List.map_append, List.filterMap_append, inner,
        filterMap_labels_of_only pendingUnread, same, List.nil_append]

/-- What a drain does of the work that can be read in some way is what was pending, in order, if
nothing can be read of what its jobs defer.  Nothing can be read of what it leaves. -/
theorem filterMap_labels_drain {read : α → Option β} {queue : JobQueue α}
    (unread : ∀ job ∈ queue.pending, job.LeadsTo fun label => read label = none) :
    queue.drain.labels.filterMap read = (queue.pending.map Job.label).filterMap read ∧
      ∀ job ∈ queue.drain.queue.pending, job.Only fun label => read label = none :=
  (runs_drain queue).filterMap_labels (by simp) unread (by simp)

end JobQueue

end QueryNotebook
