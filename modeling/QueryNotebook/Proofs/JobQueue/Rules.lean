import QueryNotebook.JobQueue

/-!
# The rules of a drain

How a drain goes on, as a relation without a bound: a rule for each thing that can come next.  The
rules never get stuck and leave no choice, so a drain comes to an end, and to only one.  The queue
follows them, since what is left to do becomes less with every step.
-/

namespace QueryNotebook

variable {α : Type}

/-- A drain adds no job of its own to those that run in it. -/
theorem ranIn_drain (inside trace : List (QueueEvent α)) (count : Nat) :
    ranIn (.started :: (inside ++ .drained count :: trace)) = ranIn inside ++ ranIn trace := by
  simp [ranIn, QueueEvent.ran?, List.filterMap_cons]

namespace JobQueue

/-- A drain goes on.  The job that runs has some steps to do, a batch of jobs waits behind it, and
other jobs are pending; then the events of a trace happen, and the last jobs are left pending. -/
inductive Runs : List (JobStep α) → List (Job α) → List (Job α) → List (QueueEvent α) →
    List (Job α) → Prop where
  /-- Nothing is left to do. -/
  | done {pending : List (Job α)} : Runs [] [] pending [] pending
  /-- The next job of the batch runs. -/
  | next {job : Job α} {batch pending left : List (Job α)} {trace : List (QueueEvent α)}
      (later : Runs job.steps batch pending trace left) :
      Runs [] (job :: batch) pending (.ran job :: trace) left
  /-- The running job defers another. -/
  | defer {job : Job α} {steps : List (JobStep α)} {batch pending left : List (Job α)}
      {trace : List (QueueEvent α)} (later : Runs steps batch (pending ++ [job]) trace left) :
      Runs (.defer job :: steps) batch pending (.deferred job :: trace) left
  /-- The running job drains the queue: what is pending becomes a batch of its own. -/
  | drain {steps : List (JobStep α)} {batch pending between left : List (Job α)}
      {inside trace : List (QueueEvent α)} (inner : Runs [] pending [] inside between)
      (later : Runs steps batch between trace left) :
      Runs (.drain :: steps) batch pending
        (.started :: (inside ++ .drained pending.length :: trace)) left

/-- The rules leave no choice. -/
theorem Runs.unique {steps : List (JobStep α)} {batch pending left other : List (Job α)}
    {trace otherTrace : List (QueueEvent α)} (runs : Runs steps batch pending trace left)
    (others : Runs steps batch pending otherTrace other) : otherTrace = trace ∧ other = left := by
  induction runs generalizing otherTrace other with
  | done =>
      cases others
      exact ⟨rfl, rfl⟩
  | next _ inductionHypothesis =>
      cases others with
      | next later =>
          obtain ⟨rfl, rfl⟩ := inductionHypothesis later
          exact ⟨rfl, rfl⟩
  | defer _ inductionHypothesis =>
      cases others with
      | defer later =>
          obtain ⟨rfl, rfl⟩ := inductionHypothesis later
          exact ⟨rfl, rfl⟩
  | drain _ _ innerHypothesis inductionHypothesis =>
      cases others with
      | drain inner later =>
          obtain ⟨rfl, rfl⟩ := innerHypothesis inner
          obtain ⟨rfl, rfl⟩ := inductionHypothesis later
          exact ⟨rfl, rfl⟩

/-! ## The rules come to an end -/

theorem size_eq (job : Job α) : job.size = 1 + JobStep.sizes job.steps := by
  cases job
  rw [Job.size, Job.steps]

@[simp] theorem sizes_nil : Job.sizes ([] : List (Job α)) = 0 := rfl

@[simp] theorem sizes_cons (job : Job α) (jobs : List (Job α)) :
    Job.sizes (job :: jobs) = job.size + Job.sizes jobs := rfl

@[simp] theorem sizes_append (jobs others : List (Job α)) :
    Job.sizes (jobs ++ others) = Job.sizes jobs + Job.sizes others := by
  induction jobs with
  | nil => simp
  | cons job jobs inductionHypothesis =>
      rw [List.cons_append, sizes_cons, sizes_cons, inductionHypothesis, Nat.add_assoc]

/-- A drain leaves no more to do than there was. -/
theorem Runs.sizes_left_le {steps : List (JobStep α)} {batch pending left : List (Job α)}
    {trace : List (QueueEvent α)} (runs : Runs steps batch pending trace left) :
    Job.sizes left ≤ JobStep.sizes steps + Job.sizes batch + Job.sizes pending := by
  induction runs with
  | done => simp
  | @next job _ _ _ _ _ inductionHypothesis =>
      have size := size_eq job
      simp only [sizes_cons]
      omega
  | defer _ inductionHypothesis =>
      simp only [sizes_append, sizes_cons, sizes_nil] at inductionHypothesis
      simp only [JobStep.sizes]
      omega
  | drain _ _ innerHypothesis inductionHypothesis =>
      simp only [sizes_nil, JobStep.sizes] at innerHypothesis ⊢
      omega

/-- As long as its bound allows for all there is to do, a drain follows the rules. -/
theorem runs_runBatch {fuel : Nat} {steps : List (JobStep α)} {batch pending : List (Job α)}
    (enough : JobStep.sizes steps + Job.sizes batch + Job.sizes pending ≤ fuel) :
    Runs steps batch pending (runBatch fuel steps batch pending).1
      (runBatch fuel steps batch pending).2 := by
  induction fuel generalizing steps batch pending with
  | zero =>
      cases steps with
      | nil =>
          cases batch with
          | nil => exact .done
          | cons job batch =>
              have size := size_eq job
              simp only [sizes_cons] at enough
              omega
      | cons step steps =>
          cases step <;> simp only [JobStep.sizes] at enough <;> omega
  | succ fuel inductionHypothesis =>
      cases steps with
      | nil =>
          cases batch with
          | nil => exact .done
          | cons job batch =>
              have size := size_eq job
              simp only [sizes_cons, JobStep.sizes] at enough
              exact .next (inductionHypothesis (by omega))
      | cons step steps =>
          cases step with
          | defer job =>
              simp only [JobStep.sizes] at enough
              refine .defer (inductionHypothesis ?_)
              simp only [sizes_append, sizes_cons, sizes_nil]
              omega
          | drain =>
              simp only [JobStep.sizes] at enough
              have inner : Runs [] pending [] _ _ :=
                inductionHypothesis (by simp only [JobStep.sizes, sizes_nil]; omega)
              have rest := inner.sizes_left_le
              simp only [JobStep.sizes, sizes_nil] at rest
              exact .drain inner (inductionHypothesis (by omega))

/-- The drain of a queue follows the rules to their end. -/
theorem runs_drain (queue : JobQueue α) :
    Runs [] queue.pending [] queue.drain.trace queue.drain.queue.pending :=
  runs_runBatch (by simp [JobStep.sizes])

end JobQueue

end QueryNotebook
