/-!
# Polling sources

Completions and commands come from independent sources.  Asking a source for its items is a poll;
a poll that does not succeed costs the results of that source only, and leaves a note of why.
-/

namespace QueryNotebook

/-- Why a source gave no items. -/
inductive SourceFault where
  /-- The source named in the fault reports that it cannot answer. -/
  | failed (name message : String)
  /-- The named source broke down while it was asked. -/
  | brokeDown (name : String)
deriving DecidableEq, Repr

/-- The wording of a fault. -/
def SourceFault.message : SourceFault → String
  | .failed name message => "source '" ++ name ++ "' failed: " ++ message
  | .brokeDown name => "source '" ++ name ++ "' panicked"

/-- What asking a source gives. -/
inductive Poll (α : Type) where
  /-- The source answers. -/
  | answered (items : List α)
  /-- The source reports a fault. -/
  | refused (fault : SourceFault)
  /-- The source breaks down. -/
  | broken

namespace Poll

variable {α : Type}

/-- The source answers. -/
def isHealthy : Poll α → Bool
  | .answered _ => true
  | _ => false

/-- The items of a poll: none when it does not succeed. -/
def found : Poll α → List α
  | .answered items => items
  | _ => []

/-- The fault of a poll of the named source. -/
def faultOf? (name : String) : Poll α → Option SourceFault
  | .answered _ => none
  | .refused fault => some fault
  | .broken => some (.brokeDown name)

@[simp] theorem found_answered (items : List α) : (Poll.answered items).found = items := rfl

/-- A poll is healthy exactly when it has no fault. -/
theorem faultOf?_eq_none_iff {poll : Poll α} {name : String} :
    poll.faultOf? name = none ↔ poll.isHealthy = true := by
  cases poll <;> simp [faultOf?, isHealthy]

/-- A poll with a fault has no items. -/
theorem found_eq_nil {poll : Poll α} (unhealthy : poll.isHealthy = false) : poll.found = [] := by
  cases poll <;> simp_all [found, isHealthy]

end Poll

/-- Sources asked in order: their items one after another, and the faults in the same order. -/
def pollAll {σ α : Type} (name : σ → String) (ask : σ → Poll α) (sources : List σ) :
    List α × List SourceFault :=
  (sources.flatMap fun source => (ask source).found,
    sources.filterMap fun source => (ask source).faultOf? (name source))

end QueryNotebook
