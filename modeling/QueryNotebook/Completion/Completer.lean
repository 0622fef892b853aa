import QueryNotebook.Completion.Source
import QueryNotebook.Warning

/-!
# Completers

A completer asks the sources of a trigger, in the order in which they were registered.  A source that
fails is passed over with a warning.
-/

namespace QueryNotebook

/-- The registered sources, in order. -/
structure Completer where
  sources : List CompletionSource

/-- What is found at a caret. -/
structure Completion where
  context : Context
  candidates : List Candidate
  warnings : List Warning

namespace Completer

/-- A completer without sources. -/
def empty : Completer := ⟨[]⟩

/-- The completer with one more source, after the others. -/
def register (completer : Completer) (source : CompletionSource) : Completer :=
  ⟨completer.sources ++ [source]⟩

/-- The completer with the four sources of the program. -/
def standard (messages : Messages) : Completer :=
  ⟨[.codeFence messages, .chartType, .server, .table]⟩

/-- The names of the sources. -/
def sourceNames (completer : Completer) : List String :=
  completer.sources.map CompletionSource.name

/-- The candidates for a context, and a warning for every source that failed.  Nothing is asked when
the context wants nothing or the host knows nothing. -/
def candidates (completer : Completer) (context : Context) (snapshot? : Option Snapshot) :
    List Candidate × List Warning :=
  match context.trigger?, snapshot? with
  | some trigger, some snapshot =>
      let asked := completer.sources.filter fun source => source.trigger == trigger
      let polled := pollAll CompletionSource.name (fun source => source.provide context snapshot) asked
      (polled.1, polled.2.map Warning.sourceSkipped)
  | _, _ => ([], [])

/-- What completion offers at a caret. -/
def complete (completer : Completer) (text : String) (caret : Nat) (mode : DocumentMode)
    (snapshot? : Option Snapshot) : Completion :=
  let context := Context.atCaret text caret mode
  let found := completer.candidates context snapshot?
  ⟨context, found.1, found.2⟩

@[simp] theorem candidates_none (completer : Completer) (snapshot? : Option Snapshot) :
    completer.candidates .none snapshot? = ([], []) := rfl

@[simp] theorem candidates_noSnapshot (completer : Completer) (context : Context) :
    completer.candidates context none = ([], []) := by
  unfold candidates
  split <;> simp_all

end Completer

end QueryNotebook
