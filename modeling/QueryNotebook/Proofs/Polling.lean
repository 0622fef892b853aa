import Mathlib.Data.List.Forall2
import QueryNotebook.Command.Source
import QueryNotebook.Completion.Completer

/-!
# Sources that fail

A source that refuses or breaks down costs its own results and nothing else.  What the others give
is merged as if the failing ones had not been registered, and every failing one leaves a warning, in
the order in which the sources were registered.  This holds of completions, where only the sources of
one trigger are asked, and of commands, where all are.

A command source is asked at its place among the others, so that the handlers it makes can be told
from those of another source.  Without the failing sources the later ones stand at other places.  Their
commands are then the same up to which handler it is.
-/

namespace QueryNotebook

/-- The command with a handler that says nothing but its effect. -/
def Command.detached (command : Command) : Command :=
  { command with handler := ⟨.registered 0, command.handler.effect⟩ }

/-! ## Polls -/

section Polls

variable {σ α : Type} {name : σ → String} {ask : σ → Poll α}

/-- Why a poll of the named source gives no items. -/
inductive Poll.Fails (name : String) : Poll α → SourceFault → Prop where
  | refused (fault : SourceFault) : Fails name (.refused fault) fault
  | broken : Fails name .broken (.brokeDown name)

/-- The first source adds its items and its fault, if it has one. -/
theorem pollAll_cons (source : σ) (rest : List σ) :
    pollAll name ask (source :: rest) =
      ((ask source).found ++ (pollAll name ask rest).1,
        ((ask source).faultOf? (name source)).toList ++ (pollAll name ask rest).2) := by
  rw [pollAll, pollAll, List.flatMap_cons, List.filterMap_cons]
  cases (ask source).faultOf? (name source) <;> rfl

/-- Only the sources that answer give items. -/
theorem pollAll_fst (sources : List σ) :
    (pollAll name ask sources).1 =
      (sources.filter fun source => (ask source).isHealthy).flatMap fun source =>
        (ask source).found := by
  induction sources with
  | nil => rfl
  | cons source rest inductionHypothesis =>
      rw [pollAll_cons, inductionHypothesis, List.filter_cons]
      cases healthy : (ask source).isHealthy with
      | true => rw [if_pos rfl, List.flatMap_cons]
      | false => rw [if_neg Bool.false_ne_true, Poll.found_eq_nil healthy, List.nil_append]

/-- Every source that does not answer leaves one fault, in order. -/
theorem forall₂_pollAll_snd (sources : List σ) :
    List.Forall₂ (fun source fault => (ask source).Fails (name source) fault)
      (sources.filter fun source => !(ask source).isHealthy) (pollAll name ask sources).2 := by
  induction sources with
  | nil => exact .nil
  | cons source rest inductionHypothesis =>
      rw [pollAll_cons, List.filter_cons]
      cases asked : ask source with
      | answered items => exact inductionHypothesis
      | refused fault => exact .cons (asked ▸ .refused fault) inductionHypothesis
      | broken => exact .cons (asked ▸ .broken) inductionHypothesis

/-- Sources that all answer leave no fault. -/
theorem pollAll_snd_of_healthy {sources : List σ}
    (healthy : ∀ source ∈ sources, (ask source).isHealthy = true) :
    (pollAll name ask sources).2 = [] :=
  List.filterMap_eq_nil_iff.mpr fun source member =>
    Poll.faultOf?_eq_none_iff.mpr (healthy source member)

/-- Without the sources that do not answer the items are the same and there are no faults. -/
theorem pollAll_filter_isHealthy (sources : List σ) :
    pollAll name ask (sources.filter fun source => (ask source).isHealthy) =
      ((pollAll name ask sources).1, []) := by
  have healthy : ∀ source ∈ sources.filter fun source => (ask source).isHealthy,
      (ask source).isHealthy = true := fun source member => (List.mem_filter.mp member).2
  refine Prod.ext ?_ (pollAll_snd_of_healthy healthy)
  rw [pollAll_fst, pollAll_fst, List.filter_filter]
  simp only [Bool.and_self]

/-- Sources that are known by something else are asked as that. -/
theorem pollAll_map {τ : Type} (known : τ → σ) (sources : List τ) :
    pollAll name ask (sources.map known) =
      pollAll (fun source => name (known source)) (fun source => ask (known source)) sources := by
  simp only [pollAll, List.flatMap_map, List.filterMap_map]
  rfl

/-- Numbers that nobody looks at do not matter. -/
theorem pollAll_zipIdx (name : σ → String) (ask : σ → Poll α) (sources : List σ) :
    pollAll (fun numbered => name numbered.1) (fun numbered => ask numbered.1) sources.zipIdx =
      pollAll name ask sources := by
  rw [← pollAll_map Prod.fst sources.zipIdx, List.zipIdx_map_fst]

end Polls

/-! ## Completions -/

namespace Completer

variable {completer : Completer} {context : Context} {trigger : Trigger}

/-- Nothing is asked when nothing is wanted or nothing is known. -/
theorem candidates_unasked {snapshot? : Option Snapshot}
    (unasked : context.trigger? = none ∨ snapshot? = none) :
    completer.candidates context snapshot? = ([], []) := by
  rcases unasked with nothing | rfl
  · simp only [candidates, nothing]
  · exact candidates_noSnapshot completer context

/-- The sources of the wanted trigger are asked. -/
theorem candidates_asked (wanted : context.trigger? = some trigger) (snapshot : Snapshot) :
    completer.candidates context (some snapshot) =
      let polled := pollAll CompletionSource.name (fun source => source.provide context snapshot)
        (completer.sources.filter fun source => source.trigger == trigger)
      (polled.1, polled.2.map Warning.sourceSkipped) := by
  simp only [candidates, wanted]

end Completer

/-! ## Commands -/

namespace CommandSource

/-- The source as it is asked at a place, wherever it stands. -/
def standingAt (place : Nat) (source : CommandSource) : CommandSource where
  name := source.name
  commands context poll := source.commands context { poll with place := place }

/-- A source that gives the same commands wherever it stands, up to which handlers it makes. -/
structure Placeless (source : CommandSource) : Prop where
  healthy (context : PollContext) (round here there : Nat) :
    (source.commands context ⟨round, here⟩).isHealthy =
      (source.commands context ⟨round, there⟩).isHealthy
  found (context : PollContext) (round here there : Nat) :
    (source.commands context ⟨round, here⟩).found.map Command.detached =
      (source.commands context ⟨round, there⟩).found.map Command.detached

/-- A source that looks at neither the round nor its place is one. -/
theorem placeless_const (name : String) (poll : PollContext → Poll Command) :
    Placeless ⟨name, fun context _ => poll context⟩ :=
  ⟨fun _ _ _ _ => rfl, fun _ _ _ _ => rfl⟩

theorem placeless_actions (registered : List Action) : (actions registered).Placeless :=
  placeless_const _ _

/-- The snippets look the same wherever their source stands. -/
theorem placeless_snippets (library : SnippetLibrary) : (snippets library).Placeless :=
  ⟨fun _ _ _ _ => rfl, fun _ _ _ _ => by simp only [snippets, Poll.found, List.map_map]; rfl⟩

/-- The recent documents look the same wherever their source stands. -/
theorem placeless_recent (paths : List Path) : (recent paths).Placeless :=
  ⟨fun _ _ _ _ => rfl, fun _ _ _ _ => by simp only [recent, Poll.found, List.map_map]; rfl⟩

end CommandSource

namespace CommandRegistry

variable (registry : CommandRegistry) (context : PollContext)

/-- Asking a source at its place. -/
def askAt (numbered : CommandSource × Nat) : Poll Command :=
  numbered.1.commands context ⟨registry.rounds, numbered.2⟩

/-- The sources that answer, with their places. -/
def answering : List (CommandSource × Nat) :=
  registry.sources.zipIdx.filter fun numbered => (registry.askAt context numbered).isHealthy

/-- What a round of polling comes to. -/
def pollRound : List Command × List SourceFault :=
  pollAll (fun numbered => numbered.1.name) (registry.askAt context) registry.sources.zipIdx

theorem commands_collect :
    (registry.collect context).commands = (registry.pollRound context).1 := rfl

theorem warnings_collect :
    (registry.collect context).warnings =
      (registry.pollRound context).2.map Warning.sourceSkipped := rfl

/-- Only the sources that answer give commands. -/
theorem commands_collect_answering :
    (registry.collect context).commands =
      (registry.answering context).flatMap fun numbered =>
        (registry.askAt context numbered).found := by
  rw [commands_collect, pollRound, pollAll_fst]
  rfl

/-- The sources that answer are asked alone at the places that they had. -/
theorem collect_standing :
    let kept : CommandRegistry :=
      ⟨(registry.answering context).map fun numbered => numbered.1.standingAt numbered.2,
        registry.rounds⟩
    (kept.collect context).commands = (registry.collect context).commands ∧
      (kept.collect context).warnings = [] := by
  intro kept
  have polled : kept.pollRound context = ((registry.pollRound context).1, []) := by
    rw [pollRound, pollRound, ← pollAll_filter_isHealthy]
    calc pollAll (fun numbered => numbered.1.name) (kept.askAt context) kept.sources.zipIdx
        = pollAll (fun numbered => numbered.1.1.name)
            (fun numbered => registry.askAt context numbered.1)
            (registry.answering context).zipIdx := by
          rw [List.zipIdx_map, pollAll_map]
          rfl
      _ = pollAll (fun numbered => numbered.1.name) (registry.askAt context)
            (registry.answering context) :=
          pollAll_zipIdx (fun numbered => numbered.1.name) (registry.askAt context) _
  rw [commands_collect, commands_collect, warnings_collect, polled]
  exact ⟨rfl, rfl⟩

/-- Where no source minds its place, the sources that answer give the same commands when they stand
alone, up to which handlers they make. -/
theorem collect_placeless (placeless : ∀ source ∈ registry.sources, source.Placeless) :
    let kept : CommandRegistry :=
      ⟨(registry.answering context).map Prod.fst, registry.rounds⟩
    (kept.collect context).commands.map Command.detached =
        (registry.collect context).commands.map Command.detached ∧
      (kept.collect context).warnings = [] := by
  intro kept
  -- A source stands at a new place, the second number, and stood at the first one before.
  let asked (numbered : (CommandSource × Nat) × Nat) : Poll Command :=
    numbered.1.1.commands context ⟨registry.rounds, numbered.2⟩
  have polled : kept.pollRound context =
      pollAll (fun numbered => numbered.1.1.name) asked (registry.answering context).zipIdx := by
    rw [pollRound, List.zipIdx_map, pollAll_map]
    rfl
  have known : ∀ numbered ∈ (registry.answering context).zipIdx,
      numbered.1.1.Placeless ∧ (registry.askAt context numbered.1).isHealthy = true := by
    intro numbered member
    obtain ⟨listed, healthy⟩ := List.mem_filter.mp (List.fst_mem_of_mem_zipIdx member)
    exact ⟨placeless _ (List.fst_mem_of_mem_zipIdx listed), healthy⟩
  have healthy : ∀ numbered ∈ (registry.answering context).zipIdx,
      (asked numbered).isHealthy = true := by
    intro numbered member
    obtain ⟨placeless, healthy⟩ := known numbered member
    exact (placeless.healthy context _ _ _).trans healthy
  rw [commands_collect, warnings_collect, polled, pollAll_snd_of_healthy healthy]
  refine ⟨?_, rfl⟩
  calc ((registry.answering context).zipIdx.flatMap fun numbered =>
        (asked numbered).found).map Command.detached
      = (registry.answering context).zipIdx.flatMap fun numbered =>
          (asked numbered).found.map Command.detached := List.map_flatMap
    _ = (registry.answering context).zipIdx.flatMap fun numbered =>
          (registry.askAt context numbered.1).found.map Command.detached :=
        List.flatMap_congr fun numbered member => (known numbered member).1.found context _ _ _
    _ = ((registry.answering context).zipIdx.map Prod.fst).flatMap fun numbered =>
          (registry.askAt context numbered).found.map Command.detached := by
        rw [List.flatMap_map]
    _ = (registry.collect context).commands.map Command.detached := by
        rw [List.zipIdx_map_fst, commands_collect_answering, List.map_flatMap]

end CommandRegistry

/-- Sources that fail cost only their own results.  For completions: nothing is asked when nothing is
wanted or nothing is known.  Otherwise the candidates are those of the sources of the wanted trigger
that answer, one after another; a completer that has only the sources that answer gives the same,
without a warning; and the warnings are one for every source of the trigger that refuses or breaks
down, in order.  For commands the same holds of all sources.  Without those that fail, the others give
the same commands with the same handlers when they keep their places; where they move up, they give
commands that differ in the handlers alone. -/
theorem failing_sources_cost_their_results :
    (∀ (completer : Completer) (context : Context) (snapshot? : Option Snapshot),
      (context.trigger? = none ∨ snapshot? = none →
        completer.candidates context snapshot? = ([], [])) ∧
      ∀ trigger snapshot, context.trigger? = some trigger → snapshot? = some snapshot →
        let ask (source : CompletionSource) := source.provide context snapshot
        let asked := completer.sources.filter fun source => source.trigger == trigger
        let kept : Completer := ⟨completer.sources.filter fun source => (ask source).isHealthy⟩
        let found := completer.candidates context snapshot?
        found.1 = (asked.filter fun source => (ask source).isHealthy).flatMap
            (fun source => (ask source).found) ∧
          kept.candidates context snapshot? = (found.1, []) ∧
          List.Forall₂ (fun source warning => ∃ fault, (ask source).Fails source.name fault ∧
            warning = .sourceSkipped fault)
            (asked.filter fun source => !(ask source).isHealthy) found.2) ∧
    ∀ (registry : CommandRegistry) (context : PollContext),
      let ask := registry.askAt context
      let answering := registry.answering context
      let collected := registry.collect context
      let standing : CommandRegistry :=
        ⟨answering.map fun numbered => numbered.1.standingAt numbered.2, registry.rounds⟩
      let alone : CommandRegistry := ⟨answering.map Prod.fst, registry.rounds⟩
      collected.commands = answering.flatMap (fun numbered => (ask numbered).found) ∧
        ((standing.collect context).commands = collected.commands ∧
          (standing.collect context).warnings = []) ∧
        ((∀ source ∈ registry.sources, source.Placeless) →
          (alone.collect context).commands.map Command.detached =
              collected.commands.map Command.detached ∧
            (alone.collect context).warnings = []) ∧
        List.Forall₂ (fun numbered warning => ∃ fault,
          (ask numbered).Fails numbered.1.name fault ∧ warning = .sourceSkipped fault)
          (registry.sources.zipIdx.filter fun numbered => !(ask numbered).isHealthy)
          collected.warnings := by
  refine ⟨fun completer context snapshot? => ⟨Completer.candidates_unasked, ?completions⟩,
    fun registry context => ⟨registry.commands_collect_answering context,
      registry.collect_standing context, registry.collect_placeless context, ?warnings⟩⟩
  case completions =>
    rintro trigger snapshot wanted rfl ask asked kept found
    have polled : found = ((pollAll CompletionSource.name ask asked).1,
        (pollAll CompletionSource.name ask asked).2.map Warning.sourceSkipped) :=
      completer.candidates_asked wanted snapshot
    refine ⟨by rw [polled, pollAll_fst], ?_, ?_⟩
    · -- Choosing the sources of the trigger and those that answer can be done in either order.
      have same : kept.sources.filter (fun source => source.trigger == trigger) =
          asked.filter fun source => (ask source).isHealthy := List.filter_comm ..
      rw [kept.candidates_asked wanted snapshot, same, polled]
      rw [pollAll_filter_isHealthy]
      rfl
    · rw [polled, List.forall₂_map_right_iff]
      exact (forall₂_pollAll_snd asked).imp fun _ fault fails => ⟨fault, fails, rfl⟩
  case warnings =>
    rw [CommandRegistry.warnings_collect, List.forall₂_map_right_iff]
    exact (forall₂_pollAll_snd _).imp fun _ fault fails => ⟨fault, fails, rfl⟩

/-- Sources that fail stand before, between and behind sources that answer, and one of them is not
asked. -/
theorem failing_sources_cost_their_results_mixed :
    let refusing (trigger : Trigger) : CompletionSource :=
      ⟨"offline", trigger, fun _ _ => .refused (.failed "offline" "no catalog")⟩
    let breaking : CompletionSource := ⟨"broken", .table, fun _ _ => .broken⟩
    let completer : Completer := ⟨[breaking, .table, refusing .server, refusing .table, .table]⟩
    let snapshot : Snapshot := ⟨[⟨"trades", []⟩], [], [], none⟩
    let found := completer.candidates .table (some snapshot)
    let down : CommandSource := ⟨"down", fun _ _ => .broken⟩
    let save := CommandSource.actions [.ofTitle 0 "save" "Save"]
    let snippets := CommandSource.snippets .standard
    let recent := CommandSource.recent [⟨"a.md"⟩, ⟨"b.md"⟩]
    let context : PollContext := ⟨.english, .desktop, .markup, .allOn⟩
    let collected (sources : List CommandSource) := (CommandRegistry.mk sources 3).collect context
    (Completer.mk [.table, .table]).candidates .table (some snapshot) = (found.1, []) ∧
      found.2.length = 2 ∧
      (collected [save, snippets, recent]).commands.map Command.detached =
        (collected [down, save, snippets, down, recent]).commands.map Command.detached ∧
      (collected [down, save, snippets, down, recent]).warnings.length = 2 := by
  intro refusing breaking completer snapshot found down save snippets recent context collected
  obtain ⟨completions, commands⟩ := failing_sources_cost_their_results
  obtain ⟨-, asked⟩ := completions completer .table (some snapshot)
  obtain ⟨-, alone, faults⟩ := asked .table snapshot rfl rfl
  obtain ⟨-, -, moved, warned⟩ := commands ⟨[down, save, snippets, down, recent], 3⟩ context
  have placeless : ∀ source ∈ [down, save, snippets, down, recent], source.Placeless := by
    have broken : down.Placeless := CommandSource.placeless_const "down" _
    simp only [List.forall_mem_cons, List.not_mem_nil, false_implies, implies_true, and_true]
    exact ⟨broken, CommandSource.placeless_actions _, CommandSource.placeless_snippets _, broken,
      CommandSource.placeless_recent _⟩
  exact ⟨alone, faults.length_eq.symm, (moved placeless).1, warned.length_eq.symm⟩

end QueryNotebook
