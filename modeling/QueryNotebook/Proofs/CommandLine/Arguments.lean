import QueryNotebook.CommandLine.Arguments

/-!
# One more option at the end

Arguments that ask for the palette's commands can be followed by the option that runs the first one,
and nothing else of what they ask for changes.  The one thing that would take the option for
something else is two dashes that stand alone before it.
-/

namespace QueryNotebook.CommandLine

namespace Scan

variable {scan next : Scan}

/-! ## Two dashes -/

theorem literal_give {key : OptionKey} {value : String} (given : scan.give key value = .ok next) :
    next.literal = scan.literal := by
  unfold give at given
  split at given
  · contradiction
  · split at given
    · contradiction
    · rw [← Except.ok.inj given]

theorem literal_flag {key : OptionKey} (given : scan.flag key = .ok next) :
    next.literal = scan.literal := by
  unfold flag at given
  split at given
  · contradiction
  · contradiction
  · exact literal_give given

theorem literal_longOption {name : List Char} {attached? : Option (List Char)}
    (given : scan.longOption name attached? = .ok next) : next.literal = scan.literal := by
  unfold longOption at given
  split at given
  · contradiction
  · split at given
    · exact literal_give given
    · rw [← Except.ok.inj given]
    · contradiction
    · exact literal_flag given

theorem literal_shortOptions {letters : List Char} (given : scan.shortOptions letters = .ok next) :
    next.literal = scan.literal := by
  induction letters generalizing scan with
  | nil => rw [← Except.ok.inj given]
  | cons letter rest inductionHypothesis =>
      unfold shortOptions at given
      split at given
      · contradiction
      · split at given
        · split at given
          · rw [← Except.ok.inj given]
          · exact literal_give given
          · exact literal_give given
        · split at given
          · contradiction
          · next flagged => rw [inductionHypothesis given, literal_flag flagged]

theorem literal_operand {argument : String} (given : scan.operand argument = .ok next) :
    next.literal = scan.literal := by
  unfold operand at given
  split at given
  · rw [← Except.ok.inj given]
  · contradiction

theorem literal_other {argument : String} (solid : argument ≠ "--")
    (given : scan.other argument = .ok next) : next.literal = scan.literal := by
  unfold other at given
  split at given
  · next dashes => exact absurd (String.toList_inj.mp dashes) solid
  · split at given
    · exact literal_longOption given
    · exact literal_longOption given
  · exact literal_shortOptions given
  · exact literal_operand given

theorem literal_plain {argument : String} (solid : argument ≠ "--")
    (given : scan.plain argument = .ok next) : next.literal = scan.literal := by
  unfold plain at given
  split at given
  · exact literal_operand given
  · split at given
    · rw [← Except.ok.inj given]
    · rw [← Except.ok.inj given]
      rfl
    · split at given
      · contradiction
      · exact literal_other solid given

theorem literal_takeValue (scan : Scan) (key : OptionKey) (argument : String) :
    (scan.takeValue key argument).literal = scan.literal := by
  unfold takeValue
  split
  · next given => exact literal_give given
  · rfl

/-- Nothing but two dashes that stand alone ends the options. -/
theorem literal_step {argument : String} (solid : argument ≠ "--")
    (stepped : scan.step argument = .ok next) : next.literal = scan.literal := by
  unfold step at stepped
  split at stepped
  · split at stepped
    · rw [← Except.ok.inj stepped]
      rfl
    · contradiction
  · split at stepped
    · split at stepped
      · contradiction
      · rw [← Except.ok.inj stepped, literal_takeValue]
    · exact literal_plain solid stepped

/-- Without two dashes that stand alone the options go on to the end. -/
theorem literal_of_foldlM {arguments : List String} (solid : "--" ∉ arguments)
    (scanned : arguments.foldlM step scan = .ok next) : next.literal = scan.literal := by
  induction arguments generalizing scan with
  | nil => rw [← Except.ok.inj scanned]
  | cons argument rest inductionHypothesis =>
      obtain ⟨other, solid⟩ := List.ne_and_not_mem_of_not_mem_cons solid
      rw [List.foldlM_cons] at scanned
      simp only [bind, Except.bind] at scanned
      split at scanned
      · contradiction
      · next stepped =>
        rw [inductionHypothesis solid scanned, literal_step other.symm stepped]

/-! ## The option that runs a command -/

/-- The scan with the option that runs a command given last. -/
def giveRun (scan : Scan) : Scan :=
  { scan with given := scan.given ++ [(.run, "")], awaiting? := none }

/-- Arguments that ask for a list of the commands are at the level of that request, and nothing in
them is left open. -/
structure Lists (scan : Scan) (query? : Option String) (snippets? store? : Option Path) : Prop where
  level : scan.level = .commands
  operands : scan.operands = []
  query : scan.value? .query = query?
  snippets : scan.path? .snippets = snippets?
  store : scan.path? .store = store?
  notRun : scan.has .run = false

theorem lists_of_request? {query? : Option String} {snippets? store? : Option Path}
    (asked : scan.request? = some (.commands query? snippets? store? false)) :
    scan.Lists query? snippets? store? := by
  unfold request? at asked
  split at asked <;> simp at asked
  next level operands =>
    obtain ⟨query, snippets, store, notRun⟩ := asked
    exact ⟨level, operands, query, snippets, store, notRun⟩

/-- An option keeps its value when another option is given last. -/
theorem value?_giveRun {key : OptionKey} (other : key ≠ .run) :
    scan.giveRun.value? key = scan.value? key := by
  have found :
      ((scan.given ++ [(OptionKey.run, "")]).find? fun occurrence => occurrence.1 == key) =
      scan.given.find? fun occurrence => occurrence.1 == key := by
    simp [List.find?_append, other.symm]
  simp only [value?, levels, giveRun, List.findSome?_cons, found]

theorem path?_giveRun {key : OptionKey} (other : key ≠ .run) :
    scan.giveRun.path? key = scan.path? key := by
  rw [path?, value?_giveRun other, path?]

theorem has_giveRun {key : OptionKey} (other : key ≠ .run) :
    scan.giveRun.has key = scan.has key := by
  rw [has, value?_giveRun other, has]

theorem has_run_giveRun (scan : Scan) : scan.giveRun.has .run = true := by
  cases found : scan.given.find? fun occurrence => occurrence.1 == .run with
  | none => simp [has, value?, levels, giveRun, found]
  | some => simp [has, value?, levels, giveRun, found]

/-- What was asked for before is asked for with the option too, and now run. -/
theorem Lists.request?_giveRun {query? : Option String} {snippets? store? : Option Path}
    (lists : scan.Lists query? snippets? store?) :
    scan.giveRun.request? = some (.commands query? snippets? store? true) := by
  have level : scan.giveRun.level = .commands := lists.level
  have operands : scan.giveRun.operands = [] := lists.operands
  rw [request?, level, operands]
  dsimp only
  rw [value?_giveRun (by decide), path?_giveRun (by decide), path?_giveRun (by decide),
    has_run_giveRun, lists.query, lists.snippets, lists.store]

/-- The option does not stand where the settings file of the surroundings is missing. -/
theorem refusesSurroundings_giveRun (scan : Scan) (file? : Option String) :
    scan.giveRun.refusesSurroundings file? = scan.refusesSurroundings file? := by
  cases file? with
  | none => rfl
  | some file =>
      have other : (OptionKey.run == OptionKey.config) = false := by decide
      simp [refusesSurroundings, levels, giveRun, other]

/-- An option that was not given at any level was not given at this one. -/
theorem any_given_of_has {key : OptionKey} (absent : scan.has key = false) :
    (scan.given.any fun occurrence => occurrence.1 == key) = false := by
  cases found : scan.given.find? fun occurrence => occurrence.1 == key with
  | none => simpa using found
  | some => simp [has, value?, levels, found] at absent

/-- The option fits where the commands are listed and nothing is left open. -/
theorem Lists.step_run {query? : Option String} {snippets? store? : Option Path}
    (lists : scan.Lists query? snippets? store?) (options : scan.literal = false)
    (helping : scan.helping = false) (awaiting : scan.awaiting? = none)
    (refusing : scan.refusing? = none) : scan.step "--run" = .ok scan.giveRun := by
  -- No topic has the name of the option, and the level knows it and has not had it yet.
  have level := lists.level
  have fresh := any_given_of_has lists.notRun
  have topic : scan.level.topic? "--run" = none := by rw [level]; decide
  have key : scan.level.ofLong? ['r', 'u', 'n'] = some .run := by rw [level]; decide
  have given : scan.give .run "" = .ok scan.giveRun := by
    simp [give, fresh, OptionKey.accepts, giveRun]
  have option : scan.other "--run" = scan.longOption ['r', 'u', 'n'] none := rfl
  rw [step, helping, awaiting]
  simp only [Bool.false_eq_true, if_false, plain, options, topic, refusing, reduceCtorEq, option,
    longOption, key]
  exact given

end Scan

/-- Arguments that are understood leave nothing open. -/
theorem Scan.finish_eq_ok_iff {scan : Scan} {settingsFile? : Option String}
    {invocation : Invocation} :
    scan.finish settingsFile? = .ok invocation ↔
      scan.helping = false ∧ scan.awaiting? = none ∧ scan.refusing? = none ∧
        scan.refusesSurroundings settingsFile? = false ∧
        scan.has .verbose = invocation.verbose ∧
        ((scan.value? .config).or settingsFile?).map Path.mk = invocation.settingsFile? ∧
        scan.request? = some invocation.request := by
  obtain ⟨verbose, file?, request⟩ := invocation
  unfold finish
  cases scan.helping with
  | true => simp
  | false =>
      cases scan.awaiting? <;> cases scan.refusing? <;>
        cases scan.refusesSurroundings settingsFile? <;> cases scan.request? <;> simp

/-- Arguments that list the commands run the first one when the option for it comes last. -/
theorem parseArguments_run {settingsFile? : Option String} {arguments : List String}
    {verbose : Bool} {file? : Option Path} {query? : Option String} {snippets? store? : Option Path}
    (understood : parseArguments settingsFile? arguments =
      .ok ⟨verbose, file?, .commands query? snippets? store? false⟩)
    (solid : "--" ∉ arguments) :
    parseArguments settingsFile? (arguments ++ ["--run"]) =
      .ok ⟨verbose, file?, .commands query? snippets? store? true⟩ := by
  unfold parseArguments at understood
  split at understood
  · contradiction
  · next scan scanned =>
    have options : scan.literal = false := Scan.literal_of_foldlM solid scanned
    obtain ⟨helping, awaiting, refusing, surroundings, notes, file, asked⟩ :=
      Scan.finish_eq_ok_iff.mp understood
    have lists := Scan.lists_of_request? asked
    have last : [ "--run" ].foldlM Scan.step scan = .ok scan.giveRun := by
      rw [List.foldlM_cons, lists.step_run options helping awaiting refusing]
      rfl
    have whole : (arguments ++ ["--run"]).foldlM Scan.step .start = .ok scan.giveRun := by
      rw [List.foldlM_append, scanned]
      exact last
    rw [parseArguments, whole]
    refine Scan.finish_eq_ok_iff.mpr ⟨helping, rfl, refusing, ?_, ?_, ?_, lists.request?_giveRun⟩
    · rw [Scan.refusesSurroundings_giveRun, surroundings]
    · rw [Scan.has_giveRun (by decide), notes]
    · rw [Scan.value?_giveRun (by decide), file]

end QueryNotebook.CommandLine
