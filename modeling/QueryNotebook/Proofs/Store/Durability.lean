import QueryNotebook.Proofs.Disk.OneFile
import QueryNotebook.Proofs.Store.Encoding

/-!
# What a store in a file keeps

A store in a file answers from memory, and writes all of it on every put.  A put that cannot be
written stays in memory, so memory and file go apart until a later put is written.  Both are followed
here through every run of puts and openings, for every text that the file held at first.  The system
is only taken to replace the whole file or to leave it as it was.
-/

namespace QueryNotebook.FileStore

/-- The texts that a store has when it is opened on a file with the given text, or on none that can
be read. -/
def valuesIn (text? : Option String) : Dictionary String :=
  match text? with
  | none => .empty
  | some text =>
      match parse text with
      | .ok values => values
      | .error _ => .empty

theorem sorted_valuesIn (text? : Option String) : (valuesIn text?).Sorted := by
  unfold valuesIn
  split
  · exact Dictionary.sorted_empty
  · split
    · next read => exact sorted_of_parse read
    · exact Dictionary.sorted_empty

theorem valuesIn_render {values : Dictionary String} (sorted : values.Sorted) :
    valuesIn (some (render values)) = values := by
  simp only [valuesIn, parse_render sorted]

/-- What is read from a file counts if it parses; if not, there is a warning and no text. -/
theorem yields_openAt_some_iff {path : Path} {text : String} {after : Option String}
    {store : FileStore} :
    Disk.Yields path (some text)
        (match parse text with
          | .ok values => pure ⟨path, values⟩
          | .error fault => do
              Disk.note (.storeIgnored path fault.reason)
              pure ⟨path, .empty⟩) store after ↔
      store = ⟨path, valuesIn (some text)⟩ ∧ after = some text := by
  cases read : parse text with
  | ok values =>
      have values : valuesIn (some text) = values := by simp only [valuesIn, read]
      rw [values]
      exact Disk.yields_pure_iff
  | error fault =>
      have values : valuesIn (some text) = .empty := by simp only [valuesIn, read]
      rw [values]
      constructor
      · intro yields
        cases yields with
        | warned later => exact Disk.yields_pure_iff.mp later
      · exact fun same => .warned (Disk.yields_pure_iff.mpr same)

/-- Opening takes over what the file holds and leaves the file alone. -/
theorem yields_openAt_iff {path : Path} {text? after : Option String} {store : FileStore} :
    Disk.Yields path text? (openAt path) store after ↔
      store = ⟨path, valuesIn text?⟩ ∧ after = text? := by
  constructor
  · intro yields
    obtain ⟨answer, between, first, second⟩ := Disk.yields_bind_iff.mp yields
    obtain ⟨rfl, ⟨text, rfl, rfl⟩ | ⟨rfl, fault, rfl⟩⟩ := Disk.yields_read_iff.mp first
    · exact yields_openAt_some_iff.mp second
    · exact Disk.yields_pure_iff.mp second
  · intro same
    cases text? with
    | none =>
        exact Disk.yields_bind_iff.mpr
          ⟨.error .missing, none, .unread .done, Disk.yields_pure_iff.mpr same⟩
    | some text =>
        exact Disk.yields_bind_iff.mpr
          ⟨.ok text, some text, .read .done, yields_openAt_some_iff.mpr same⟩

/-- A put always reaches memory.  It reaches the file too when it succeeds, and leaves the file as it
was when it fails. -/
theorem yields_put {store : FileStore} {name text : String} {text? after : Option String}
    {outcome : Stored FileStore}
    (yields : Disk.Yields store.path text? (Store.put store name text) outcome after) :
    outcome.store = ⟨store.path, store.values.insert name text⟩ ∧
      after = if outcome.fault?.isNone then some (render (store.values.insert name text)) else text? := by
  obtain ⟨written, between, first, second⟩ := Disk.yields_bind_iff.mp yields
  rcases first.text_writeInFolder with ⟨rfl, rfl⟩ | ⟨⟨fault, rfl⟩, rfl⟩
  · obtain ⟨rfl, rfl⟩ := Disk.yields_pure_iff.mp second
    exact ⟨rfl, rfl⟩
  · obtain ⟨rfl, rfl⟩ := Disk.yields_pure_iff.mp second
    exact ⟨rfl, rfl⟩

/-- A put may be written, and may be refused. -/
theorem exists_yields_put (store : FileStore) (name text : String) (text? : Option String)
    (written : Bool) :
    ∃ fault?, fault?.isNone = written ∧
      Disk.Yields store.path text? (Store.put store name text)
        ⟨⟨store.path, store.values.insert name text⟩, fault?⟩
        (if written then some (render (store.values.insert name text)) else text?) := by
  cases written with
  | true =>
      have answer : Disk.Yields store.path text?
          (Disk.write store.path (render (store.values.insert name text))) (.ok ())
          (some (render (store.values.insert name text))) :=
        Disk.yields_write_iff.mpr (.inl ⟨rfl, rfl⟩)
      exact ⟨none, rfl,
        Disk.yields_bind_iff.mpr ⟨_, _, Disk.yields_writeInFolder answer, .done⟩⟩
  | false =>
      have answer : Disk.Yields store.path text?
          (Disk.write store.path (render (store.values.insert name text))) (.error .missing) text? :=
        Disk.yields_write_iff.mpr (.inr ⟨⟨_, rfl⟩, rfl⟩)
      exact ⟨some _, rfl,
        Disk.yields_bind_iff.mpr ⟨_, _, Disk.yields_writeInFolder answer, .done⟩⟩

/-! ## Runs -/

/-- An open store, and the text that its file holds if it can be read. -/
structure Moment where
  store : FileStore
  text? : Option String

/-- What is done with a store in a file. -/
inductive Event where
  /-- A text is put under a name, and written or not. -/
  | put (name text : String) (written : Bool)
  /-- The file is opened again, and the store that was open is forgotten. -/
  | reopened

/-- Opening the file at a path may come to a moment. -/
def Opens (path : Path) (text? : Option String) (moment : Moment) : Prop :=
  Disk.Yields path text? (openAt path) moment.store moment.text?

/-- One event may lead from a moment to the next. -/
inductive Step : Moment → Event → Moment → Prop where
  | put {moment : Moment} {name text : String} {outcome : Stored FileStore} {after : Option String}
      (put : Disk.Yields moment.store.path moment.text? (Store.put moment.store name text) outcome
        after) :
      Step moment (.put name text outcome.fault?.isNone) ⟨outcome.store, after⟩
  | reopened {moment next : Moment} (opens : Opens moment.store.path moment.text? next) :
      Step moment .reopened next

/-- Events one after another may lead from a moment to another. -/
inductive Steps (start : Moment) : List Event → Moment → Prop where
  | none : Steps start [] start
  | further {events : List Event} {moment next : Moment} {event : Event}
      (before : Steps start events moment) (step : Step moment event next) :
      Steps start (events ++ [event]) next

/-- A put may be written. -/
theorem step_put_written (moment : Moment) (name text : String) :
    Step moment (.put name text true)
      ⟨⟨moment.store.path, moment.store.values.insert name text⟩,
        some (render (moment.store.values.insert name text))⟩ := by
  obtain ⟨fault?, written, put⟩ := exists_yields_put moment.store name text moment.text? true
  exact written ▸ .put put

/-- A put may fail to be written. -/
theorem step_put_unwritten (moment : Moment) (name text : String) :
    Step moment (.put name text false)
      ⟨⟨moment.store.path, moment.store.values.insert name text⟩, moment.text?⟩ := by
  obtain ⟨fault?, refused, put⟩ := exists_yields_put moment.store name text moment.text? false
  exact refused ▸ .put put

/-- A file can be opened whatever it holds. -/
theorem opens_valuesIn (path : Path) (text? : Option String) :
    Opens path text? ⟨⟨path, valuesIn text?⟩, text?⟩ :=
  yields_openAt_iff.mpr ⟨rfl, rfl⟩

/-- A put that is not written leaves the file as it was. -/
theorem Step.text?_of_unwritten {moment next : Moment} {name text : String}
    (step : Step moment (.put name text false) next) : next.text? = moment.text? := by
  -- The event says whether the put was written only through its outcome, which `cases` must see.
  generalize unwritten : Event.put name text false = event at step
  cases step with
  | put put =>
      obtain ⟨rfl, rfl, failed⟩ := Event.put.inj unwritten
      obtain ⟨-, kept⟩ := yields_put put
      simpa [← failed] using kept
  | reopened => contradiction

/-- No event is ever impossible. -/
theorem exists_step (moment : Moment) (event : Event) : ∃ next, Step moment event next := by
  cases event with
  | put name text written =>
      cases written with
      | true => exact ⟨_, step_put_written moment name text⟩
      | false => exact ⟨_, step_put_unwritten moment name text⟩
  | reopened => exact ⟨_, .reopened (opens_valuesIn _ _)⟩

/-! ## Two maps -/

/-- What a store answers, and what a store opened on its file would answer. -/
structure Maps where
  live : String → Option String
  filed : String → Option String

/-- Both maps after an event.  A text that is written takes all of memory with it. -/
def Maps.after (maps : Maps) : Event → Maps
  | .put name text true =>
      let live := Function.update maps.live name (some text)
      ⟨live, live⟩
  | .put name text false => ⟨Function.update maps.live name (some text), maps.filed⟩
  | .reopened => ⟨maps.filed, maps.filed⟩

/-- The two maps of a moment. -/
def Moment.maps (moment : Moment) : Maps :=
  ⟨moment.store.values.get?, (valuesIn moment.text?).get?⟩

/-- The store is the one of a path, and what it holds can be written and read. -/
structure Moment.Sound (path : Path) (moment : Moment) : Prop where
  path : moment.store.path = path
  sorted : moment.store.values.Sorted

variable {path : Path} {initial? : Option String} {start moment next : Moment} {event : Event}
  {events : List Event}

theorem Opens.sound (opens : Opens path initial? moment) : moment.Sound path := by
  obtain ⟨store, -⟩ := yields_openAt_iff.mp opens
  exact ⟨by rw [store], by rw [store]; exact sorted_valuesIn initial?⟩

theorem Opens.maps (opens : Opens path initial? moment) :
    moment.maps = ⟨(valuesIn initial?).get?, (valuesIn initial?).get?⟩ := by
  obtain ⟨store, text⟩ := yields_openAt_iff.mp opens
  rw [Moment.maps, store, text]

theorem Opens.live (opens : Opens path initial? moment) :
    moment.maps.live = (valuesIn initial?).get? := by
  rw [opens.maps]

/-- A store goes on to be one that can be written and read. -/
theorem Step.sound (step : Step moment event next) (sound : moment.Sound path) :
    next.Sound path := by
  cases step with
  | put put =>
      obtain ⟨store, -⟩ := yields_put put
      exact ⟨by rw [store]; exact sound.path, by rw [store]; exact sound.sorted.insert _ _⟩
  | reopened opens => exact sound.path ▸ opens.sound

/-- Every event takes the maps of a moment to those of the next. -/
theorem Step.maps (step : Step moment event next) (sound : moment.Sound path) :
    next.maps = moment.maps.after event := by
  cases step with
  | @put name text outcome after put =>
      obtain ⟨store, written⟩ := yields_put put
      cases kept : outcome.fault?.isNone with
      | true =>
          have read := valuesIn_render (sound.sorted.insert name text)
          simp [Moment.maps, Maps.after, store, written, kept, read, Dictionary.get?_insert]
      | false => simp [Moment.maps, Maps.after, store, written, kept, Dictionary.get?_insert]
  | reopened opens => exact opens.maps

/-- A put changes the answer under its name and no other. -/
theorem Step.getD_of_put {name text : String} {written : Bool}
    (step : Step moment (.put name text written) next) (sound : moment.Sound path)
    (other default : String) :
    Store.getD next.store other default =
      if other = name then text else Store.getD moment.store other default := by
  have live : next.maps.live = Function.update moment.maps.live name (some text) := by
    rw [step.maps sound]
    cases written <;> rfl
  have found := congrArg (·.getD default) (congrFun live other)
  simp only [Function.update_apply, apply_ite (Option.getD · default)] at found
  exact found

/-- After a put the file answers as memory does with the text in it, or as it did before. -/
theorem Step.filed_of_put {name text : String} {written : Bool}
    (step : Step moment (.put name text written) next) (sound : moment.Sound path) :
    next.maps.filed = Function.update moment.maps.live name (some text) ∨
      next.maps.filed = moment.maps.filed := by
  rw [step.maps sound]
  cases written with
  | true => exact .inl rfl
  | false => exact .inr rfl

/-- A put that is written takes all of memory with it. -/
theorem Step.filed_of_written {name text : String} (step : Step moment (.put name text true) next)
    (sound : moment.Sound path) : (valuesIn next.text?).get? = next.maps.live := by
  have maps := step.maps sound
  calc (valuesIn next.text?).get? = (moment.maps.after (.put name text true)).filed :=
        congrArg Maps.filed maps
    _ = next.maps.live := (congrArg Maps.live maps).symm

theorem Steps.sound (steps : Steps start events moment) (sound : start.Sound path) :
    moment.Sound path := by
  induction steps with
  | none => exact sound
  | further _ step inductionHypothesis => exact step.sound inductionHypothesis

/-- A run takes the maps of its first moment to those of its last. -/
theorem Steps.maps (steps : Steps start events moment) (sound : start.Sound path) :
    moment.maps = events.foldl Maps.after start.maps := by
  induction steps with
  | none => rfl
  | further before step inductionHypothesis =>
      rw [step.maps (before.sound sound), inductionHypothesis, List.foldl_append]
      rfl

/-! ## Since the file was opened -/

/-- The text that was put last under a name, written or not. -/
def latestPut? (name : String) : List Event → Option String
  | [] => none
  | .put other text _ :: later =>
      (latestPut? name later).or (if other = name then some text else none)
  | .reopened :: later => latestPut? name later

/-- Until the file is opened again the store answers with the latest put, and where there is none
as before. -/
theorem live_foldl_after {events : List Event} (unopened : .reopened ∉ events) (maps : Maps)
    (name : String) :
    (events.foldl Maps.after maps).live name = (latestPut? name events).or (maps.live name) := by
  induction events generalizing maps with
  | nil => rfl
  | cons event later inductionHypothesis =>
      obtain ⟨notOpening, rest⟩ := List.ne_and_not_mem_of_not_mem_cons unopened
      rw [List.foldl_cons, inductionHypothesis rest]
      cases event with
      | reopened => exact absurd rfl notOpening
      | put other text written =>
          have live : (maps.after (.put other text written)).live =
              Function.update maps.live other (some text) := by
            cases written <;> rfl
          rw [live, latestPut?, Option.or_assoc, Function.update_apply]
          by_cases same : other = name
          · simp [same]
          · simp [same, Ne.symm same]

/-- Right after an opening the store answers with what its file holds. -/
theorem Steps.live_of_fresh (steps : Steps start events moment)
    (opens : Opens path initial? start) (fresh : ∀ event ∈ events.getLast?, event = .reopened) :
    moment.maps.live = (valuesIn moment.text?).get? := by
  cases steps with
  | none =>
      rw [opens.live, (yields_openAt_iff.mp opens).2]
  | @further _ _ _ event before step =>
      obtain rfl : event = .reopened := fresh event (by simp)
      cases step with
      | reopened opens => rw [opens.live, (yields_openAt_iff.mp opens).2]

/-- The store in a file is a map in memory that outlives the program.  Take any run from a first
opening of the file, a moment of it at which the file has just been opened, and a later moment
before the next opening.  The store and its file then stand for the two maps that the events lead
to.  The store answers with the latest put since the opening, then with what the file held, then
with the default.  A put that is written makes the file answer as the store does, so what earlier
puts could not write is in it; a put that is not written leaves the file as it was.  Either way no
other name is touched, and the run can go on with any event. -/
theorem recalls_latest_puts {earlier since : List Event} {opened : Moment}
    (opens : Opens path initial? start) (before : Steps start earlier opened)
    (fresh : ∀ event ∈ earlier.getLast?, event = .reopened)
    (after : Steps opened since moment) (unopened : .reopened ∉ since) :
    moment.maps = (earlier ++ since).foldl Maps.after
        ⟨(valuesIn initial?).get?, (valuesIn initial?).get?⟩ ∧
      (∀ name default, Store.getD moment.store name default =
        ((latestPut? name since).or ((valuesIn opened.text?).get? name)).getD default) ∧
      (∀ name text written next, Step moment (.put name text written) next →
        (∀ other default, Store.getD next.store other default =
          if other = name then text else Store.getD moment.store other default) ∧
        if written then
          ∀ reopened, Opens path next.text? reopened → ∀ other default,
            Store.getD reopened.store other default = Store.getD next.store other default
        else next.text? = moment.text?) ∧
      ∀ event, ∃ next, Step moment event next := by
  have sound : opened.Sound path := before.sound opens.sound
  have live : moment.maps.live = fun name =>
      (latestPut? name since).or ((valuesIn opened.text?).get? name) := by
    funext name
    rw [after.maps sound, live_foldl_after unopened, before.live_of_fresh opens fresh]
  refine ⟨?both, ?recalls, ?puts, exists_step moment⟩
  case both =>
    rw [after.maps sound, before.maps opens.sound, opens.maps, List.foldl_append]
  case recalls =>
    intro name default
    exact congrArg (·.getD default) (congrFun live name)
  case puts =>
    intro name text written next put
    refine ⟨put.getD_of_put (after.sound sound), ?_⟩
    cases written with
    | false => exact put.text?_of_unwritten
    | true =>
        intro reopened opens other default
        have answers : reopened.maps.live = next.maps.live :=
          opens.live.trans (put.filed_of_written (after.sound sound))
        exact congrArg (·.getD default) (congrFun answers other)

/-- A put that failed is made good by a put under another name, whatever the text holds. -/
theorem recalls_latest_puts_unwritten :
    ∃ opened failing next reopened,
      Opens ⟨"prefs.json"⟩ (some (render ⟨[("old", "kept")]⟩)) opened ∧
      Steps opened [.put "new" "\"\\\n\x00" false] failing ∧
      Step failing (.put "other" "" true) next ∧
      Opens ⟨"prefs.json"⟩ next.text? reopened ∧
      Store.getD reopened.store "old" "" = "kept" ∧
      Store.getD reopened.store "new" "" = "\"\\\n\x00" := by
  let hard := "\"\\\n\x00"
  let contents := render ⟨[("old", "kept")]⟩
  let opened : Moment := ⟨⟨⟨"prefs.json"⟩, valuesIn (some contents)⟩, some contents⟩
  let failing : Moment :=
    ⟨⟨⟨"prefs.json"⟩, opened.store.values.insert "new" hard⟩, some contents⟩
  have held : valuesIn (some contents) = ⟨[("old", "kept")]⟩ :=
    valuesIn_render (List.pairwise_singleton _ _)
  have opens : Opens ⟨"prefs.json"⟩ (some contents) opened := opens_valuesIn _ _
  have failed : Steps opened [.put "new" hard false] failing :=
    .further .none (step_put_unwritten opened "new" hard)
  obtain ⟨-, recalls, puts, -⟩ := recalls_latest_puts opens .none (by simp) failed (by simp)
  obtain ⟨answers, durable⟩ := puts "other" "" true _ (step_put_written failing "other" "")
  have reopens := opens_valuesIn ⟨"prefs.json"⟩
    (some (render (failing.store.values.insert "other" "")))
  refine ⟨opened, failing, _, _, opens, failed, step_put_written failing "other" "", reopens, ?_, ?_⟩
  · rw [durable _ reopens, answers, if_neg (by decide), recalls, held]
    rfl
  · rw [durable _ reopens, answers, if_neg (by decide), recalls]
    rfl

end QueryNotebook.FileStore
