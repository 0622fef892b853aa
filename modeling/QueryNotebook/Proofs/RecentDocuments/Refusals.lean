import QueryNotebook.Proofs.RecentDocuments.Restart
import QueryNotebook.Proofs.Store.Durability

/-!
# Writes that are refused

The list of recent documents does not depend on its store.  Whatever puts fail, the list in memory
goes the way it would go if none did, every failing put leaves one warning, and what it should have
stored is in the text of the next put that succeeds, because the whole list is stored every time.

What a store holds is looked up after every use.  For a store in memory that is its answer.  For a
store in a file it is the answer of the file when it is opened again: the store itself already answers
with a text that could not be written.
-/

namespace QueryNotebook

/-- A store that notes of every put why it failed, if it did. -/
structure RecordingStore (σ : Type) where
  store : σ
  puts : List (Option ConfigFault)

instance {σ : Type} {m : Type → Type} [Store σ m] [Monad m] : Store (RecordingStore σ) m where
  get? recording name := Store.get? recording.store name
  put recording name text := do
    let outcome ← Store.put recording.store name text
    pure ⟨⟨outcome.store, recording.puts ++ [outcome.fault?]⟩, outcome.fault?⟩

namespace RecentDocuments

/-! ## What is noticed of a use -/

/-- What is noticed of a use of the list. -/
structure Noticed where
  /-- The paths after the use. -/
  paths : List Path
  /-- Whether a removal found its document. -/
  held? : Option Bool
  warnings : List Warning
  /-- Why the puts of the use failed, as far as they did. -/
  puts : List (Option ConfigFault)
  /-- The text that the store holds for the list after the use. -/
  kept? : Option String

/-- What can be noticed without looking at the store. -/
def Noticed.sight (noticed : Noticed) : Sight :=
  ⟨noticed.paths, noticed.held?⟩

/-- Every use made one put, except for a removal that found nothing, and a put that failed left one
warning.  After a use with a put that succeeded the store holds the paths that were there after the
use, and after any other use it holds what it held. -/
def Accounted (before? : Option String) : List Noticed → Prop
  | [] => True
  | noticed :: later =>
      noticed.puts.length = (if noticed.held? = some false then 0 else 1) ∧
        noticed.warnings = (noticed.puts.filterMap id).map Warning.recentNotStored ∧
        noticed.kept? = (if noticed.puts.any Option.isNone then some (encodePaths noticed.paths)
          else before?) ∧
        Accounted noticed.kept? later

/-- What is noticed of several uses, when the text that a store holds is looked up in a given way. -/
def notice {σ : Type} {m : Type → Type} [Store σ m] [Monad m] (look : σ → m (Option String))
    (recent : RecentDocuments) (store : σ) : List (RecencyUse Path) → m (List Noticed)
  | [] => pure []
  | use :: later => do
      let (change, held?) ← recent.useIn use (RecordingStore.mk store [])
      let kept? ← look change.store.store
      let noticed ← notice look change.recent change.store.store later
      pure (⟨change.recent.paths, held?, change.warnings, change.store.puts, kept?⟩ :: noticed)

/-! ## What a use stores -/

/-- The list that a use stores, unless it stores none. -/
def toStore? (recent : RecentDocuments) (use : RecencyUse Path) : Option RecentDocuments :=
  match use with
  | .added path => some (recent.record path)
  | .removed path => if (recent.remove path).2 then some (recent.remove path).1 else none
  | .cleared => some recent.clear

/-- What a use tells: of a removal, whether the list held the document. -/
def told? (recent : RecentDocuments) (use : RecencyUse Path) : Option Bool :=
  match use with
  | .added _ => none
  | .removed path => some (recent.remove path).2
  | .cleared => none

/-- Only a removal that finds nothing stores no list. -/
theorem toStore?_eq_none_iff {recent : RecentDocuments} {use : RecencyUse Path} :
    recent.toStore? use = none ↔ recent.told? use = some false := by
  cases use <;> simp [toStore?, told?]

/-- A use stores its list, or does nothing. -/
theorem useIn_eq {σ : Type} {m : Type → Type} [Store σ m] [Monad m] [LawfulMonad m]
    (recent : RecentDocuments) (use : RecencyUse Path) (store : σ) :
    recent.useIn use store =
      (match recent.toStore? use with
      | none => pure (⟨recent, store, []⟩, recent.told? use)
      | some next => do
          let outcome ← Store.put store listKey (encodePaths next.paths)
          pure (⟨next, outcome.store, (outcome.fault?.map Warning.recentNotStored).toList⟩,
            recent.told? use)) := by
  cases use with
  | added path => simp only [useIn, recordIn, save, bind_assoc, pure_bind]; rfl
  | cleared => simp only [useIn, clearIn, save, bind_assoc, pure_bind]; rfl
  | removed path =>
      simp only [useIn, removeIn, toStore?, told?]
      generalize recent.remove path = removal
      obtain ⟨remaining, held⟩ := removal
      cases held with
      | true => simp only [save, bind_assoc, pure_bind, if_true]; rfl
      | false => simp only [pure_bind, Bool.false_eq_true, if_false]

/-- What is noticed of several uses without looking at any store. -/
def sights (recent : RecentDocuments) : List (RecencyUse Path) → List Sight
  | [] => []
  | use :: later =>
      let next := (recent.toStore? use).getD recent
      ⟨next.paths, recent.told? use⟩ :: sights next later

/-! ## Stores seen from outside -/

/-- A store whose text for the list can be looked up, and a reading of what programs on it may come
to.  Outside of the store there is a world, and a put that fails leaves what is held there. -/
structure Keeper (σ : Type) {m : Type → Type} [Store σ m] [Monad m] where
  World : Type
  /-- A program may come to a result and leave a world. -/
  Yields {α : Type} (world : World) (program : m α) (result : α) (after : World) : Prop
  /-- The store and the world fit together. -/
  Sound (store : σ) (world : World) : Prop
  /-- The text that is held for the list. -/
  held? (store : σ) (world : World) : Option String
  look (store : σ) : m (Option String)
  yields_pure {α : Type} {world after : World} {value result : α} :
    Yields world (pure value) result after → result = value ∧ after = world
  yields_bind {α β : Type} {world after : World} {program : m α} {more : α → m β} {result : β} :
    Yields world (program >>= more) result after →
      ∃ middle between, Yields world program middle between ∧
        Yields between (more middle) result after
  yields_put {store : σ} {world after : World} {text : String} {outcome : Stored σ} :
    Sound store world → Yields world (Store.put store listKey text) outcome after →
      Sound outcome.store after ∧
        held? outcome.store after =
          if outcome.fault?.isNone then some text else held? store world
  yields_look {store : σ} {world after : World} {text? : Option String} :
    Sound store world → Yields world (look store) text? after →
      text? = held? store world ∧ after = world

namespace Keeper

variable {σ : Type} {m : Type → Type} [Store σ m] [Monad m] [LawfulMonad m] (keeper : Keeper σ)
  {recent : RecentDocuments} {use : RecencyUse Path} {store : σ} {world after : keeper.World}

/-- A use changes the list as it would without a store, leaves a warning for a put that fails, and
stores the whole list with a put that succeeds. -/
theorem yields_useIn {change : RecentChange (RecordingStore σ)} {told? : Option Bool}
    (sound : keeper.Sound store world)
    (yields : keeper.Yields world (recent.useIn use (RecordingStore.mk store [])) (change, told?)
      after) :
    change.recent = (recent.toStore? use).getD recent ∧ told? = recent.told? use ∧
      keeper.Sound change.store.store after ∧
      change.store.puts.length = (if told? = some false then 0 else 1) ∧
      change.warnings = (change.store.puts.filterMap id).map Warning.recentNotStored ∧
      keeper.held? change.store.store after =
        if change.store.puts.any Option.isNone then some (encodePaths change.recent.paths)
        else keeper.held? store world := by
  rw [useIn_eq] at yields
  cases stores : recent.toStore? use with
  | none =>
      rw [stores] at yields
      obtain ⟨same, rfl⟩ := keeper.yields_pure yields
      obtain ⟨rfl, rfl⟩ := Prod.mk.inj same
      exact ⟨rfl, rfl, sound, by rw [toStore?_eq_none_iff.mp stores]; rfl, rfl, rfl⟩
  | some next =>
      have told : recent.told? use ≠ some false := fun missed => by
        simp [toStore?_eq_none_iff.mpr missed] at stores
      rw [stores] at yields
      simp only [Store.put, bind_assoc, pure_bind] at yields
      obtain ⟨outcome, between, put, yields⟩ := keeper.yields_bind yields
      obtain ⟨same, rfl⟩ := keeper.yields_pure yields
      obtain ⟨rfl, rfl⟩ := Prod.mk.inj same
      obtain ⟨sound, held⟩ := keeper.yields_put sound put
      refine ⟨rfl, rfl, sound, (if_neg told).symm, ?_, ?_⟩
      · cases outcome.fault? <;> rfl
      · rw [held]
        cases outcome.fault? <;> rfl

/-- Several uses change the list as they would without a store, and their puts are accounted for. -/
theorem yields_notice {uses : List (RecencyUse Path)} {noticed : List Noticed}
    (sound : keeper.Sound store world)
    (yields : keeper.Yields world (recent.notice keeper.look store uses) noticed after) :
    noticed.map Noticed.sight = recent.sights uses ∧
      Accounted (keeper.held? store world) noticed := by
  induction uses generalizing recent store world noticed with
  | nil =>
      obtain ⟨rfl, -⟩ := keeper.yields_pure yields
      exact ⟨rfl, trivial⟩
  | cons use later inductionHypothesis =>
      rw [notice] at yields
      obtain ⟨⟨change, told?⟩, used, first, yields⟩ := keeper.yields_bind yields
      obtain ⟨same, rfl, sound, once, warned, held⟩ := keeper.yields_useIn sound first
      obtain ⟨kept?, looked, look, yields⟩ := keeper.yields_bind yields
      obtain ⟨rfl, rfl⟩ := keeper.yields_look sound look
      obtain ⟨others, done, rest, yields⟩ := keeper.yields_bind yields
      obtain ⟨rfl, rfl⟩ := keeper.yields_pure yields
      obtain ⟨sights, accounted⟩ := inductionHypothesis sound rest
      refine ⟨?_, once, warned, held, accounted⟩
      rw [List.map_cons, sights, same]
      rfl

end Keeper

/-! ## Stores in memory and in files -/

/-- What a store in memory holds is what it answers. -/
def lookUp (store : RefusingStore) : Id (Option String) :=
  Store.get? store listKey

/-- What a file holds is found when it is opened again. -/
def lookAgain (store : FileStore) : Disk (Option String) := do
  let reopened ← FileStore.openAt store.path
  pure (Store.get? reopened listKey)

/-- A store that refuses is all there is. -/
def refusingKeeper : Keeper RefusingStore where
  World := Unit
  Yields _ program result _ := result = program
  Sound _ _ := True
  held? store _ := Store.get? store listKey
  look := lookUp
  yields_pure same := ⟨same, rfl⟩
  yields_bind {_ _ _ _ program _ _} same := ⟨program, (), rfl, same⟩
  yields_put {store _ _ text outcome} _ := by
    rintro rfl
    refine ⟨trivial, ?_⟩
    simp only [Store.put]
    split
    · rfl
    · exact store.values.get?_insert_self listKey text
  yields_look _ same := ⟨same, rfl⟩

/-- A store in a file is kept by its file. -/
def fileKeeper (path : Path) : Keeper FileStore where
  World := Option String
  Yields text? program result after := Disk.Yields path text? program result after
  Sound store _ := store.path = path ∧ store.values.Sorted
  held? _ text? := (FileStore.valuesIn text?).get? listKey
  look := lookAgain
  yields_pure := Disk.yields_pure_iff.mp
  yields_bind := Disk.yields_bind_iff.mp
  yields_put {store _ _ text _} := by
    rintro ⟨rfl, sorted⟩ put
    obtain ⟨there, written⟩ := FileStore.yields_put put
    have sortedNext := sorted.insert listKey text
    refine ⟨⟨by rw [there], by rw [there]; exact sortedNext⟩, ?_⟩
    rw [written]
    split
    · rw [FileStore.valuesIn_render sortedNext]
      exact store.values.get?_insert_self listKey text
    · rfl
  yields_look {store text? _ _} := by
    rintro ⟨rfl, -⟩ look
    obtain ⟨reopened, between, opens, look⟩ := Disk.yields_bind_iff.mp look
    obtain ⟨rfl, rfl⟩ := FileStore.yields_openAt_iff.mp opens
    exact Disk.yields_pure_iff.mp look

/-- Looking into the file may come to what it holds. -/
theorem yields_lookAgain (store : FileStore) (text? : Option String) :
    Disk.Yields store.path text? (lookAgain store)
      ((FileStore.valuesIn text?).get? listKey) text? :=
  Disk.yields_bind_iff.mpr ⟨_, _, FileStore.yields_openAt_iff.mpr ⟨rfl, rfl⟩, .done⟩

/-- The put of a use may be written, and may be refused.  There is one unless a removal does not find
its document. -/
theorem exists_yields_useIn (recent : RecentDocuments) (use : RecencyUse Path) (store : FileStore)
    (text? : Option String) (written : Bool) :
    ∃ (change : RecentChange (RecordingStore FileStore)) (after : Option String),
      Disk.Yields store.path text? (recent.useIn use (RecordingStore.mk store []))
        (change, recent.told? use) after ∧
      change.store.store.path = store.path ∧
      change.store.puts.map Option.isNone =
        if recent.told? use = some false then [] else [written] := by
  cases stores : recent.toStore? use with
  | none =>
      have missed : recent.told? use = some false := toStore?_eq_none_iff.mp stores
      refine ⟨⟨recent, ⟨store, []⟩, []⟩, text?, ?_, rfl, by rw [missed]; rfl⟩
      rw [useIn_eq, stores]
      exact .done
  | some next =>
      have told : recent.told? use ≠ some false := fun missed => by
        simp [toStore?_eq_none_iff.mpr missed] at stores
      obtain ⟨fault?, outcome, put⟩ :=
        FileStore.exists_yields_put store listKey (encodePaths next.paths) text? written
      let kept : FileStore := ⟨store.path, store.values.insert listKey (encodePaths next.paths)⟩
      let change : RecentChange (RecordingStore FileStore) :=
        ⟨next, ⟨kept, [fault?]⟩, (fault?.map Warning.recentNotStored).toList⟩
      have used : ∃ after, Disk.Yields store.path text?
          (recent.useIn use (RecordingStore.mk store [])) (change, recent.told? use) after := by
        rw [useIn_eq, stores]
        exact ⟨_, Disk.yields_bind_iff.mpr ⟨_, _,
          Disk.yields_bind_iff.mpr ⟨_, _, put, .done⟩, .done⟩⟩
      obtain ⟨after, used⟩ := used
      exact ⟨change, after, used, rfl, by rw [if_neg told, ← outcome]; rfl⟩

/-- Whichever uses are chosen, there is a run in which their puts are written and the others are
not. -/
theorem exists_yields_notice (recent : RecentDocuments) (uses : List (RecencyUse Path))
    (store : FileStore) (text? : Option String) (written : Nat → Bool) :
    ∃ noticed after,
      Disk.Yields store.path text? (recent.notice lookAgain store uses) noticed after ∧
      ∀ number each, noticed[number]? = some each → each.puts.map Option.isNone =
        if each.held? = some false then [] else [written number] := by
  induction uses generalizing recent store text? written with
  | nil => exact ⟨[], text?, .done, fun number each member => by simp at member⟩
  | cons use later inductionHypothesis =>
      obtain ⟨change, between, used, path, puts⟩ :=
        exists_yields_useIn recent use store text? (written 0)
      obtain ⟨noticed, after, rest, chosen⟩ := inductionHypothesis change.recent
        change.store.store between (fun number => written (number + 1))
      have looked := yields_lookAgain change.store.store between
      rw [path] at rest looked
      let first : Noticed := ⟨change.recent.paths, recent.told? use, change.warnings,
        change.store.puts, (FileStore.valuesIn between).get? listKey⟩
      refine ⟨first :: noticed, after, ?_, ?_⟩
      · exact Disk.yields_bind_iff.mpr ⟨_, _, used, Disk.yields_bind_iff.mpr ⟨_, _, looked,
          Disk.yields_bind_iff.mpr ⟨_, _, rest, .done⟩⟩⟩
      · intro number each member
        cases number with
        | zero =>
            obtain rfl := Option.some.inj member
            exact puts
        | succ number => exact chosen number each member

/-- Writes that are refused disturb no list, and lose nothing in the end.  Take any list, any uses of
it, and a store that refuses any choice of puts, or a store in a file, whatever the file holds and
whatever the system refuses.  The paths after every use and the results of the removals are those of
a run without refusals.  There is one put for every use but a removal that finds nothing.  A put that
fails leaves one warning and what was stored; after a put that succeeds, the paths in memory are what
is stored.  The system may refuse any choice of puts. -/
theorem refused_writes_disturb_no_list (recent : RecentDocuments) (uses : List (RecencyUse Path)) :
    let undisturbed : List Sight :=
      (recent.notice lookUp ⟨.empty, 0, fun _ => false⟩ uses : List Noticed).map Noticed.sight
    (∀ store : RefusingStore,
      let noticed : List Noticed := recent.notice lookUp store uses
      noticed.map Noticed.sight = undisturbed ∧ Accounted (Store.get? store listKey) noticed) ∧
    ∀ (store : FileStore) (text? : Option String), store.values.Sorted →
      (∀ noticed after,
        Disk.Yields store.path text? (recent.notice lookAgain store uses) noticed after →
        noticed.map Noticed.sight = undisturbed ∧
          Accounted ((FileStore.valuesIn text?).get? listKey) noticed) ∧
      ∀ written : Nat → Bool, ∃ noticed after,
        Disk.Yields store.path text? (recent.notice lookAgain store uses) noticed after ∧
        ∀ number each, noticed[number]? = some each → each.puts.map Option.isNone =
          if each.held? = some false then [] else [written number] := by
  intro undisturbed
  have inMemory : ∀ store : RefusingStore,
      let noticed : List Noticed := recent.notice lookUp store uses
      noticed.map Noticed.sight = recent.sights uses ∧
        Accounted (Store.get? store listKey) noticed := by
    intro store noticed
    have run : refusingKeeper.Yields () (recent.notice lookUp store uses) noticed () := rfl
    exact refusingKeeper.yields_notice trivial run
  have same : undisturbed = recent.sights uses := (inMemory ⟨.empty, 0, fun _ => false⟩).1
  rw [same]
  refine ⟨inMemory, fun store text? sorted => ⟨fun noticed after run => ?_,
    exists_yields_notice recent uses store text?⟩⟩
  exact (fileKeeper store.path).yields_notice ⟨rfl, sorted⟩ run

/-- The first of three uses could not be written, the second one writes nothing, and the third one
writes for the first as well. -/
theorem refused_writes_disturb_no_list_third :
    let recent := empty 2
    let uses : List (RecencyUse Path) := [.added ⟨"a.md"⟩, .removed ⟨"x"⟩, .added ⟨"b.md"⟩]
    let file : FileStore := ⟨⟨"prefs.json"⟩, .empty⟩
    file.values.Sorted ∧ ∃ noticed after,
      Disk.Yields file.path none (recent.notice lookAgain file uses) noticed after ∧
      noticed.map (fun each => (each.paths.map Path.text, each.warnings.length, each.kept?)) =
        [(["a.md"], 1, none), (["a.md"], 0, none), (["b.md", "a.md"], 0, some "b.md;a.md")] := by
  intro recent uses file
  have sorted : file.values.Sorted := Dictionary.sorted_empty
  obtain ⟨-, inFile⟩ := refused_writes_disturb_no_list recent uses
  obtain ⟨all, choices⟩ := inFile file none sorted
  obtain ⟨noticed, after, run, written⟩ := choices fun number => number == 2
  obtain ⟨sights, accounted⟩ := all noticed after run
  refine ⟨sorted, noticed, after, run, ?_⟩
  have seen : noticed.map Noticed.sight = [⟨[⟨"a.md"⟩], none⟩, ⟨[⟨"a.md"⟩], some false⟩,
      ⟨[⟨"b.md"⟩, ⟨"a.md"⟩], none⟩] := sights.trans rfl
  obtain ⟨first, others, rfl, one, rest⟩ := List.map_eq_cons_iff.mp seen
  obtain ⟨second, others, rfl, two, rest⟩ := List.map_eq_cons_iff.mp rest
  obtain ⟨third, others, rfl, three, rest⟩ := List.map_eq_cons_iff.mp rest
  obtain rfl := List.map_eq_nil_iff.mp rest
  obtain ⟨paths₁, held₁⟩ := Sight.mk.inj one
  obtain ⟨paths₂, held₂⟩ := Sight.mk.inj two
  obtain ⟨paths₃, held₃⟩ := Sight.mk.inj three
  obtain ⟨fault, puts₁⟩ : ∃ fault, first.puts = [some fault] := by
    have refused : first.puts.map Option.isNone = [false] := by simpa [held₁] using written 0 _ rfl
    obtain ⟨_ | fault, only, one⟩ := List.map_eq_singleton_iff.mp refused
    · contradiction
    · exact ⟨fault, only⟩
  have puts₂ : second.puts = [] := by simpa [held₂] using written 1 _ rfl
  have puts₃ : third.puts = [none] := by
    have stored : third.puts.map Option.isNone = [true] := by simpa [held₃] using written 2 _ rfl
    obtain ⟨_ | fault, only, one⟩ := List.map_eq_singleton_iff.mp stored
    · exact only
    · contradiction
  obtain ⟨-, warned₁, kept₁, -, warned₂, kept₂, -, warned₃, kept₃, -⟩ := accounted
  rw [puts₁] at warned₁ kept₁
  rw [puts₂] at warned₂ kept₂
  rw [puts₃] at warned₃
  rw [puts₃, paths₃] at kept₃
  have text : encodePaths [⟨"b.md"⟩, ⟨"a.md"⟩] = "b.md;a.md" := by decide +kernel
  have nothing : (FileStore.valuesIn none).get? listKey = none := rfl
  simp [paths₁, paths₂, paths₃, warned₁, warned₂, warned₃, kept₁, kept₂, kept₃, text, nothing]

end RecentDocuments

end QueryNotebook
