import QueryNotebook.Proofs.CommandLine.Reports
import QueryNotebook.Proofs.CommandLine.Running

/-!
# What a change of the recent documents leaves

A request that changes the recent documents, and a request that lists them afterwards.  The first one
reports success whether its file could be written or not; whether the second one shows the same list
depends on that, and on the paths.  The system may refuse any write, and the file may hold any text at
first, or none that can be read.
-/

namespace QueryNotebook.CommandLine

open FileStore (Moment Step valuesIn)

/-- The recent documents after a request. -/
def RecentRequest.apply (recent : RecentDocuments) : RecentRequest → RecentDocuments
  | .list => recent
  | .add path => recent.record path
  | .clear => recent.clear

/-- What the program does with the recent documents and their store for a request. -/
def carryOut (recent : RecentDocuments) (store : FileStore) :
    RecentRequest → Disk (RecentDocuments × FileStore)
  | .list => pure (recent, store)
  | .add path => do
      let store ← storeFolder store path
      let change ← recent.recordIn path store
      noted change
  | .clear => do
      let change ← recent.clearIn store
      noted change

/-- A request for the recent documents opens the store, is carried out, and reports what is then
there. -/
theorem meet_recent_eq (surroundings : Surroundings) (settings : Settings)
    (request : RecentRequest) (store? : Option Path) :
    meet surroundings settings (.recent request store?) = (do
      let store ← openStore surroundings store?
      let outcome ← carryOut (.ofStore store settings.recentCapacity) store request
      pure (.ok (recentReport outcome.1 outcome.2))) := by
  cases request with
  | list => rfl
  | add path => simp only [meet, recent, carryOut, bind_assoc]
  | clear => simp only [meet, recent, carryOut, bind_assoc]

/-! ## The list in a file -/

/-- The list that a file with some text holds, as it is stored. -/
def heldIn (text? : Option String) : Option String :=
  (valuesIn text?).get? RecentDocuments.listKey

/-- The recent documents that the program reads from a file with some text. -/
def recentFiled (settings : Settings) (text? : Option String) : RecentDocuments :=
  .ofStored settings.recentCapacity ((heldIn text?).getD "")

theorem restorable_recentFiled (settings : Settings) (text? : Option String) :
    (recentFiled settings text?).Restorable :=
  RecentDocuments.restorable_ofStored _ _

/-! ## Writes -/

section Writes

variable {recent : RecentDocuments} {moment : Moment} {after : Option String}

/-- Storing a list leaves it in the file, or the one that the file held before. -/
theorem heldIn_of_yields_save {outcome : RecentDocuments × FileStore}
    (sound : moment.Sound moment.store.path)
    (yields : Disk.Yields moment.store.path moment.text? (recent.save moment.store >>= noted) outcome
      after) :
    outcome.1 = recent ∧
      (heldIn after = some recent.stored ∨ heldIn after = heldIn moment.text?) := by
  obtain ⟨change, between, saved, told⟩ := Disk.yields_bind_iff.mp yields
  obtain ⟨stored, _, put, changed⟩ := Disk.yields_bind_iff.mp saved
  obtain ⟨rfl, rfl⟩ := Disk.yields_pure_iff.mp changed
  obtain ⟨rfl, rfl⟩ := Disk.yields_noted_iff.mp told
  refine ⟨rfl, ?_⟩
  rcases (Step.put put).filed_of_put sound with filed | filed
  · exact .inl ((congrFun filed _).trans (Function.update_self ..))
  · exact .inr (congrFun filed _)

/-- Storing the folder of a document changes no list: what it may write is the list in memory, which
is the one that the file held. -/
theorem heldIn_of_yields_storeFolder {document : Path} {next : FileStore}
    (sound : moment.Sound moment.store.path) (fresh : moment.maps.live = moment.maps.filed)
    (yields : Disk.Yields moment.store.path moment.text? (storeFolder moment.store document) next
      after) :
    (Moment.mk next after).Sound moment.store.path ∧ heldIn after = heldIn moment.text? := by
  unfold storeFolder at yields
  split at yields
  · obtain ⟨rfl, rfl⟩ := Disk.yields_pure_iff.mp yields
    exact ⟨sound, rfl⟩
  · next folder _ =>
    split at yields
    · obtain ⟨rfl, rfl⟩ := Disk.yields_pure_iff.mp yields
      exact ⟨sound, rfl⟩
    · obtain ⟨kept, between, stored, told⟩ := Disk.yields_bind_iff.mp yields
      obtain ⟨outcome, _, put, left⟩ := Disk.yields_bind_iff.mp stored
      obtain ⟨rfl, rfl⟩ := Disk.yields_pure_iff.mp left
      obtain ⟨rfl, rfl⟩ := Disk.yields_noted_iff.mp told
      refine ⟨(Step.put put).sound sound, ?_⟩
      rcases (Step.put put).filed_of_put sound with filed | filed
      · rw [fresh] at filed
        exact (congrFun filed _).trans (Function.update_of_ne (by decide) ..)
      · exact congrFun filed _

/-- A request leaves its list in the file, or the one that the file held before. -/
theorem heldIn_of_yields_carryOut {request : RecentRequest}
    {outcome : RecentDocuments × FileStore} (sound : moment.Sound moment.store.path)
    (fresh : moment.maps.live = moment.maps.filed)
    (yields : Disk.Yields moment.store.path moment.text? (carryOut recent moment.store request)
      outcome after) :
    outcome.1 = request.apply recent ∧
      (heldIn after = some (request.apply recent).stored ∨
        heldIn after = heldIn moment.text?) := by
  cases request with
  | list =>
      obtain ⟨rfl, rfl⟩ := Disk.yields_pure_iff.mp yields
      exact ⟨rfl, .inr rfl⟩
  | clear => exact heldIn_of_yields_save sound yields
  | add document =>
      obtain ⟨next, between, folder, saved⟩ := Disk.yields_bind_iff.mp yields
      obtain ⟨middle, held⟩ := heldIn_of_yields_storeFolder sound fresh folder
      have path : next.path = moment.store.path := middle.path
      have there : (Moment.mk next between).Sound next.path := path.symm ▸ middle
      have atNext : Disk.Yields (Moment.mk next between).store.path between
          ((recent.record document).save next >>= noted) outcome after :=
        path.symm ▸ saved
      obtain ⟨left, stored⟩ := heldIn_of_yields_save there atNext
      exact ⟨left, stored.imp_right fun lost => lost.trans held⟩

/-- Storing a list may be written, and may be refused. -/
theorem exists_yields_save (recent : RecentDocuments) (store : FileStore) (text? : Option String)
    (written : Bool) :
    ∃ outcome, Disk.Yields store.path text? (recent.save store >>= noted) outcome
      (if written then
        some (FileStore.render (store.values.insert RecentDocuments.listKey recent.stored))
      else text?) := by
  obtain ⟨fault?, -, put⟩ :=
    FileStore.exists_yields_put store RecentDocuments.listKey recent.stored text? written
  exact ⟨_, Disk.yields_bind_iff.mpr ⟨_, _, Disk.yields_bind_iff.mpr ⟨_, _, put, .done⟩,
    Disk.yields_noted_iff.mpr ⟨rfl, rfl⟩⟩⟩

/-- Storing the folder of a document may be written, and may be refused. -/
theorem exists_yields_storeFolder {store : FileStore} (sorted : store.values.Sorted)
    (document : Path) (text? : Option String) (written : Bool) :
    ∃ next after, Disk.Yields store.path text? (storeFolder store document) next after ∧
      next.path = store.path ∧ next.values.Sorted ∧ (written = false → after = text?) := by
  unfold storeFolder
  split
  · exact ⟨store, text?, .done, rfl, sorted, fun _ => rfl⟩
  · next folder _ =>
    split
    · exact ⟨store, text?, .done, rfl, sorted, fun _ => rfl⟩
    · obtain ⟨fault?, -, put⟩ :=
        FileStore.exists_yields_put store RecentDocuments.folderKey folder.text text? written
      refine ⟨⟨store.path, store.values.insert RecentDocuments.folderKey folder.text⟩, _,
        Disk.yields_bind_iff.mpr ⟨_, _, Disk.yields_bind_iff.mpr ⟨_, _, put, .done⟩,
          Disk.yields_noted_iff.mpr ⟨rfl, rfl⟩⟩,
        rfl, sorted.insert _ _, ?_⟩
      rintro rfl
      rfl

/-- Any request can be carried out with all of its writes kept, and with all of them refused. -/
theorem exists_yields_carryOut (recent : RecentDocuments) {store : FileStore}
    (sorted : store.values.Sorted) (text? : Option String) (request : RecentRequest)
    (written : Bool) :
    ∃ outcome after, Disk.Yields store.path text? (carryOut recent store request) outcome after ∧
      if written then request = .list ∨ heldIn after = some (request.apply recent).stored
      else after = text? := by
  -- What is written last is the list, with all of memory.
  have held (changed : RecentDocuments) {next : FileStore} (sorted : next.values.Sorted) :
      heldIn (some (FileStore.render
        (next.values.insert RecentDocuments.listKey changed.stored))) = some changed.stored := by
    rw [heldIn, FileStore.valuesIn_render (sorted.insert _ _), Dictionary.get?_insert_self]
  cases request with
  | list => exact ⟨_, _, .done, by cases written <;> simp⟩
  | clear =>
      obtain ⟨outcome, yields⟩ := exists_yields_save recent.clear store text? written
      refine ⟨outcome, _, yields, ?_⟩
      cases written with
      | true => exact .inr (held recent.clear sorted)
      | false => rfl
  | add document =>
      obtain ⟨next, between, folder, path, nextSorted, refused⟩ :=
        exists_yields_storeFolder sorted document text? written
      obtain ⟨outcome, yields⟩ := exists_yields_save (recent.record document) next between written
      refine ⟨outcome, _, Disk.yields_bind_iff.mpr ⟨next, between, folder, path ▸ yields⟩, ?_⟩
      cases written with
      | true => exact .inr (held (recent.record document) nextSorted)
      | false => exact refused rfl

end Writes

/-! ## Reports -/

/-- The documents that a result lists. -/
def documentsIn : Result → Option Datum
  | .ok (.object members) => Datum.member? "documents" members
  | _ => none

theorem documentsIn_recentReport (recent : RecentDocuments) (store : FileStore) :
    documentsIn (.ok (recentReport recent store)) =
      some (.array (recent.paths.map fun path => .text path.text)) :=
  rfl

/-- Two lists are shown alike when they hold the same paths. -/
theorem documentsIn_eq_iff {left right : RecentDocuments} {store other : FileStore} :
    documentsIn (.ok (recentReport left store)) = documentsIn (.ok (recentReport right other)) ↔
      left.paths = right.paths := by
  rw [documentsIn_recentReport, documentsIn_recentReport, Option.some_inj, Datum.array.injEq]
  refine (List.map_injective_iff.mpr ?_).eq_iff
  rintro ⟨first⟩ ⟨second⟩ same
  exact congrArg Path.mk (Datum.text.inj same)

/-! ## One request after another -/

/-- A request for the recent documents succeeds.  It reports the list that it leaves, and the file
then holds that list, or the one that it held before. -/
theorem yields_recent {surroundings : Surroundings} {settings : Settings} {request : RecentRequest}
    {store? : Option Path} {text? after : Option String} {result : Result}
    (yields : Disk.Yields (storePath surroundings store?) text?
      (meet surroundings settings (.recent request store?)) result after) :
    let before := recentFiled settings text?
    (∃ store, result = .ok (recentReport (request.apply before) store)) ∧
      (heldIn after = some (request.apply before).stored ∨ heldIn after = heldIn text?) ∧
      (request = .list → after = text?) := by
  intro before
  rw [meet_recent_eq] at yields
  obtain ⟨opened, between, opens, rest⟩ := Disk.yields_bind_iff.mp yields
  obtain ⟨rfl, rfl⟩ := FileStore.yields_openAt_iff.mp opens
  obtain ⟨outcome, last, carried, reported⟩ := Disk.yields_bind_iff.mp rest
  obtain ⟨rfl, rfl⟩ := Disk.yields_pure_iff.mp reported
  let moment : Moment := ⟨⟨storePath surroundings store?, valuesIn between⟩, between⟩
  have sound : moment.Sound moment.store.path := ⟨rfl, FileStore.sorted_valuesIn between⟩
  have atMoment : Disk.Yields moment.store.path moment.text? (carryOut before moment.store request)
      outcome after := carried
  obtain ⟨left, stored⟩ := heldIn_of_yields_carryOut sound rfl atMoment
  refine ⟨⟨outcome.2, by rw [← left]⟩, stored, ?_⟩
  rintro rfl
  exact (Disk.yields_pure_iff.mp carried).2

/-- Any request can be met with all of its writes kept, and with all of them refused. -/
theorem exists_yields_recent (surroundings : Surroundings) (settings : Settings)
    (request : RecentRequest) (store? : Option Path) (text? : Option String) (written : Bool) :
    let path := storePath surroundings store?
    let before := recentFiled settings text?
    ∃ result after, Disk.Yields path text? (meet surroundings settings (.recent request store?))
        result after ∧
      if written then request = .list ∨ heldIn after = some (request.apply before).stored
      else after = text? := by
  intro path before
  have sorted : (FileStore.mk path (valuesIn text?)).values.Sorted := FileStore.sorted_valuesIn text?
  obtain ⟨outcome, after, carried, kept⟩ :=
    exists_yields_carryOut before sorted text? request written
  refine ⟨.ok (recentReport outcome.1 outcome.2), after, ?_, kept⟩
  rw [meet_recent_eq]
  exact Disk.yields_bind_iff.mpr ⟨_, _, FileStore.yields_openAt_iff.mpr ⟨rfl, rfl⟩,
    Disk.yields_bind_iff.mpr ⟨outcome, after, carried, .done⟩⟩

/-- A request keeps the list well formed and its room as it is. -/
theorem wellFormed_apply {recent : RecentDocuments} (wellFormed : recent.list.WellFormed)
    (request : RecentRequest) :
    (request.apply recent).list.WellFormed ∧
      (request.apply recent).list.capacity = recent.list.capacity := by
  cases request with
  | list => exact ⟨wellFormed, rfl⟩
  | add path =>
      exact ⟨wellFormed.adds (RecencyList.adds_add recent.list path),
        RecencyList.capacity_add recent.list path⟩
  | clear => exact ⟨RecencyList.wellFormed_clear recent.list, rfl⟩

/-- The stored text of a list gives its paths again exactly when they can be stored. -/
theorem paths_ofStored_stored_iff {recent : RecentDocuments}
    (wellFormed : recent.list.WellFormed) :
    (RecentDocuments.ofStored recent.list.capacity recent.stored).paths = recent.paths ↔
      ∀ path ∈ recent.paths, path.Storable := by
  constructor
  · intro same
    rw [← same]
    exact (RecentDocuments.restorable_ofStored _ _).storable
  · intro storable
    have restorable : recent.Restorable := ⟨wellFormed, storable⟩
    rw [restorable.ofStored_stored]

/-- Where a file holds a list, or the one that another file holds, the paths read from it are those of
the list exactly when it holds the list and the paths can be stored, or when the list has the paths
read from the other file. -/
theorem paths_recentFiled_iff {settings : Settings} {text? other? : Option String}
    {recent : RecentDocuments} (wellFormed : recent.list.WellFormed)
    (room : recent.list.capacity = settings.recentCapacity)
    (stored : heldIn text? = some recent.stored ∨ heldIn text? = heldIn other?) :
    (recentFiled settings text?).paths = recent.paths ↔
      (heldIn text? = some recent.stored ∧ ∀ path ∈ recent.paths, path.Storable) ∨
        recent.paths = (recentFiled settings other?).paths := by
  have ifHeld (held : heldIn text? = some recent.stored) :
      (recentFiled settings text?).paths = recent.paths ↔
        ∀ path ∈ recent.paths, path.Storable := by
    rw [recentFiled, held, ← room]
    exact paths_ofStored_stored_iff wellFormed
  have ifLost (lost : heldIn text? = heldIn other?) :
      recentFiled settings text? = recentFiled settings other? := by
    rw [recentFiled, lost, recentFiled]
  constructor
  · intro same
    rcases stored with held | lost
    · exact .inl ⟨held, (ifHeld held).mp same⟩
    · exact .inr (ifLost lost ▸ same.symm)
  · rintro (⟨held, storable⟩ | same)
    · exact (ifHeld held).mpr storable
    · rcases stored with held | lost
      · refine (ifHeld held).mpr ?_
        rw [same]
        exact (restorable_recentFiled settings other?).storable
      · rw [ifLost lost, same]

/-- A change of the recent documents and a list of them afterwards.  The change succeeds whether its
writes are kept or refused, with exit code 0, and prints the list that it makes.  The list that is
printed afterwards is the same exactly when the file holds it and its paths can be stored, or when nothing was changed.  Writes may
all be kept, and then the file holds the list; they may all be refused, and then the file is as it
was. -/
theorem recent_listed_again (surroundings : Surroundings) (settings : Settings)
    (request : RecentRequest) (store? : Option Path) (text? : Option String) :
    let path := storePath surroundings store?
    let before := recentFiled settings text?
    let changed := request.apply before
    let changing := meet surroundings settings (.recent request store?)
    let listing := meet surroundings settings (.recent .list store?)
    (∀ result between, Disk.Yields path text? changing result between →
      Printed result ∧
        documentsIn result = some (.array (changed.paths.map fun path => .text path.text)) ∧
        ∀ shown after, Disk.Yields path between listing shown after →
          after = between ∧ Printed shown ∧
            (documentsIn shown = documentsIn result ↔
              (heldIn between = some changed.stored ∧ ∀ path ∈ changed.paths, path.Storable) ∨
                changed.paths = before.paths)) ∧
      ∀ written : Bool, ∃ result between, Disk.Yields path text? changing result between ∧
        if written then request = .list ∨ heldIn between = some changed.stored
        else between = text? := by
  intro path before changed changing listing
  obtain ⟨wellFormed, room⟩ :=
    wellFormed_apply (restorable_recentFiled settings text?).wellFormed request
  refine ⟨?changes, ?possible⟩
  case changes =>
    intro result between yields
    obtain ⟨⟨store, rfl⟩, stored, -⟩ := yields_recent yields
    refine ⟨printed_recentReport changed store, documentsIn_recentReport changed store, ?_⟩
    intro shown after lists
    obtain ⟨⟨other, rfl⟩, -, untouched⟩ := yields_recent lists
    refine ⟨untouched rfl, printed_recentReport _ other, ?_⟩
    rw [documentsIn_eq_iff]
    exact paths_recentFiled_iff wellFormed room stored
  case possible => exact exists_yields_recent surroundings settings request store? text?

/-- A document is added to a store without a file; once that is written it is listed. -/
theorem recent_listed_again_written :
    let surroundings : Surroundings := ⟨none, none, none⟩
    let adding := meet surroundings .default (.recent (.add ⟨"/x/a b.md"⟩) (some ⟨"d"⟩))
    let listing := meet surroundings .default (.recent .list (some ⟨"d"⟩))
    ∃ result between shown, Disk.Yields ⟨"d"⟩ none adding result between ∧
      Disk.Yields ⟨"d"⟩ between listing shown between ∧
      Printed result ∧ documentsIn shown = documentsIn result := by
  intro surroundings adding listing
  obtain ⟨changes, possible⟩ :=
    recent_listed_again surroundings .default (.add ⟨"/x/a b.md"⟩) (some ⟨"d"⟩) none
  obtain ⟨result, between, added, kept⟩ := possible true
  obtain ⟨shown, after, listed, untouched⟩ :=
    exists_yields_recent surroundings .default .list (some ⟨"d"⟩) between false
  obtain rfl : after = between := untouched
  obtain ⟨succeeds, -, later⟩ := changes result after added
  obtain ⟨-, -, same⟩ := later shown after listed
  refine ⟨result, after, shown, added, listed, succeeds, same.mpr (.inl ⟨?held, ?storable⟩)⟩
  case held => exact kept.resolve_left nofun
  case storable =>
    intro path member
    obtain rfl : path = ⟨"/x/a b.md"⟩ := List.mem_singleton.mp member
    exact ⟨by decide +kernel, by decide +kernel⟩

/-- Where a folder stands in place of the store, adding a document succeeds and shows it, and it is
not listed afterwards. -/
theorem recent_lost_in_folder :
    let surroundings : Surroundings := ⟨none, none, none⟩
    let tree : FileTree := ⟨[], [(["d"], .folder)]⟩
    let adding := (run surroundings
      ["recent", "add", "/x/a.md", "--store", "d", "--config", "c"]).runOn tree
    let listing := (run surroundings
      ["recent", "list", "--store", "d", "--config", "c"]).runOn adding.tree
    adding.result = .report ⟨0, "\x7b\n  \"documents\": [\n    \"/x/a.md\"\n  ],\n" ++
        "  \"lastFolder\": \"/x\"\n\x7d\n", none, none⟩ ∧
      listing.result = .report ⟨0, "\x7b\n  \"documents\": [],\n" ++
        "  \"lastFolder\": null\n\x7d\n", none, none⟩ := by
  decide +kernel

end QueryNotebook.CommandLine
