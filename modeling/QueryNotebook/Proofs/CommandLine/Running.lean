import QueryNotebook.Proofs.CommandLine.Arguments
import QueryNotebook.Proofs.CommandLine.Entries
import QueryNotebook.Proofs.CommandLine.Reports
import QueryNotebook.Proofs.RecentDocuments.Reload

/-!
# Listing commands and running one

The program lists its commands, or with one more option runs the first of them.  Both read the same
files, so they agree on what the first entry is.  Running it is reported by its title, and changes
the stored list of recent documents the way the entry says, or not at all.
-/

namespace QueryNotebook

/-! ## Loading -/

/-- A file is looked for before it is read. -/
theorem Disk.OnlyReads.ifPresent {α : Type} {program : Disk α} (reads : program.OnlyReads)
    (path : Path) (default : α) :
    (do if ← Disk.present path then program else pure default).OnlyReads := by
  refine (Disk.onlyReads_present path).bind fun there => ?_
  cases there with
  | false => exact Disk.onlyReads_pure _
  | true => exact reads

/-- Without the file there is the default. -/
theorem Disk.result_ifPresent {α : Type} {tree : FileTree} {path : Path}
    (absent : tree.isPresent path = false) (program : Disk α) (default : α) :
    ((do if ← Disk.present path then program else pure default).runOn tree).result = default := by
  have answer : ((Disk.present path).runOn tree).result = false := absent
  rw [Disk.result_runOn_bind, answer]
  rfl

theorem onlyReads_readConfig (path : Path) : (readConfig path).OnlyReads :=
  (Disk.onlyReads_read path).bind fun _ => Disk.onlyReads_pure _

theorem Messages.onlyReads_read (path : Path) : (Messages.read path).OnlyReads := by
  refine (onlyReads_readConfig path).bind fun answer => ?_
  cases answer with
  | error fault => exact Disk.onlyReads_pure _
  | ok contents =>
      dsimp only
      split
      · exact Disk.onlyReads_pure _
      · exact (Disk.onlyReads_noteAll _).bind fun _ => Disk.onlyReads_pure _

theorem Messages.onlyReads_readOrEnglish (path : Path) : (readOrEnglish path).OnlyReads := by
  refine Disk.OnlyReads.ifPresent ((onlyReads_read path).bind fun answer => ?_) path english
  cases answer with
  | ok messages => exact Disk.onlyReads_pure _
  | error fault => exact (Disk.onlyReads_note _).bind fun _ => Disk.onlyReads_pure _

/-- Without a file the messages are the English ones. -/
theorem Messages.result_readOrEnglish {tree : FileTree} {path : Path}
    (absent : tree.isPresent path = false) :
    ((readOrEnglish path).runOn tree).result = .english :=
  Disk.result_ifPresent absent _ _

theorem SnippetLibrary.onlyReads_read (path : Path) : (SnippetLibrary.read path).OnlyReads := by
  refine (onlyReads_readConfig path).bind fun answer => ?_
  cases answer <;> exact Disk.onlyReads_pure _

theorem SnippetLibrary.onlyReads_readOrStandard (path : Path) : (readOrStandard path).OnlyReads := by
  refine Disk.OnlyReads.ifPresent ((onlyReads_read path).bind fun answer => ?_) path standard
  cases answer with
  | ok library => exact Disk.onlyReads_pure _
  | error fault => exact (Disk.onlyReads_note _).bind fun _ => Disk.onlyReads_pure _

/-- Without a file the library is the one that is offered. -/
theorem SnippetLibrary.result_readOrStandard {tree : FileTree} {path : Path}
    (absent : tree.isPresent path = false) :
    ((readOrStandard path).runOn tree).result = .standard :=
  Disk.result_ifPresent absent _ _

namespace CommandLine

variable (surroundings : Surroundings) (settings : Settings) (snippets? store? : Option Path)

theorem onlyReads_openLibrary : (openLibrary surroundings settings snippets?).OnlyReads := by
  cases snippets? with
  | some path => exact SnippetLibrary.onlyReads_read path
  | none =>
      exact (SnippetLibrary.onlyReads_readOrStandard _).bind fun _ => Disk.onlyReads_pure _

/-- The file of the store. -/
def storePath : Path :=
  store?.getD (FileStore.defaultPath surroundings)

/-- The store that the program finds among some files. -/
def storeIn (files : FileTree) : FileStore :=
  ((openStore surroundings store?).runOn files).result

/-- The recent documents that the program finds among some files. -/
def recentIn (files : FileTree) : RecentDocuments :=
  .ofStore (storeIn surroundings store? files) settings.recentCapacity

/-- What the program makes its palette from among some files, once the library is loaded. -/
def setupIn (library : SnippetLibrary) (files : FileTree) : PaletteSetup where
  messages := ((Messages.readOrEnglish (Messages.defaultPath surroundings)).runOn files).result
  settings := settings
  library := library
  recent := recentIn surroundings settings store? files

variable {surroundings settings snippets? store?} {query? : Option String}
  {library : SnippetLibrary} {files : FileTree}

theorem path_storeIn : (storeIn surroundings store? files).path = storePath surroundings store? := by
  rw [storeIn, openStore, FileStore.result_openAt]
  rfl

/-! ## What follows loading -/

/-- What the program does with a palette. -/
def finish (setup : PaletteSetup) (palette : Palette) (store : FileStore) (run : Bool) :
    Disk Result :=
  if !run then pure (.ok (listReport setup.platform palette))
  else
    match runHighlighted palette with
    | none =>
        pure (.error (.ofArguments "no command matches"
          "run without --run to see available commands"))
    | some (command, effects) => do
        let _ ← settle setup.recent store effects
        pure (.ok (runReport command effects))

/-- Once everything is loaded the files are as they were, and the rest is up to the palette. -/
theorem runOn_commands (query? : Option String) (store? : Option Path) (run : Bool)
    (loads : ((openLibrary surroundings settings snippets?).runOn files).result = .ok library) :
    let setup := setupIn surroundings settings store? library files
    let rest := (finish setup (setup.palette query?).1 (storeIn surroundings store? files) run).runOn
      files
    ((commands surroundings settings query? snippets? store? run).runOn files).result = rest.result ∧
      ((commands surroundings settings query? snippets? store? run).runOn files).tree = rest.tree := by
  intro setup rest
  have messages := Messages.onlyReads_readOrEnglish (Messages.defaultPath surroundings) files
  have store : ((openStore surroundings store?).runOn files).tree = files :=
    FileStore.onlyReads_openAt _ files
  have loaded := onlyReads_openLibrary surroundings settings snippets? files
  have notes (warnings : List Warning) : ((Disk.noteAll warnings).runOn files).tree = files :=
    Disk.onlyReads_noteAll warnings files
  rw [commands]
  simp only [Disk.result_runOn_bind, Disk.tree_runOn_bind, messages, store, loaded, loads, notes]
  exact ⟨rfl, rfl⟩

/-! ## The recent documents afterwards -/

/-- The paths of the recent documents once an entry was run: the document that was opened comes to
the front of the others, clearing leaves none, and the other entries leave all. -/
def Entry.recentAfter (paths : List Path) : Entry → List Path
  | .openRecent path => path :: paths.filter fun other => !(other == path)
  | .clearRecent => []
  | .showCommands => paths
  | .insertSnippet _ => paths

/-- The document that an entry opens is one of the recent documents. -/
theorem mem_paths_of_listed {setup : PaletteSetup} {path : Path}
    (listed : .openRecent path ∈ setup.listed query?) : path ∈ setup.recent.paths := by
  have offered : Entry.openRecent path ∈ setup.entries :=
    (List.mem_filter.mp (List.mem_of_mem_take listed)).1
  unfold PaletteSetup.entries at offered
  cases nothing : setup.recent.isEmpty <;> simpa [nothing] using offered

/-- Noting a change of the list leaves the files as the change does. -/
theorem tree_runOn_noted (change : Disk (RecentChange FileStore)) :
    ((do
      let change ← change
      noted change).runOn files).tree = (change.runOn files).tree := by
  rw [Disk.tree_runOn_bind]
  exact (Disk.onlyReads_noteAll _).bind (fun _ => Disk.onlyReads_pure _) _

/-- A list that is stored where it can be written is found by the next run of the program. -/
theorem recentIn_save {recent : RecentDocuments} (restorable : recent.Restorable)
    (room : recent.list.capacity = settings.recentCapacity)
    (writable : Disk.Writable files (storePath surroundings store?)) :
    recentIn surroundings settings store?
        ((recent.save (storeIn surroundings store? files)).runOn files).tree = recent := by
  have path : (storeIn surroundings store? files).path = storePath surroundings store? :=
    path_storeIn
  have sorted : (storeIn surroundings store? files).values.Sorted := FileStore.sorted_openAt _ files
  rw [← path] at writable
  have found := restorable.ofStore_save sorted writable
  rw [path, room] at found
  exact found

/-- An entry that neither opens nor clears anything leaves the files alone. -/
theorem tree_settle_of_unchanged (recent : RecentDocuments) (store : FileStore) {entry : Entry}
    (opensNot : entry.effects.opened? = none) (clearsNot : entry.effects.clears = false) :
    ((settle recent store entry.effects).runOn files).tree = files := by
  rw [settle, opensNot, clearsNot]
  rfl

theorem tree_settle_openRecent (recent : RecentDocuments) (store : FileStore) (path : Path) :
    ((settle recent store (Entry.openRecent path).effects).runOn files).tree =
      (((recent.record path).save store).runOn files).tree := by
  have program : settle recent store (Entry.openRecent path).effects =
      ((do
        let change ← (recent.record path).save store
        noted change) >>= fun outcome => pure (outcome.1, outcome.2)) := by
    exact (bind_assoc _ _ _).symm
  rw [program, Disk.tree_runOn_bind, ← tree_runOn_noted]
  rfl

theorem tree_settle_clearRecent (recent : RecentDocuments) (store : FileStore) :
    ((settle recent store Entry.clearRecent.effects).runOn files).tree =
      ((recent.clear.save store).runOn files).tree :=
  tree_runOn_noted _

/-- The next run of the program finds the list that the entry says. -/
theorem paths_recentIn_settle {recent : RecentDocuments} {entry : Entry}
    (found : recentIn surroundings settings store? files = recent)
    (writable : Disk.Writable files (storePath surroundings store?))
    (remembered : ∀ path, entry = .openRecent path → path ∈ recent.paths) :
    (recentIn surroundings settings store?
        ((settle recent (storeIn surroundings store? files) entry.effects).runOn files).tree).paths =
      entry.recentAfter recent.paths := by
  have restorable : recent.Restorable := found ▸ RecentDocuments.restorable_ofStored _ _
  have room : recent.list.capacity = settings.recentCapacity := by
    rw [← found]
    rfl
  cases entry with
  | showCommands => rw [tree_settle_of_unchanged recent _ rfl rfl, found]; rfl
  | insertSnippet snippet => rw [tree_settle_of_unchanged recent _ rfl rfl, found]; rfl
  | clearRecent =>
      have cleared : recent.clear.list.capacity = settings.recentCapacity := room
      rw [tree_settle_clearRecent,
        recentIn_save (RecentDocuments.restorable_clear recent) cleared writable]
      rfl
  | openRecent path =>
      have member : path ∈ recent.paths := remembered path rfl
      have recorded : (recent.record path).Restorable :=
        restorable.record (restorable.storable path member)
      have recordedRoom : (recent.record path).list.capacity = settings.recentCapacity := by
        rw [RecentDocuments.record, RecencyList.capacity_add, room]
      rw [tree_settle_openRecent, recentIn_save recorded recordedRoom writable,
        restorable.paths_record member]
      rfl

/-! ## Listing and running -/

/-- What is reported of the entries that are listed. -/
def listDatum (setup : PaletteSetup) (query? : Option String) : Datum :=
  .array ((setup.listed query?).map fun entry =>
    let command := setup.offer entry
    .object
      [ ("detail", .text (command.shown setup.platform)),
        ("icon", .ofText? (command.icon?.map Icon.key)),
        ("keystroke", .ofText? (command.keystroke?.map Keystroke.display)),
        ("title", .text command.title) ])

/-- What is reported of an entry that was run. -/
def ranDatum (setup : PaletteSetup) (entry : Entry) : Datum :=
  .object
    [ ("inserted", .ofText? entry.effects.inserted?),
      ("opened", .ofText? (entry.effects.opened?.map Path.text)),
      ("ran", .text (setup.offer entry).title) ]

theorem ordered_listDatum (setup : PaletteSetup) (query? : Option String) :
    Json.Ordered (listDatum setup query?) :=
  .array (List.forall_mem_map.mpr fun entry _ =>
    ordered_commandDatum setup.platform (setup.offer entry))

theorem ordered_ranDatum (setup : PaletteSetup) (entry : Entry) :
    Json.Ordered (ranDatum setup entry) :=
  ordered_runReport (setup.offer entry) entry.effects

/-- A request for the commands comes to what the palette gives among the files that loading the
settings leaves. -/
theorem runOn_run (tree : FileTree) {arguments : List String} {verbose : Bool}
    {file? : Option Path} {runs : Bool}
    (understood : parseArguments surroundings.settingsFile arguments =
      .ok ⟨verbose, file?, .commands query? snippets? store? runs⟩)
    (settled : ((loadSettings surroundings file?).runOn tree).result = settings)
    (left : ((loadSettings surroundings file?).runOn tree).tree = files)
    (loads : ((openLibrary surroundings settings snippets?).runOn files).result = .ok library) :
    let setup := setupIn surroundings settings store? library files
    let rest := (finish setup (setup.palette query?).1 (storeIn surroundings store? files) runs).runOn
      files
    ((run surroundings arguments).runOn tree).result = .report (.ofResult rest.result) ∧
      ((run surroundings arguments).runOn tree).tree = rest.tree := by
  intro setup rest
  obtain ⟨result, after⟩ := runOn_commands query? store? runs loads
  rw [run, understood]
  simp only [Disk.result_runOn_bind, Disk.tree_runOn_bind, settled, left, meet, result, after]
  exact ⟨rfl, rfl⟩

section Finishing

variable (files) (setup : PaletteSetup) (query? : Option String) (store : FileStore)

/-- Without the option the entries are listed, and no file is touched. -/
theorem runOn_finish_list :
    ((finish setup (setup.palette query?).1 store false).runOn files).result =
        .ok (listDatum setup query?) ∧
      ((finish setup (setup.palette query?).1 store false).runOn files).tree = files :=
  ⟨congrArg Except.ok (setup.listReport_palette query?), rfl⟩

/-- With the option the first entry is run, and what it did is settled. -/
theorem runOn_finish_run {entry : Entry} (first : (setup.listed query?).head? = some entry) :
    ((finish setup (setup.palette query?).1 store true).runOn files).result =
        .ok (ranDatum setup entry) ∧
      ((finish setup (setup.palette query?).1 store true).runOn files).tree =
        ((settle setup.recent store entry.effects).runOn files).tree := by
  have highlighted := setup.runHighlighted_palette query?
  rw [first] at highlighted
  obtain ⟨command, settled, title⟩ := highlighted
  have report : runReport command entry.effects = ranDatum setup entry := by
    rw [runReport, title, ranDatum]
  simp only [finish, Bool.not_true, Bool.false_eq_true, if_false, settled, Disk.result_runOn_bind,
    Disk.tree_runOn_bind, report, Disk.runOn_pure, and_self]

/-- With the option and nothing listed the request fails, and no file is touched. -/
theorem runOn_finish_nothing (nothing : (setup.listed query?).head? = none) :
    ((finish setup (setup.palette query?).1 store true).runOn files).result =
        .error (.ofArguments "no command matches" "run without --run to see available commands") ∧
      ((finish setup (setup.palette query?).1 store true).runOn files).tree = files := by
  have highlighted := setup.runHighlighted_palette query?
  rw [nothing] at highlighted
  simp only [finish, Bool.not_true, Bool.false_eq_true, if_false, highlighted, Disk.runOn_pure,
    and_self]

end Finishing

/-- Listing the commands and running the first of them agree, whatever the files hold, as long as
the library loads.  The list gives the entries that answer the query.  When there is none, running
fails as a misuse of the arguments, with exit code 2, and only then; it leaves the files as the list
does.  Otherwise it reports the first entry by its title, with the text that it inserted and the path
that it opened.  What is reported is printed, and reads back as it was reported.  If the store can be
written, the recent documents are found again as the entry says. -/
theorem run_performs_first_listed (surroundings : Surroundings) (tree : FileTree)
    {arguments : List String} {verbose : Bool} {file? : Option Path} {query? : Option String}
    {snippets? store? : Option Path} {library : SnippetLibrary}
    (understood : parseArguments surroundings.settingsFile arguments =
      .ok ⟨verbose, file?, .commands query? snippets? store? false⟩)
    (solid : "--" ∉ arguments)
    (loads : ((openLibrary surroundings ((loadSettings surroundings file?).runOn tree).result
      snippets?).runOn ((loadSettings surroundings file?).runOn tree).tree).result = .ok library) :
    let settings := ((loadSettings surroundings file?).runOn tree).result
    let files := ((loadSettings surroundings file?).runOn tree).tree
    let setup := setupIn surroundings settings store? library files
    let listing := (run surroundings arguments).runOn tree
    let running := (run surroundings (arguments ++ ["--run"])).runOn tree
    listing.result.Prints (listDatum setup query?) ∧ listing.tree = files ∧
      (∃ report, running.result = .report report ∧
        (report.code = 2 ↔ setup.listed query? = [])) ∧
      (setup.listed query? = [] →
        running.result = .report ⟨2, "", some "no command matches",
          some "run without --run to see available commands"⟩ ∧ running.tree = files) ∧
      ∀ entry others, setup.listed query? = entry :: others →
        running.result.Prints (ranDatum setup entry) ∧
          (Disk.Writable files (storePath surroundings store?) →
            (recentIn surroundings settings store? running.tree).paths =
              entry.recentAfter setup.recent.paths) := by
  intro settings files setup listing running
  let store := storeIn surroundings store? files
  -- Both runs load the same from the same files, and part only in what is done with the palette.
  obtain ⟨listed, listedTree⟩ := runOn_run tree understood rfl rfl loads
  obtain ⟨ran, ranTree⟩ := runOn_run tree (parseArguments_run understood solid) rfl rfl loads
  obtain ⟨shown, shownTree⟩ := runOn_finish_list files setup query? store
  rw [shown] at listed
  rw [shownTree] at listedTree
  have printed : listing.result.Prints (listDatum setup query?) :=
    listed ▸ prints_ofResult (ordered_listDatum setup query?)
  refine ⟨printed, listedTree, ?_⟩
  cases entries : setup.listed query? with
  | nil =>
      obtain ⟨fails, failsTree⟩ :=
        runOn_finish_nothing files setup query? store (by rw [entries]; rfl)
      rw [fails] at ran
      rw [failsTree] at ranTree
      exact ⟨⟨_, ran, by decide⟩, fun _ => ⟨ran, ranTree⟩, by simp⟩
  | cons entry others =>
      obtain ⟨runs, runsTree⟩ :=
        runOn_finish_run files setup query? store (by rw [entries]; rfl)
      rw [runs] at ran
      rw [runsTree] at ranTree
      have succeeds : codeSuccess ≠ 2 := by decide
      refine ⟨⟨_, ran, iff_of_false succeeds (List.cons_ne_nil _ _)⟩, by simp, ?_⟩
      intro first rest same
      obtain ⟨rfl, rfl⟩ := List.cons.inj same
      refine ⟨ran ▸ prints_ofResult (ordered_ranDatum setup entry), fun writable => ?_⟩
      rw [ranTree]
      refine paths_recentIn_settle rfl writable fun path opens => ?_
      have member : entry ∈ setup.listed query? := by
        rw [entries]
        exact List.mem_cons_self ..
      exact mem_paths_of_listed (opens ▸ member)

/-- Of two recent documents the second is found by its name and opened, and then comes first. -/
theorem run_performs_first_listed_recent :
    let surroundings : Surroundings := ⟨none, none, none⟩
    let stored := FileStore.render ⟨[(RecentDocuments.listKey, "a.md;b.md")]⟩
    let tree : FileTree := ⟨[], [(["p"], .file stored.toUTF8)]⟩
    let arguments := ["commands", "--config", "c", "--query", "b.md", "--store", "p"]
    let running := (run surroundings (arguments ++ ["--run"])).runOn tree
    running.result = .report ⟨0, "\x7b\n  \"inserted\": null,\n  \"opened\": \"b.md\",\n" ++
        "  \"ran\": \"Open Recent: b.md\"\n\x7d\n", none, none⟩ ∧
      (recentIn surroundings .default (some ⟨"p"⟩) running.tree).paths.map Path.text = ["b.md", "a.md"] := by
  intro surroundings stored tree arguments running
  have understood : parseArguments none arguments =
      .ok ⟨false, some ⟨"c"⟩, .commands (some "b.md") none (some ⟨"p"⟩) false⟩ := rfl
  have libraryPath : Settings.default.libraryPath surroundings = ⟨"./querypad/snippets.toml"⟩ :=
    congrArg Path.mk (by decide +kernel :
      (Settings.default.libraryPath surroundings).text = "./querypad/snippets.toml")
  have messagesPath : Messages.defaultPath surroundings = ⟨"./querypad/strings.toml"⟩ :=
    congrArg Path.mk (by decide +kernel :
      (Messages.defaultPath surroundings).text = "./querypad/strings.toml")
  -- Neither file is there, so the library and the messages are those that are built in.
  have loads : ((openLibrary surroundings .default none).runOn tree).result = .ok .standard := by
    rw [openLibrary, Disk.result_runOn_bind, libraryPath, SnippetLibrary.result_readOrStandard rfl]
    rfl
  have messages : ((Messages.readOrEnglish (Messages.defaultPath surroundings)).runOn tree).result =
      .english := by
    rw [messagesPath, Messages.result_readOrEnglish rfl]
  have found : recentIn surroundings .default (some ⟨"p"⟩) tree = ⟨⟨[⟨"a.md"⟩, ⟨"b.md"⟩], 9⟩⟩ := by
    have held : tree.readText ⟨"p"⟩ = .ok stored := FileTree.readText_of_readBytes rfl
    have store : storeIn surroundings (some ⟨"p"⟩) tree =
        ⟨⟨"p"⟩, ⟨[(RecentDocuments.listKey, "a.md;b.md")]⟩⟩ :=
      FileStore.result_openAt_of_held (List.pairwise_singleton _ _) held
    rw [recentIn, store]
    rfl
  let setup : PaletteSetup :=
    ⟨.english, .default, .standard, ⟨⟨[⟨"a.md"⟩, ⟨"b.md"⟩], 9⟩⟩⟩
  have same : setupIn surroundings .default (some ⟨"p"⟩) .standard tree = setup := by
    rw [setupIn, found, messages]
  have listed : setup.listed (some "b.md") = [.openRecent ⟨"b.md"⟩] := by
    have opened : ((setup.listed (some "b.md")).map fun entry =>
        entry.effects.opened?.map Path.text) = [some "b.md"] := by
      decide +kernel
    obtain ⟨entry, listed, opens⟩ := List.map_eq_singleton_iff.mp opened
    cases entry with
    | openRecent path =>
        obtain ⟨text⟩ := path
        obtain rfl : text = "b.md" := by simpa [Entry.effects] using opens
        exact listed
    | _ => simp [Entry.effects] at opens
  have writable : Disk.Writable tree ⟨"p"⟩ := ⟨"", rfl⟩
  obtain ⟨-, -, -, -, first⟩ :=
    run_performs_first_listed surroundings tree understood (by decide) loads
  obtain ⟨ran, reloaded⟩ := first (.openRecent ⟨"b.md"⟩) [] (same ▸ listed)
  have title : (setup.offer (.openRecent ⟨"b.md"⟩)).title = "Open Recent: b.md" := by
    decide +kernel
  have report : ranDatum setup (.openRecent ⟨"b.md"⟩) = .object
      [("inserted", .null), ("opened", .text "b.md"), ("ran", .text "Open Recent: b.md")] := by
    rw [ranDatum, title]
    rfl
  have paths : (Entry.recentAfter setup.recent.paths (.openRecent ⟨"b.md"⟩)).map Path.text =
      ["b.md", "a.md"] := by
    decide +kernel
  have printed : Json.indentedString (ranDatum setup (.openRecent ⟨"b.md"⟩)) ++ "\n" =
      "\x7b\n  \"inserted\": null,\n  \"opened\": \"b.md\",\n" ++
        "  \"ran\": \"Open Recent: b.md\"\n\x7d\n" := by
    rw [report]
    decide +kernel
  exact ⟨printed ▸ same ▸ ran.1, paths ▸ same ▸ congrArg (List.map Path.text) (reloaded writable)⟩

end CommandLine

end QueryNotebook
