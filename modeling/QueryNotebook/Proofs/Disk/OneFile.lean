import QueryNotebook.Disk

/-!
# Programs that use one file

What a program on files may come to when the system is free to refuse.  Only one file is looked at.
Writing it replaces its whole text or fails and leaves the text as it was; reading it gives the text
that it holds.  About folders the system may answer anything, and making them changes no text.
Nothing is said of programs that read or write another file.
-/

namespace QueryNotebook.Disk

variable {α β : Type}

/-- A program may end with a result and a text in its file, if the file held some text, or none that
can be read, when it started. -/
inductive Yields (file : Path) : Option String → Disk α → α → Option String → Prop where
  | done {text? : Option String} {result : α} : Yields file text? (.done result) result text?
  | read {text : String} {next : Except FileFault String → Disk α} {result : α}
      {after : Option String} (later : Yields file (some text) (next (.ok text)) result after) :
      Yields file (some text) (.readText file next) result after
  | unread {fault : FileFault} {next : Except FileFault String → Disk α} {result : α}
      {after : Option String} (later : Yields file none (next (.error fault)) result after) :
      Yields file none (.readText file next) result after
  | wrote {text? : Option String} {contents : String} {next : Except FileFault Unit → Disk α}
      {result : α} {after : Option String}
      (later : Yields file (some contents) (next (.ok ())) result after) :
      Yields file text? (.writeText file contents next) result after
  | refused {text? : Option String} {contents : String} {fault : FileFault}
      {next : Except FileFault Unit → Disk α} {result : α} {after : Option String}
      (later : Yields file text? (next (.error fault)) result after) :
      Yields file text? (.writeText file contents next) result after
  | made {text? : Option String} {folder : Path} (answer : Except FileFault Unit)
      {next : Except FileFault Unit → Disk α} {result : α} {after : Option String}
      (later : Yields file text? (next answer) result after) :
      Yields file text? (.makeFolder folder next) result after
  | checkedFolder {text? : Option String} {folder : Path} (answer : Bool) {next : Bool → Disk α}
      {result : α} {after : Option String}
      (later : Yields file text? (next answer) result after) :
      Yields file text? (.isFolder folder next) result after
  | checked {text? : Option String} {path : Path} (answer : Bool) {next : Bool → Disk α}
      {result : α} {after : Option String}
      (later : Yields file text? (next answer) result after) :
      Yields file text? (.isPresent path next) result after
  | warned {text? : Option String} {warning : Warning} {next : Disk α} {result : α}
      {after : Option String} (later : Yields file text? next result after) :
      Yields file text? (.warn warning next) result after

variable {file : Path} {text? after : Option String}

/-- A program that is over comes to its result. -/
theorem yields_pure_iff {result other : α} :
    Yields file text? (pure other) result after ↔ result = other ∧ after = text? := by
  constructor
  · intro yields
    cases yields
    exact ⟨rfl, rfl⟩
  · rintro ⟨rfl, rfl⟩
    exact .done

/-- One program after another comes to what the second comes to from where the first one ends. -/
theorem yields_bind_iff {program : Disk α} {more : α → Disk β} {result : β} :
    Yields file text? (program >>= more) result after ↔
      ∃ middle between, Yields file text? program middle between ∧
        Yields file between (more middle) result after := by
  constructor
  · intro yields
    change Yields file text? (program.bind more) result after at yields
    induction program generalizing text? with
    | done middle => exact ⟨middle, text?, .done, yields⟩
    | readText path next inductionHypothesis =>
        cases yields with
        | read later =>
            obtain ⟨middle, between, first, second⟩ := inductionHypothesis _ later
            exact ⟨middle, between, .read first, second⟩
        | unread later =>
            obtain ⟨middle, between, first, second⟩ := inductionHypothesis _ later
            exact ⟨middle, between, .unread first, second⟩
    | writeText path contents next inductionHypothesis =>
        cases yields with
        | wrote later =>
            obtain ⟨middle, between, first, second⟩ := inductionHypothesis _ later
            exact ⟨middle, between, .wrote first, second⟩
        | refused later =>
            obtain ⟨middle, between, first, second⟩ := inductionHypothesis _ later
            exact ⟨middle, between, .refused first, second⟩
    | makeFolder path next inductionHypothesis =>
        cases yields with
        | made answer later =>
            obtain ⟨middle, between, first, second⟩ := inductionHypothesis _ later
            exact ⟨middle, between, .made answer first, second⟩
    | isFolder path next inductionHypothesis =>
        cases yields with
        | checkedFolder answer later =>
            obtain ⟨middle, between, first, second⟩ := inductionHypothesis _ later
            exact ⟨middle, between, .checkedFolder answer first, second⟩
    | isPresent path next inductionHypothesis =>
        cases yields with
        | checked answer later =>
            obtain ⟨middle, between, first, second⟩ := inductionHypothesis _ later
            exact ⟨middle, between, .checked answer first, second⟩
    | warn warning next inductionHypothesis =>
        cases yields with
        | warned later =>
            obtain ⟨middle, between, first, second⟩ := inductionHypothesis later
            exact ⟨middle, between, .warned first, second⟩
  · rintro ⟨middle, between, first, second⟩
    change Yields file text? (program.bind more) result after
    induction first with
    | done => exact second
    | read _ inductionHypothesis => exact .read (inductionHypothesis second)
    | unread _ inductionHypothesis => exact .unread (inductionHypothesis second)
    | wrote _ inductionHypothesis => exact .wrote (inductionHypothesis second)
    | refused _ inductionHypothesis => exact .refused (inductionHypothesis second)
    | made answer _ inductionHypothesis => exact .made answer (inductionHypothesis second)
    | checkedFolder answer _ inductionHypothesis =>
        exact .checkedFolder answer (inductionHypothesis second)
    | checked answer _ inductionHypothesis => exact .checked answer (inductionHypothesis second)
    | warned _ inductionHypothesis => exact .warned (inductionHypothesis second)

/-! ## Requests -/

theorem yields_read_iff {result : Except FileFault String} :
    Yields file text? (read file) result after ↔
      after = text? ∧ ((∃ text, text? = some text ∧ result = .ok text) ∨
        text? = none ∧ ∃ fault, result = .error fault) := by
  constructor
  · intro yields
    cases yields with
    | read later =>
        cases later
        exact ⟨rfl, .inl ⟨_, rfl, rfl⟩⟩
    | unread later =>
        cases later
        exact ⟨rfl, .inr ⟨rfl, _, rfl⟩⟩
  · rintro ⟨rfl, ⟨text, rfl, rfl⟩ | ⟨rfl, fault, rfl⟩⟩
    · exact .read .done
    · exact .unread .done

/-- Writing replaces the text, or fails and leaves it. -/
theorem yields_write_iff {contents : String} {result : Except FileFault Unit} :
    Yields file text? (write file contents) result after ↔
      (result = .ok () ∧ after = some contents) ∨
        (∃ fault, result = .error fault) ∧ after = text? := by
  constructor
  · intro yields
    cases yields with
    | wrote later =>
        cases later
        exact .inl ⟨rfl, rfl⟩
    | refused later =>
        cases later
        exact .inr ⟨⟨_, rfl⟩, rfl⟩
  · rintro (⟨rfl, rfl⟩ | ⟨⟨fault, rfl⟩, rfl⟩)
    · exact .wrote .done
    · exact .refused .done

/-- Warnings change no text. -/
theorem yields_noteAll_iff {warnings : List Warning} :
    Yields file text? (noteAll warnings) () after ↔ after = text? := by
  induction warnings with
  | nil => exact yields_pure_iff.trans (and_iff_right rfl)
  | cons warning rest inductionHypothesis =>
      rw [← inductionHypothesis]
      constructor
      · intro yields
        cases yields with
        | warned later => exact later
      · exact .warned

/-- A result that is given after warnings. -/
theorem yields_noted_iff {warnings : List Warning} {result other : α} :
    Yields file text? (do noteAll warnings; pure other) result after ↔
      result = other ∧ after = text? := by
  constructor
  · intro yields
    obtain ⟨_, between, warned, ended⟩ := yields_bind_iff.mp yields
    obtain rfl := yields_noteAll_iff.mp warned
    exact yields_pure_iff.mp ended
  · rintro ⟨rfl, rfl⟩
    exact yields_bind_iff.mpr ⟨(), _, yields_noteAll_iff.mpr rfl, .done⟩

theorem Yields.text_addFolder {path : Path} {result : Except FileFault Unit}
    (yields : Yields file text? (addFolder path) result after) : after = text? := by
  cases yields with
  | made answer later => exact (yields_pure_iff.mp later).2

theorem Yields.text_orPresent {path : Path} {made result : Except FileFault Unit}
    (yields : Yields file text? (orPresent path made) result after) : after = text? := by
  cases made with
  | ok => exact (yields_pure_iff.mp yields).2
  | error fault =>
      cases yields with
      | checkedFolder answer later =>
          cases answer <;> exact (yields_pure_iff.mp later).2

/-- Making folders changes no text. -/
theorem Yields.text_addFoldersWithin {fuel : Nat} {path : Path} {result : Except FileFault Unit}
    (yields : Yields file text? (addFoldersWithin fuel path) result after) : after = text? := by
  induction fuel generalizing path text? result after with
  | zero => exact (yields_pure_iff.mp yields).2
  | succ fuel inductionHypothesis =>
      rw [addFoldersWithin] at yields
      split at yields
      · exact (yields_pure_iff.mp yields).2
      · obtain ⟨made, between, first, second⟩ := yields_bind_iff.mp yields
        obtain rfl := first.text_addFolder
        split at second
        · split at second
          · exact (yields_pure_iff.mp second).2
          · obtain ⟨parent, between, third, fourth⟩ := yields_bind_iff.mp second
            obtain rfl := inductionHypothesis third
            split at fourth
            · exact (yields_pure_iff.mp fourth).2
            · obtain ⟨again, between, fifth, sixth⟩ := yields_bind_iff.mp fourth
              obtain rfl := fifth.text_addFolder
              exact sixth.text_orPresent
        · exact second.text_orPresent

/-- Folders may be made. -/
theorem yields_addFolders (folder : Path) : Yields file text? (addFolders folder) (.ok ()) text? := by
  rw [addFolders, addFoldersWithin]
  split
  · exact .done
  · exact yields_bind_iff.mpr ⟨.ok (), text?, .made (.ok ()) .done, .done⟩

/-- What is done about the folder that a file is written in. -/
def parentFolder (path : Path) : Disk (Except ConfigFault Unit) :=
  match path.parent? with
  | none => pure (.ok ())
  | some parent => do
      let made ← addFolders parent
      pure (made.mapError (ConfigFault.file parent))

/-- Writing in a folder is making the folder and then writing. -/
theorem writeInFolder_eq (path : Path) (contents : String) :
    writeInFolder path contents = (do
      match ← parentFolder path with
      | .error fault => pure (.error fault)
      | .ok () => do
          let written ← write path contents
          pure (written.mapError (ConfigFault.file path))) := by
  unfold writeInFolder parentFolder
  cases path.parent? with
  | none => rfl
  | some parent => exact (bind_assoc _ _ _).symm

/-- Making the folder of a file changes no text. -/
theorem Yields.text_parentFolder {path : Path} {result : Except ConfigFault Unit}
    (yields : Yields file text? (parentFolder path) result after) : after = text? := by
  rw [parentFolder] at yields
  split at yields
  · exact (yields_pure_iff.mp yields).2
  · obtain ⟨made, between, first, second⟩ := yields_bind_iff.mp yields
    exact (yields_pure_iff.mp second).2.trans first.text_addFoldersWithin

/-- The folder of a file may be made. -/
theorem yields_parentFolder (path : Path) :
    Yields file text? (parentFolder path) (.ok ()) text? := by
  rw [parentFolder]
  split
  · exact .done
  · exact yields_bind_iff.mpr ⟨.ok (), text?, yields_addFolders _, .done⟩

/-- Writing in a folder replaces the text, or fails and leaves it. -/
theorem Yields.text_writeInFolder {contents : String} {result : Except ConfigFault Unit}
    (yields : Yields file text? (writeInFolder file contents) result after) :
    (result = .ok () ∧ after = some contents) ∨
      ((∃ fault, result = .error fault) ∧ after = text?) := by
  rw [writeInFolder_eq] at yields
  obtain ⟨folder, between, first, second⟩ := yields_bind_iff.mp yields
  obtain rfl := first.text_parentFolder
  split at second
  · obtain ⟨rfl, rfl⟩ := yields_pure_iff.mp second
    exact .inr ⟨⟨_, rfl⟩, rfl⟩
  · obtain ⟨written, _, third, fourth⟩ := yields_bind_iff.mp second
    obtain ⟨rfl, rfl⟩ := yields_pure_iff.mp fourth
    rcases yields_write_iff.mp third with ⟨rfl, rfl⟩ | ⟨⟨fault, rfl⟩, rfl⟩
    · exact .inl ⟨rfl, rfl⟩
    · exact .inr ⟨⟨_, rfl⟩, rfl⟩

/-- Writing in a folder goes as writing does when the folder can be made. -/
theorem yields_writeInFolder {contents : String} {written : Except FileFault Unit}
    (yields : Yields file text? (write file contents) written after) :
    Yields file text? (writeInFolder file contents)
      (written.mapError (ConfigFault.file file)) after := by
  rw [writeInFolder_eq]
  exact yields_bind_iff.mpr ⟨.ok (), text?, yields_parentFolder file,
    yields_bind_iff.mpr ⟨_, _, yields, .done⟩⟩

end QueryNotebook.Disk
