import QueryNotebook.Warning

/-!
# Programs on files

A program that reads and writes files is a tree of requests, each with what to do next for every
answer.  The tree says nothing about where the files are: `Disk.FileTree` answers from a tree in
memory, and the command line answers from the system.  A warning is a request too, so that its place
among the others is kept.
-/

namespace QueryNotebook

/-- A program on files with a result. -/
inductive Disk (α : Type) where
  /-- The program is over. -/
  | done (result : α)
  /-- The text of a file. -/
  | readText (path : Path) (next : Except FileFault String → Disk α)
  /-- A file with the given text and no other, made if there is none. -/
  | writeText (path : Path) (contents : String) (next : Except FileFault Unit → Disk α)
  /-- A folder that does not exist yet, made in one that does. -/
  | makeFolder (path : Path) (next : Except FileFault Unit → Disk α)
  /-- Whether a folder has this name. -/
  | isFolder (path : Path) (next : Bool → Disk α)
  /-- Whether a file or folder has this name. -/
  | isPresent (path : Path) (next : Bool → Disk α)
  /-- A warning. -/
  | warn (warning : Warning) (next : Disk α)

namespace Disk

variable {α β γ : Type}

/-- One program after another. -/
def bind : Disk α → (α → Disk β) → Disk β
  | .done result, more => more result
  | .readText path next, more => .readText path fun answer => (next answer).bind more
  | .writeText path contents next, more =>
      .writeText path contents fun answer => (next answer).bind more
  | .makeFolder path next, more => .makeFolder path fun answer => (next answer).bind more
  | .isFolder path next, more => .isFolder path fun answer => (next answer).bind more
  | .isPresent path next, more => .isPresent path fun answer => (next answer).bind more
  | .warn warning next, more => .warn warning (next.bind more)

instance : Monad Disk where
  pure := .done
  bind := bind

/-- The text of a file. -/
def read (path : Path) : Disk (Except FileFault String) :=
  .readText path .done

/-- A file with the given text and no other. -/
def write (path : Path) (contents : String) : Disk (Except FileFault Unit) :=
  .writeText path contents .done

/-- A folder that does not exist yet, made in one that does. -/
def addFolder (path : Path) : Disk (Except FileFault Unit) :=
  .makeFolder path .done

/-- Whether a folder has this name. -/
def folderPresent (path : Path) : Disk Bool :=
  .isFolder path .done

/-- Whether a file or folder has this name. -/
def present (path : Path) : Disk Bool :=
  .isPresent path .done

/-- A warning. -/
def note (warning : Warning) : Disk Unit :=
  .warn warning (.done ())

/-- Several warnings. -/
def noteAll : List Warning → Disk Unit
  | [] => .done ()
  | warning :: rest => .warn warning (noteAll rest)

/-- What comes of making a folder; one that is there already will do. -/
def orPresent (path : Path) : Except FileFault Unit → Disk (Except FileFault Unit)
  | .ok () => pure (.ok ())
  | .error fault => do
      if ← folderPresent path then pure (.ok ()) else pure (.error fault)

/-- A folder and the folders that it needs.  The first argument bounds their number. -/
def addFoldersWithin : Nat → Path → Disk (Except FileFault Unit)
  | 0, _ => pure (.error .missing)
  | fuel + 1, path => do
      if path.text = "" then pure (.ok ())
      else
        match ← addFolder path with
        | .error .missing =>
            match path.parent? with
            | none => pure (.error .noRoot)
            | some parent =>
                match ← addFoldersWithin fuel parent with
                | .error fault => pure (.error fault)
                | .ok () => do
                    let made ← addFolder path
                    orPresent path made
        | made => orPresent path made

/-- A folder, made with the folders that it needs if it is not there.  Folders that could be made
stay when a later one cannot. -/
def addFolders (path : Path) : Disk (Except FileFault Unit) :=
  addFoldersWithin (path.text.length + 1) path

/-- A file with the given text in a folder that is made when there is none. -/
def writeInFolder (path : Path) (contents : String) : Disk (Except ConfigFault Unit) := do
  let folder : Except ConfigFault Unit ←
    match path.parent? with
    | none => pure (.ok ())
    | some parent => do
        let made ← addFolders parent
        pure (made.mapError (ConfigFault.file parent))
  match folder with
  | .error fault => pure (.error fault)
  | .ok () => do
      let written ← write path contents
      pure (written.mapError (ConfigFault.file path))

@[simp] theorem bind_done (result : α) (more : α → Disk β) : (Disk.done result).bind more = more result :=
  rfl

/-- A program that only ends with the result of another is the other. -/
theorem bind_done_right (program : Disk α) : program.bind .done = program := by
  induction program with
  | done => rfl
  | readText _ _ inductionHypothesis => simp [bind, inductionHypothesis]
  | writeText _ _ _ inductionHypothesis => simp [bind, inductionHypothesis]
  | makeFolder _ _ inductionHypothesis => simp [bind, inductionHypothesis]
  | isFolder _ _ inductionHypothesis => simp [bind, inductionHypothesis]
  | isPresent _ _ inductionHypothesis => simp [bind, inductionHypothesis]
  | warn _ _ inductionHypothesis => simp [bind, inductionHypothesis]

/-- Grouping programs does not matter. -/
theorem bind_assoc (program : Disk α) (first : α → Disk β) (second : β → Disk γ) :
    (program.bind first).bind second = program.bind fun result => (first result).bind second := by
  induction program with
  | done => rfl
  | readText _ _ inductionHypothesis => simp [bind, inductionHypothesis]
  | writeText _ _ _ inductionHypothesis => simp [bind, inductionHypothesis]
  | makeFolder _ _ inductionHypothesis => simp [bind, inductionHypothesis]
  | isFolder _ _ inductionHypothesis => simp [bind, inductionHypothesis]
  | isPresent _ _ inductionHypothesis => simp [bind, inductionHypothesis]
  | warn _ _ inductionHypothesis => simp [bind, inductionHypothesis]

end Disk

end QueryNotebook
