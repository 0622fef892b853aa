import QueryNotebook.Disk.FileTree
import QueryNotebook.Proofs.Disk.OneFile

/-!
# Programs run on files in memory

One program after another runs on the files that the first one leaves.  A file that was written is
read back as it was written: writing puts nothing in the way of the path that led to it, because a
folder is never overwritten.
-/

namespace QueryNotebook

namespace FileTree

variable {tree changed : FileTree} {path : Path} {place other : List String} {node : FileNode}

@[simp] theorem node?_set_self (tree : FileTree) (inside : place ≠ []) (node : FileNode) :
    (tree.set place node).node? place = some node := by
  simp [node?, set, inside]

@[simp] theorem node?_set_of_ne (tree : FileTree) (different : other ≠ place) (node : FileNode) :
    (tree.set place node).node? other = tree.node? other := by
  have skipped : ((place, node).1 == other) = false := beq_eq_false_iff_ne.mpr different.symm
  have same (entry : List String × FileNode) :
      decide ((entry.1 != place) = true ∧ (entry.1 == other) = true) = (entry.1 == other) := by
    by_cases here : entry.1 = other <;> simp [here, different]
  simp only [node?, set, List.find?_cons, skipped, List.find?_filter, same]

/-- What is set at a place that can be looked up is found there, unless it is the root. -/
theorem find_set_self {found : Option FileNode} (there : tree.find place = .ok found)
    (noFolder : tree.find place ≠ .ok (some .folder)) :
    (tree.set place node).find place = .ok (some node) := by
  have inside : place ≠ [] := by
    rintro rfl
    exact noFolder rfl
  unfold find at there ⊢
  split at there
  · contradiction
  · next short => rw [if_neg short, node?_set_self tree inside]

/-- Setting something at a place that is no folder leaves the folders. -/
theorem find_set_folder (noFolder : tree.find place ≠ .ok (some .folder))
    (folder : tree.find other = .ok (some .folder)) :
    (tree.set place node).find other = .ok (some .folder) := by
  have different : other ≠ place := by
    rintro rfl
    exact noFolder folder
  rw [find, node?_set_of_ne tree different]
  exact folder

/-- Names lead where they led when no folder is lost. -/
theorem walk_of_folders {pieces : List (List Char)} {target : Target}
    (folders : ∀ other, tree.find other = .ok (some .folder) →
      changed.find other = .ok (some .folder))
    (leads : tree.walk place pieces = .ok target) : changed.walk place pieces = .ok target := by
  -- On the way only folders are asked for, and what the last name stands for is not looked at.
  induction pieces generalizing place with
  | nil => exact leads
  | cons piece rest inductionHypothesis =>
      unfold walk at leads ⊢
      split at leads
      · next idle => rw [if_pos idle]; exact inductionHypothesis leads
      · next named =>
        rw [if_neg named]
        split at leads
        · next parent => rw [if_pos parent]; exact inductionHypothesis leads
        · next child =>
          rw [if_neg child]
          dsimp only at leads ⊢
          split at leads
          · next last => rw [if_pos last]; exact leads
          · next further =>
            rw [if_neg further]
            split at leads
            · contradiction
            · contradiction
            · contradiction
            · next folder => rw [folders _ folder]; exact inductionHypothesis leads

/-- A path leads where it led when no folder is lost. -/
theorem target_of_folders {target : Target} (leads : tree.target path = .ok target)
    (sameStart : changed.current = tree.current)
    (folders : ∀ other, tree.find other = .ok (some .folder) →
      changed.find other = .ok (some .folder)) : changed.target path = .ok target := by
  unfold FileTree.target at leads ⊢
  dsimp only at leads ⊢
  split at leads
  · contradiction
  · next given =>
    rw [if_neg given]
    split at leads
    · contradiction
    · next solid =>
      rw [if_neg solid]
      split at leads
      · contradiction
      · next short =>
        rw [if_neg short, sameStart]
        split at leads
        · exact walk_of_folders folders leads
        · exact walk_of_folders folders leads

/-- Writing to a file sets it where its path leads, in place of what is no folder. -/
theorem exists_of_writeText {contents : String}
    (written : tree.writeText path contents = .ok changed) :
    ∃ target found, tree.target path = .ok target ∧ target.asFolder = false ∧
      tree.find target.place = .ok found ∧ found ≠ some .folder ∧
      changed = tree.set target.place (.file contents.toUTF8) := by
  unfold writeText writeBytes at written
  split at written
  · contradiction
  · next target leads =>
    split at written
    · contradiction
    · next asFile =>
      split at written
      · contradiction
      · contradiction
      · next found other there =>
        exact ⟨target, found, leads, by simpa using asFile, there, other, (Except.ok.inj written).symm⟩

/-- A text comes back from its bytes. -/
theorem fromUTF8?_toUTF8 (text : String) : String.fromUTF8? text.toUTF8 = some text := by
  unfold String.fromUTF8?
  split
  · rfl
  · next invalid => exact absurd text.isValidUTF8 invalid

/-- The text of a file that holds its bytes. -/
theorem readText_of_readBytes {contents : String}
    (bytes : tree.readBytes path = .ok contents.toUTF8) : tree.readText path = .ok contents := by
  simp only [readText, bytes, fromUTF8?_toUTF8]

/-- What was written to a file is read from it. -/
theorem readText_of_writeText {contents : String}
    (written : tree.writeText path contents = .ok changed) :
    changed.readText path = .ok contents := by
  obtain ⟨target, found, leads, asFile, there, noFolder, rfl⟩ := exists_of_writeText written
  have kept : tree.find target.place ≠ .ok (some .folder) := by
    rw [there]
    exact fun same => noFolder (Except.ok.inj same)
  have again : (tree.set target.place (.file contents.toUTF8)).target path = .ok target :=
    target_of_folders leads rfl fun _ => find_set_folder kept
  have node : (tree.set target.place (.file contents.toUTF8)).find target.place =
      .ok (some (.file contents.toUTF8)) :=
    find_set_self there kept
  apply readText_of_readBytes
  simp only [readBytes, lookup, again, node, asFile]

/-- Whether a file can be written does not depend on what is written. -/
theorem exists_writeText {contents : String} (written : tree.writeText path contents = .ok changed)
    (others : String) : ∃ changed, tree.writeText path others = .ok changed := by
  obtain ⟨target, found, leads, asFile, there, noFolder, -⟩ := exists_of_writeText written
  refine ⟨tree.set target.place (.file others.toUTF8), ?_⟩
  cases found with
  | none => simp [writeText, writeBytes, leads, asFile, there]
  | some node =>
      cases node with
      | folder => contradiction
      | file => simp [writeText, writeBytes, leads, asFile, there]

end FileTree

namespace Disk

variable {α β : Type} (tree : FileTree)

/-- One program after another runs on the files that the first one leaves. -/
theorem runOn_bind (program : Disk α) (more : α → Disk β) :
    (program >>= more).runOn tree =
      let first := program.runOn tree
      let second := (more first.result).runOn first.tree
      ⟨second.result, second.tree, first.warnings ++ second.warnings⟩ := by
  change (program.bind more).runOn tree = _
  induction program generalizing tree with
  | done => rfl
  | readText path next inductionHypothesis => exact inductionHypothesis _ tree
  | writeText path contents next inductionHypothesis => exact inductionHypothesis _ _
  | makeFolder path next inductionHypothesis => exact inductionHypothesis _ _
  | isFolder path next inductionHypothesis => exact inductionHypothesis _ tree
  | isPresent path next inductionHypothesis => exact inductionHypothesis _ tree
  | warn warning next inductionHypothesis =>
      simp only [bind, runOn, inductionHypothesis]
      rfl

@[simp] theorem result_runOn_bind (program : Disk α) (more : α → Disk β) :
    ((program >>= more).runOn tree).result =
      ((more (program.runOn tree).result).runOn (program.runOn tree).tree).result := by
  rw [runOn_bind]

@[simp] theorem tree_runOn_bind (program : Disk α) (more : α → Disk β) :
    ((program >>= more).runOn tree).tree =
      ((more (program.runOn tree).result).runOn (program.runOn tree).tree).tree := by
  rw [runOn_bind]

@[simp] theorem runOn_pure (result : α) :
    (pure result : Disk α).runOn tree = ⟨result, tree, []⟩ :=
  rfl

@[simp] theorem runOn_write (path : Path) (contents : String) :
    (write path contents).runOn tree =
      ⟨(tree.settle (tree.writeText path contents)).2,
        (tree.settle (tree.writeText path contents)).1, []⟩ :=
  rfl

@[simp] theorem runOn_read (path : Path) :
    (read path).runOn tree = ⟨tree.readText path, tree, []⟩ :=
  rfl

/-! ## Programs that only read -/

/-- The program leaves the files as they are, whatever they are. -/
def OnlyReads (program : Disk α) : Prop :=
  ∀ tree, (program.runOn tree).tree = tree

theorem onlyReads_pure (result : α) : (pure result : Disk α).OnlyReads :=
  fun _ => rfl

theorem OnlyReads.bind {program : Disk α} {more : α → Disk β} (first : program.OnlyReads)
    (second : ∀ result, (more result).OnlyReads) : (program >>= more).OnlyReads := by
  intro tree
  rw [tree_runOn_bind, second, first]

theorem onlyReads_read (path : Path) : (read path).OnlyReads :=
  fun _ => rfl

theorem onlyReads_present (path : Path) : (present path).OnlyReads :=
  fun _ => rfl

theorem onlyReads_note (warning : Warning) : (note warning).OnlyReads :=
  fun _ => rfl

theorem onlyReads_noteAll (warnings : List Warning) : (noteAll warnings).OnlyReads := by
  induction warnings with
  | nil => exact onlyReads_pure ()
  | cons warning rest inductionHypothesis => exact inductionHypothesis

/-! ## Files in their folders -/

/-- A file can be written, and its folder made if need be. -/
def Writable (tree : FileTree) (path : Path) : Prop :=
  ∃ contents, ((writeInFolder path contents).runOn tree).result = .ok ()

/-- Another wording of a fault does not make it a success. -/
theorem mapError_eq_ok_iff {result : Except FileFault Unit} (wrap : FileFault → ConfigFault) :
    result.mapError wrap = .ok () ↔ result = .ok () := by
  cases result with
  | error fault => exact iff_of_false nofun nofun
  | ok => exact iff_of_true rfl rfl

/-- A file is written in its folder when the folder can be made and the file then be written. -/
theorem result_writeInFolder_iff {tree : FileTree} {path : Path} {contents : String} :
    ((writeInFolder path contents).runOn tree).result = .ok () ↔
      ((parentFolder path).runOn tree).result = .ok () ∧
        ((parentFolder path).runOn tree).tree.writeText path contents =
          .ok ((writeInFolder path contents).runOn tree).tree := by
  rw [writeInFolder_eq, result_runOn_bind, tree_runOn_bind]
  generalize (parentFolder path).runOn tree = prepared
  obtain ⟨result, before, warnings⟩ := prepared
  cases result with
  | error fault => simp
  | ok =>
      simp only [result_runOn_bind, tree_runOn_bind, runOn_pure, runOn_write]
      cases before.writeText path contents with
      | error fault => simp [FileTree.settle, mapError_eq_ok_iff]
      | ok changed => simp [FileTree.settle, mapError_eq_ok_iff]

/-- A file that was written in its folder is read as it was written. -/
theorem readText_of_writeInFolder {tree : FileTree} {path : Path} {contents : String}
    (written : ((writeInFolder path contents).runOn tree).result = .ok ()) :
    ((writeInFolder path contents).runOn tree).tree.readText path = .ok contents :=
  FileTree.readText_of_writeText (result_writeInFolder_iff.mp written).2

/-- Where something can be written, anything can. -/
theorem Writable.result_writeInFolder {tree : FileTree} {path : Path} (writable : Writable tree path)
    (contents : String) : ((writeInFolder path contents).runOn tree).result = .ok () := by
  obtain ⟨others, written⟩ := writable
  obtain ⟨folder, wrote⟩ := result_writeInFolder_iff.mp written
  obtain ⟨after, wrote⟩ := FileTree.exists_writeText wrote contents
  rw [writeInFolder_eq, result_runOn_bind, folder]
  simp [wrote, FileTree.settle, mapError_eq_ok_iff]

end Disk

end QueryNotebook
