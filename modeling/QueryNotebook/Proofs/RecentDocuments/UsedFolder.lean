import QueryNotebook.Proofs.Path
import QueryNotebook.Proofs.Store
import QueryNotebook.Proofs.Text.Piece
import QueryNotebook.RecentDocuments

/-!
# The last folder read again

The folder that was used last is stored as it is spelled, and read without the blanks around its
spelling.  So it comes back exactly when there are none; any other folder comes back as another one,
even where folders count as equal in different spellings.  Only the name of the folder is touched in
the store.
-/

namespace QueryNotebook

/-- The path without the blanks around its spelling, if it is more than blanks. -/
def Path.trimmed? (path : Path) : Option Path :=
  match Text.trim path.text.toList with
  | [] => none
  | solid => some ⟨String.ofList solid⟩

namespace Path

/-- Nothing is left of a blank path. -/
theorem trimmed?_eq_none_iff {path : Path} :
    path.trimmed? = none ↔ Text.allBlank path.text.toList = true := by
  rw [← Text.trim_eq_nil_iff, trimmed?]
  split <;> simp_all

/-- What is left of a path is spelled in the trimmed text. -/
theorem toList_of_trimmed? {path solid : Path} (left : path.trimmed? = some solid) :
    solid.text.toList = Text.trim path.text.toList := by
  unfold trimmed? at left
  split at left
  · contradiction
  · obtain rfl := Option.some.inj left
    exact String.toList_ofList

/-- Trimming gives another path as soon as it changes the spelling. -/
theorem trim_eq_self_of_beq {path solid : Path} (left : path.trimmed? = some solid)
    (equal : (solid == path) = true) : Text.trim path.text.toList = path.text.toList := by
  have noSeparator : Text.isBlank '/' = false := by decide
  have noDot : Text.isBlank '.' = false := by decide
  have count := countP_eq_of_beq equal noSeparator noDot
  rw [toList_of_trimmed? left] at count
  exact Text.trim_eq_self_of_countP count

/-- Trimming gives the path itself if there is nothing to trim. -/
theorem eq_of_trim_eq_self {path solid : Path} (left : path.trimmed? = some solid)
    (bare : Text.trim path.text.toList = path.text.toList) : solid = path := by
  have spelled : solid.text.toList = path.text.toList := (toList_of_trimmed? left).trans bare
  exact congrArg Path.mk (String.toList_injective spelled)

end Path

section Stores

variable {σ : Type} {m : Type → Type} [Store σ m]

/-- The folder that is read is what is left of the stored text. -/
theorem usedFolder?_of_get? {store : σ} {folder : Path}
    (there : Store.get? store RecentDocuments.folderKey = some folder.text) :
    usedFolder? store = folder.trimmed? := by
  rw [usedFolder?, Store.getD, there, Option.getD_some]
  rfl

variable [Monad m] [LawfulMonad m] [Store.Separates σ]

/-- What keeping a folder comes to in a store whose names stand apart.  A put that succeeds costs no
warning, the folder is read without the blanks around its spelling, and nothing changes under other
names.  What is read is the folder, in the same spelling or in any other, exactly when there are no
such blanks; from a blank folder nothing is read. -/
theorem used_folder_read (store : σ) (folder : Path) :
    (do
      let kept ← keepUsedFolder store folder
      pure (kept.2, usedFolder? kept.1, Store.get? kept.1)) =
    (do
      let outcome ← Store.put store RecentDocuments.folderKey folder.text
      match outcome.fault? with
      | none =>
          pure ([], folder.trimmed?, Function.update (Store.get? store) RecentDocuments.folderKey
            (some folder.text))
      | some fault =>
          pure ([.folderNotStored fault], usedFolder? outcome.store, Store.get? outcome.store)) ∧
    (folder.trimmed? = none ↔ Text.allBlank folder.text.toList = true) ∧
    ∀ read, folder.trimmed? = some read →
      (read = folder ↔ Text.trim folder.text.toList = folder.text.toList) ∧
      ((read == folder) = true ↔ Text.trim folder.text.toList = folder.text.toList) := by
  refine ⟨?kept, Path.trimmed?_eq_none_iff, fun read left => ⟨⟨?_, ?_⟩, ⟨?_, ?_⟩⟩⟩
  case kept =>
    simp only [keepUsedFolder, bind_assoc, pure_bind]
    refine bind_congr_of_seen (Store.Separates.get?_put store _ _) fun outcome separate => ?_
    rw [Stored.expected] at separate
    cases failed : outcome.fault? with
    | some fault => rfl
    | none =>
        rw [failed, Option.isNone_none, if_pos rfl] at separate
        have there : Store.get? outcome.store RecentDocuments.folderKey = some folder.text := by
          rw [separate, Function.update_self]
        rw [usedFolder?_of_get? there, separate]
        rfl
  · rintro rfl
    exact Path.trim_eq_self_of_beq left BEq.rfl
  · exact Path.eq_of_trim_eq_self left
  · exact Path.trim_eq_self_of_beq left
  · intro bare
    rw [Path.eq_of_trim_eq_self left bare]
    exact BEq.rfl

end Stores

/-- Blanks inside a folder's spelling come back, and the recent documents stay as they are. -/
theorem used_folder_read_inside :
    let folder : Path := ⟨"/ notes\u3000/ ./a"⟩
    let store : MemoryStore := ⟨⟨[(RecentDocuments.listKey, "a.md")]⟩⟩
    let kept := keepUsedFolder store folder
    kept.2.length = 0 ∧ usedFolder? kept.1 = some folder ∧
      Store.get? kept.1 RecentDocuments.listKey = some "a.md" := by
  intro folder store kept
  obtain ⟨same, blank, spelled⟩ := used_folder_read store folder
  have bare : Text.trim folder.text.toList = folder.text.toList := by decide +kernel
  have solid : Text.allBlank folder.text.toList = false := by decide +kernel
  have left : folder.trimmed? = some folder := by
    cases read : folder.trimmed? with
    | none => exact absurd (blank.mp read) (by simp [solid])
    | some other => rw [(spelled other read).1.mpr bare]
  rw [left] at same
  have all : (kept.2, usedFolder? kept.1, Store.get? kept.1) = ([], some folder,
      Function.update (Store.get? store) RecentDocuments.folderKey (some folder.text)) := same
  rw [Prod.mk.injEq, Prod.mk.injEq] at all
  obtain ⟨warnings, read, names⟩ := all
  exact ⟨congrArg List.length warnings, read, by rw [names, Function.update_of_ne (by decide)]; rfl⟩

/-- A folder whose name ends in a blank is read as another folder. -/
theorem used_folder_loses_blank :
    let folder : Path := ⟨"/notes "⟩
    let kept := keepUsedFolder MemoryStore.empty folder
    Text.allBlank folder.text.toList = false ∧ kept.2.length = 0 ∧
      (usedFolder? kept.1).map Path.text = some "/notes" ∧
      (usedFolder? kept.1 == some folder) = false := by
  decide +kernel

end QueryNotebook
