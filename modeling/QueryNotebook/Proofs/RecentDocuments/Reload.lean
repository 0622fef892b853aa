import Mathlib.Data.List.Pairwise
import QueryNotebook.Proofs.Disk.FileTree
import QueryNotebook.Proofs.RecentDocuments.Restart
import QueryNotebook.Proofs.Store.Durability

/-!
# Recent documents read from a file again

A list that is stored in a file that can be written is the list that the file gives when it is opened
the next time.  So opening a document of the list shows there: the document comes to the front, and
the others keep their order.
-/

namespace QueryNotebook

namespace RecencyList

variable {α : Type} [BEq α] [EquivBEq α]

/-- Among entries that differ, equal ones are the same. -/
theorem Distinct.eq_of_beq {entries : List α} (distinct : Distinct entries) {left right : α}
    (leftIn : left ∈ entries) (rightIn : right ∈ entries) (equal : (left == right) = true) :
    left = right := by
  by_contra different
  have symmetric : Std.Symm fun first second : α => (first == second) = false :=
    ⟨fun first second differs => by rwa [BEq.comm]⟩
  have differs := List.Pairwise.forall distinct leftIn rightIn different
  rw [equal] at differs
  contradiction

/-- Adding an entry that is there brings it to the front of the others. -/
theorem WellFormed.entries_add_of_mem {list : RecencyList α} (wellFormed : list.WellFormed)
    {entry : α} (member : entry ∈ list.entries) :
    (list.add entry).1.entries = entry :: others entry list.entries := by
  have adds := adds_add list entry
  obtain ⟨front, equal, together, entries⟩ := wellFormed.exists_front adds
  have contained : list.entries.elem entry = true := by
    by_contra missing
    have absent := contains_eq_false_iff.mp (Bool.eq_false_iff.mpr missing) entry member
    rw [BEq.rfl] at absent
    contradiction
  have known : list.entries.insert entry = list.entries := by rw [List.insert, if_pos contained]
  have perm := adds.perm
  rw [known, together] at perm
  obtain rfl : front = entry :=
    wellFormed.distinct.eq_of_beq (perm.mem_iff.mp (List.mem_cons_self ..)) member equal
  -- No entry is new, so the list is as long as before and nothing is cut off.
  rw [entries, List.take_of_length_le (perm.length_eq ▸ wellFormed.bounded)]

end RecencyList

namespace FileStore

/-- Opening a file in memory takes over what it holds. -/
theorem result_openAt (path : Path) (tree : FileTree) :
    ((openAt path).runOn tree).result = ⟨path, valuesIn (tree.readText path).toOption⟩ := by
  rw [openAt, Disk.result_runOn_bind, Disk.runOn_read]
  cases tree.readText path with
  | error fault => rfl
  | ok contents =>
      have given : (Except.ok contents : Except FileFault String).toOption = some contents := rfl
      cases read : parse contents with
      | error fault =>
          simp only [valuesIn, given, read]
          rfl
      | ok values =>
          simp only [valuesIn, given, read]
          rfl

theorem onlyReads_openAt (path : Path) : (openAt path).OnlyReads := by
  refine (Disk.onlyReads_read path).bind fun answer => ?_
  cases answer with
  | error fault => exact Disk.onlyReads_pure _
  | ok contents =>
      dsimp only
      split
      · exact Disk.onlyReads_pure _
      · exact (Disk.onlyReads_note _).bind fun _ => Disk.onlyReads_pure _

/-- A store that was opened can be written and read. -/
theorem sorted_openAt (path : Path) (tree : FileTree) :
    ((openAt path).runOn tree).result.values.Sorted := by
  rw [result_openAt]
  exact sorted_valuesIn _

/-- A file that holds what a store wrote gives the store. -/
theorem result_openAt_of_held {path : Path} {tree : FileTree} {values : Dictionary String}
    (sorted : values.Sorted) (held : tree.readText path = .ok (render values)) :
    ((openAt path).runOn tree).result = ⟨path, values⟩ := by
  rw [result_openAt, held]
  exact congrArg (FileStore.mk path) (valuesIn_render sorted)

/-- A text that is put in a file that can be written is there when the file is opened again. -/
theorem result_openAt_put {store : FileStore} (sorted : store.values.Sorted) {tree : FileTree}
    (writable : Disk.Writable tree store.path) (name text : String) :
    ((openAt store.path).runOn ((Store.put store name text).runOn tree).tree).result =
      ⟨store.path, store.values.insert name text⟩ := by
  have written := writable.result_writeInFolder (render (store.values.insert name text))
  have held := Disk.readText_of_writeInFolder written
  have tree : ((Store.put store name text).runOn tree).tree =
      ((Disk.writeInFolder store.path (render (store.values.insert name text))).runOn tree).tree := by
    rw [Store.put, instStoreDisk]
    dsimp only
    rw [Disk.tree_runOn_bind, written]
    rfl
  exact result_openAt_of_held (sorted.insert name text) (tree ▸ held)

end FileStore

namespace RecentDocuments

/-- A list that is stored in a file that can be written is read from it. -/
theorem Restorable.ofStore_save {recent : RecentDocuments} (restorable : recent.Restorable)
    {store : FileStore} (sorted : store.values.Sorted) {tree : FileTree}
    (writable : Disk.Writable tree store.path) :
    ofStore ((FileStore.openAt store.path).runOn ((recent.save store).runOn tree).tree).result
        recent.list.capacity = recent := by
  have tree : ((recent.save store).runOn tree).tree =
      ((Store.put store listKey recent.stored).runOn tree).tree := by
    rw [save, Disk.tree_runOn_bind]
    rfl
  rw [tree, FileStore.result_openAt_put sorted writable]
  have found : Store.getD (FileStore.mk store.path (store.values.insert listKey recent.stored))
      listKey "" = recent.stored := by
    simp [Store.getD, Store.get?]
  rw [ofStore, found, restorable.ofStored_stored]

/-- Opening a document of the list brings it to the front of the others. -/
theorem Restorable.paths_record {recent : RecentDocuments} (restorable : recent.Restorable)
    {path : Path} (member : path ∈ recent.paths) :
    (recent.record path).paths = path :: recent.paths.filter fun other => !(other == path) :=
  restorable.wellFormed.entries_add_of_mem member

end RecentDocuments

end QueryNotebook
