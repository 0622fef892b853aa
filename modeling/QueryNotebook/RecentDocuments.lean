import QueryNotebook.RecencyList
import QueryNotebook.Store
import QueryNotebook.Text.Blank
import QueryNotebook.Warning

/-!
# Recent documents

The documents that were opened last, most recent first, and the folder that was used last.  The list
is kept in a store as one text, its paths separated by semicolons, and stored again after every
change.  A store that refuses costs a warning; the list itself does not notice.
-/

namespace QueryNotebook

/-- The character between two stored paths. -/
def recentSeparator : Char := ';'

/-- The paths of a stored list.  Blank pieces do not count; the others are kept as they are, since a
path may begin or end with blanks. -/
def decodePaths (stored : String) : List Path :=
  ((stored.toList.splitOn recentSeparator).filter fun piece => !Text.allBlank piece).map
    fun piece => ⟨String.ofList piece⟩

/-- The text that stores a list of paths. -/
def encodePaths (paths : List Path) : String :=
  String.ofList (Text.join recentSeparator (paths.map fun path => path.text.toList))

/-- The list of recent documents. -/
structure RecentDocuments where
  list : RecencyList Path

/-- What a change of the list leaves: the list, the store and the warnings. -/
structure RecentChange (σ : Type) where
  recent : RecentDocuments
  store : σ
  warnings : List Warning

namespace RecentDocuments

/-- The name of the list in a store. -/
def listKey : String := "recent.documents"

/-- The name of the last folder in a store. -/
def folderKey : String := "recent.lastFolder"

/-- The list without documents. -/
def empty (capacity : Nat) : RecentDocuments := ⟨.empty capacity⟩

/-- The list without documents, of the usual capacity. -/
def default : RecentDocuments := empty RecencyList.defaultCapacity

/-- The paths, most recent first. -/
def paths (recent : RecentDocuments) : List Path := recent.list.entries

/-- No document is remembered. -/
def isEmpty (recent : RecentDocuments) : Bool := recent.list.isEmpty

/-- The list that a stored text gives. -/
def ofStored (capacity : Nat) (stored : String) : RecentDocuments :=
  ⟨.ofList capacity (decodePaths stored)⟩

/-- The list with a document as the most recent one. -/
def record (recent : RecentDocuments) (path : Path) : RecentDocuments :=
  ⟨(recent.list.add path).1⟩

/-- The list without a document, and whether it held the document. -/
def remove (recent : RecentDocuments) (path : Path) : RecentDocuments × Bool :=
  let removed := recent.list.remove path
  (⟨removed.1⟩, removed.2)

/-- The list without any document. -/
def clear (recent : RecentDocuments) : RecentDocuments :=
  ⟨recent.list.clear⟩

/-- The text that stores the list. -/
def stored (recent : RecentDocuments) : String :=
  encodePaths recent.paths

variable {σ : Type} {m : Type → Type} [Store σ m]

/-- The list that a store holds. -/
def ofStore (store : σ) (capacity : Nat) : RecentDocuments :=
  ofStored capacity (Store.getD store listKey "")

/-- The list stored as it is. -/
def save [Monad m] (recent : RecentDocuments) (store : σ) : m (RecentChange σ) := do
  let outcome ← Store.put store listKey recent.stored
  pure ⟨recent, outcome.store, (outcome.fault?.map Warning.recentNotStored).toList⟩

/-- A document is opened: it becomes the most recent one, and the list is stored. -/
def recordIn [Monad m] (recent : RecentDocuments) (path : Path) (store : σ) : m (RecentChange σ) :=
  (recent.record path).save store

/-- A document is forgotten.  The list is stored only if it held the document. -/
def removeIn [Monad m] (recent : RecentDocuments) (path : Path) (store : σ) :
    m (RecentChange σ × Bool) := do
  match recent.remove path with
  | (remaining, true) => do
      let change ← remaining.save store
      pure (change, true)
  | (_, false) => pure (⟨recent, store, []⟩, false)

/-- Every document is forgotten, and the empty list is stored. -/
def clearIn [Monad m] (recent : RecentDocuments) (store : σ) : m (RecentChange σ) :=
  recent.clear.save store

end RecentDocuments

/-! ## The last folder -/

section LastFolder

variable {σ : Type} {m : Type → Type} [Store σ m]

/-- The folder that was used last.  A blank text is no folder, and blanks around a folder do not
count. -/
def usedFolder? (store : σ) : Option Path :=
  match Text.trim (Store.getD store RecentDocuments.folderKey "").toList with
  | [] => none
  | folder => some ⟨String.ofList folder⟩

/-- A folder is used: the store, and the warnings. -/
def keepUsedFolder [Monad m] (store : σ) (folder : Path) : m (σ × List Warning) := do
  let outcome ← Store.put store RecentDocuments.folderKey folder.text
  pure (outcome.store, (outcome.fault?.map Warning.folderNotStored).toList)

end LastFolder

end QueryNotebook
