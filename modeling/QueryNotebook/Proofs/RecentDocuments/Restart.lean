import QueryNotebook.Proofs.RecencyList.History
import QueryNotebook.Proofs.RecentDocuments.Encoding
import QueryNotebook.Proofs.Store

/-!
# Restarting with the recent documents

A program that starts again reads the recent documents from its store.  Nobody can tell: at every
moment the list in memory is the one that the store would give.  The text in the store need not be
one that the program wrote; as long as nothing is stored, the list is what the text was read as, and
after that the text is what the list was written as.
-/

namespace QueryNotebook.RecentDocuments

/-! ## Lists that can be restored -/

/-- A list that its stored text gives back. -/
structure Restorable (recent : RecentDocuments) : Prop where
  wellFormed : recent.list.WellFormed
  storable : ∀ path ∈ recent.paths, path.Storable

/-- The stored text gives the list back. -/
theorem Restorable.ofStored_stored {recent : RecentDocuments} (restorable : recent.Restorable) :
    ofStored recent.list.capacity recent.stored = recent := by
  rw [ofStored, stored, decodePaths_encodePaths_of_storable restorable.storable]
  exact congrArg RecentDocuments.mk restorable.wellFormed.ofList_entries

/-- Whatever text is stored, the list that it gives can be restored. -/
theorem restorable_ofStored (capacity : Nat) (stored : String) :
    (ofStored capacity stored).Restorable where
  wellFormed := RecencyList.wellFormed_ofList capacity (decodePaths stored)
  storable path member := by
    rcases RecencyList.mem_keepFirst member with early | read
    · contradiction
    · exact storable_of_mem_decodePaths read

theorem Restorable.record {recent : RecentDocuments} (restorable : recent.Restorable) {path : Path}
    (storable : path.Storable) : (recent.record path).Restorable where
  wellFormed := restorable.wellFormed.adds (RecencyList.adds_add recent.list path)
  storable other member := by
    rcases (RecencyList.adds_add recent.list path).mem member with rfl | before
    · exact storable
    · exact restorable.storable other before

theorem Restorable.remove {recent : RecentDocuments} (restorable : recent.Restorable)
    (path : Path) : (recent.remove path).1.Restorable where
  wellFormed := restorable.wellFormed.remove path
  storable other member := restorable.storable other (List.mem_of_mem_filter member)

theorem restorable_clear (recent : RecentDocuments) : recent.clear.Restorable where
  wellFormed := RecencyList.wellFormed_clear recent.list
  storable path member := by contradiction

/-! ## Uses of the list -/

variable {σ : Type} {m : Type → Type} [Store σ m]

/-- The list in memory after the program was perhaps started again. -/
def resume (recent : RecentDocuments) (restarted : Bool) (store : σ) (capacity : Nat) :
    RecentDocuments :=
  if restarted then ofStore store capacity else recent

/-- A list that was read from the store is not changed by reading it again. -/
@[simp] theorem resume_ofStore (restarted : Bool) (store : σ) (capacity : Nat) :
    (ofStore store capacity).resume restarted store capacity = ofStore store capacity := by
  cases restarted <;> rfl

variable [Monad m]

/-- A use of the list: what it leaves, and for a removal whether the list held the document. -/
def useIn (recent : RecentDocuments) (use : RecencyUse Path) (store : σ) :
    m (RecentChange σ × Option Bool) :=
  match use with
  | .added path => do
      let change ← recent.recordIn path store
      pure (change, none)
  | .removed path => do
      let (change, held) ← recent.removeIn path store
      pure (change, some held)
  | .cleared => do
      let change ← recent.clearIn store
      pure (change, none)

/-- What the user sees of one use: the paths before it, and whether a removal found its document. -/
structure Sight where
  paths : List Path
  held? : Option Bool

/-- What the user sees of several uses, and the paths at the end.  The program is started again
before the use of a number where it says so. -/
def watch (capacity : Nat) (restarted : Nat → Bool) (recent : RecentDocuments) (store : σ) :
    List (RecencyUse Path) → m (List Sight)
  | [] => pure [⟨(recent.resume (restarted 0) store capacity).paths, none⟩]
  | use :: later => do
      let current := recent.resume (restarted 0) store capacity
      let (change, held?) ← current.useIn use store
      let sights ← watch capacity (fun number => restarted (number + 1)) change.recent change.store
        later
      pure (⟨current.paths, held?⟩ :: sights)

variable [LawfulMonad m] [Store.Remembers σ]

/-- What follows the storing of a list may rely on the store to give it back. -/
theorem Restorable.bind_save_congr {α : Type} {recent : RecentDocuments}
    (restorable : recent.Restorable) {store : σ} {next other : RecentChange σ → m α}
    (agree : ∀ change, change.recent = ofStore change.store recent.list.capacity →
      next change = other change) :
    recent.save store >>= next = recent.save store >>= other := by
  simp only [save, bind_assoc, pure_bind]
  refine Store.bind_put_congr fun outcome there => agree _ ?_
  rw [ofStore, Store.getD, there, Option.getD_some, restorable.ofStored_stored]

/-- What follows a use of a list that was read from the store may rely on the store to give the list
again. -/
theorem bind_useIn_ofStore_congr {α : Type} {capacity : Nat} {store : σ} {use : RecencyUse Path}
    (storable : ∀ path, use = .added path → path.Storable)
    {next other : RecentChange σ × Option Bool → m α}
    (agree : ∀ change held?, change.recent = ofStore change.store capacity →
      next (change, held?) = other (change, held?)) :
    (ofStore store capacity).useIn use store >>= next =
      (ofStore store capacity).useIn use store >>= other := by
  have restorable : (ofStore store capacity).Restorable := restorable_ofStored capacity _
  have room : (ofStore store capacity).list.capacity = capacity := rfl
  cases use with
  | added path =>
      have recorded := restorable.record (storable path rfl)
      simp only [useIn, recordIn, bind_assoc, pure_bind]
      refine recorded.bind_save_congr fun change same => agree change none ?_
      rwa [record, RecencyList.capacity_add, room] at same
  | removed path =>
      have remaining := restorable.remove path
      have sameRoom : ((ofStore store capacity).remove path).1.list.capacity = capacity := rfl
      simp only [useIn, removeIn, bind_assoc]
      generalize (ofStore store capacity).remove path = removal at remaining sameRoom
      obtain ⟨recent, held⟩ := removal
      cases held with
      | true =>
          simp only [bind_assoc, pure_bind]
          refine remaining.bind_save_congr fun change same => agree change (some true) ?_
          rwa [sameRoom] at same
      | false =>
          simp only [pure_bind]
          exact agree _ _ rfl
  | cleared =>
      simp only [useIn, clearIn, bind_assoc, pure_bind]
      exact (restorable_clear _).bind_save_congr fun change same => agree change none same

/-- Restarts go unseen: whatever text the store held when the program was first started, and
whenever it is started again, the user sees the same paths and hears the same of every removal as
if it had been started only once. -/
theorem watch_restarted (capacity : Nat) (restarted : Nat → Bool) (store : σ)
    (uses : List (RecencyUse Path)) (storable : ∀ path, .added path ∈ uses → path.Storable) :
    watch capacity restarted (ofStore store capacity) store uses =
      watch capacity (fun _ => false) (ofStore store capacity) store uses := by
  induction uses generalizing restarted store with
  | nil => simp only [watch, resume_ofStore]
  | cons use later inductionHypothesis =>
      have storableLater : ∀ path, .added path ∈ later → path.Storable := fun path member =>
        storable path (List.mem_cons_of_mem use member)
      simp only [watch, resume_ofStore]
      apply bind_useIn_ofStore_congr
      · rintro path rfl
        exact storable path (List.mem_cons_self ..)
      · intro change held? same
        dsimp only
        rw [same, inductionHypothesis _ change.store storableLater]

/-- A garbled text with a repetition and too many paths is read once or four times, from memory or
from a file: the removals find the same. -/
theorem watch_restarted_garbled :
    let store : MemoryStore := ⟨⟨[(listKey, " ;a.md;./a.md;;a.md/.; b.md")]⟩⟩
    let file : FileStore := ⟨⟨"prefs.json"⟩, store.values⟩
    let uses : List (RecencyUse Path) := [.removed ⟨"x"⟩, .added ⟨"c.md"⟩, .removed ⟨"a.md/"⟩]
    (∀ path, .added path ∈ uses → path.Storable) ∧
      watch 2 (fun _ => true) (ofStore file 2) file uses =
        watch 2 (fun _ => false) (ofStore file 2) file uses ∧
      (watch 2 (fun _ => true) (ofStore store 2) store uses).map
          (fun sight => (sight.paths.map Path.text, sight.held?)) =
        [(["a.md", "./a.md"], some false), (["a.md", "./a.md"], none),
          (["c.md", "a.md"], some true), (["c.md"], none)] := by
  intro store file uses
  have storable : ∀ path, .added path ∈ uses → path.Storable := by
    intro path member
    obtain rfl : path = ⟨"c.md"⟩ := by simpa [uses] using member
    exact ⟨by decide +kernel, by decide +kernel⟩
  refine ⟨storable, watch_restarted 2 _ file uses storable, ?_⟩
  rw [watch_restarted 2 _ store uses storable]
  decide +kernel

end QueryNotebook.RecentDocuments
