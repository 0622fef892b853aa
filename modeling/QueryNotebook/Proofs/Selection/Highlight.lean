import Mathlib.Data.UInt
import QueryNotebook.Selection

/-!
# Where the highlight stands

A highlight stands on one of the items, or there are none.  New items bring that about whatever was
there before, and moving the highlight keeps it: a distance is cut off at either end of the items.
-/

namespace QueryNotebook.Selection

variable {α : Type}

/-- The highlight stands on an item exactly when there are items. -/
def Placed (selection : Selection α) : Prop :=
  match selection.cursor with
  | .active index => index < selection.items.length
  | .empty => selection.items = []
  | .dismissed => selection.items = []

/-- Whether a selection is placed is a matter of its items and its cursor. -/
theorem placed_notify_iff {selection : Selection α} : selection.notify.Placed ↔ selection.Placed :=
  Iff.rfl

/-- New items are placed: the first of them is highlighted. -/
theorem placed_withItems [BEq α] (selection : Selection α) (items : List α) :
    (selection.withItems items).Placed := by
  have renewed : Placed
      { selection with
        items := items
        cursor := if items.isEmpty then Cursor.empty else .active 0 } := by
    cases items with
    | nil => rfl
    | cons item others => exact Nat.succ_pos _
  unfold withItems
  dsimp only
  split
  · exact placed_notify_iff.mpr renewed
  · exact renewed

/-- A highlight that is moved to a place stands there. -/
theorem cursor_place {selection : Selection α} {current : Nat}
    (active : selection.cursor = .active current) (target : Nat) :
    (selection.place current target).cursor = .active target := by
  unfold place
  split
  · next same => rw [active, same]
  · rfl

/-- A place at a distance is not behind the last one, unless one started there. -/
theorem toNat_placeAt_le (index : UInt64) (distance : Int64) (last : UInt64) :
    (placeAt index distance last).toNat ≤ max index.toNat last.toNat := by
  unfold placeAt
  split
  · rw [Word.toNat_subtract]
    omega
  · rw [UInt64.toNat_min]
    omega

/-- A place at a distance is the one that integers without bounds give, cut off at either end. -/
theorem toNat_placeAt {index last : UInt64} (inside : index.toNat ≤ last.toNat)
    (distance : Int64) :
    ((placeAt index distance last).toNat : Int) =
      max 0 (min (index.toNat + distance.toInt) last.toNat) := by
  unfold placeAt
  split
  · next back =>
    have negative : distance.toInt < 0 := Int64.lt_iff_toInt_lt.mp back
    rw [Word.toNat_subtract, Word.toNat_magnitude]
    omega
  · next ahead =>
    -- A sum that is cut off at the greatest word is behind the last place anyway.
    have small := last.toNat_lt
    have bound : Nat.pow 2 64 = 2 ^ 64 := rfl
    have size := Word.toNat_toUInt64 ahead
    rw [UInt64.toNat_min, Word.toNat_add]
    omega

/-- A highlight moves by a distance as far as there are items. -/
theorem Placed.cursor_moveBy {selection : Selection α} (placed : selection.Placed) {index : Nat}
    (active : selection.cursor = .active index) (fits : selection.items.length < 2 ^ 64)
    (distance : Int64) :
    ∃ target : Nat, (selection.moveBy distance.toInt).cursor = .active target ∧
      (target : Int) = max 0 (min (index + distance.toInt) (selection.items.length - 1)) := by
  have inside : index < selection.items.length := by simpa [Placed, active] using placed
  have indexWord : (UInt64.ofNat index).toNat = index :=
    UInt64.toNat_ofNat_of_lt' (by rw [UInt64.size]; omega)
  have lengthWord : (UInt64.ofNat selection.items.length).toNat = selection.items.length :=
    UInt64.toNat_ofNat_of_lt' fits
  have lastWord : (Word.subtract (.ofNat selection.items.length) 1).toNat =
      selection.items.length - 1 := by
    rw [Word.toNat_subtract, lengthWord]
    rfl
  refine ⟨_, by rw [moveBy, active]; exact cursor_place active _, ?_⟩
  rw [Int64.ofIntClamp_toInt, toNat_placeAt (by omega), indexWord, lastWord]
  omega

/-- Without items there is no highlight to move. -/
theorem moveBy_of_index?_none {selection : Selection α} (nowhere : selection.index? = none)
    (distance : Int) : selection.moveBy distance = selection := by
  unfold moveBy
  split
  · next index active => simp [index?, active] at nowhere
  · rfl
  · rfl

/-- Moving the highlight leaves it on an item. -/
theorem Placed.moveBy {selection : Selection α} (placed : selection.Placed) (distance : Int) :
    (selection.moveBy distance).Placed := by
  cases active : selection.cursor with
  | active index =>
      have inside : index < selection.items.length := by simpa [Placed, active] using placed
      rw [Placed, items_moveBy, Selection.moveBy, active]
      dsimp only
      rw [cursor_place active]
      -- Words that wrap around only become smaller, so this asks nothing of the number of items.
      have bound := toNat_placeAt_le (.ofNat index) (.ofIntClamp distance)
        (Word.subtract (.ofNat selection.items.length) 1)
      have one : (1 : UInt64).toNat = 1 := rfl
      rw [Word.toNat_subtract, UInt64.toNat_ofNat', UInt64.toNat_ofNat', one] at bound
      dsimp only
      omega
  | empty =>
      rwa [moveBy_of_index?_none (by simp [index?, active])]
  | dismissed =>
      rwa [moveBy_of_index?_none (by simp [index?, active])]

/-- The item that the user settles on is the one at the place of the highlight. -/
theorem commit_eq_some_iff {selection : Selection α} {item : α} :
    selection.commit = some item ↔
      ∃ index, selection.index? = some index ∧ selection.items[index]? = some item := by
  simp [commit, highlighted?, Option.bind_eq_some_iff]

/-- The user can settle on an item as long as there is one. -/
theorem Placed.commit_eq_none_iff {selection : Selection α} (placed : selection.Placed) :
    selection.commit = none ↔ selection.items = [] := by
  cases active : selection.cursor with
  | active index =>
      have inside : index < selection.items.length := by simpa [Placed, active] using placed
      have some : selection.items ≠ [] := List.ne_nil_of_length_pos (by omega)
      simp [commit, highlighted?, index?, active, inside, some]
  | empty =>
      have nothing : selection.items = [] := by simpa [Placed, active] using placed
      simp [commit, highlighted?, index?, active, nothing]
  | dismissed =>
      have nothing : selection.items = [] := by simpa [Placed, active] using placed
      simp [commit, highlighted?, index?, active, nothing]

end QueryNotebook.Selection
