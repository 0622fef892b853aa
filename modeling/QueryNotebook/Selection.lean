import QueryNotebook.Number.Word

/-!
# Selections

A list of items with at most one of them highlighted, and a listener that is told whenever the
highlighted item changes.  The listener is modelled by what it has heard, so a statement about
notifications is a statement about a field.

A selection is active exactly while it has items.  Without items it is empty or dismissed, by
whether the list was emptied or the user turned away from it.
-/

namespace QueryNotebook

/-- Where the highlight stands. -/
inductive Cursor where
  | empty
  | active (index : Nat)
  | dismissed
deriving DecidableEq, Repr

/-- What a listener has been told so far, oldest first; none stands for no highlighted item. -/
structure Listener (α : Type) where
  heard : List (Option α)
deriving Repr

/-- Items with a highlight. -/
structure Selection (α : Type) where
  items : List α
  cursor : Cursor
  listener : Option (Listener α)
deriving Repr

namespace Selection

variable {α : Type}

/-- A selection of nothing, without a listener. -/
def empty : Selection α :=
  ⟨[], .empty, none⟩

/-- The place of the highlight. -/
def index? (selection : Selection α) : Option Nat :=
  match selection.cursor with
  | .active index => some index
  | .empty => none
  | .dismissed => none

/-- The highlighted item. -/
def highlighted? (selection : Selection α) : Option α :=
  selection.index?.bind fun index => selection.items[index]?

/-- The user turned away and no items have come since. -/
def isDismissed (selection : Selection α) : Bool :=
  selection.cursor == .dismissed

/-- The selection with a new listener that has heard nothing yet. -/
def listen (selection : Selection α) : Selection α :=
  { selection with listener := some ⟨[]⟩ }

/-- The selection without a listener. -/
def unlisten (selection : Selection α) : Selection α :=
  { selection with listener := none }

/-- The listener is told the highlighted item. -/
def notify (selection : Selection α) : Selection α :=
  { selection with
    listener := selection.listener.map fun listener =>
      ⟨listener.heard ++ [selection.highlighted?]⟩ }

/-- What the listener has heard; nothing without a listener. -/
def heard (selection : Selection α) : List (Option α) :=
  match selection.listener with
  | some listener => listener.heard
  | none => []

/-- The highlight moved from one place to another; staying in place is no change. -/
def place (selection : Selection α) (current target : Nat) : Selection α :=
  if target = current then selection
  else notify { selection with cursor := .active target }

/-- The place at a distance from a place, no further than the last one. -/
def placeAt (index : UInt64) (distance : Int64) (last : UInt64) : UInt64 :=
  if distance < 0 then Word.subtract index (Word.magnitude distance)
  else min (Word.add index distance.toUInt64) last

/-- The highlight moved by a distance, as far as there are items.  Places and distances are words,
and a distance beyond the range of words is as far as words go. -/
def moveBy (selection : Selection α) (distance : Int) : Selection α :=
  match selection.cursor with
  | .active index =>
      let last := Word.subtract (.ofNat selection.items.length) 1
      let target := placeAt (.ofNat index) (.ofIntClamp distance) last
      selection.place index target.toNat
  | .empty => selection
  | .dismissed => selection

/-- The highlight moved to a place, or to the last item when there are too few. -/
def moveTo (selection : Selection α) (target : Nat) : Selection α :=
  match selection.cursor with
  | .active index => selection.place index (min target (selection.items.length - 1))
  | .empty => selection
  | .dismissed => selection

/-- The highlight moved to the first item. -/
def moveToFirst (selection : Selection α) : Selection α :=
  selection.moveTo 0

/-- The highlight moved to the last item. -/
def moveToLast (selection : Selection α) : Selection α :=
  selection.moveTo (selection.items.length - 1)

/-- The item that the user settles on: the highlighted one.  The selection stays as it is. -/
def commit (selection : Selection α) : Option α :=
  selection.highlighted?

/-- The user turns away: the items go, and a highlight with them. -/
def cancel (selection : Selection α) : Selection α :=
  let dismissed := { selection with items := [], cursor := .dismissed }
  if selection.index?.isSome then dismissed.notify else dismissed

/-- Two highlights differ: in the item, or in that there is one. -/
def highlightDiffers [BEq α] : Option α → Option α → Bool
  | some old, some new => !(old == new)
  | none, none => false
  | _, _ => true

/-- New items, with the first of them highlighted. -/
def withItems [BEq α] (selection : Selection α) (items : List α) : Selection α :=
  let cursor := if items.isEmpty then Cursor.empty else .active 0
  let renewed := { selection with items := items, cursor := cursor }
  if highlightDiffers selection.highlighted? items.head? then renewed.notify else renewed

/-- A cursor as a diagnostic shows it. -/
def describeCursor : Cursor → String
  | .empty => "Empty"
  | .active index => "Active \x7b index: " ++ toString index ++ " \x7d"
  | .dismissed => "Dismissed"

/-- A selection as a diagnostic shows it, given how it shows an item. -/
def describe (describeItem : α → String) (selection : Selection α) : String :=
  "SelectionController \x7b items: [" ++
    String.intercalate ", " (selection.items.map describeItem) ++ "], state: " ++
      describeCursor selection.cursor ++ ", has_listener: " ++
        toString selection.listener.isSome ++ " \x7d"

/-! ## The parts of a selection after a notification -/

@[simp] theorem items_notify (selection : Selection α) :
    selection.notify.items = selection.items := rfl

@[simp] theorem cursor_notify (selection : Selection α) :
    selection.notify.cursor = selection.cursor := rfl

@[simp] theorem index?_notify (selection : Selection α) :
    selection.notify.index? = selection.index? := rfl

@[simp] theorem highlighted?_notify (selection : Selection α) :
    selection.notify.highlighted? = selection.highlighted? := rfl

/-- Moving the highlight keeps the items. -/
@[simp] theorem items_place (selection : Selection α) (current target : Nat) :
    (selection.place current target).items = selection.items := by
  unfold place
  split <;> rfl

@[simp] theorem items_moveBy (selection : Selection α) (distance : Int) :
    (selection.moveBy distance).items = selection.items := by
  unfold moveBy
  split <;> simp

@[simp] theorem items_moveTo (selection : Selection α) (target : Nat) :
    (selection.moveTo target).items = selection.items := by
  unfold moveTo
  split <;> simp

@[simp] theorem items_withItems [BEq α] (selection : Selection α) (items : List α) :
    (selection.withItems items).items = items := by
  unfold withItems
  dsimp only
  split <;> rfl

@[simp] theorem items_cancel (selection : Selection α) : selection.cancel.items = [] := by
  unfold cancel
  dsimp only
  split <;> rfl

end Selection

end QueryNotebook
