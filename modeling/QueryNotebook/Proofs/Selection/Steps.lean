import QueryNotebook.Proofs.Selection.Highlight

/-!
# Using a selection

What a user and the list behind a selection do with it, one step after another.  Whatever they do,
the highlight stands on one of the items, or there are none.
-/

namespace QueryNotebook

/-- What is done with a selection. -/
inductive SelectionStep (α : Type) where
  /-- New items come. -/
  | renewed (items : List α)
  /-- The highlight moves by a distance. -/
  | moved (distance : Int)
  /-- The highlight moves to a place. -/
  | placed (target : Nat)
  | placedFirst
  | placedLast
  /-- The user settles on the highlighted item. -/
  | committed
  /-- The user turns away. -/
  | cancelled

namespace Selection

variable {α : Type}

/-- Moving to a place leaves the highlight on an item. -/
theorem Placed.moveTo {selection : Selection α} (placed : selection.Placed) (target : Nat) :
    (selection.moveTo target).Placed := by
  cases active : selection.cursor with
  | active index =>
      have inside : index < selection.items.length := by simpa [Placed, active] using placed
      rw [Selection.moveTo, active]
      simp only [Placed, cursor_place active, items_place]
      omega
  | empty => rwa [Selection.moveTo, active]
  | dismissed => rwa [Selection.moveTo, active]

/-- Where nothing was done, there are no items. -/
theorem placed_empty : (empty : Selection α).Placed := rfl

/-- Who turns away leaves no items behind. -/
theorem placed_cancel (selection : Selection α) : selection.cancel.Placed := by
  unfold cancel
  dsimp only
  split <;> rfl

/-- Nothing is highlighted once the user turned away. -/
theorem highlighted?_cancel (selection : Selection α) : selection.cancel.highlighted? = none := by
  unfold cancel
  dsimp only
  split <;> rfl

variable [BEq α]

/-- The first of new items is highlighted. -/
theorem highlighted?_withItems (selection : Selection α) (items : List α) :
    (selection.withItems items).highlighted? = items.head? := by
  unfold withItems
  dsimp only
  split <;> cases items <;> rfl

/-- The selection after a step. -/
def handle (selection : Selection α) : SelectionStep α → Selection α
  | .renewed items => selection.withItems items
  | .moved distance => selection.moveBy distance
  | .placed target => selection.moveTo target
  | .placedFirst => selection.moveToFirst
  | .placedLast => selection.moveToLast
  | .committed => selection
  | .cancelled => selection.cancel

/-- The selection after several steps, the oldest of them first. -/
def after (selection : Selection α) (steps : List (SelectionStep α)) : Selection α :=
  steps.foldl handle selection

@[simp] theorem after_nil (selection : Selection α) : selection.after [] = selection := rfl

@[simp] theorem after_concat (selection : Selection α) (steps : List (SelectionStep α))
    (step : SelectionStep α) :
    selection.after (steps ++ [step]) = (selection.after steps).handle step := by
  simp [after]

/-- A step leaves the highlight on an item. -/
theorem Placed.handle {selection : Selection α} (placed : selection.Placed)
    (step : SelectionStep α) : (selection.handle step).Placed := by
  cases step with
  | renewed items => exact placed_withItems selection items
  | moved distance => exact placed.moveBy distance
  | placed target => exact placed.moveTo target
  | placedFirst => exact placed.moveTo 0
  | placedLast => exact placed.moveTo _
  | committed => exact placed
  | cancelled => exact placed_cancel selection

/-- Any steps leave the highlight on an item. -/
theorem Placed.after {selection : Selection α} (placed : selection.Placed)
    (steps : List (SelectionStep α)) : (selection.after steps).Placed := by
  induction steps generalizing selection with
  | nil => exact placed
  | cons step later inductionHypothesis => exact inductionHypothesis (placed.handle step)

end Selection

end QueryNotebook
