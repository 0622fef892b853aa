import Mathlib.Data.List.Induction
import QueryNotebook.Proofs.Selection.Steps

/-!
# What a listener hears

A listener that is told of changes can be relied on at every moment: what it heard last is what is
highlighted.  It is told once at most in a step, and always of a highlight that changed.

Items are compared by `==`, which is asked to be symmetric and transitive only.  An item need not
equal itself, so two highlights show the same when they are the same item or equal ones.
-/

namespace QueryNotebook

namespace Selection

variable {α : Type}

/-- What was heard is a matter of the listener alone. -/
theorem heard_congr {selection other : Selection α} (same : selection.listener = other.listener) :
    selection.heard = other.heard := by
  simp only [heard, same]

/-- A listener that was told of a highlight has heard it last. -/
theorem heard_of_told {before after : Selection α} (listening : before.listener.isSome = true)
    (told : after.listener = before.listener.map fun listener =>
      ⟨listener.heard ++ [after.highlighted?]⟩) :
    after.heard = before.heard ++ [after.highlighted?] := by
  obtain ⟨listener, present⟩ := Option.isSome_iff_exists.mp listening
  rw [present] at told
  simp only [heard, told, present, Option.map_some]

variable [BEq α]

/-- Two highlights show the same: nothing, one item, or two equal ones. -/
def ShowSame (left right : Option α) : Prop :=
  left = right ∨ (left == right) = true

theorem showSame_rfl (shown : Option α) : ShowSame shown shown :=
  .inl rfl

theorem ShowSame.trans [PartialEquivBEq α] {first second third : Option α}
    (early : ShowSame first second) (late : ShowSame second third) : ShowSame first third := by
  rcases early with rfl | early
  · exact late
  rcases late with rfl | late
  · exact .inr early
  match first, second, third with
  | none, none, _ => exact .inr late
  | _, none, none => exact .inr early
  | some first, some second, some third =>
      have equal : (first == third) = true := BEq.trans (b := second) early late
      exact .inr equal

/-- New items count as a change of the highlight unless the new one equals the old. -/
theorem highlightDiffers_eq (left right : Option α) :
    highlightDiffers left right = !(left == right) := by
  cases left <;> cases right <;> rfl

end Selection

/-- What must have changed in a step for the listener to be told of it: the highlighted item where
items come or go, and the place of the highlight where it is moved. -/
def SelectionStep.Changes {α : Type} [BEq α] (step : SelectionStep α)
    (before after : Selection α) : Prop :=
  match step with
  | .renewed _ => (before.highlighted? == after.highlighted?) = false
  | .cancelled => (before.highlighted? == after.highlighted?) = false
  | .committed => False
  | .moved _ => before.index? ≠ after.index?
  | .placed _ => before.index? ≠ after.index?
  | .placedFirst => before.index? ≠ after.index?
  | .placedLast => before.index? ≠ after.index?

namespace Selection

variable {α : Type} [BEq α]

/-! ## What is heard of a step -/

/-- What the listener hears between two moments: nothing, while the highlight shows the same, or the
highlight of the later moment. -/
inductive Hears (before after : Selection α) (changed : Prop) : Prop where
  | nothing (listener : after.listener = before.listener)
      (same : ShowSame before.highlighted? after.highlighted?)
  | change (changed : changed)
      (listener : after.listener = before.listener.map fun listener =>
        ⟨listener.heard ++ [after.highlighted?]⟩)

/-- A highlight that stays in place is not worth telling. -/
theorem hears_place {selection : Selection α} {current : Nat}
    (active : selection.cursor = .active current) (target : Nat) :
    Hears selection (selection.place current target)
      (selection.index? ≠ (selection.place current target).index?) := by
  unfold place
  split
  · exact .nothing rfl (showSame_rfl _)
  · next elsewhere =>
    refine .change ?_ rfl
    simpa [index?, active] using Ne.symm elsewhere

theorem hears_moveBy (selection : Selection α) (distance : Int) :
    Hears selection (selection.moveBy distance)
      (selection.index? ≠ (selection.moveBy distance).index?) := by
  unfold moveBy
  split
  · next index active => exact hears_place active _
  · exact .nothing rfl (showSame_rfl _)
  · exact .nothing rfl (showSame_rfl _)

theorem hears_moveTo (selection : Selection α) (target : Nat) :
    Hears selection (selection.moveTo target)
      (selection.index? ≠ (selection.moveTo target).index?) := by
  unfold moveTo
  split
  · next index active => exact hears_place active _
  · exact .nothing rfl (showSame_rfl _)
  · exact .nothing rfl (showSame_rfl _)

theorem hears_withItems (selection : Selection α) (items : List α) :
    Hears selection (selection.withItems items)
      ((selection.highlighted? == (selection.withItems items).highlighted?) = false) := by
  rw [highlighted?_withItems]
  cases differs : highlightDiffers selection.highlighted? items.head? with
  | true =>
      refine .change (by simpa [highlightDiffers_eq] using differs) ?_
      simp only [withItems, differs, if_true]
      rfl
  | false =>
      refine .nothing (by simp [withItems, differs]) ?_
      rw [highlighted?_withItems]
      exact .inr (by simpa [highlightDiffers_eq] using differs)

theorem hears_cancel {selection : Selection α} (placed : selection.Placed) :
    Hears selection selection.cancel
      ((selection.highlighted? == selection.cancel.highlighted?) = false) := by
  rw [highlighted?_cancel]
  cases active : selection.cursor with
  | active index =>
      have inside : index < selection.items.length := by simpa [Placed, active] using placed
      have shown : selection.highlighted? = some selection.items[index] := by
        simp [highlighted?, index?, active, inside]
      refine .change (by rw [shown]; rfl) ?_
      simp [cancel, index?, active]
      rfl
  | empty =>
      refine .nothing (by simp [cancel, index?, active]) ?_
      rw [highlighted?_cancel]
      exact .inl (by simp [highlighted?, index?, active])
  | dismissed =>
      refine .nothing (by simp [cancel, index?, active]) ?_
      rw [highlighted?_cancel]
      exact .inl (by simp [highlighted?, index?, active])

/-- In every step the listener hears nothing, or of the change that the step brought about. -/
theorem hears_handle {selection : Selection α} (placed : selection.Placed)
    (step : SelectionStep α) :
    Hears selection (selection.handle step) (step.Changes selection (selection.handle step)) := by
  cases step with
  | renewed items => exact hears_withItems selection items
  | moved distance => exact hears_moveBy selection distance
  | placed target => exact hears_moveTo selection target
  | placedFirst => exact hears_moveTo selection 0
  | placedLast => exact hears_moveTo selection _
  | committed => exact .nothing rfl (showSame_rfl _)
  | cancelled => exact hears_cancel placed

/-! ## Whole runs -/

/-- A listener that was told all it had to know: what it heard last, or what was highlighted when it
came, is what is highlighted. -/
structure UpToDate (installed : Option α) (selection : Selection α) : Prop where
  listening : selection.listener.isSome = true
  current : ShowSame (selection.heard.getLast?.getD installed) selection.highlighted?

theorem upToDate_listen (selection : Selection α) :
    UpToDate selection.highlighted? selection.listen :=
  ⟨rfl, showSame_rfl _⟩

theorem UpToDate.hears [PartialEquivBEq α] {installed : Option α} {before after : Selection α}
    {changed : Prop} (upToDate : UpToDate installed before) (hears : Hears before after changed) :
    UpToDate installed after := by
  obtain ⟨listening, current⟩ := upToDate
  cases hears with
  | nothing listener same =>
      rw [← heard_congr listener] at current
      exact ⟨listener ▸ listening, current.trans same⟩
  | change _ listener =>
      refine ⟨by rwa [listener, Option.isSome_map], ?_⟩
      rw [heard_of_told listening listener, List.getLast?_concat, Option.getD_some]
      exact showSame_rfl _

/-- A listener keeps up with any steps after it came. -/
theorem upToDate_after [PartialEquivBEq α] {start : Selection α} (placed : start.Placed)
    (steps : List (SelectionStep α)) :
    UpToDate start.highlighted? (start.listen.after steps) := by
  have installed : start.listen.Placed := placed
  -- From the end: the last step is heard of by a listener that has kept up with the others.
  induction steps using List.reverseRecOn with
  | nil => exact upToDate_listen start
  | append_singleton steps step inductionHypothesis =>
      rw [after_concat]
      exact inductionHypothesis.hears (hears_handle (installed.after steps) step)

/-- A listener is never behind, wherever it comes in the history of a selection and whatever is done
after that.  What it heard last, or what was highlighted when it came, is what is highlighted.  In a
step it hears nothing or once, of what is highlighted then; it does hear when another item comes to
be highlighted, and it hears of nothing but the change that the kind of step may bring about. -/
theorem listener_keeps_up [PartialEquivBEq α] (earlier later : List (SelectionStep α))
    (step : SelectionStep α) :
    let installed := ((empty : Selection α).after earlier).listen
    let before := installed.after later
    let after := before.handle step
    ShowSame (before.heard.getLast?.getD installed.highlighted?) before.highlighted? ∧
      (after.heard = before.heard ∨ after.heard = before.heard ++ [after.highlighted?]) ∧
      (¬ ShowSame before.highlighted? after.highlighted? → after.heard ≠ before.heard) ∧
      (after.heard ≠ before.heard → step.Changes before after) := by
  intro installed before after
  have start : ((empty : Selection α).after earlier).Placed := placed_empty.after earlier
  obtain ⟨listening, current⟩ := upToDate_after start later
  have installedPlaced : installed.Placed := start
  have placed : before.Placed := installedPlaced.after later
  refine ⟨current, ?_⟩
  cases hears_handle placed step with
  | nothing listener same =>
      have silent : after.heard = before.heard := heard_congr listener
      exact ⟨.inl silent, fun differs => absurd same differs, fun told => absurd silent told⟩
  | change changed listener =>
      have told : after.heard = before.heard ++ [after.highlighted?] :=
        heard_of_told listening listener
      exact ⟨.inr told, fun _ => by simp [told], fun _ => changed⟩

/-- The second of two equal titles is highlighted and then the first of new ones that equal it, so
the listener hears of a move between equal items, but not of the items that replace them. -/
theorem listener_keeps_up_among_equals :
    let steps : List (SelectionStep String) :=
      [.renewed ["a", "a"], .moved 5, .renewed ["a", "b"], .cancelled]
    let installed := ((empty : Selection String).after [.renewed ["b"]]).listen
    (installed.after steps).heard = [some "a", some "a", none] ∧
      ShowSame ((installed.after steps).heard.getLast?.getD (some "b"))
        (installed.after steps).highlighted? := by
  intro steps installed
  exact ⟨by decide, (listener_keeps_up [.renewed ["b"]] steps .committed).1⟩

end Selection

end QueryNotebook
