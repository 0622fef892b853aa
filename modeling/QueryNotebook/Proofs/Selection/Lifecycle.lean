import QueryNotebook.Proofs.Selection.Steps

/-!
# The states of a selection

Which state a selection is in is told by the latest step that decided about its items: new items
came, or the user turned away.  Items are highlighted as long as there are any.  Moves go as far as
integers without bounds would, although places and distances are words, and do nothing where
nothing is highlighted.
-/

namespace QueryNotebook

variable {α : Type}

namespace SelectionStep

/-- The step decides about the items: it brings new ones or takes them away. -/
def decidesItems : SelectionStep α → Bool
  | .renewed _ => true
  | .cancelled => true
  | .moved _ => false
  | .placed _ => false
  | .placedFirst => false
  | .placedLast => false
  | .committed => false

/-- The latest of some steps that decided about the items. -/
def latestDecision? (steps : List (SelectionStep α)) : Option (SelectionStep α) :=
  (steps.filter decidesItems).getLast?

/-- The items that are left by the latest step that decided about them; none without such a step. -/
def itemsLeft : Option (SelectionStep α) → List α
  | some (.renewed items) => items
  | _ => []

/-- A step that decides about the items is the latest to do so. -/
theorem latestDecision?_concat_of_decides {step : SelectionStep α}
    (decides : step.decidesItems = true) (steps : List (SelectionStep α)) :
    latestDecision? (steps ++ [step]) = some step := by
  simp [latestDecision?, decides]

theorem latestDecision?_concat_of_not_decides {step : SelectionStep α}
    (decides : step.decidesItems = false) (steps : List (SelectionStep α)) :
    latestDecision? (steps ++ [step]) = latestDecision? steps := by
  simp [latestDecision?, decides]

end SelectionStep

namespace Selection

/-! ## Where there are no items -/

/-- An item is highlighted exactly when there are items. -/
theorem Placed.items_ne_nil_iff {selection : Selection α} (placed : selection.Placed) :
    selection.items ≠ [] ↔
      ∃ index, selection.cursor = .active index ∧ index < selection.items.length := by
  cases active : selection.cursor with
  | active index =>
      have inside : index < selection.items.length := by simpa [Placed, active] using placed
      have some : selection.items ≠ [] := List.ne_nil_of_length_pos (by omega)
      simp [some, inside]
  | empty => simpa [Placed, active] using placed
  | dismissed => simpa [Placed, active] using placed

/-- Without items nothing is highlighted. -/
theorem Placed.cursor_of_items_nil {selection : Selection α} (placed : selection.Placed)
    (nothing : selection.items = []) :
    selection.cursor = .empty ∨ selection.cursor = .dismissed := by
  cases active : selection.cursor with
  | active index => simp [Placed, active, nothing] at placed
  | empty => exact .inl rfl
  | dismissed => exact .inr rfl

/-! ## Steps that leave the items alone -/

/-- Without items there is no place to move a highlight to. -/
theorem moveTo_of_index?_none {selection : Selection α} (nowhere : selection.index? = none)
    (target : Nat) : selection.moveTo target = selection := by
  unfold moveTo
  split
  · next index active => simp [index?, active] at nowhere
  · rfl
  · rfl

/-- A highlight that is moved by a distance is neither lost nor found. -/
theorem cursor_moveBy_eq_dismissed_iff {selection : Selection α} {distance : Int} :
    (selection.moveBy distance).cursor = .dismissed ↔ selection.cursor = .dismissed := by
  cases active : selection.cursor with
  | active index => simp [moveBy, active, cursor_place active]
  | empty => rw [moveBy_of_index?_none (by simp [index?, active]), active]
  | dismissed => rw [moveBy_of_index?_none (by simp [index?, active]), active]

/-- A highlight that is moved to a place is neither lost nor found. -/
theorem cursor_moveTo_eq_dismissed_iff {selection : Selection α} {target : Nat} :
    (selection.moveTo target).cursor = .dismissed ↔ selection.cursor = .dismissed := by
  cases active : selection.cursor with
  | active index => simp [moveTo, active, cursor_place active]
  | empty => rw [moveTo_of_index?_none (by simp [index?, active]), active]
  | dismissed => rw [moveTo_of_index?_none (by simp [index?, active]), active]

/-! ## Steps that decide about the items -/

/-- Who turns away dismisses the selection. -/
theorem cursor_cancel (selection : Selection α) : selection.cancel.cursor = .dismissed := by
  unfold cancel
  dsimp only
  split <;> rfl

/-- New items are a new beginning. -/
theorem cursor_withItems_ne_dismissed [BEq α] (selection : Selection α) (items : List α) :
    (selection.withItems items).cursor ≠ .dismissed := by
  unfold withItems
  dsimp only
  split <;> cases items <;> simp

/-! ## Whole runs -/

/-- The selection is as the latest decision about its items has left it. -/
structure Follows (decision : Option (SelectionStep α)) (selection : Selection α) : Prop where
  placed : selection.Placed
  items : selection.items = SelectionStep.itemsLeft decision
  dismissed : selection.cursor = .dismissed ↔ decision = some .cancelled

/-- Without a decision there are no items. -/
theorem follows_empty : Follows none (empty : Selection α) :=
  ⟨placed_empty, rfl, by simp [empty]⟩

variable [BEq α]

/-- A step that decides about the items is followed, whatever was there before. -/
theorem follows_handle_of_decides {selection : Selection α} (placed : selection.Placed)
    {step : SelectionStep α} (decides : step.decidesItems = true) :
    Follows (some step) (selection.handle step) := by
  refine ⟨placed.handle step, ?_, ?_⟩
  · cases step with
    | renewed items => exact items_withItems selection items
    | cancelled => exact items_cancel selection
    | _ => contradiction
  · cases step with
    | renewed items => simp [Selection.handle, cursor_withItems_ne_dismissed]
    | cancelled => simp [Selection.handle, cursor_cancel]
    | _ => contradiction

/-- Any other step leaves what the latest decision left. -/
theorem Follows.handle {decision : Option (SelectionStep α)} {selection : Selection α}
    (follows : Follows decision selection) {step : SelectionStep α}
    (decides : step.decidesItems = false) : Follows decision (selection.handle step) := by
  obtain ⟨placed, items, dismissed⟩ := follows
  refine ⟨placed.handle step, ?_, ?_⟩
  · rw [← items]
    cases step with
    | moved distance => exact items_moveBy selection distance
    | placed target => exact items_moveTo selection target
    | placedFirst => exact items_moveTo selection 0
    | placedLast => exact items_moveTo selection _
    | committed => rfl
    | _ => contradiction
  · rw [← dismissed]
    cases step with
    | moved distance => exact cursor_moveBy_eq_dismissed_iff
    | placed target => exact cursor_moveTo_eq_dismissed_iff
    | placedFirst => exact cursor_moveTo_eq_dismissed_iff
    | placedLast => exact cursor_moveTo_eq_dismissed_iff
    | committed => rfl
    | _ => contradiction

/-- After any steps the selection is as the latest decision about its items has left it. -/
theorem follows_after (steps : List (SelectionStep α)) :
    Follows (SelectionStep.latestDecision? steps) ((empty : Selection α).after steps) := by
  induction steps using List.reverseRecOn with
  | nil => exact follows_empty
  | append_singleton steps step inductionHypothesis =>
      rw [after_concat]
      cases decides : step.decidesItems with
      | true =>
          rw [SelectionStep.latestDecision?_concat_of_decides decides]
          exact follows_handle_of_decides inductionHypothesis.placed decides
      | false =>
          rw [SelectionStep.latestDecision?_concat_of_not_decides decides]
          exact inductionHypothesis.handle decides

/-- Whatever is done with a selection, an item is highlighted exactly when there are items.  These
are the ones that came last, unless the user turned away since; then, and only then, the selection is
dismissed.  A highlight moves by any signed word to where integers without bounds would move it, cut
off at either end of the items.  Where nothing is highlighted, moving and settling do nothing. -/
theorem state_after (steps : List (SelectionStep α)) :
    let selection := (empty : Selection α).after steps
    let decision := SelectionStep.latestDecision? steps
    selection.items = SelectionStep.itemsLeft decision ∧
      (selection.items ≠ [] ↔
        ∃ index, selection.cursor = .active index ∧ index < selection.items.length) ∧
      (selection.items = [] → selection.cursor = .empty ∨ selection.cursor = .dismissed) ∧
      (selection.cursor = .dismissed ↔ decision = some .cancelled) ∧
      (selection.items.length < 2 ^ 64 → ∀ index, selection.cursor = .active index →
        ∀ distance : Int64, ∃ target : Nat,
          (selection.moveBy distance.toInt).cursor = .active target ∧
            (target : Int) = max 0 (min (index + distance.toInt) (selection.items.length - 1))) ∧
      (selection.index? = none →
        (∀ distance, selection.moveBy distance = selection) ∧
          (∀ target, selection.moveTo target = selection) ∧
            selection.handle .committed = selection ∧ selection.commit = none) := by
  intro selection decision
  obtain ⟨placed, items, dismissed⟩ := follows_after steps
  refine ⟨items, placed.items_ne_nil_iff, placed.cursor_of_items_nil, dismissed, ?_, ?_⟩
  · exact fun fits index active distance => placed.cursor_moveBy active fits distance
  · intro nowhere
    refine ⟨moveBy_of_index?_none nowhere, moveTo_of_index?_none nowhere, rfl, ?_⟩
    simp [commit, highlighted?, nowhere]

/-- After the user has turned away, new items are highlighted again, and the greatest distances in
either direction lead to the ends of them. -/
theorem state_after_extremes :
    let selection := (empty : Selection String).after
      [.cancelled, .renewed ["a", "b", "c"], .moved 1]
    selection.items.length < 2 ^ 64 ∧ selection.cursor = .active 1 ∧
      (selection.moveBy Int64.minValue.toInt).cursor = .active 0 ∧
      (selection.moveBy Int64.maxValue.toInt).cursor = .active 2 := by
  intro selection
  have fits : selection.items.length < 2 ^ 64 := by decide
  have active : selection.cursor = .active 1 := by decide
  have last : (selection.items.length : Int) - 1 = 2 := by decide
  have moves := (state_after
    [.cancelled, .renewed ["a", "b", "c"], .moved 1]).2.2.2.2.1 fits 1 active
  obtain ⟨first, atFirst, least⟩ := moves Int64.minValue
  obtain ⟨farEnd, atEnd, greatest⟩ := moves Int64.maxValue
  rw [Int64.toInt_minValue, last] at least
  rw [Int64.toInt_maxValue, last] at greatest
  obtain rfl : first = 0 := by omega
  obtain rfl : farEnd = 2 := by omega
  exact ⟨fits, active, atFirst, atEnd⟩

end Selection

end QueryNotebook
