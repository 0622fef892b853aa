import QueryNotebook.Json.Tree
import QueryNotebook.Proofs.Json.Scalars

/-!
# Arrays read back

The elements that are printed of an array are read one after another, each by the step of its reader.
As with the members of an object, what a reader makes of a single element is left to it; it need only
pass over blanks and read nothing where no element begins.
-/

namespace QueryNotebook.Json

/-! ## The next element -/

/-- A text that goes on with something other than the end of an array. -/
def Opens (text : List Char) : Prop :=
  skipSpace text ≠ [] ∧ ∀ rest, skipSpace text ≠ ']' :: rest

/-- What opens an element opens it on a line of its own as well. -/
theorem Opens.newLine {text : List Char} (opens : Opens text) (level : Nat) :
    Opens (newLine level ++ text) := by
  simpa only [Opens, skipSpace_newLine] using opens

theorem nextElement?_close {text rest : List Char} (there : skipSpace text = ']' :: rest)
    (first : Bool) : nextElement? first text = .ok none := by
  simp only [nextElement?, there]

theorem nextElement?_first {text : List Char} (opens : Opens text) :
    nextElement? true text = .ok (some (skipSpace text)) := by
  obtain ⟨some, noClose⟩ := opens
  rw [nextElement?]
  split
  · next empty => exact absurd empty some
  · next close => exact absurd close (noClose _)
  · next comma => rw [comma]; rfl
  · rfl

theorem nextElement?_comma {text rest : List Char} (there : skipSpace text = ',' :: rest)
    (opens : Opens rest) : nextElement? false text = .ok (some (skipSpace rest)) := by
  obtain ⟨some, noClose⟩ := opens
  simp only [nextElement?, there, Bool.false_eq_true, if_false]

/-! ## Elements -/

section Elements

variable {σ : Type} {step : σ → List Char → Scan σ}

/-- The step of a reader of elements passes over blanks, and finds no element where none begins. -/
structure ReadsElement (step : σ → List Char → Scan σ) : Prop where
  blanks : ∀ state text, step state (skipSpace text) = step state text
  opens : ∀ {state text next rest}, step state text = .ok (next, rest) → Opens text

/-- A reader takes some elements one after another: of every printed element, where it can end, it
makes the next state. -/
inductive ReadsElements (step : σ → List Char → Scan σ) (level : Nat) :
    σ → List Datum → σ → Prop where
  | nil (state : σ) : ReadsElements step level state [] state
  | cons {state next final : σ} {item : Datum} {others : List Datum}
      (reads : ∀ rest, EndsNumber rest →
        step state (indented level item ++ rest) = .ok (next, rest))
      (later : ReadsElements step level next others final) :
      ReadsElements step level state (item :: others) final

/-- A bracket ends the elements, before the first element or a later one. -/
theorem foldElements_bracket (fuel : Nat) (first : Bool) (state : σ) (level : Nat)
    (rest : List Char) :
    foldElements step (fuel + 1) first state (newLine level ++ ']' :: rest) =
      .ok (state, rest) := by
  have there : skipSpace (newLine level ++ ']' :: rest) = ']' :: rest :=
    (skipSpace_newLine level _).trans (skipSpace_cons rfl rest)
  rw [foldElements, nextElement?_close there]
  simp only [endArray, there]
  rfl

variable (element : ReadsElement step) {fuel level : Nat} {state next : σ} {after rest : List Char}
include element

/-- The first element is read by the step. -/
theorem foldElements_first (reads : step state after = .ok (next, rest)) :
    foldElements step (fuel + 1) true state (newLine level ++ after) =
      foldElements step fuel false next rest := by
  rw [foldElements, nextElement?_first ((element.opens reads).newLine level)]
  simp only [skipSpace_newLine, element.blanks, reads]

/-- A later element is read by the step, after its comma. -/
theorem foldElements_next (reads : step state after = .ok (next, rest)) :
    foldElements step (fuel + 1) false state (',' :: (newLine level ++ after)) =
      foldElements step fuel false next rest := by
  have comma := skipSpace_cons (c := ',') rfl (newLine level ++ after)
  rw [foldElements, nextElement?_comma comma ((element.opens reads).newLine level)]
  simp only [skipSpace_newLine, element.blanks, reads]

omit element in
theorem endsNumber_indentedItems (level below : Nat) (items : List Datum) (rest : List Char) :
    EndsNumber (indentedItems level items ++ newLine below ++ rest) := by
  cases items with
  | nil => exact endsNumber_mark (by decide) _
  | cons item others => exact endsNumber_mark (by decide) _

/-- The elements after the first are read up to the closing bracket. -/
theorem foldElements_indentedItems {below : Nat} {final : σ} {items : List Datum}
    (reads : ReadsElements step level state items final) (enough : items.length < fuel)
    (rest : List Char) :
    foldElements step fuel false state
        (indentedItems level items ++ newLine below ++ ']' :: rest) =
      .ok (final, rest) := by
  -- Every element takes one unit of the fuel, and one is left for the bracket.
  induction reads generalizing fuel with
  | nil state =>
      obtain ⟨fuel, rfl⟩ := Nat.exists_eq_add_of_lt enough
      exact foldElements_bracket _ false state below rest
  | @cons state next final item others reads _ inductionHypothesis =>
      obtain ⟨fuel, rfl⟩ : ∃ less, fuel = less + 1 := ⟨fuel - 1, by simp at enough; omega⟩
      have read := reads _ (endsNumber_indentedItems level below others (']' :: rest))
      simp only [indentedItems, List.cons_append, List.append_assoc] at read ⊢
      rw [foldElements_next element read]
      simpa using inductionHypothesis (by simpa using enough)

omit element in
theorem length_le_indentedItems (level : Nat) (items : List Datum) :
    items.length ≤ (indentedItems level items).length := by
  induction items with
  | nil => exact Nat.zero_le _
  | cons item others inductionHypothesis =>
      simp only [indentedItems, List.length_cons, List.length_append]
      omega

/-- A printed array is read element by element, from the text after its opening bracket. -/
theorem foldElements_indented {start final : σ} {items : List Datum}
    (reads : ReadsElements step (level + 1) start items final) (rest : List Char) :
    ∃ body, indented level (.array items) ++ rest = '[' :: body ∧
      foldElements step (body.length + 1) true start body = .ok (final, rest) := by
  cases reads with
  | nil => exact ⟨']' :: rest, rfl, rfl⟩
  | @cons _ next _ item others reads later =>
      have read := reads _ (endsNumber_indentedItems (level + 1) level others (']' :: rest))
      refine ⟨newLine (level + 1) ++ (indented (level + 1) item ++
        (indentedItems (level + 1) others ++ newLine level ++ ']' :: rest)), by simp [indented], ?_⟩
      rw [foldElements_first element read]
      apply foldElements_indentedItems element later
      have bound := length_le_indentedItems (level + 1) others
      simp only [List.length_append, List.length_cons]
      omega

end Elements

end QueryNotebook.Json
