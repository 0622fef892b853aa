import QueryNotebook.Path
import QueryNotebook.Proofs.Text.Joined

/-!
# What equal paths share

Equal paths may be spelled differently, but only in their separators and dots.  Every other
character stands in the name of a component, so it stands in both spellings or in neither.
-/

namespace QueryNotebook.Path

/-- The components are those of the pieces, after one that says where the path starts if it says
so. -/
theorem componentsOf_eq (text : List Char) :
    ∃ start, (∀ name, .name name ∉ start) ∧
      componentsOf text = start ++ (text.splitOn '/').filterMap component? := by
  unfold componentsOf
  split
  · next cut => exact absurd cut (List.splitOn_ne_nil '/' text)
  · next cut => exact ⟨[], by simp, by rw [cut]; rfl⟩
  · next rest _ cut => exact ⟨[.root], by simp, by rw [cut]; rfl⟩
  · next rest cut => exact ⟨[.current], by simp, by rw [cut]; rfl⟩
  · exact ⟨[], by simp, rfl⟩

/-- A component is a name when a piece stands for it. -/
theorem name_mem_componentsOf_iff {text : List Char} {name : String} :
    .name name ∈ componentsOf text ↔
      ∃ piece ∈ text.splitOn '/', component? piece = some (.name name) := by
  obtain ⟨start, unnamed, components⟩ := componentsOf_eq text
  rw [components, List.mem_append, List.mem_filterMap]
  exact or_iff_right (unnamed name)

/-- A named component is called what its piece says. -/
theorem eq_of_component?_eq_name {piece : List Char} {name : String}
    (named : component? piece = some (.name name)) : name.toList = piece := by
  unfold component? at named
  split at named <;> simp at named
  simp [← named]

/-- A piece with anything but dots is a name. -/
theorem component?_of_mem {c : Char} {piece : List Char} (member : c ∈ piece) (solid : c ≠ '.') :
    component? piece = some (.name (String.ofList piece)) := by
  unfold component?
  split
  · contradiction
  · exact absurd (List.mem_singleton.mp member) solid
  · simp [solid] at member
  · rfl

/-- Equal paths hold the same characters, separators and dots aside. -/
theorem mem_of_beq {left right : Path} (equal : (left == right) = true) {c : Char}
    (noSeparator : c ≠ '/') (noDot : c ≠ '.') (member : c ∈ left.text.toList) :
    c ∈ right.text.toList := by
  obtain ⟨piece, cut, inside⟩ := (Text.mem_iff_exists_mem_splitOn noSeparator).mp member
  have named : .name (String.ofList piece) ∈ left.components :=
    name_mem_componentsOf_iff.mpr ⟨piece, cut, component?_of_mem inside noDot⟩
  rw [beq_iff.mp equal] at named
  obtain ⟨other, cutRight, called⟩ := name_mem_componentsOf_iff.mp named
  obtain rfl : piece = other := by simpa using eq_of_component?_eq_name called
  exact (Text.mem_iff_exists_mem_splitOn noSeparator).mpr ⟨piece, cutRight, inside⟩

/-- The characters of a component's name. -/
def Component.letters : Component → List Char
  | .name text => text.toList
  | _ => []

/-- A component has the characters of its piece, dots that stand alone aside. -/
theorem countP_component? {counted : Char → Bool} (noDot : counted '.' = false)
    (piece : List Char) :
    ((component? piece).toList.flatMap Component.letters).countP counted =
      piece.countP counted := by
  unfold component?
  split <;> simp [Component.letters, noDot]

/-- The characters of a path are those of its components, separators and dots aside. -/
theorem countP_components {counted : Char → Bool} (noSeparator : counted '/' = false)
    (noDot : counted '.' = false) (path : Path) :
    (path.components.flatMap Component.letters).countP counted =
      path.text.toList.countP counted := by
  obtain ⟨start, unnamed, components⟩ := componentsOf_eq path.text.toList
  have nothing : start.flatMap Component.letters = [] := by
    apply List.flatMap_eq_nil_iff.mpr
    intro component inside
    cases component with
    | name text => exact absurd inside (unnamed text)
    | root | current | parent => rfl
  have pieces (all : List (List Char)) :
      ((all.filterMap component?).flatMap Component.letters).countP counted =
        all.flatten.countP counted := by
    induction all with
    | nil => rfl
    | cons piece rest inductionHypothesis =>
        have first := countP_component? noDot piece
        rw [List.filterMap_cons, List.flatten_cons, List.countP_append, ← inductionHypothesis,
          ← first]
        cases component? piece <;> simp
  rw [Path.components, components, List.flatMap_append, nothing, List.nil_append, pieces,
    Text.countP_flatten_splitOn noSeparator]

/-- Equal paths hold as many characters of a kind, separators and dots aside. -/
theorem countP_eq_of_beq {left right : Path} (equal : (left == right) = true)
    {counted : Char → Bool} (noSeparator : counted '/' = false) (noDot : counted '.' = false) :
    left.text.toList.countP counted = right.text.toList.countP counted := by
  rw [← countP_components noSeparator noDot, beq_iff.mp equal,
    countP_components noSeparator noDot]

end QueryNotebook.Path
