import QueryNotebook.Proofs.Path
import QueryNotebook.Proofs.Text.Piece
import QueryNotebook.RecentDocuments

/-!
# Storing paths as one text

Which paths come back from the text that stores them.  A separator inside a path and a blank path
are both lost, and nothing else is: a list comes back as it was exactly when none of its paths is
blank or holds a separator.  This is so even where paths count as equal in another spelling, since
the pieces of a path with a separator never name what the path names.
-/

namespace QueryNotebook

/-- A path that can be stored: it is not blank, and holds no separator. -/
structure Path.Storable (path : Path) : Prop where
  solid : Text.trim path.text.toList ≠ []
  unbroken : recentSeparator ∉ path.text.toList

/-- A stored text holds the pieces that are not trimmed to nothing. -/
theorem decodePaths_eq (stored : String) :
    decodePaths stored =
      ((stored.toList.splitOn recentSeparator).filter fun piece => Text.trim piece ≠ []).map
        fun piece => ⟨String.ofList piece⟩ := by
  simp [decodePaths, Text.trim_eq_nil_iff]

/-- The paths of a stored text are spelled as its pieces are. -/
theorem map_toList_decodePaths (stored : String) :
    (decodePaths stored).map (fun path => path.text.toList) =
      (stored.toList.splitOn recentSeparator).filter fun piece => Text.trim piece ≠ [] := by
  simp [decodePaths_eq, Function.comp_def]

/-- Every path of a stored text can be stored. -/
theorem storable_of_mem_decodePaths {stored : String} {path : Path}
    (member : path ∈ decodePaths stored) : path.Storable := by
  have listed : path.text.toList ∈ (decodePaths stored).map fun path => path.text.toList :=
    List.mem_map_of_mem member
  rw [map_toList_decodePaths, List.mem_filter] at listed
  exact ⟨by simpa using listed.2, Text.notMem_of_mem_splitOn listed.1⟩

/-- Paths without separators come back, unless they are blank. -/
theorem decodePaths_encodePaths {paths : List Path}
    (unbroken : ∀ path ∈ paths, recentSeparator ∉ path.text.toList) :
    decodePaths (encodePaths paths) =
      paths.filter fun path => Text.trim path.text.toList ≠ [] := by
  cases paths with
  | nil => rfl
  | cons first others =>
      let pieces := (first :: others).map fun path => path.text.toList
      have cut : (Text.join recentSeparator pieces).splitOn recentSeparator = pieces :=
        Text.splitOn_join (List.cons_ne_nil _ _) (List.forall_mem_map.mpr unbroken)
      rw [decodePaths_eq, encodePaths, String.toList_ofList, cut, List.filter_map, List.map_map]
      simp [Function.comp_def]

/-- Paths that can be stored come back. -/
theorem decodePaths_encodePaths_of_storable {paths : List Path}
    (storable : ∀ path ∈ paths, path.Storable) : decodePaths (encodePaths paths) = paths := by
  rw [decodePaths_encodePaths fun path member => (storable path member).unbroken]
  apply List.filter_eq_self.mpr
  intro path member
  simpa using (storable path member).solid

/-- Lists of equal paths hold separators alike. -/
theorem unbroken_of_beq {left right : List Path} (equal : (left == right) = true)
    (unbroken : ∀ path ∈ left, recentSeparator ∉ path.text.toList) :
    ∀ path ∈ right, recentSeparator ∉ path.text.toList := by
  induction left generalizing right with
  | nil => cases right with
    | nil => simp
    | cons => contradiction
  | cons first others inductionHypothesis =>
      cases right with
      | nil => contradiction
      | cons second rest =>
          rw [List.cons_beq_cons, Bool.and_eq_true] at equal
          rw [List.forall_mem_cons] at unbroken ⊢
          refine ⟨?_, inductionHypothesis equal.2 unbroken.2⟩
          intro member
          exact unbroken.1
            (Path.mem_of_beq (BEq.symm equal.1) (by decide) (by decide) member)

/-- Only paths that can be stored come back, whatever they come back as. -/
theorem storable_of_decodePaths_encodePaths_beq {paths : List Path}
    (equal : (decodePaths (encodePaths paths) == paths) = true) :
    ∀ path ∈ paths, path.Storable := by
  have unbroken : ∀ path ∈ paths, recentSeparator ∉ path.text.toList :=
    unbroken_of_beq equal fun _ member => (storable_of_mem_decodePaths member).unbroken
  have size := List.length_eq_of_beq equal
  rw [decodePaths_encodePaths unbroken, List.length_filter_eq_length_iff] at size
  intro path member
  exact ⟨by simpa using size path member, unbroken path member⟩

/-- A list of paths comes back from the text that stores it exactly when all of its paths can be
stored, and then with the same spellings.  Any text gives paths that can be stored: those of its
pieces between separators that are not blank, in order and as they are; so what was read once is
read again. -/
theorem decodePaths_encodePaths_iff :
    (∀ paths : List Path,
      ((decodePaths (encodePaths paths) == paths) = true ↔ ∀ path ∈ paths, path.Storable) ∧
      (decodePaths (encodePaths paths) = paths ↔ ∀ path ∈ paths, path.Storable)) ∧
    ∀ stored : String,
      (∀ path ∈ decodePaths stored, path.Storable) ∧
      (∃ pieces : List (List Char), (∀ piece ∈ pieces, recentSeparator ∉ piece) ∧
        stored.toList = Text.join recentSeparator pieces ∧
        (decodePaths stored).map (fun path => path.text.toList) =
          pieces.filter fun piece => Text.trim piece ≠ []) ∧
      decodePaths (encodePaths (decodePaths stored)) = decodePaths stored := by
  refine ⟨fun paths => ⟨⟨?_, ?_⟩, ⟨?_, ?_⟩⟩, fun stored => ⟨?_, ?_, ?_⟩⟩
  · exact storable_of_decodePaths_encodePaths_beq
  · intro storable
    rw [decodePaths_encodePaths_of_storable storable]
    exact BEq.rfl
  · intro same
    apply storable_of_decodePaths_encodePaths_beq
    rw [same]
    exact BEq.rfl
  · exact decodePaths_encodePaths_of_storable
  · exact fun path => storable_of_mem_decodePaths
  · exact ⟨stored.toList.splitOn recentSeparator, fun _ => Text.notMem_of_mem_splitOn,
      (Text.join_splitOn recentSeparator stored.toList).symm, map_toList_decodePaths stored⟩
  · exact decodePaths_encodePaths_of_storable fun _ => storable_of_mem_decodePaths

/-- A path that falls in two makes up for a blank one in number only. -/
example : (decodePaths (encodePaths [⟨"a;./b"⟩, ⟨" "⟩])).map Path.text = ["a", "./b"] := by
  decide +kernel

end QueryNotebook
