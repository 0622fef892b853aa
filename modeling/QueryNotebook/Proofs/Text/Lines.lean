import QueryNotebook.Proofs.Text.Joined

/-!
# The lines of a text

A text whose pieces between line feeds are all there, none of them empty or with a carriage return,
has these pieces as its lines.
-/

namespace QueryNotebook.Text

/-- A line without carriage returns loses none at its end. -/
theorem dropReturn_of_notMem {line : List Char} (clean : '\r' ∉ line) : dropReturn line = line := by
  have kept : dropEnd? ['\r'] line = none := by
    rw [Option.eq_none_iff_forall_ne_some]
    intro rest dropped
    rw [dropEnd?_eq_some_iff.mp dropped] at clean
    simp at clean
  rw [dropReturn, kept, Option.getD_none]

/-- Pieces that are neither empty nor hold a carriage return are the lines. -/
theorem lines_eq_splitOn {text : List Char}
    (whole : ∀ piece ∈ text.splitOn '\n', piece ≠ [] ∧ '\r' ∉ piece) :
    lines text = text.splitOn '\n' := by
  obtain ⟨before, last, parts⟩ : ∃ before last, text.splitOn '\n' = before ++ [last] :=
    ⟨_, _, (List.dropLast_concat_getLast (List.splitOn_ne_nil '\n' text)).symm⟩
  rw [parts] at whole
  have complete : before.map dropReturn = before := by
    rw [List.map_congr_left (g := id), List.map_id]
    exact fun piece member =>
      dropReturn_of_notMem (whole piece (List.mem_append_left _ member)).2
  obtain ⟨c, rest, rfl⟩ := List.exists_cons_of_ne_nil (whole last (by simp)).1
  simp only [lines, parts, List.dropLast_concat, List.getLast?_concat, complete]

end QueryNotebook.Text
