import QueryNotebook.Proofs.Text.Lines
import QueryNotebook.Proofs.Text.Piece
import QueryNotebook.Settings

/-!
# Lines that are no comments

Taking the comments out of a text leaves it alone when no line can be one: a line that begins with
anything but a slash, after blanks or at once.
-/

namespace QueryNotebook.Settings

/-- A line whose first solid character is no slash. -/
structure Uncommented (line : List Char) : Prop where
  begins : ∃ blanks c rest, line = blanks ++ c :: rest ∧ Text.allBlank blanks = true ∧
    Text.isBlank c = false ∧ c ≠ '/'

/-- Such a line is no comment. -/
theorem Uncommented.isComment {line : List Char} (uncommented : Uncommented line) :
    isComment line = false := by
  obtain ⟨blanks, c, rest, rfl, blank, solid, noSlash⟩ := uncommented.begins
  obtain ⟨more, trimmed⟩ := Text.exists_trim_cons solid rest
  rw [Settings.isComment, Text.trim_append_left blank, trimmed, Text.dropStart?,
    if_neg (Ne.symm noSlash)]
  rfl

/-- A text without comments, empty lines and carriage returns stays as it is. -/
theorem dropComments_eq_self {text : List Char}
    (whole : ∀ piece ∈ text.splitOn '\n', '\r' ∉ piece ∧ Uncommented piece) :
    dropComments text = text ∧ ∀ line ∈ Text.lines text, isComment line = false := by
  have lines : Text.lines text = text.splitOn '\n' := by
    apply Text.lines_eq_splitOn
    intro piece member
    obtain ⟨clean, uncommented⟩ := whole piece member
    refine ⟨?_, clean⟩
    obtain ⟨blanks, c, rest, rfl, _⟩ := uncommented.begins
    simp
  have noComment : ∀ line ∈ Text.lines text, isComment line = false := fun line member =>
    (whole line (lines ▸ member)).2.isComment
  refine ⟨?_, noComment⟩
  have kept : (Text.lines text).filter (fun line => !isComment line) = Text.lines text :=
    List.filter_eq_self.mpr fun line member => by rw [noComment line member]; rfl
  rw [dropComments, kept, lines, Text.join_splitOn]

end QueryNotebook.Settings
