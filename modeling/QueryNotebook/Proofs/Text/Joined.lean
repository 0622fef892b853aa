import QueryNotebook.Text.Split

/-!
# Cutting at every separator

A text that is cut at every separator falls into pieces without separators, and the pieces with the
separator between them are the text again.  No other pieces without separators are: a list of them
is cut out of the text that joins it, unless it is empty, since the empty text has one empty piece.
-/

namespace QueryNotebook.Text

variable {separator : Char}

/-- The pieces of a text join to the text. -/
theorem join_splitOn (separator : Char) (text : List Char) :
    join separator (text.splitOn separator) = text :=
  List.intercalate_splitOn separator

/-- One more piece is joined by one more separator. -/
theorem join_concat {pieces : List (List Char)} (some : pieces ≠ []) (last : List Char) :
    join separator (pieces ++ [last]) = join separator pieces ++ separator :: last := by
  induction pieces with
  | nil => contradiction
  | cons piece rest inductionHypothesis =>
      cases rest with
      | nil => simp [join, List.intercalate_cons_cons]
      | cons next rest =>
          have later := inductionHypothesis (List.cons_ne_nil next rest)
          simp only [join, List.cons_append, List.intercalate_cons_cons] at later ⊢
          rw [later]
          simp only [List.append_assoc]

/-- With one more separator in front, every piece has a separator in front of it. -/
theorem cons_join {pieces : List (List Char)} (some : pieces ≠ []) :
    separator :: join separator pieces = pieces.flatMap fun piece => separator :: piece := by
  induction pieces with
  | nil => contradiction
  | cons piece rest inductionHypothesis =>
      cases rest with
      | nil => simp [join]
      | cons next rest =>
          have later := inductionHypothesis (List.cons_ne_nil next rest)
          rw [List.flatMap_cons, ← later]
          simp [join, List.intercalate_cons_cons]

/-- Pieces without separators are cut out of the text that joins them. -/
theorem splitOn_join {pieces : List (List Char)} (some : pieces ≠ [])
    (clean : ∀ piece ∈ pieces, separator ∉ piece) :
    (join separator pieces).splitOn separator = pieces :=
  List.splitOn_intercalate separator clean some

/-- A character before a text goes to the first piece of the text. -/
theorem splitOn_cons_of_ne {c : Char} (other : c ≠ separator) {text : List Char} {first : List Char}
    {pieces : List (List Char)} (cut : text.splitOn separator = first :: pieces) :
    (c :: text).splitOn separator = (c :: first) :: pieces := by
  rw [List.splitOn_cons_eq_if_modifyHead, if_neg (by simpa using other), cut]
  rfl

/-- A separator before a text cuts off an empty piece. -/
theorem splitOn_cons_self (text : List Char) :
    (separator :: text).splitOn separator = [] :: text.splitOn separator := by
  rw [List.splitOn_cons_eq_if_modifyHead, if_pos BEq.rfl]

/-- A text without separators is one piece. -/
theorem splitOn_of_notMem {text : List Char} (clean : separator ∉ text) :
    text.splitOn separator = [text] := by
  simpa [join] using splitOn_join (List.cons_ne_nil text []) (by simpa using clean)

/-- The first separator cuts off the first piece. -/
theorem splitOn_append_cons {piece : List Char} (clean : separator ∉ piece) (text : List Char) :
    (piece ++ separator :: text).splitOn separator = piece :: text.splitOn separator := by
  induction piece with
  | nil => exact splitOn_cons_self text
  | cons c piece inductionHypothesis =>
      rw [List.mem_cons, not_or] at clean
      exact splitOn_cons_of_ne (Ne.symm clean.1) (inductionHypothesis clean.2)

/-- No piece holds the separator. -/
theorem notMem_of_mem_splitOn {text piece : List Char} (member : piece ∈ text.splitOn separator) :
    separator ∉ piece := by
  induction text generalizing piece with
  | nil =>
      obtain rfl : piece = [] := by simpa using member
      exact List.not_mem_nil
  | cons c rest inductionHypothesis =>
      by_cases same : c = separator
      · rw [same, splitOn_cons_self, List.mem_cons] at member
        rcases member with rfl | later
        · exact List.not_mem_nil
        · exact inductionHypothesis later
      · obtain ⟨first, pieces, cut⟩ :=
          List.exists_cons_of_ne_nil (List.splitOn_ne_nil separator rest)
        rw [cut] at inductionHypothesis
        rw [splitOn_cons_of_ne same cut, List.mem_cons] at member
        rcases member with rfl | later
        · have clean := inductionHypothesis (List.mem_cons_self ..)
          simp [clean, Ne.symm same]
        · exact inductionHypothesis (List.mem_cons_of_mem first later)

/-- A character other than the separator is in the text when it is in one of the pieces. -/
theorem mem_iff_exists_mem_splitOn {c : Char} (other : c ≠ separator) {text : List Char} :
    c ∈ text ↔ ∃ piece ∈ text.splitOn separator, c ∈ piece := by
  induction text with
  | nil => simp
  | cons d rest inductionHypothesis =>
      rw [List.mem_cons, inductionHypothesis]
      by_cases same : d = separator
      · rw [same, splitOn_cons_self]
        simp [other]
      · obtain ⟨first, pieces, cut⟩ :=
          List.exists_cons_of_ne_nil (List.splitOn_ne_nil separator rest)
        rw [splitOn_cons_of_ne same cut, cut]
        simp [or_assoc]

/-- The pieces hold as many characters of a kind as the text, unless the separator is of the kind. -/
theorem countP_flatten_splitOn {counted : Char → Bool} (other : counted separator = false)
    (text : List Char) : (text.splitOn separator).flatten.countP counted = text.countP counted := by
  induction text with
  | nil => rfl
  | cons c rest inductionHypothesis =>
      by_cases same : c = separator
      · rw [same, splitOn_cons_self]
        simp [other, inductionHypothesis]
      · obtain ⟨first, pieces, cut⟩ :=
          List.exists_cons_of_ne_nil (List.splitOn_ne_nil separator rest)
        rw [cut, List.flatten_cons] at inductionHypothesis
        rw [splitOn_cons_of_ne same cut, List.flatten_cons, List.cons_append, List.countP_cons,
          inductionHypothesis, List.countP_cons]

end QueryNotebook.Text
