/-!
# Cutting and joining

Cutting a text at a separator, at its first or last occurrence or at all of them, into lines, and
putting pieces together again.  Splitting at every separator is the core library's `List.splitOn`,
whose result is never empty.
-/

namespace QueryNotebook.Text

/-- The parts before and after the first occurrence of a separator. -/
def splitFirst? (separator : Char) : List Char → Option (List Char × List Char)
  | [] => none
  | c :: rest =>
      if c = separator then some ([], rest)
      else (splitFirst? separator rest).map fun parts => (c :: parts.1, parts.2)

/-- The parts before and after the last occurrence of a separator. -/
def splitLast? (separator : Char) : List Char → Option (List Char × List Char)
  | [] => none
  | c :: rest =>
      match splitLast? separator rest with
      | some parts => some (c :: parts.1, parts.2)
      | none => if c = separator then some ([], rest) else none

/-- The part after the last occurrence of a separator, or the whole text without one. -/
def afterLast (separator : Char) (text : List Char) : List Char :=
  match splitLast? separator text with
  | some parts => parts.2
  | none => text

/-- What remains of the text when it starts with the given part. -/
def dropStart? : List Char → List Char → Option (List Char)
  | [], text => some text
  | _ :: _, [] => none
  | c :: start, d :: text => if c = d then dropStart? start text else none

/-- What remains of the text when it ends with the given part. -/
def dropEnd? (ending text : List Char) : Option (List Char) :=
  (dropStart? ending.reverse text.reverse).map List.reverse

/-- A line without the carriage return that may end it. -/
def dropReturn (line : List Char) : List Char :=
  (dropEnd? ['\r'] line).getD line

/-- The lines of a text.  A line ends at a line feed or at a carriage return and a line feed; what
follows the last line feed is a line unless it is empty. -/
def lines (text : List Char) : List (List Char) :=
  let pieces := text.splitOn '\n'
  let complete := pieces.dropLast.map dropReturn
  match pieces.getLast? with
  | some (c :: rest) => complete ++ [c :: rest]
  | _ => complete

/-- The pieces with the separator between each two. -/
def join (separator : Char) (pieces : List (List Char)) : List Char :=
  [separator].intercalate pieces

/-- The text with the first occurrence of a part replaced, if there is one. -/
def replaceFirst (part replacement : List Char) : List Char → List Char
  | [] => if part.isEmpty then replacement else []
  | c :: rest =>
      match dropStart? part (c :: rest) with
      | some after => replacement ++ after
      | none => c :: replaceFirst part replacement rest

/-- A start is dropped exactly when the text begins with it. -/
theorem dropStart?_eq_some_iff {start text rest : List Char} :
    dropStart? start text = some rest ↔ text = start ++ rest := by
  induction start generalizing text with
  | nil => simp [dropStart?, eq_comm]
  | cons c start inductionHypothesis =>
      cases text with
      | nil => simp [dropStart?]
      | cons d text =>
          by_cases same : c = d
          · simp [dropStart?, same, inductionHypothesis]
          · simp [dropStart?, same, Ne.symm same]

/-- An ending is dropped exactly when the text ends with it. -/
theorem dropEnd?_eq_some_iff {ending text rest : List Char} :
    dropEnd? ending text = some rest ↔ text = rest ++ ending := by
  simp only [dropEnd?, Option.map_eq_some_iff, dropStart?_eq_some_iff]
  constructor
  · rintro ⟨turned, equal, rfl⟩
    simpa using congrArg List.reverse equal
  · rintro rfl
    exact ⟨rest.reverse, by simp, by simp⟩

/-- A cut at the first separator loses nothing, and the part before it holds no separator. -/
theorem splitFirst?_eq_some {separator : Char} {text before after : List Char}
    (cut : splitFirst? separator text = some (before, after)) :
    text = before ++ separator :: after ∧ separator ∉ before := by
  induction text generalizing before with
  | nil => simp [splitFirst?] at cut
  | cons c rest inductionHypothesis =>
      by_cases same : c = separator
      · simp [splitFirst?, same] at cut
        simp [cut.1, cut.2, same]
      · simp [splitFirst?, same] at cut
        obtain ⟨inner, found, rfl⟩ := cut
        have parts := inductionHypothesis found
        simp [← parts.1, parts.2, Ne.symm same]

/-- Without a cut there is no separator. -/
theorem splitFirst?_eq_none_iff {separator : Char} {text : List Char} :
    splitFirst? separator text = none ↔ separator ∉ text := by
  induction text with
  | nil => simp [splitFirst?]
  | cons c rest inductionHypothesis =>
      by_cases same : c = separator
      · simp [splitFirst?, same]
      · simp [splitFirst?, same, inductionHypothesis, Ne.symm same]

end QueryNotebook.Text
