import QueryNotebook.Proofs.Json.Objects
import QueryNotebook.Proofs.Text.Joined

/-!
# Printed objects line by line

An object whose values take one line each is printed with every member on a line of its own.  Each
line begins, after its indentation, with a quote or a brace, and holds no control character.
-/

namespace QueryNotebook.Json

/-- A line of a printed object. -/
structure PrintedLine (line : List Char) : Prop where
  begins : ∃ indentation c rest, line = List.replicate indentation ' ' ++ c :: rest ∧
    (c = '\x22' ∨ c = '\x7b' ∨ c = '\x7d')
  printable : ∀ c ∈ line, 32 ≤ c.toNat

/-- A printed line is one line. -/
theorem PrintedLine.notMem_lineFeed {line : List Char} (printed : PrintedLine line) :
    '\n' ∉ line := by
  intro member
  have control := printed.printable '\n' member
  contradiction

theorem PrintedLine.notMem_return {line : List Char} (printed : PrintedLine line) :
    '\r' ∉ line := by
  intro member
  have control := printed.printable '\r' member
  contradiction

theorem PrintedLine.append {line rest : List Char} (printed : PrintedLine line)
    (printable : ∀ c ∈ rest, 32 ≤ c.toNat) : PrintedLine (line ++ rest) where
  begins := by
    obtain ⟨indentation, c, others, rfl, first⟩ := printed.begins
    exact ⟨indentation, c, others ++ rest, by simp, first⟩
  printable c member := by
    rcases List.mem_append.mp member with early | late
    · exact printed.printable c early
    · exact printable c late

/-- A brace on a line of its own. -/
theorem printedLine_brace (level : Nat) {brace : Char} (isBrace : brace = '\x7b' ∨ brace = '\x7d') :
    PrintedLine (List.replicate (2 * level) ' ' ++ [brace]) where
  begins := ⟨_, brace, [], rfl, .inr isBrace⟩
  printable c member := by
    rcases List.mem_append.mp member with indentation | last
    · rw [(List.mem_replicate.mp indentation).2]
      decide
    · rw [List.mem_singleton.mp last]
      rcases isBrace with rfl | rfl <;> decide

/-- A name at the beginning of a line. -/
theorem printedLine_name (level : Nat) (name : List Char) :
    PrintedLine (List.replicate (2 * level) ' ' ++ stringText name) where
  begins := ⟨_, _, _, rfl, .inl rfl⟩
  printable c member := by
    rcases List.mem_append.mp member with indentation | inside
    · rw [(List.mem_replicate.mp indentation).2]
      decide
    · exact le_of_mem_stringText inside

/-- A value whose printed form has no control characters, and so no line breaks. -/
def TakesOneLine (level : Nat) (value : Datum) : Prop :=
  ∀ c ∈ indented level value, 32 ≤ c.toNat

/-- A member on a line of its own. -/
theorem printedLine_member {level : Nat} (name : String) {value : Datum}
    (oneLine : TakesOneLine level value) :
    PrintedLine (List.replicate (2 * level) ' ' ++ stringText name.toList ++
      ':' :: ' ' :: indented level value) := by
  apply (printedLine_name level name.toList).append
  intro c member
  rcases List.mem_cons.mp member with rfl | member
  · decide
  rcases List.mem_cons.mp member with rfl | member
  · decide
  · exact oneLine c member

/-- Where a line has begun, the members after it and the closing brace go on line by line. -/
theorem printedLine_of_mem_members {level : Nat} {members : List (String × Datum)}
    (oneLine : ∀ member ∈ members, TakesOneLine (level + 1) member.2) {line piece : List Char}
    (printed : PrintedLine line)
    (inside : piece ∈ (line ++ (indentedMembers (level + 1) members ++ newLine level ++
      ['\x7d'])).splitOn '\n') : PrintedLine piece := by
  induction members generalizing line with
  | nil =>
      have last : PrintedLine (List.replicate (2 * level) ' ' ++ ['\x7d']) :=
        printedLine_brace level (.inr rfl)
      simp only [indentedMembers, newLine, List.nil_append, List.cons_append] at inside
      rw [Text.splitOn_append_cons printed.notMem_lineFeed,
        Text.splitOn_of_notMem last.notMem_lineFeed] at inside
      rcases List.mem_cons.mp inside with rfl | inside
      · exact printed
      · exact List.mem_singleton.mp inside ▸ last
  | cons member others inductionHypothesis =>
      obtain ⟨first, later⟩ := List.forall_mem_cons.mp oneLine
      -- The comma still belongs to the line that has begun; the member begins the next one.
      have ended : PrintedLine (line ++ [',']) := printed.append (by simp)
      have parts : line ++ (indentedMembers (level + 1) (member :: others) ++ newLine level ++
          ['\x7d']) = (line ++ [',']) ++ '\n' ::
            ((List.replicate (2 * (level + 1)) ' ' ++ stringText member.1.toList ++
              ':' :: ' ' :: indented (level + 1) member.2) ++
                (indentedMembers (level + 1) others ++ newLine level ++ ['\x7d'])) := by
        simp [indentedMembers, newLine]
      rw [parts, Text.splitOn_append_cons ended.notMem_lineFeed, List.mem_cons] at inside
      rcases inside with rfl | inside
      · exact ended
      · exact inductionHypothesis later (printedLine_member member.1 first) inside

/-- Every line of a printed object is one, if the values take one line each. -/
theorem printedLine_of_mem {members : List (String × Datum)}
    (oneLine : ∀ member ∈ members, TakesOneLine 1 member.2) {line : List Char}
    (inside : line ∈ (indented 0 (.object members)).splitOn '\n') : PrintedLine line := by
  cases members with
  | nil =>
      have only : PrintedLine ['\x7b', '\x7d'] :=
        (printedLine_brace 0 (.inl rfl)).append (by simp)
      rw [indented, Text.splitOn_of_notMem only.notMem_lineFeed] at inside
      exact List.mem_singleton.mp inside ▸ only
  | cons member others =>
      obtain ⟨first, later⟩ := List.forall_mem_cons.mp oneLine
      have opened : PrintedLine ['\x7b'] := printedLine_brace 0 (.inl rfl)
      have parts : indented 0 (.object (member :: others)) = ['\x7b'] ++ '\n' ::
          ((List.replicate (2 * (0 + 1)) ' ' ++ stringText member.1.toList ++
            ':' :: ' ' :: indented (0 + 1) member.2) ++
              (indentedMembers (0 + 1) others ++ newLine 0 ++ ['\x7d'])) := by
        simp [indented, newLine]
      rw [parts, Text.splitOn_append_cons opened.notMem_lineFeed, List.mem_cons] at inside
      rcases inside with rfl | inside
      · exact opened
      · exact printedLine_of_mem_members later (printedLine_member member.1 first) inside

end QueryNotebook.Json
