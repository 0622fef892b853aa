import QueryNotebook.Proofs.Command.Matching
import QueryNotebook.Proofs.Text.LowerCase

/-!
# Finding a command by a piece of its title

Title and query are lower-cased apart from each other, and the form of a capital sigma depends on
the letters beside it.  So a piece of a title, taken as a query, finds the command unless the piece
cuts a word beside a capital sigma.  A query that is typed letter by letter goes through such pieces.
-/

namespace QueryNotebook.Command

/-- A piece of a title whose capital sigmas keep their forms is answered by the command. -/
theorem answers_of_keepsForms {command : Command} {query : String} {start rest : List Char}
    (title : command.title.toList = start ++ query.toList ++ rest)
    (keeps : Text.KeepsForms start query.toList rest) : command.Answers query := by
  obtain ⟨left, right, blankLeft, blankRight, parts⟩ := Text.exists_trim query.toList
  rw [parts] at keeps
  have inTitle := (keeps.of_blanks blankLeft blankRight).lower_in_place
  have whole : command.title.toList = start ++ left ++ Text.trim query.toList ++ (right ++ rest) := by
    rw [title]
    nth_rewrite 1 [parts]
    simp only [List.append_assoc]
  rw [← whole] at inTitle
  exact .inr inTitle

/-- A command is found by every piece of its title, unless a capital sigma of the piece takes another
form in the piece alone than in the title; such a sigma begins or ends the piece, characters that a
word passes over aside. -/
theorem matching_finds_pieces {commands : List Command} {command : Command}
    (listed : command ∈ commands) {query : String} {start rest : List Char}
    (title : command.title.toList = start ++ query.toList ++ rest) :
    command ∈ matching commands query ∨
      ∃ left right, query.toList = left ++ 'Σ' :: right ∧
        Text.endsWord left.reverse right ≠
          Text.endsWord (left.reverse ++ start.reverse) (right ++ rest) ∧
        (left.all Text.isCaseIgnorable = true ∨ right.all Text.isCaseIgnorable = true) := by
  by_cases keeps : Text.KeepsForms start query.toList rest
  · refine .inl ?_
    rw [matching_eq_filter, List.mem_filter]
    exact ⟨listed, decide_eq_true (answers_of_keepsForms title keeps)⟩
  · refine .inr ?_
    simp only [Text.KeepsForms, not_forall] at keeps
    obtain ⟨left, right, parts, changes⟩ := keeps
    refine ⟨left, right, parts, changes, ?_⟩
    simpa using Text.all_isCaseIgnorable_of_endsWord_ne changes

/-- A command with a capital sigma within its title. -/
def offers : Command :=
  ⟨"ΠΡΟΣΦΟΡΑ", "", none, none, ⟨.registered 0, .action "offers"⟩⟩

/-- A piece that goes on behind the sigma finds the command. -/
theorem matching_finds_pieces_around_sigma : offers ∈ matching [offers] "ΡΟΣΦ" := by
  rcases matching_finds_pieces (List.mem_singleton_self offers)
      (show offers.title.toList = ['Π'] ++ "ΡΟΣΦ".toList ++ "ΟΡΑ".toList by decide +kernel)
    with found | ⟨left, right, parts, changes, -⟩
  · exact found
  · obtain ⟨rfl, rfl⟩ : left = ['Ρ', 'Ο'] ∧ right = ['Φ'] := by
      simpa [List.cons_eq_append_iff] using parts
    exact absurd (by decide +kernel) changes

/-- A piece that ends in the sigma, the beginning of the title, does not find the command. -/
theorem matching_misses_beginning :
    "ΠΡΟΣ".toList <+: offers.title.toList ∧ offers ∉ matching [offers] "ΠΡΟΣ" := by
  have unanswered : ¬ offers.Answers "ΠΡΟΣ" := by decide +kernel
  refine ⟨by decide +kernel, ?_⟩
  rw [matching_eq_filter, List.mem_filter, decide_eq_true_eq]
  exact fun found => unanswered found.2

end QueryNotebook.Command
