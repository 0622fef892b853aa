import Mathlib.Data.List.Infix
import QueryNotebook.Command
import QueryNotebook.Proofs.Text.Piece

/-!
# Commands that answer a query

Which commands a query finds, said of one command at a time: those whose title contains the query
when both are in lower case.  Blanks around the query do not count, and a blank query is answered by
every command.
-/

namespace QueryNotebook

/-- A text occurs in another when it is a contiguous part of it. -/
theorem Text.occursIn_iff {needle text : List Char} :
    occursIn needle text = true ↔ needle <:+: text := by
  induction text with
  | nil => simp [occursIn]
  | cons c rest inductionHypothesis =>
      rw [occursIn, Bool.or_eq_true, List.isPrefixOf_iff_prefix, inductionHypothesis,
        List.infix_cons_iff]

namespace Command

/-- The title of a command contains a query, or the query is blank. -/
def Answers (command : Command) (query : String) : Prop :=
  Text.allBlank query.toList = true ∨
    Text.lower (Text.trim query.toList) <:+: Text.lower command.title.toList

instance (command : Command) (query : String) : Decidable (command.Answers query) :=
  inferInstanceAs (Decidable (_ ∨ _))

/-- The commands that match a query are those that answer it, in their order. -/
theorem matching_eq_filter (commands : List Command) (query : String) :
    matching commands query = commands.filter fun command => command.Answers query := by
  unfold matching
  dsimp only
  split
  · next nothing =>
    have empty : Text.lower (Text.trim query.toList) = [] := List.isEmpty_iff.mp nothing
    refine (List.filter_eq_self.mpr fun command _ => ?_).symm
    simp [Answers, empty]
  · next something =>
    have solid : Text.allBlank query.toList = false := by
      rw [← Bool.not_eq_true, ← Text.trim_eq_nil_iff]
      intro nothing
      simp [nothing] at something
    refine List.filter_congr fun command _ => ?_
    simp [Answers, solid, ← Text.occursIn_iff]

end Command

end QueryNotebook
