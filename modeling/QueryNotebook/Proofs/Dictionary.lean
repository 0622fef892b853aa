import Mathlib.Logic.Function.Basic
import QueryNotebook.Dictionary

/-!
# Dictionaries in order

A dictionary is a map from names to values.  Its names stand in order, whatever values are put into
it, and a name behind all others comes last.
-/

namespace QueryNotebook.Dictionary

variable {α : Type}

/-- Inserting a value updates the map. -/
theorem get?_insert (dictionary : Dictionary α) (name : String) (value : α) :
    (dictionary.insert name value).get? = Function.update dictionary.get? name (some value) := by
  funext other
  by_cases same : other = name
  · subst same
    simp
  · simp [same]

/-- The names stand in order, each of them once. -/
def Sorted (dictionary : Dictionary α) : Prop :=
  dictionary.entries.Pairwise fun earlier later => earlier.1 < later.1

theorem sorted_empty : (empty : Dictionary α).Sorted :=
  .nil

/-- Putting a value brings in no name but its own. -/
theorem mem_put {name : String} {value : α} {entries : List (String × α)} {entry : String × α}
    (member : entry ∈ put name value entries) : entry.1 = name ∨ entry ∈ entries := by
  induction entries with
  | nil => exact .inl (by rw [List.mem_singleton.mp member])
  | cons first rest inductionHypothesis =>
      unfold put at member
      split at member
      · rcases List.mem_cons.mp member with rfl | later
        · exact .inl rfl
        · exact .inr (List.mem_cons_of_mem first later)
      · split at member
        · rcases List.mem_cons.mp member with rfl | later
          · exact .inl rfl
          · exact .inr later
        · rcases List.mem_cons.mp member with rfl | later
          · exact .inr (List.mem_cons_self ..)
          · exact (inductionHypothesis later).imp id (List.mem_cons_of_mem first)

/-- Putting a value keeps the names in order. -/
theorem Sorted.insert {dictionary : Dictionary α} (sorted : dictionary.Sorted) (name : String)
    (value : α) : (dictionary.insert name value).Sorted := by
  obtain ⟨entries⟩ := dictionary
  unfold Sorted Dictionary.insert at *
  induction entries with
  | nil => exact List.pairwise_singleton _ _
  | cons first rest inductionHypothesis =>
      obtain ⟨before, later⟩ := List.pairwise_cons.mp sorted
      simp only [put]
      split
      · next same => exact List.pairwise_cons.mpr ⟨same ▸ before, later⟩
      · next other =>
        split
        · next earlier =>
          refine List.pairwise_cons.mpr ⟨?_, sorted⟩
          intro entry member
          rcases List.mem_cons.mp member with rfl | member
          · exact earlier
          · exact String.lt_trans earlier (before entry member)
        · next notEarlier =>
          have behind : first.1 < name :=
            Std.lt_of_le_of_ne (String.not_lt.mp notEarlier) other
          refine List.pairwise_cons.mpr ⟨?_, inductionHypothesis later⟩
          intro entry member
          rcases mem_put member with same | member
          · exact same ▸ behind
          · exact before entry member

/-- A name behind all others comes last. -/
theorem put_of_forall_lt {name : String} (value : α) {entries : List (String × α)}
    (behind : ∀ entry ∈ entries, entry.1 < name) :
    put name value entries = entries ++ [(name, value)] := by
  induction entries with
  | nil => rfl
  | cons first rest inductionHypothesis =>
      obtain ⟨early, later⟩ := List.forall_mem_cons.mp behind
      have other : first.1 ≠ name := by
        intro same
        exact String.lt_irrefl name (same ▸ early)
      rw [put, if_neg other, if_neg (String.lt_asymm early), inductionHypothesis later]
      rfl

end QueryNotebook.Dictionary
