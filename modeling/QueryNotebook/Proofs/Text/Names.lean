import QueryNotebook.Text.Case

/-!
# Names in letters of any case

A small vocabulary, such as that of the modifiers or of the drivers: every thing has a few names, and
a piece of text calls the thing whose name it is, whatever the case of its ASCII letters.  A reader
of such pieces follows the vocabulary if it gives exactly what they call.
-/

namespace QueryNotebook

/-- The names of things, in small letters. -/
structure NameTable (α : Type) where
  names : α → List String
  small : ∀ thing, ∀ name ∈ names thing, Text.asciiLower name.toList = name.toList

namespace NameTable

variable {α : Type} {table : NameTable α} {thing other : α} {piece : List Char}

/-- A piece of text is a name of the thing, in ASCII letters of any case. -/
def Calls (table : NameTable α) (thing : α) (piece : List Char) : Prop :=
  ∃ name ∈ table.names thing, Text.asciiEqual piece name.toList = true

instance (table : NameTable α) (thing : α) (piece : List Char) :
    Decidable (table.Calls thing piece) :=
  inferInstanceAs (Decidable (∃ name ∈ table.names thing, _))

/-- A piece calls a thing when the piece in small letters is listed for it. -/
theorem calls_iff :
    table.Calls thing piece ↔ String.ofList (Text.asciiLower piece) ∈ table.names thing := by
  constructor
  · rintro ⟨name, member, same⟩
    have lowered : Text.asciiLower piece = name.toList :=
      (beq_iff_eq.mp same).trans (table.small thing name member)
    rwa [lowered, String.ofList_toList]
  · intro member
    have small := table.small thing _ member
    exact ⟨_, member, beq_iff_eq.mpr (by rw [small, String.toList_ofList])⟩

/-- What calls a thing holds no sign that its names lack, as long as the sign has no case. -/
theorem Calls.notMem {c : Char} (calls : table.Calls thing piece) (sign : c.toLower = c)
    (clean : ∀ name ∈ table.names thing, c ∉ name.toList) : c ∉ piece := by
  intro inside
  refine clean _ (calls_iff.mp calls) ?_
  rw [String.toList_ofList]
  exact List.mem_map.mpr ⟨c, inside, sign⟩

/-- A reader of pieces gives exactly the thing that a piece calls. -/
def ReadBy (table : NameTable α) (read : List Char → Option α) : Prop :=
  ∀ piece thing, read piece = some thing ↔ table.Calls thing piece

variable {read : List Char → Option α}

/-- Nothing is read of the pieces that call nothing. -/
theorem ReadBy.eq_none_iff (readBy : table.ReadBy read) :
    read piece = none ↔ ∀ thing, ¬ table.Calls thing piece := by
  rw [Option.eq_none_iff_forall_ne_some]
  exact forall_congr' fun thing => not_congr (readBy piece thing)

/-- A piece calls one thing at most. -/
theorem ReadBy.unique (readBy : table.ReadBy read) (calls : table.Calls thing piece)
    (again : table.Calls other piece) : thing = other := by
  rw [← readBy] at calls again
  exact Option.some.inj (calls.symm.trans again)

end NameTable

end QueryNotebook
