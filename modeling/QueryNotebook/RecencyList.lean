/-!
# Recency lists

A bounded list without repetitions, newest first.  Adding an entry that is already there moves it to
the front; adding a new one to a full list drops the oldest.

Entries are compared by `==` alone.  Of two equal entries the list keeps the one it has, so an entry
keeps the spelling with which it came in.
-/

namespace QueryNotebook

/-- A bounded list of entries, newest first. -/
structure RecencyList (α : Type) where
  entries : List α
  capacity : Nat
deriving Repr

namespace RecencyList

variable {α : Type}

/-- The capacity of a list for which none is chosen. -/
def defaultCapacity : Nat := 9

/-- A list without entries.  No room is reserved for those to come, so that a capacity too large to
be reserved, which no list can be made with, is left out and counts like any other. -/
def empty (capacity : Nat) : RecencyList α :=
  ⟨[], capacity⟩

/-- Entries in order, without those already kept, until the capacity is reached. -/
def keepFirst [BEq α] (capacity : Nat) (kept : List α) : List α → List α
  | [] => kept
  | entry :: rest =>
      if capacity ≤ kept.length then kept
      else if kept.contains entry then keepFirst capacity kept rest
      else keepFirst capacity (kept ++ [entry]) rest

/-- The list of the first distinct entries of an ordered collection, newest first.  As for the empty
list, no room is reserved up to the capacity. -/
def ofList [BEq α] (capacity : Nat) (entries : List α) : RecencyList α :=
  ⟨keepFirst capacity [] entries, capacity⟩

/-- The list after an entry was used, and the entry that had to leave. -/
def add [BEq α] (list : RecencyList α) (entry : α) : RecencyList α × Option α :=
  match list.entries.find? fun known => known == entry with
  | some known =>
      let others := list.entries.eraseP fun other => other == entry
      ({ list with entries := known :: others }, none)
  | none =>
      let grown := entry :: list.entries
      if list.capacity < grown.length then
        ({ list with entries := grown.dropLast }, grown.getLast?)
      else ({ list with entries := grown }, none)

/-- The list without an entry, and whether it was there. -/
def remove [BEq α] (list : RecencyList α) (entry : α) : RecencyList α × Bool :=
  let kept := list.entries.filter fun known => !(known == entry)
  ({ list with entries := kept }, kept.length != list.entries.length)

/-- The entry is in the list. -/
def contains [BEq α] (list : RecencyList α) (entry : α) : Bool :=
  list.entries.contains entry

/-- The list without its entries. -/
def clear (list : RecencyList α) : RecencyList α :=
  { list with entries := [] }

/-- The entry used last. -/
def newest? (list : RecencyList α) : Option α :=
  list.entries.head?

/-- The number of entries. -/
def size (list : RecencyList α) : Nat :=
  list.entries.length

/-- There is no entry. -/
def isEmpty (list : RecencyList α) : Bool :=
  list.entries.isEmpty

@[simp] theorem entries_empty (capacity : Nat) :
    (empty capacity : RecencyList α).entries = [] := rfl

@[simp] theorem capacity_empty (capacity : Nat) :
    (empty capacity : RecencyList α).capacity = capacity := rfl

@[simp] theorem capacity_ofList [BEq α] (capacity : Nat) (entries : List α) :
    (ofList capacity entries).capacity = capacity := rfl

@[simp] theorem entries_clear (list : RecencyList α) : list.clear.entries = [] := rfl

/-- Adding never changes the capacity. -/
@[simp] theorem capacity_add [BEq α] (list : RecencyList α) (entry : α) :
    (list.add entry).1.capacity = list.capacity := by
  unfold add
  split
  · rfl
  · dsimp only
    split <;> rfl

/-- Removing keeps exactly the entries that differ. -/
@[simp] theorem entries_remove [BEq α] (list : RecencyList α) (entry : α) :
    (list.remove entry).1.entries = list.entries.filter fun known => !(known == entry) := rfl

end RecencyList

end QueryNotebook
