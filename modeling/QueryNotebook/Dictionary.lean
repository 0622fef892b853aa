/-!
# Dictionaries

Values under names, in the order of the names, each name once.
-/

namespace QueryNotebook

/-- Values under names, sorted by name. -/
structure Dictionary (α : Type) where
  entries : List (String × α)
deriving DecidableEq, Repr

namespace Dictionary

variable {α : Type}

/-- No value at all. -/
def empty : Dictionary α := ⟨[]⟩

/-- The value under a name among sorted entries. -/
def find? (name : String) : List (String × α) → Option α
  | [] => none
  | entry :: rest => if entry.1 = name then some entry.2 else find? name rest

/-- Sorted entries with a value under a name. -/
def put (name : String) (value : α) : List (String × α) → List (String × α)
  | [] => [(name, value)]
  | entry :: rest =>
      if entry.1 = name then (name, value) :: rest
      else if name < entry.1 then (name, value) :: entry :: rest
      else entry :: put name value rest

/-- The value under a name. -/
def get? (dictionary : Dictionary α) (name : String) : Option α :=
  find? name dictionary.entries

/-- The dictionary with a value under a name, whether or not the name had one. -/
def insert (dictionary : Dictionary α) (name : String) (value : α) : Dictionary α :=
  ⟨put name value dictionary.entries⟩

/-- The number of names. -/
def size (dictionary : Dictionary α) : Nat :=
  dictionary.entries.length

@[simp] theorem get?_empty (name : String) : (empty : Dictionary α).get? name = none := rfl

private theorem find?_put_self (name : String) (value : α) (entries : List (String × α)) :
    find? name (put name value entries) = some value := by
  induction entries with
  | nil => simp [put, find?]
  | cons entry rest inductionHypothesis =>
      by_cases same : entry.1 = name
      · simp [put, find?, same]
      · by_cases before : name < entry.1 <;> simp [put, find?, same, before, inductionHypothesis]

private theorem find?_put_of_ne {name other : String} (different : other ≠ name) (value : α)
    (entries : List (String × α)) : find? other (put name value entries) = find? other entries := by
  induction entries with
  | nil => simp [put, find?, Ne.symm different]
  | cons entry rest inductionHypothesis =>
      by_cases same : entry.1 = name
      · simp [put, find?, same, Ne.symm different]
      · by_cases before : name < entry.1 <;>
          simp [put, find?, same, before, inductionHypothesis, Ne.symm different]

/-- An inserted value is found. -/
@[simp] theorem get?_insert_self (dictionary : Dictionary α) (name : String) (value : α) :
    (dictionary.insert name value).get? name = some value :=
  find?_put_self name value dictionary.entries

/-- Inserting a value changes nothing under the other names. -/
@[simp] theorem get?_insert_of_ne {name other : String} (different : other ≠ name)
    (dictionary : Dictionary α) (value : α) :
    (dictionary.insert name value).get? other = dictionary.get? other :=
  find?_put_of_ne different value dictionary.entries

end Dictionary

end QueryNotebook
