import QueryNotebook.Number.Shortest

/-!
# Plain data

A tree of plain values, as configuration files and command output hold them.  JSON and TOML are two
notations for such trees; both keep the members of an object in the order in which they stand.
-/

namespace QueryNotebook

/-- A plain value. -/
inductive Datum where
  | null
  | boolean (value : Bool)
  | integer (value : Int)
  | number (value : Binary64)
  | text (value : String)
  | array (items : List Datum)
  | object (members : List (String × Datum))
deriving Inhabited

namespace Datum

/-- A text, or null in its absence. -/
def ofText? : Option String → Datum
  | some value => .text value
  | none => .null

/-- A natural number. -/
def ofNat (value : Nat) : Datum :=
  .integer (value : Int)

/-- The value of the first member of the given name. -/
def member? (name : String) : List (String × Datum) → Option Datum
  | [] => none
  | entry :: rest => if entry.1 = name then some entry.2 else member? name rest

@[simp] theorem ofText?_none : ofText? none = .null := rfl

@[simp] theorem ofText?_some (value : String) : ofText? (some value) = .text value := rfl

end Datum

end QueryNotebook
