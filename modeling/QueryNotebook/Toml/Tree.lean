import QueryNotebook.Datum

/-!
# TOML documents

The values of a TOML document and the rules by which its tables grow.  A table remembers how it was
written, because that decides who may still add to it: a table in braces is closed, a table with a
header of its own takes its entries below that header only, and dotted keys add to tables that
dotted keys made.

This module contains no notation; it is told of headers and entries in their order.
-/

namespace QueryNotebook.Toml

/-- How a table was written. -/
inductive Role where
  /-- The document itself, or a table with a header of its own. -/
  | header
  /-- A table that only the header of an inner table has passed through. -/
  | passed
  /-- A table that a dotted key has passed through. -/
  | dotted
  /-- A table in braces. -/
  | braces
deriving DecidableEq, Repr

/-- A value of a document. -/
inductive Value where
  | text (value : String)
  | integer (value : Int)
  | number (value : Binary64)
  | boolean (value : Bool)
  | dateTime (written : String)
  | array (items : List Value)
  | table (role : Role) (entries : List (String × Value))
  /-- The tables of a repeated double header. -/
  | tables (all : List (List (String × Value)))

/-- The entries of a table in the order in which they were first named. -/
abbrev Entries := List (String × Value)

namespace Entries

/-- The value under a name. -/
def value? (name : String) : Entries → Option Value
  | [] => none
  | entry :: rest => if entry.1 = name then some entry.2 else value? name rest

/-- The entries with another value under a name that they hold. -/
def replace (name : String) (value : Value) : Entries → Entries
  | [] => []
  | entry :: rest =>
      if entry.1 = name then (name, value) :: rest else entry :: replace name value rest

/-- The entries without a name. -/
def erase (name : String) (entries : Entries) : Entries :=
  entries.filter fun entry => entry.1 != name

@[simp] theorem value?_nil (name : String) : value? name [] = none := rfl

/-- A change of the table that a path leads to, with what the change reports.  Tables that the path
names first are made on the way.  A header's path may enter every table but one in braces; a dotted
key may not enter a table with a header either.  Both enter the last of repeated tables. -/
def changeAt {α : Type} (dotted : Bool) (change : Role → Entries → Option (α × Entries)) :
    List String → Role → Entries → Option (α × Entries)
  | [], role, entries => change role entries
  | name :: path, _, entries =>
      match entries.value? name with
      | none =>
          let role := if dotted then Role.dotted else Role.passed
          (changeAt dotted change path role []).map fun changed =>
            (changed.1, entries ++ [(name, .table role changed.2)])
      | some (.table role inner) =>
          if role = .braces ∨ (dotted ∧ role = .header) then none
          else
            (changeAt dotted change path role inner).map fun changed =>
              (changed.1, entries.replace name (.table role changed.2))
      | some (.tables all) =>
          match all.getLast? with
          | none => none
          | some last =>
              (changeAt dotted change path .header last).map fun changed =>
                (changed.1, entries.replace name (.tables (all.dropLast ++ [changed.2])))
      | some _ => none

/-- The entries with one more, under a dotted key whose last part is `name`.  The name must be new,
and a dotted key may add only to a table that dotted keys made. -/
def insert (path : List String) (name : String) (value : Value) (entries : Entries) :
    Option Entries :=
  let add (role : Role) (inner : Entries) : Option (Unit × Entries) :=
    if (role == .dotted) == path.isEmpty then none
    else if (inner.value? name).isSome then none
    else some ((), inner ++ [(name, value)])
  (changeAt true add path .header entries).map Prod.snd

end Entries

/-! ## Plain data -/

/-- The name under which a date or time stands in plain data. -/
def dateTimeKey : String := "$__toml_private_datetime"

mutual

/-- A value as plain data. -/
def Value.datum : Value → Datum
  | .text value => .text value
  | .integer value => .integer value
  | .number value => .number value
  | .boolean value => .boolean value
  | .dateTime written => .object [(dateTimeKey, .text written)]
  | .array items => .array (itemData items)
  | .table _ entries => .object (entryData entries)
  | .tables all => .array (tableData all)

/-- The items of an array as plain data. -/
def itemData : List Value → List Datum
  | [] => []
  | item :: rest => item.datum :: itemData rest

/-- The entries of a table as plain data. -/
def entryData : List (String × Value) → List (String × Datum)
  | [] => []
  | (name, value) :: rest => (name, value.datum) :: entryData rest

/-- Repeated tables as plain data. -/
def tableData : List (List (String × Value)) → List Datum
  | [] => []
  | entries :: rest => .object (entryData entries) :: tableData rest

end

/-! ## Documents in progress -/

/-- A document while its statements are read: the tables that are finished, and the one that takes
entries now, with the place that its header names. -/
structure Draft where
  finished : Entries
  current : Entries
  place : List String
  isElement : Bool

namespace Draft

/-- The document before its first statement. -/
def start : Draft where
  finished := []
  current := []
  place := []
  isElement := false

/-- The tables of a document once no entry can be added to the current one: it is put in its
place. -/
def finish (draft : Draft) : Option Entries :=
  match draft.place.getLast? with
  | none => some draft.current
  | some name =>
      let store (_ : Role) (entries : Entries) : Option (Unit × Entries) :=
        match draft.isElement, entries.value? name with
        | true, some (.tables all) =>
            some ((), entries.replace name (.tables (all ++ [draft.current])))
        | false, none => some ((), entries ++ [(name, .table .header draft.current)])
        | _, _ => none
      (Entries.changeAt false store draft.place.dropLast .header draft.finished).map Prod.snd

/-- An entry of the current table. -/
def entry (path : List String) (name : String) (value : Value) (draft : Draft) : Option Draft :=
  (draft.current.insert path name value).map fun current => { draft with current }

/-- A header in single brackets: a new table, or one that headers have only passed through. -/
def openTable (place : List String) (draft : Draft) : Option Draft := do
  let finished ← draft.finish
  let name ← place.getLast?
  let take (_ : Role) (entries : Entries) : Option (Entries × Entries) :=
    match entries.value? name with
    | none => some ([], entries)
    | some (.table .passed inner) => some (inner, entries.erase name)
    | some _ => none
  let (current, remaining) ← Entries.changeAt false take place.dropLast .header finished
  pure { finished := remaining, current, place, isElement := false }

/-- A header in double brackets: one more of the repeated tables of a name. -/
def openElement (place : List String) (draft : Draft) : Option Draft := do
  let finished ← draft.finish
  let name ← place.getLast?
  let prepare (_ : Role) (entries : Entries) : Option (Unit × Entries) :=
    match entries.value? name with
    | none => some ((), entries ++ [(name, .tables [])])
    | some (.tables _) => some ((), entries)
    | some _ => none
  let ((), prepared) ← Entries.changeAt false prepare place.dropLast .header finished
  pure { finished := prepared, current := [], place, isElement := true }

end Draft

end QueryNotebook.Toml
