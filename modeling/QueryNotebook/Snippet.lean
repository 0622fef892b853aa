import QueryNotebook.Datum.Fault
import QueryNotebook.Json.Printer
import QueryNotebook.Keystroke
import QueryNotebook.Messages

/-!
# Snippets

Reusable pieces of text, each with a title, and the library that holds them.  A library is read from
a TOML file or from plain JSON data; both give a tree of plain values, from which one decoder reads
the snippets.  The notations differ in few points, which `Habits` lists.
-/

namespace QueryNotebook

/-- A piece of text to insert. -/
structure Snippet where
  title : String
  body : String
  detail : Option String
  keystroke : Option Keystroke
deriving DecidableEq, Repr

/-- The snippets that the program offers, in order. -/
structure SnippetLibrary where
  snippets : List Snippet
deriving DecidableEq, Repr

namespace Snippet

/-- A snippet with neither detail nor keystroke. -/
def ofBody (title body : String) : Snippet where
  title := title
  body := body
  detail := none
  keystroke := none

/-- What a list shows beside the title: the detail, or else the first line of the body. -/
def summary (snippet : Snippet) : String :=
  match snippet.detail with
  | some detail => detail
  | none => String.ofList ((Text.lines snippet.body.toList).head?.getD [])

/-- A snippet as plain data, without the members that it lacks. -/
def datum (snippet : Snippet) : Datum :=
  let optional (name : String) : Option String → List (String × Datum)
    | some value => [(name, .text value)]
    | none => []
  .object
    ([("title", .text snippet.title), ("body", .text snippet.body)] ++
      optional "detail" snippet.detail ++
        optional "keystroke" (snippet.keystroke.map Keystroke.display))

end Snippet

/-! ## Decoding -/

/-- How a notation treats a record. -/
structure Habits where
  /-- Null stands for an absent optional member. -/
  nullIsAbsent : Bool
  /-- A record written as a sequence must not go on after its last field. -/
  limitsSequences : Bool

/-- The habits of JSON data. -/
def Habits.json : Habits where
  nullIsAbsent := true
  limitsSequences := true

/-- The habits of TOML data. -/
def Habits.toml : Habits where
  nullIsAbsent := false
  limitsSequences := false

namespace Snippet

/-- The text of an optional member. -/
def optionalText (habits : Habits) (value : Datum) : Except DataFault (Option String) :=
  match value, habits.nullIsAbsent with
  | .null, true => .ok none
  | other, _ => other.asText.map some

/-- The keystroke of an optional member. -/
def optionalKeystroke (habits : Habits) (value : Datum) : Except DataFault (Option Keystroke) := do
  match ← optionalText habits value with
  | none => pure none
  | some written =>
      match Keystroke.parse written with
      | .ok keystroke => pure (some keystroke)
      | .error fault => throw (.refused fault.message)

/-- The members of a snippet that have been read so far. -/
structure Draft where
  title : Option String
  body : Option String
  detail : Option String
  keystroke : Option Keystroke

/-- No member has been read. -/
def Draft.empty : Draft := ⟨none, none, none, none⟩

/-- The members with one more; members of other names do not count. -/
def Draft.read (habits : Habits) (draft : Draft) (name : String) (value : Datum) :
    Except DataFault Draft :=
  if name = "title" then value.asText.map fun text => { draft with title := some text }
  else if name = "body" then value.asText.map fun text => { draft with body := some text }
  else if name = "detail" then
    (optionalText habits value).map fun detail => { draft with detail }
  else if name = "keystroke" then
    (optionalKeystroke habits value).map fun keystroke => { draft with keystroke }
  else .ok draft

/-- The members of a record, in their order. -/
def Draft.readAll (habits : Habits) : Draft → List (String × Datum) → Except DataFault Draft
  | draft, [] => .ok draft
  | draft, (name, value) :: rest => do
      let next ← draft.read habits name value
      Draft.readAll habits next rest

/-- The snippet, once all members have been read. -/
def Draft.finish (draft : Draft) : Except DataFault Snippet :=
  match draft.title, draft.body with
  | none, _ => .error (.missingField "title")
  | some _, none => .error (.missingField "body")
  | some title, some body => .ok ⟨title, body, draft.detail, draft.keystroke⟩

/-- The number of members of a snippet. -/
def fieldCount : Nat := 4

/-- A snippet written as a sequence of its members. -/
def ofItems (habits : Habits) (items : List Datum) : Except DataFault Snippet :=
  match items with
  | [] => .error (.tooFewElements 0 .snippet fieldCount)
  | title :: afterTitle => do
      let title ← title.asText
      match afterTitle with
      | [] => throw (.tooFewElements 1 .snippet fieldCount)
      | body :: afterBody =>
          let body ← body.asText
          let detail ←
            match afterBody with
            | [] => pure none
            | value :: _ => optionalText habits value
          let keystroke ←
            match afterBody with
            | _ :: value :: _ => optionalKeystroke habits value
            | _ => pure none
          if habits.limitsSequences && decide (fieldCount < items.length) then
            throw (.tooManyElements items.length)
          pure ⟨title, body, detail, keystroke⟩

/-- A snippet in plain data. -/
def ofDatum (habits : Habits) : Datum → Except DataFault Snippet
  | .object members => do
      let draft ← Draft.readAll habits .empty members
      draft.finish
  | .array items => ofItems habits items
  | other => .error (.invalidType other.found .snippet)

end Snippet

namespace SnippetLibrary

/-- The name of the library's only member. -/
def memberName : String := "snippet"

/-- A list of snippets in plain data. -/
def snippetsOf (habits : Habits) : Datum → Except DataFault (List Snippet)
  | .array items => items.mapM (Snippet.ofDatum habits)
  | other => .error (.invalidType other.found .sequence)

/-- A library in plain data; without the member it is empty. -/
def ofDatum (habits : Habits) : Datum → Except DataFault SnippetLibrary
  | .object members =>
      match Datum.member? memberName members with
      | some value => (snippetsOf habits value).map SnippetLibrary.mk
      | none => .ok ⟨[]⟩
  | .array [] => .ok ⟨[]⟩
  | .array (value :: rest) => do
      let snippets ← snippetsOf habits value
      if habits.limitsSequences && !rest.isEmpty then
        throw (.tooManyElements (rest.length + 1))
      pure ⟨snippets⟩
  | other => .error (.invalidType other.found .snippetLibrary)

/-- A library as plain data. -/
def datum (library : SnippetLibrary) : Datum :=
  .object [(memberName, .array (library.snippets.map Snippet.datum))]

/-- The library that a TOML text holds. -/
def ofToml (source : String) : Except Toml.Fault SnippetLibrary :=
  match Toml.readDocument source.toList with
  | none => .error .malformed
  | some entries => (ofDatum .toml (.object entries)).mapError .data

/-- The library that is offered without a file. -/
def standard : SnippetLibrary where
  snippets := [
    .ofBody "Select Top Rows" "SELECT * FROM table_name LIMIT 100",
    .ofBody "Count Rows" "SELECT COUNT(*) FROM table_name",
    .ofBody "Group By Count"
      "SELECT col, COUNT(*) AS n\nFROM table_name\nGROUP BY col\nORDER BY n DESC",
    .ofBody "Chart Block" "```sql type='line' server=''\nSELECT * FROM table_name\n```\n",
    .ofBody "Markdown Table" "| a | b |\n|---|---|\n| 1 | 2 |\n"]

end SnippetLibrary

end QueryNotebook
