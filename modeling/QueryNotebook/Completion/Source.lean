import QueryNotebook.Catalog
import QueryNotebook.Completion.Context
import QueryNotebook.Messages
import QueryNotebook.Poll

/-!
# Completion sources

Where completions come from.  A source answers one trigger: it reads the context and the catalog
snapshot, and gives candidates in the order of the snapshot.  The text of a candidate continues what
the user has typed, so it is inserted at the caret as it stands.
-/

namespace QueryNotebook

/-- A proposed insertion. -/
structure Candidate where
  /-- The text that is inserted. -/
  insertion : String
  /-- The text that a list shows. -/
  label : String
  icon? : Option Icon
deriving DecidableEq, Repr

/-- A source of candidates. -/
structure CompletionSource where
  name : String
  /-- The trigger that the source answers. -/
  trigger : Trigger
  /-- The candidates for a context. -/
  provide : Context → Snapshot → Poll Candidate

/-- A code block with a query, from its opening fence on. -/
def fenceTemplate (query server : String) : String :=
  "```sql type='grid' server='" ++ server ++ "'\n" ++ query ++ "\n```\n"

/-- The part of a text that is still to be typed after its start; all of it after another text. -/
def untyped (typed whole : String) : String :=
  match Text.dropStart? typed.toList whole.toList with
  | some rest => String.ofList rest
  | none => whole

/-- The quote that a text ends with. -/
def closingQuote? (typed : String) : Option Char :=
  match typed.toList.getLast? with
  | some c => if c = '\'' ∨ c = '\x22' then some c else none
  | none => none

/-- The value of an attribute, closed with the quote that opened it. -/
def attributeInsertion (typed value : String) : String :=
  match closingQuote? typed with
  | some quote => value.push quote
  | none => value

namespace CompletionSource

/-- A candidate for the code block of a table, if the table has an example. -/
def fenceCandidate? (label typed server : String) (table : Table) : Option Candidate :=
  table.leadExample?.map fun query =>
    { insertion := untyped typed (fenceTemplate query server)
      label := fillGap label table.name
      icon? := some .snippet }

/-- A code block for every table with an example. -/
def codeFence (messages : Messages) : CompletionSource where
  name := "code_fence"
  trigger := .codeFence
  provide context snapshot :=
    match context with
    | .codeFence typed =>
        .answered <| snapshot.tables.filterMap
          (fenceCandidate? (messages.wording .codeBlockFor) typed (snapshot.selectedServer?.getD ""))
    | _ => .answered []

/-- Every chart kind. -/
def chartType : CompletionSource where
  name := "chart_type"
  trigger := .chartType
  provide context snapshot :=
    match context with
    | .chartType typed =>
        .answered <| snapshot.chartKinds.map fun kind =>
          { insertion := attributeInsertion typed kind.token
            label := kind.token
            icon? := kind.icon? }
    | _ => .answered []

/-- Every server. -/
def server : CompletionSource where
  name := "server"
  trigger := .server
  provide context snapshot :=
    match context with
    | .server typed =>
        .answered <| snapshot.servers.map fun server =>
          { insertion := attributeInsertion typed server.name
            label := server.name
            icon? := some server.driver.icon }
    | _ => .answered []

/-- Every table. -/
def table : CompletionSource where
  name := "table"
  trigger := .table
  provide context snapshot :=
    match context with
    | .table =>
        .answered <| snapshot.tables.map fun table =>
          { insertion := table.name
            label := table.name
            icon? := some .table }
    | _ => .answered []

end CompletionSource

end QueryNotebook
