import QueryNotebook.Document
import QueryNotebook.Text.Case
import QueryNotebook.Text.Split

/-!
# Completion contexts

Which kind of completion is offered at a caret, judged by the text before it alone.  A trigger looks
at the last line, at the last word or at the last six characters; none of them parses the document.

In markup, a line of up to three backticks starts a code block, and an attribute with its opening
quote wants a value.  In markup and in queries, the word `FROM` between spaces wants a table.
-/

namespace QueryNotebook

/-- What kind of completion a caret position wants. -/
inductive Trigger where
  | codeFence
  | chartType
  | server
  | table
deriving DecidableEq, Repr

/-- The name of a trigger. -/
def Trigger.name : Trigger → String
  | .codeFence => "code_fence"
  | .chartType => "chart_type"
  | .server => "server"
  | .table => "table"

/-- What completion is wanted at a caret, with the text that asked for it. -/
inductive Context where
  | codeFence (typed : String)
  | chartType (typed : String)
  | server (typed : String)
  | table
  | none
deriving DecidableEq, Repr

namespace Context

/-- The trigger of a context. -/
def trigger? : Context → Option Trigger
  | .codeFence _ => some .codeFence
  | .chartType _ => some .chartType
  | .server _ => some .server
  | .table => some .table
  | .none => Option.none

/-- The text that asked for the completion; empty for tables. -/
def typed : Context → String
  | .codeFence typed => typed
  | .chartType typed => typed
  | .server typed => typed
  | .table => ""
  | .none => ""

/-- Nothing is offered. -/
def isNone (context : Context) : Bool :=
  context == .none

/-- The texts that open an attribute for a chart type. -/
def chartTypeOpenings : List (List Char) :=
  ["type='".toList, "type=\"".toList]

/-- The texts that open an attribute for a server. -/
def serverOpenings : List (List Char) :=
  ["server='".toList, "server=\"".toList]

/-- The word that wants a table, between spaces. -/
def fromWord : List Char :=
  " from ".toList

/-- The part of the text after its last separator, without blanks around it. -/
def lastPiece (separator : Char) (before : List Char) : List Char :=
  Text.trim (Text.afterLast separator before)

/-- One to three backticks. -/
def isFence (piece : List Char) : Bool :=
  1 ≤ piece.length && piece.length ≤ 3 && piece.all (· == '\x60')

/-- The text ends with the word that wants a table, in any case.  Its last six bytes decide; they
must begin at a character. -/
def endsWithFrom (before : List Char) : Bool :=
  match Text.lastBytes? (Text.byteSize fromWord) before with
  | some ending => Text.asciiEqual ending fromWord
  | Option.none => false

/-- The context that markup adds to the ones of queries. -/
def ofMarkup? (before : List Char) : Option Context :=
  let line := lastPiece '\n' before
  let word := lastPiece ' ' before
  if isFence line then some (.codeFence (String.ofList line))
  else if chartTypeOpenings.contains word then some (.chartType (String.ofList word))
  else if serverOpenings.contains word then some (.server (String.ofList word))
  else Option.none

/-- The context after the given text. -/
def ofBefore (before : List Char) (mode : DocumentMode) : Context :=
  let plain : Context := if endsWithFrom before then .table else .none
  match mode with
  | .unknown => .none
  | .query => plain
  | .markup => (ofMarkup? before).getD plain

/-- The context at a caret; a caret past the end counts as the end. -/
def atCaret (text : String) (caret : Nat) (mode : DocumentMode) : Context :=
  ofBefore (Text.cutAt text.toList caret).1 mode

@[simp] theorem trigger?_none : Context.none.trigger? = Option.none := rfl

@[simp] theorem ofBefore_unknown (before : List Char) : ofBefore before .unknown = .none := rfl

end Context

end QueryNotebook
