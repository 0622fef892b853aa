import QueryNotebook.Command
import QueryNotebook.Completion.Completer
import QueryNotebook.Selection
import QueryNotebook.Settings

/-!
# Completion sessions

The completions of one editor: the candidates at its caret, which of them is highlighted, and taking
one over.  Every request has a number; the host computes completions elsewhere, and drops a result
whose request is no longer the latest.
-/

namespace QueryNotebook

/-- The completions of one editor. -/
structure CompletionSession where
  completer : Completer
  selection : Selection Candidate
  context : Context
  /-- The number of the latest request. -/
  generation : Nat
  enabled : Bool

namespace CompletionSession

/-- A session that has not been asked for anything. -/
def ofCompleter (completer : Completer) : CompletionSession where
  completer := completer
  selection := .empty
  context := .none
  generation := 0
  enabled := true

/-- A session that is enabled if the settings say so. -/
def ofSettings (completer : Completer) (settings : Settings) : CompletionSession :=
  { ofCompleter completer with enabled := settings.completionEnabled }

/-- The session with one more source. -/
def register (session : CompletionSession) (source : CompletionSource) : CompletionSession :=
  { session with completer := session.completer.register source }

/-- The session with a listener for the highlighted candidate. -/
def listen (session : CompletionSession) : CompletionSession :=
  { session with selection := session.selection.listen }

/-- The candidates. -/
def candidates (session : CompletionSession) : List Candidate :=
  session.selection.items

/-- There are candidates. -/
def isOpen (session : CompletionSession) : Bool :=
  !session.candidates.isEmpty

/-- The highlighted candidate. -/
def highlighted? (session : CompletionSession) : Option Candidate :=
  session.selection.highlighted?

/-- A request is still the latest. -/
def isCurrent (session : CompletionSession) (generation : Nat) : Bool :=
  generation == session.generation

/-- The session with what a request gives. -/
def renew (session : CompletionSession) (context : Context) (candidates : List Candidate) :
    CompletionSession :=
  { session with
    generation := session.generation + 1
    context := context
    selection := session.selection.withItems candidates }

/-- The session without candidates. -/
def close (session : CompletionSession) : CompletionSession :=
  session.renew .none []

/-- The completions at the caret of a document, and the warnings.  The number of the request is that
of the session afterwards.  A session that is not enabled finds nothing. -/
def update (session : CompletionSession) (document : Document) (snapshot? : Option Snapshot) :
    CompletionSession × List Warning :=
  if session.enabled then
    let found := session.completer.complete document.text document.caret document.mode snapshot?
    (session.renew found.context found.candidates, found.warnings)
  else (session.close, [])

/-- The highlight moved by a distance. -/
def moveBy (session : CompletionSession) (distance : Int) : CompletionSession :=
  { session with selection := session.selection.moveBy distance }

/-- The highlighted candidate taken over into the document: the candidate if there is one, the
session and the document. -/
def accept (session : CompletionSession) (document : Document) :
    Option Candidate × CompletionSession × Document :=
  match session.selection.commit with
  | none => (none, session, document)
  | some candidate => (some candidate, session.close, document.insert candidate.insertion)

/-- The highlighted candidate taken over by a deferred job: the candidate if there is one, the
session and the queue. -/
def acceptLater (session : CompletionSession) (queue : JobQueue Work) :
    Option Candidate × CompletionSession × JobQueue Work :=
  match session.selection.commit with
  | none => (none, session, queue)
  | some candidate =>
      (some candidate, session.close, queue.defer (.simple (.insertCompletion candidate.insertion)))

/-- The user turns away from the candidates. -/
def dismiss (session : CompletionSession) : CompletionSession :=
  { session with
    generation := session.generation + 1
    context := .none
    selection := session.selection.cancel }

/-- The session enabled or not.  Disabling it closes it. -/
def setEnabled (session : CompletionSession) (enabled : Bool) : CompletionSession :=
  let switched := { session with enabled := enabled }
  if enabled then switched else switched.close

end CompletionSession

/-- The document after work that concerns it. -/
def Document.apply (document : Document) : Work → Document
  | .insertCompletion text => document.insert text
  | .perform _ => document

/-- The document after several pieces of work. -/
def Document.applyAll (document : Document) (work : List Work) : Document :=
  work.foldl Document.apply document

end QueryNotebook
