import QueryNotebook.Completion.Session
import QueryNotebook.Proofs.JobQueue.Kinds

/-!
# Taking over a completion later

A candidate may be taken over at once or by a deferred job.  Seen from the session the two are the
same.  Seen from the document, the deferred insertion comes when the queue is drained, at the
caret as it stands by then, and only once.  The other jobs of the queue are none of the document's
business.
-/

namespace QueryNotebook

/-- The text that a piece of work inserts into the document. -/
def Work.insertion? : Work → Option String
  | .insertCompletion text => some text
  | .perform _ => none

/-- Only insertions change a document. -/
theorem Document.applyAll_eq (document : Document) (work : List Work) :
    document.applyAll work = (work.filterMap Work.insertion?).foldl Document.insert document := by
  induction work generalizing document with
  | nil => rfl
  | cons first work inductionHypothesis =>
      cases first with
      | insertCompletion text => exact inductionHypothesis (document.insert text)
      | perform handler => exact inductionHypothesis document

/-! ## Sessions -/

namespace CompletionSession

/-- The session after its highlighted candidate is taken over; without one it stays as it is. -/
def taken (session : CompletionSession) : CompletionSession :=
  if session.highlighted?.isSome then session.close else session

/-- Taking over a candidate at once, part by part. -/
theorem accept_eq (session : CompletionSession) (document : Document) :
    session.accept document =
      (session.highlighted?, session.taken,
        (session.highlighted?.map Candidate.insertion).elim document document.insert) := by
  have chosen : session.selection.commit = session.highlighted? := rfl
  rw [accept, chosen, taken]
  cases session.highlighted? <;> rfl

/-- Taking over a candidate later, part by part. -/
theorem acceptLater_eq (session : CompletionSession) (queue : JobQueue Work) :
    session.acceptLater queue =
      (session.highlighted?, session.taken,
        (session.highlighted?.map Candidate.insertion).elim queue fun text =>
          queue.defer (.simple (.insertCompletion text))) := by
  have chosen : session.selection.commit = session.highlighted? := rfl
  rw [acceptLater, chosen, taken]
  cases session.highlighted? <;> rfl

end CompletionSession

/-! ## Editors -/

/-- What the user does to a document without completion. -/
inductive DocumentEdit where
  | caretMoved (caret : Nat)
  | typed (text : String)

/-- The document after an edit. -/
def Document.edit (document : Document) : DocumentEdit → Document
  | .caretMoved caret => document.moveCaret caret
  | .typed text => document.insert text

/-- The document after several edits, the oldest of them first. -/
def Document.editAll (document : Document) (edits : List DocumentEdit) : Document :=
  edits.foldl Document.edit document

/-- A document, its completions, and the queue to which they are deferred. -/
structure Editor where
  session : CompletionSession
  document : Document
  queue : JobQueue Work

/-- What happens in an editor between completions. -/
inductive EditorEvent where
  /-- The document is edited. -/
  | edited (edit : DocumentEdit)
  /-- The deferred jobs are run. -/
  | drained

/-- The edit of an event. -/
def EditorEvent.edit? : EditorEvent → Option DocumentEdit
  | .edited edit => some edit
  | .drained => none

namespace Editor

/-- The highlighted candidate taken over at once: the candidate and the editor. -/
def accept (editor : Editor) : Option Candidate × Editor :=
  let (candidate?, session, document) := editor.session.accept editor.document
  (candidate?, { editor with session := session, document := document })

/-- The highlighted candidate taken over by a deferred job: the candidate and the editor. -/
def acceptLater (editor : Editor) : Option Candidate × Editor :=
  let (candidate?, session, queue) := editor.session.acceptLater editor.queue
  (candidate?, { editor with session := session, queue := queue })

/-- The editor whose queue is to insert a text, once its jobs are run. -/
def inserting (editor : Editor) (text : String) : Editor :=
  { editor with queue := editor.queue.defer (.simple (.insertCompletion text)) }

theorem accept_of_highlighted {editor : Editor} {candidate : Candidate}
    (highlighted : editor.session.highlighted? = some candidate) :
    editor.accept = (some candidate,
      { editor with
        session := editor.session.close
        document := editor.document.insert candidate.insertion }) := by
  rw [accept, CompletionSession.accept_eq, CompletionSession.taken, highlighted]
  rfl

theorem accept_of_none {editor : Editor} (nothing : editor.session.highlighted? = none) :
    editor.accept = (none, editor) := by
  rw [accept, CompletionSession.accept_eq, CompletionSession.taken, nothing]
  rfl

theorem acceptLater_of_highlighted {editor : Editor} {candidate : Candidate}
    (highlighted : editor.session.highlighted? = some candidate) :
    editor.acceptLater = (some candidate,
      inserting { editor with session := editor.session.close } candidate.insertion) := by
  rw [acceptLater, CompletionSession.acceptLater_eq, CompletionSession.taken, highlighted]
  rfl

theorem acceptLater_of_none {editor : Editor} (nothing : editor.session.highlighted? = none) :
    editor.acceptLater = (none, editor) := by
  rw [acceptLater, CompletionSession.acceptLater_eq, CompletionSession.taken, nothing]
  rfl

/-- The editor after an event. -/
def handle (editor : Editor) : EditorEvent → Editor
  | .edited edit => { editor with document := editor.document.edit edit }
  | .drained =>
      let drain := editor.queue.drain
      { editor with document := editor.document.applyAll drain.labels, queue := drain.queue }

/-- The editor after several events, the oldest of them first. -/
def after (editor : Editor) (events : List EditorEvent) : Editor :=
  events.foldl handle editor

/-- Nothing that waits in the queue, or that follows from it, inserts anything. -/
def Spared (editor : Editor) : Prop :=
  ∀ job ∈ editor.queue.pending, job.Only fun work => work.insertion? = none

/-- Edits leave the session and the queue alone. -/
theorem after_edited (editor : Editor) (edits : List DocumentEdit) :
    editor.after (edits.map .edited) =
      { editor with document := editor.document.editAll edits } := by
  induction edits generalizing editor with
  | nil => rfl
  | cons edit edits inductionHypothesis => exact inductionHypothesis (editor.handle (.edited edit))

/-- What a drain inserts is what waited to be inserted, as long as nothing follows that inserts
more; afterwards nothing is left that does. -/
theorem handle_drained {editor : Editor}
    (unmixed : ∀ job ∈ editor.queue.pending, job.LeadsTo fun work => work.insertion? = none) :
    (editor.handle .drained).document =
        ((editor.queue.pending.map Job.label).filterMap Work.insertion?).foldl Document.insert
          editor.document ∧
      (editor.handle .drained).Spared := by
  obtain ⟨inserted, left⟩ := JobQueue.filterMap_labels_drain unmixed
  refine ⟨?_, left⟩
  rw [← inserted, ← Document.applyAll_eq]
  rfl

/-- As long as nothing waits that inserts something, a document is what its edits make of it. -/
theorem document_after {editor : Editor} (spared : editor.Spared) (events : List EditorEvent) :
    (editor.after events).document =
      editor.document.editAll (events.filterMap EditorEvent.edit?) := by
  induction events generalizing editor with
  | nil => rfl
  | cons event events inductionHypothesis =>
      cases event with
      | edited edit =>
          have still : (editor.handle (.edited edit)).Spared := spared
          exact inductionHypothesis still
      | drained =>
          obtain ⟨document, still⟩ := handle_drained fun job member => (spared job member).leadsTo
          have rest := inductionHypothesis still
          rw [document, JobQueue.filterMap_labels_of_only spared] at rest
          exact rest

/-- A deferred insertion comes with the next drain and not again, whatever the document has become
by then and becomes later. -/
theorem document_after_inserting {editor : Editor} (spared : editor.Spared) (text : String)
    (edits : List DocumentEdit) (events : List EditorEvent) :
    ((editor.inserting text).after (edits.map .edited ++ .drained :: events)).document =
      ((editor.document.editAll edits).insert text).editAll
        (events.filterMap EditorEvent.edit?) := by
  let edited : Editor :=
    { editor.inserting text with document := editor.document.editAll edits }
  have unmixed : ∀ job ∈ edited.queue.pending,
      job.LeadsTo fun work => work.insertion? = none := by
    refine List.forall_mem_append.mpr ⟨fun job member => (spared job member).leadsTo, ?_⟩
    exact List.forall_mem_singleton.mpr (Job.leadsTo_simple _ _)
  have waiting : (edited.queue.pending.map Job.label).filterMap Work.insertion? = [text] := by
    change ((editor.queue.pending ++ [_]).map Job.label).filterMap Work.insertion? = _
    rw [List.map_append, List.filterMap_append, JobQueue.filterMap_labels_of_only spared]
    rfl
  obtain ⟨document, still⟩ := handle_drained unmixed
  rw [waiting] at document
  calc ((editor.inserting text).after (edits.map .edited ++ .drained :: events)).document
    _ = ((((editor.inserting text).after (edits.map .edited)).handle .drained).after
          events).document := by
        simp [after]
    _ = ((edited.handle .drained).after events).document := by
        rw [after_edited]
        rfl
    _ = ((editor.document.editAll edits).insert text).editAll
          (events.filterMap EditorEvent.edit?) := by
        rw [document_after still, document]
        rfl

/-- Taking over a candidate later refines taking it over at once, in an editor whose queue holds
no other insertion.  The candidate is the same, the highlighted one, and so is the session; the
document waits.  After any edits, the next drain inserts the candidate as if it had been typed
then, and later drains insert nothing more; without edits that is the document that taking over at
once gives.  If nothing is highlighted, neither way changes anything. -/
theorem acceptLater_refines_accept (editor : Editor) (spared : editor.Spared) :
    let atOnce := editor.accept
    let later := editor.acceptLater
    atOnce.1 = editor.session.highlighted? ∧ later.1 = atOnce.1 ∧
    later.2.session = atOnce.2.session ∧ later.2.document = editor.document ∧
    (editor.session.highlighted? = none → atOnce.2 = editor ∧ later.2 = editor) ∧
    ∀ candidate, editor.session.highlighted? = some candidate →
      atOnce.2.document = editor.document.insert candidate.insertion ∧
      (later.2.after [.drained]).document = atOnce.2.document ∧
      ∀ edits events,
        (later.2.after (edits.map .edited ++ .drained :: events)).document =
          ((editor.document.editAll edits).insert candidate.insertion).editAll
            (events.filterMap EditorEvent.edit?) := by
  intro atOnce later
  cases highlighted : editor.session.highlighted? with
  | none =>
      have inline : atOnce = (none, editor) := accept_of_none highlighted
      have deferred : later = (none, editor) := acceptLater_of_none highlighted
      rw [inline, deferred]
      exact ⟨rfl, rfl, rfl, rfl, fun _ => ⟨rfl, rfl⟩, by simp⟩
  | some candidate =>
      let closed : Editor := { editor with session := editor.session.close }
      have inline : atOnce = (some candidate,
          { closed with document := editor.document.insert candidate.insertion }) :=
        accept_of_highlighted highlighted
      have deferred : later = (some candidate, closed.inserting candidate.insertion) :=
        acceptLater_of_highlighted highlighted
      rw [inline, deferred]
      refine ⟨rfl, rfl, rfl, rfl, by simp, ?_⟩
      rintro _ ⟨rfl⟩
      have closedSpared : closed.Spared := spared
      have inserted := document_after_inserting closedSpared candidate.insertion
      exact ⟨rfl, inserted [] [], inserted⟩

/-- A candidate is taken over while a command waits that defers another and then drains the queue;
the user types on before the jobs are run. -/
theorem acceptLater_refines_accept_among_commands :
    let handler : Handler := ⟨.registered 0, .action "save"⟩
    let command : Job Work := .mk (.perform handler) [.simple (.perform handler)] true
    let document := Document.ofText "select * from " .query
    let snapshot : Snapshot := ⟨[⟨"quotes", []⟩, ⟨"trades", []⟩], [], [], none⟩
    let session := (CompletionSession.ofCompleter (.standard .english)).update document snapshot
    let editor : Editor := ⟨session.1.moveBy 1, document, ⟨[command]⟩⟩
    editor.Spared ∧
      (editor.acceptLater.2.after [.edited (.typed "my_"), .drained, .drained]).document.text =
        "select * from my_trades" := by
  intro handler command document snapshot session editor
  have insertsNothing : command.Only fun work => work.insertion? = none := by
    refine Job.only_mk rfl fun next deferred => ?_
    obtain rfl := List.mem_singleton.mp deferred
    exact Job.only_simple rfl
  have spared : editor.Spared := List.forall_mem_singleton.mpr insertsNothing
  have highlighted : editor.session.highlighted? = some ⟨"trades", "trades", some .table⟩ := by
    decide +kernel
  refine ⟨spared, ?_⟩
  obtain ⟨-, -, -, -, -, found⟩ := acceptLater_refines_accept editor spared
  obtain ⟨-, -, inserted⟩ := found _ highlighted
  have typed := inserted [.typed "my_"] [.drained]
  exact (congrArg Document.text typed).trans (by decide +kernel)

end Editor

end QueryNotebook
