import QueryNotebook.Proofs.Completion.Acceptance

/-!
# The value of an attribute

Where the value of an attribute is offered and where it ends up.  A trigger trims the last word, so
line breaks, tabs and other blanks than the space may stand between the opening quote and the caret.
The value is inserted at the caret, behind them: they stay between the quote and the value.
-/

namespace QueryNotebook

namespace Context

/-- What a context other than none wants, one of the triggers asks for. -/
theorem FirstOpens.opens {before : List Char} {order : List Trigger} {context : Context}
    (first : FirstOpens before order context) (wanted : context ≠ .none) :
    ∃ trigger typed, Opens before trigger typed ∧ trigger.context typed = context := by
  induction first with
  | none => contradiction
  | opened opens => exact ⟨_, _, opens, rfl⟩
  | passed _ _ inductionHypothesis => exact inductionHypothesis wanted

/-- The context wants the value of an attribute that a typed text opens. -/
def WantsValue (context : Context) (typed : String) : Prop :=
  context = .chartType typed ∨ context = .server typed

/-- A text opens an attribute: it names it, up to the quote before the value. -/
def OpensAttribute (typed : String) (quote : Char) : Prop :=
  (quote = '\'' ∨ quote = '\x22') ∧
    (typed = "type=".push quote ∨ typed = "server=".push quote)

/-- Two of the triggers ask for a value. -/
theorem wantsValue_context_iff {trigger : Trigger} {opening typed : String} :
    (trigger.context opening).WantsValue typed ↔
      (trigger = .chartType ∨ trigger = .server) ∧ opening = typed := by
  cases trigger <;> simp [WantsValue, Trigger.context]

/-- A piece that stands last is followed by blanks that are no separators. -/
theorem StandsLast.exists_gap {separator : Char} {piece before : List Char}
    (last : StandsLast separator piece before) :
    ∃ start gap, before = start ++ piece ++ gap ∧
      ∀ c ∈ gap, Text.isBlank c = true ∧ c ≠ separator := by
  obtain ⟨start, left, right, rfl, -, around⟩ := last
  exact ⟨start ++ left, right, rfl, (List.forall_mem_append.mp around).2⟩

/-- Where a trigger asks for a value, the text ends in the opening of an attribute and in blanks that
are no spaces. -/
theorem Opens.exists_gap {before : List Char} {trigger : Trigger} {typed : String}
    (opens : Opens before trigger typed) (asksValue : trigger = .chartType ∨ trigger = .server) :
    ∃ quote start gap, OpensAttribute typed quote ∧ before = start ++ typed.toList ++ gap ∧
      ∀ c ∈ gap, Text.isBlank c = true ∧ c ≠ ' ' := by
  cases opens with
  | codeFence => simp at asksValue
  | table => simp at asksValue
  | chartType opening last =>
      obtain ⟨quote, quoted, typed⟩ := exists_quote (chartTypeWords_eq ▸ opening)
      obtain ⟨start, gap, parts, blank⟩ := last.exists_gap
      exact ⟨quote, start, gap, ⟨quoted, .inl typed⟩, by rwa [String.toList_ofList], blank⟩
  | server opening last =>
      obtain ⟨quote, quoted, typed⟩ := exists_quote (serverWords_eq ▸ opening)
      obtain ⟨start, gap, parts, blank⟩ := last.exists_gap
      exact ⟨quote, start, gap, ⟨quoted, .inr typed⟩, by rwa [String.toList_ofList], blank⟩

/-- Where a value is wanted, the text before the caret ends in the opening of an attribute and in
blanks that are no spaces. -/
theorem WantsValue.exists_gap {text : String} {caret : Nat} {mode : DocumentMode} {typed : String}
    (wanted : (atCaret text caret mode).WantsValue typed) :
    ∃ quote start gap, OpensAttribute typed quote ∧
      beforeCaret text caret = start ++ typed.toList ++ gap ∧
      ∀ c ∈ gap, Text.isBlank c = true ∧ c ≠ ' ' := by
  have first := ofBefore_eq_iff.mp (atCaret_eq text caret mode).symm
  have some : atCaret text caret mode ≠ .none := by
    intro nothing
    simp [WantsValue, nothing] at wanted
  obtain ⟨trigger, opening, opens, context⟩ := first.opens some
  rw [← context] at wanted
  obtain ⟨asksValue, rfl⟩ := wantsValue_context_iff.mp wanted
  exact opens.exists_gap asksValue

/-- The opening of an attribute ends in its quote. -/
theorem OpensAttribute.ends {typed : String} {quote : Char} (opens : OpensAttribute typed quote) :
    [quote] <:+ typed.toList ∧ Text.isBlank quote = false := by
  obtain ⟨quoted, named⟩ := opens
  refine ⟨?_, ?_⟩
  · rcases named with rfl | rfl
    · exact ⟨"type=".toList, by simp⟩
    · exact ⟨"server=".toList, by simp⟩
  · rcases quoted with rfl | rfl
    · decide
    · decide

/-- The opening of an attribute ends the text exactly when no blanks follow it. -/
theorem OpensAttribute.suffix_iff {typed : String} {quote : Char}
    (opens : OpensAttribute typed quote) {start gap : List Char}
    (blank : ∀ c ∈ gap, Text.isBlank c = true) :
    typed.toList <:+ start ++ typed.toList ++ gap ↔ gap = [] := by
  constructor
  · rintro ⟨rest, same⟩
    obtain ⟨⟨name, named⟩, solid⟩ := opens.ends
    obtain rfl | ⟨others, c, rfl⟩ := List.eq_nil_or_concat gap
    · rfl
    · rw [← named, List.concat_eq_append, ← List.append_assoc, ← List.append_assoc] at same
      obtain rfl : quote = c := by simpa using (List.append_inj' same rfl).2
      rw [blank quote (by simp)] at solid
      contradiction
  · rintro rfl
    exact ⟨start, (List.append_nil _).symm⟩

/-- The characters before a caret that was set behind them. -/
theorem beforeCaret_append (before after : List Char) :
    beforeCaret (String.ofList (before ++ after)) before.length = before := by
  simp [beforeCaret]

end Context

/-- The values that a catalog offers where a context wants one. -/
def Snapshot.values (snapshot : Snapshot) : Context → List String
  | .chartType _ => snapshot.chartKinds.map ChartKind.token
  | .server _ => snapshot.servers.map Server.name
  | _ => []

/-- A value is inserted with the quote that closes it. -/
theorem attributeInsertion_eq {typed : String} {quote : Char}
    (opens : Context.OpensAttribute typed quote) (value : String) :
    attributeInsertion typed value = value.push quote := by
  obtain ⟨quoted, rfl | rfl⟩ := opens
  · simp [attributeInsertion, closingQuote?, quoted]
  · simp [attributeInsertion, closingQuote?, quoted]

/-- Where a value is wanted, the candidates insert the values of the catalog. -/
theorem insertions_standard (messages : Messages) (snapshot : Snapshot) {context : Context}
    {typed : String} (wanted : context.WantsValue typed) {quote : Char}
    (opens : Context.OpensAttribute typed quote) :
    (((Completer.standard messages).candidates context (some snapshot)).1.map Candidate.insertion) =
      (snapshot.values context).map fun value => value.push quote := by
  rw [candidates_standard]
  obtain rfl | rfl := wanted
  · simp [Snapshot.values, CompletionSource.chartType, Poll.found, attributeInsertion_eq opens]
  · simp [Snapshot.values, CompletionSource.server, Poll.found, attributeInsertion_eq opens]

/-- What is inserted at a caret stands before the new one, and the rest of the text after it. -/
theorem Document.insert_parts (text : String) (mode : DocumentMode) (caret : Nat)
    (inserted : String) :
    let after := ((ofText text mode).moveCaret caret).insert inserted
    Context.beforeCaret after.text after.caret =
        Context.beforeCaret text caret ++ inserted.toList ∧
      after.text.toList =
        Context.beforeCaret text caret ++ inserted.toList ++ text.toList.drop caret := by
  intro after
  have result : after =
      { text := String.ofList
          (Context.beforeCaret text caret ++ inserted.toList ++ text.toList.drop caret)
        caret := (Context.beforeCaret text caret ++ inserted.toList).length
        mode := mode } :=
    insert_moveCaret_ofText text mode caret inserted
  rw [result]
  exact ⟨Context.beforeCaret_append _ _, String.toList_ofList⟩

namespace CompletionSession

/-- With the highlight on a candidate one of the candidates is taken over, unless there is none. -/
theorem accept_cases {session : CompletionSession} (placed : session.selection.Placed)
    (document : Document) :
    (∃ candidate ∈ session.candidates, session.accept document =
        (some candidate, session.close, document.insert candidate.insertion)) ∨
      session.candidates = [] ∧ session.accept document = (none, session, document) := by
  cases settled : session.selection.commit with
  | none =>
      refine .inr ⟨placed.commit_eq_none_iff.mp settled, ?_⟩
      rw [accept, settled]
  | some candidate =>
      obtain ⟨index, -, item⟩ := Selection.commit_eq_some_iff.mp settled
      refine .inl ⟨candidate, List.mem_of_getElem? item, ?_⟩
      rw [accept, settled]

/-- Taking over the value of an attribute.  The text before the caret ends in the opening of the
attribute and in blanks that are no spaces; the value stands behind these blanks, with the quote
that closes it, and the caret behind the quote.  It continues the opening without a gap exactly when
the caret stood right behind the opening.  Without values nothing changes. -/
theorem accept_value (messages : Messages) (session : CompletionSession)
    (standard : session.completer = .standard messages) (enabled : session.enabled = true)
    (text : String) (caret : Nat) (mode : DocumentMode) (snapshot : Snapshot) (moves : List Int)
    {typed : String} (wanted : (Context.atCaret text caret mode).WantsValue typed) :
    let document := (Document.ofText text mode).moveCaret caret
    let opened := moves.foldl moveBy (session.update document (some snapshot)).1
    ∃ quote start gap, Context.OpensAttribute typed quote ∧
      (∀ c ∈ gap, Text.isBlank c = true ∧ c ≠ ' ') ∧
      Context.beforeCaret text caret = start ++ typed.toList ++ gap ∧
      (typed.toList <:+ Context.beforeCaret text caret ↔ gap = []) ∧
      ((∃ value ∈ snapshot.values opened.context, ∃ candidate after,
          let before := start ++ typed.toList ++ gap ++ value.toList ++ [quote]
          opened.accept document = (some candidate, opened.close, after) ∧
            Context.beforeCaret after.text after.caret = before ∧
            after.text.toList = before ++ text.toList.drop caret ∧
            (typed.toList ++ value.toList ++ [quote] <:+ before ↔ gap = [])) ∨
        snapshot.values opened.context = [] ∧
          opened.accept document = (none, opened, document)) := by
  intro document opened
  obtain ⟨quote, start, gap, opens, parts, blank⟩ := wanted.exists_gap
  have contiguous : typed.toList <:+ start ++ typed.toList ++ gap ↔ gap = [] :=
    opens.suffix_iff fun c member => (blank c member).1
  refine ⟨quote, start, gap, opens, blank, parts, parts.symm ▸ contiguous, ?_⟩
  obtain ⟨found, listed, placed⟩ := foldl_moveBy_update enabled document (some snapshot) moves
  have context : opened.context = Context.atCaret text caret mode :=
    found.trans (Context.atCaret_min text caret mode)
  have inserted : opened.candidates.map Candidate.insertion =
      (snapshot.values opened.context).map fun value => value.push quote := by
    rw [← insertions_standard messages snapshot (context ▸ wanted) opens, ← standard, found]
    exact congrArg _ listed
  rcases accept_cases placed document with ⟨candidate, listed, accepted⟩ | ⟨nothing, accepted⟩
  · have member : candidate.insertion ∈ opened.candidates.map Candidate.insertion :=
      List.mem_map_of_mem listed
    rw [inserted, List.mem_map] at member
    obtain ⟨value, offered, insertion⟩ := member
    have before : Context.beforeCaret text caret ++ candidate.insertion.toList =
        start ++ typed.toList ++ gap ++ value.toList ++ [quote] := by
      rw [parts, ← insertion]
      simp
    obtain ⟨beforeAfter, whole⟩ := Document.insert_parts text mode caret candidate.insertion
    rw [before] at beforeAfter whole
    refine .inl ⟨value, offered, candidate, _, accepted, beforeAfter, whole, ?_⟩
    rw [List.append_assoc, List.append_assoc _ value.toList, List.suffix_append_self_iff]
    exact contiguous
  · rw [nothing, List.map_nil, eq_comm, List.map_eq_nil_iff] at inserted
    exact .inr ⟨inserted, accepted⟩

/-- Behind a tab the name of the one server is inserted as well. -/
theorem accept_value_behind_tab :
    let session := ofCompleter (.standard .english)
    let document := (Document.ofText "server=\x22\t/>" .markup).moveCaret 9
    let snapshot : Snapshot := ⟨[], [⟨"h:1", .kdb⟩], [], none⟩
    let opened := [1].foldl moveBy (session.update document (some snapshot)).1
    (Context.atCaret "server=\x22\t/>" 9 .markup).WantsValue "server=\x22" ∧
      ∃ candidate after, opened.accept document = (some candidate, opened.close, after) ∧
        after.text = "server=\x22\th:1\x22/>" := by
  intro session document snapshot opened
  have wanted : (Context.atCaret "server=\x22\t/>" 9 .markup).WantsValue "server=\x22" :=
    .inr (by decide +kernel)
  refine ⟨wanted, ?_⟩
  obtain ⟨quote, start, gap, ⟨-, named⟩, -, parts, -, taken⟩ :=
    accept_value .english session rfl rfl "server=\x22\t/>" 9 .markup snapshot [1] wanted
  obtain rfl : quote = '\x22' := by
    rcases named with chart | server
    · simpa using congrArg (·.toList.head?) chart
    · simpa [eq_comm] using congrArg (·.toList.getLast?) server
  have values : snapshot.values opened.context = ["h:1"] := by decide +kernel
  rcases taken with ⟨value, offered, candidate, after, accepted, -, result, -⟩ | ⟨nothing, -⟩
  · obtain rfl : value = "h:1" := List.mem_singleton.mp (values ▸ offered)
    refine ⟨candidate, after, accepted, ?_⟩
    rw [← String.toList_inj, result, ← parts]
    decide +kernel
  · exact absurd (values.symm.trans nothing) (List.cons_ne_nil _ _)

/-- After a line break the value is offered as well, and the opening of the attribute does not end
the text before the caret. -/
theorem value_offered_after_gap :
    Context.atCaret "type='\n" 7 .markup = .chartType "type='" ∧
      ¬ "type='".toList <:+ Context.beforeCaret "type='\n" 7 := by
  decide +kernel

end CompletionSession

end QueryNotebook
