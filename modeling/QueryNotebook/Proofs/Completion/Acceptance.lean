import QueryNotebook.Completion.Session
import QueryNotebook.Proofs.Completion.Grammar
import QueryNotebook.Proofs.Document
import QueryNotebook.Proofs.Selection.Highlight

/-!
# Taking over a completion

From the caret of a document to the document with a completion in it.  What the catalog offers is
said apart from the sources: an `Offer` is a thing of the catalog, and `Spells` says which text it
stands for as a whole, from the first typed character on.  A candidate continues what is typed, so
that the two together spell the offer, and the candidates stand in the order of the offers.
-/

namespace QueryNotebook

/-! ## Offers -/

/-- A thing of the catalog that completion offers. -/
inductive Offer where
  /-- A code block with the first example of a table. -/
  | codeBlock (table : Table)
  | chartKind (kind : ChartKind)
  | serverName (server : Server)
  | tableName (table : Table)

namespace Offer

/-- The name under which an offer is listed. -/
def label (messages : Messages) : Offer → String
  | .codeBlock table => messages.format .codeBlockFor table.name
  | .chartKind kind => kind.token
  | .serverName server => server.name
  | .tableName table => table.name

/-- The icon beside an offer. -/
def icon? : Offer → Option Icon
  | .codeBlock _ => some .snippet
  | .chartKind kind => kind.icon?
  | .serverName server => some server.driver.icon
  | .tableName _ => some .table

/-- A text is the whole of what an offer stands for where a context asks for it.  A code block is
the same after one, two or three backticks; an attribute ends in the quote that opens it. -/
inductive Spells (selected? : Option String) : Context → Offer → String → Prop where
  | codeBlock {typed query : String} {table : Table} (fence : typed.toList ∈ Context.fences)
      (lead : table.examples.head? = some query) :
      Spells selected? (.codeFence typed) (.codeBlock table)
        ("```sql type='grid' server='" ++ selected?.getD "" ++ "'\n" ++ query ++ "\n```\n")
  | chartKind {quote : Char} {kind : ChartKind} (quoted : quote = '\'' ∨ quote = '\x22') :
      Spells selected? (.chartType ("type=".push quote)) (.chartKind kind)
        (("type=".push quote ++ kind.token).push quote)
  | serverName {quote : Char} {server : Server} (quoted : quote = '\'' ∨ quote = '\x22') :
      Spells selected? (.server ("server=".push quote)) (.serverName server)
        (("server=".push quote ++ server.name).push quote)
  | tableName {table : Table} : Spells selected? .table (.tableName table) table.name

/-- A candidate is an offer as it is listed and inserted: together with what is typed, the insertion
spells the offer. -/
structure Completes (messages : Messages) (selected? : Option String) (context : Context)
    (offer : Offer) (candidate : Candidate) : Prop where
  whole : Spells selected? context offer (context.typed ++ candidate.insertion)
  label : candidate.label = offer.label messages
  icon? : candidate.icon? = offer.icon?

end Offer

/-- What a catalog offers where a context asks for it, in the order of the catalog.  Only tables
with an example have a code block. -/
def Snapshot.offers (snapshot : Snapshot) : Context → List Offer
  | .codeFence _ => (snapshot.tables.filter fun table => !table.examples.isEmpty).map .codeBlock
  | .chartType _ => snapshot.chartKinds.map .chartKind
  | .server _ => snapshot.servers.map .serverName
  | .table => snapshot.tables.map .tableName
  | .none => []

/-! ## Insertions -/

/-- What is still to be typed of a text completes what is typed of it. -/
theorem append_untyped {typed whole : String} (start : typed.toList <+: whole.toList) :
    typed ++ untyped typed whole = whole := by
  obtain ⟨rest, parts⟩ := start
  have dropped : Text.dropStart? typed.toList whole.toList = some rest :=
    Text.dropStart?_eq_some_iff.mpr parts.symm
  apply String.toList_inj.mp
  simp [untyped, dropped, parts]

/-- A value is closed with the quote that opens it. -/
theorem append_attributeInsertion {quote : Char} (quoted : quote = '\'' ∨ quote = '\x22')
    (name value : String) :
    name.push quote ++ attributeInsertion (name.push quote) value =
      (name.push quote ++ value).push quote := by
  have closing : closingQuote? (name.push quote) = some quote := by
    simp [closingQuote?, quoted]
  apply String.toList_inj.mp
  simp [attributeInsertion, closing]

/-- The template of a code block starts with the opening line of the block. -/
theorem line_prefix_template (query server : String) :
    "```sql type='grid' server='".toList <+: (fenceTemplate query server).toList := by
  unfold fenceTemplate
  simp only [String.toList_append, List.append_assoc]
  -- The line is long; as a variable it is not taken apart into characters.
  generalize "```sql type='grid' server='".toList = line
  exact List.prefix_append _ _

/-- Every fence starts the template of a code block. -/
theorem fence_prefix_template {typed : String} (fence : typed.toList ∈ Context.fences)
    (query server : String) : typed.toList <+: (fenceTemplate query server).toList := by
  have starts : ∀ piece ∈ Context.fences, piece <+: "```sql type='grid' server='".toList := by
    simp [Context.fences]
  have line := line_prefix_template query server
  exact List.IsPrefix.trans (starts _ fence) line

/-- The texts that open the value of an attribute. -/
def attributeOpenings (name : String) : List (List Char) :=
  [(name.push '\'').toList, (name.push '\x22').toList]

theorem chartTypeWords_eq : Context.chartTypeWords = attributeOpenings "type=" := by
  decide

theorem serverWords_eq : Context.serverWords = attributeOpenings "server=" := by
  decide

/-- A text that opens the value of an attribute ends in a quote. -/
theorem exists_quote {name : String} {piece : List Char}
    (opening : piece ∈ attributeOpenings name) :
    ∃ quote, (quote = '\'' ∨ quote = '\x22') ∧ String.ofList piece = name.push quote := by
  simp only [attributeOpenings, List.mem_cons, List.not_mem_nil, or_false] at opening
  rcases opening with rfl | rfl
  · exact ⟨'\'', .inl rfl, String.ofList_toList⟩
  · exact ⟨'\x22', .inr rfl, String.ofList_toList⟩

/-! ## Candidates -/

/-- The tables with an example become candidates in their order, each for its code block. -/
theorem fence_candidates_complete (messages : Messages) (selected? : Option String) {typed : String}
    (fence : typed.toList ∈ Context.fences) (tables : List Table) :
    List.Forall₂ (Offer.Completes messages selected? (.codeFence typed))
      ((tables.filter fun table => !table.examples.isEmpty).map .codeBlock)
      (tables.filterMap (CompletionSource.fenceCandidate? (messages.wording .codeBlockFor) typed
        (selected?.getD ""))) := by
  induction tables with
  | nil => exact .nil
  | cons table others inductionHypothesis =>
      cases examples : table.examples with
      | nil =>
          have skipped : CompletionSource.fenceCandidate? (messages.wording .codeBlockFor) typed
              (selected?.getD "") table = none := by
            simp [CompletionSource.fenceCandidate?, Table.leadExample?, examples]
          simpa [examples, List.filterMap_cons_none skipped] using inductionHypothesis
      | cons query more =>
          have lead : table.leadExample? = some query := by simp [Table.leadExample?, examples]
          rw [List.filter_cons_of_pos (by simp [examples]), List.map_cons,
            List.filterMap_cons_some (by rw [CompletionSource.fenceCandidate?, lead]; rfl)]
          refine .cons ⟨?_, rfl, rfl⟩ inductionHypothesis
          dsimp only [Context.typed]
          rw [append_untyped (fence_prefix_template fence query _)]
          unfold fenceTemplate
          exact .codeBlock fence lead

/-- Pairing two images of a list pairs the images of each element. -/
theorem forall₂_map_map {α β γ : Type} {relation : β → γ → Prop} {left : α → β} {right : α → γ}
    (related : ∀ item, relation (left item) (right item)) (items : List α) :
    List.Forall₂ relation (items.map left) (items.map right) := by
  rw [List.forall₂_map_left_iff, List.forall₂_map_right_iff, List.forall₂_same]
  exact fun item _ => related item

/-- One standard source answers each trigger: of what they are all asked, only what it finds
remains. -/
theorem candidates_standard (messages : Messages) (context : Context) (snapshot : Snapshot) :
    ((Completer.standard messages).candidates context (some snapshot)).1 =
      match context with
      | .codeFence _ => ((CompletionSource.codeFence messages).provide context snapshot).found
      | .chartType _ => (CompletionSource.chartType.provide context snapshot).found
      | .server _ => (CompletionSource.server.provide context snapshot).found
      | .table => (CompletionSource.table.provide context snapshot).found
      | .none => [] := by
  cases context <;>
    simp [Completer.candidates, Completer.standard, Context.trigger?, pollAll,
      CompletionSource.codeFence, CompletionSource.chartType, CompletionSource.server,
      CompletionSource.table]

/-- Where a trigger asks for something, the standard sources answer with a candidate for each offer,
in the order of the offers. -/
theorem candidates_complete_opened (messages : Messages) (snapshot : Snapshot) {before : List Char}
    {trigger : Trigger} {typed : String} (opens : Context.Opens before trigger typed) :
    List.Forall₂ (Offer.Completes messages snapshot.selectedServer? (trigger.context typed))
      (snapshot.offers (trigger.context typed))
      ((Completer.standard messages).candidates (trigger.context typed) (some snapshot)).1 := by
  rw [candidates_standard]
  cases opens with
  | @codeFence piece run last =>
      have fence : (String.ofList piece).toList ∈ Context.fences := by simpa using run
      exact fence_candidates_complete messages snapshot.selectedServer? fence snapshot.tables
  | chartType opening last =>
      obtain ⟨quote, quoted, typed⟩ := exists_quote (chartTypeWords_eq ▸ opening)
      rw [typed]
      refine forall₂_map_map (fun kind => ⟨?_, rfl, rfl⟩) snapshot.chartKinds
      dsimp only [Trigger.context, Context.typed]
      rw [append_attributeInsertion quoted]
      exact .chartKind quoted
  | server opening last =>
      obtain ⟨quote, quoted, typed⟩ := exists_quote (serverWords_eq ▸ opening)
      rw [typed]
      refine forall₂_map_map (fun server => ⟨?_, rfl, rfl⟩) snapshot.servers
      dsimp only [Trigger.context, Context.typed]
      rw [append_attributeInsertion quoted]
      exact .serverName quoted
  | table last word =>
      refine forall₂_map_map (fun table => ⟨?_, rfl, rfl⟩) snapshot.tables
      dsimp only [Trigger.context, Context.typed]
      rw [String.empty_append]
      exact .tableName

/-- At every context that the text before a caret can give, the standard sources answer with a
candidate for each offer, in the order of the offers. -/
theorem candidates_complete (messages : Messages) (snapshot : Snapshot) {before : List Char}
    {order : List Trigger} {context : Context} (first : Context.FirstOpens before order context) :
    List.Forall₂ (Offer.Completes messages snapshot.selectedServer? context)
      (snapshot.offers context)
      ((Completer.standard messages).candidates context (some snapshot)).1 := by
  induction first with
  | none => exact .nil
  | opened opens => exact candidates_complete_opened messages snapshot opens
  | passed _ _ inductionHypothesis => exact inductionHypothesis

/-! ## Sessions -/

namespace CompletionSession

/-- An enabled session takes over what its completer finds at the caret of a document. -/
theorem update_eq {session : CompletionSession} (enabled : session.enabled = true)
    (document : Document) (snapshot? : Option Snapshot) :
    (session.update document snapshot?).1 =
      let context := Context.atCaret document.text document.caret document.mode
      session.renew context (session.completer.candidates context snapshot?).1 := by
  simp [update, enabled, Completer.complete]

/-- The highlight of a new request stands on a candidate. -/
theorem placed_renew (session : CompletionSession) (context : Context)
    (candidates : List Candidate) : (session.renew context candidates).selection.Placed :=
  Selection.placed_withItems session.selection candidates

/-- Moving the highlight leaves the rest of a session alone and the highlight on a candidate. -/
theorem foldl_moveBy {session : CompletionSession} (placed : session.selection.Placed)
    (moves : List Int) :
    (moves.foldl moveBy session).context = session.context ∧
      (moves.foldl moveBy session).candidates = session.candidates ∧
        (moves.foldl moveBy session).selection.Placed := by
  induction moves generalizing session with
  | nil => exact ⟨rfl, rfl, placed⟩
  | cons distance moves inductionHypothesis =>
      have moved : (session.moveBy distance).selection.Placed := placed.moveBy distance
      obtain ⟨context, candidates, after⟩ := inductionHypothesis moved
      refine ⟨context, candidates.trans ?_, after⟩
      exact Selection.items_moveBy session.selection distance

/-- However the highlight moves after a request, the session stands at the context of the caret with
what its completer finds there, and the highlight stands on a candidate. -/
theorem foldl_moveBy_update {session : CompletionSession} (enabled : session.enabled = true)
    (document : Document) (snapshot? : Option Snapshot) (moves : List Int) :
    let context := Context.atCaret document.text document.caret document.mode
    let opened := moves.foldl moveBy (session.update document snapshot?).1
    opened.context = context ∧
      opened.candidates = (session.completer.candidates context snapshot?).1 ∧
        opened.selection.Placed := by
  intro context opened
  have updated := update_eq enabled document snapshot?
  obtain ⟨sameContext, sameCandidates, placed⟩ :=
    foldl_moveBy (updated ▸ placed_renew session _ _) moves
  refine ⟨sameContext.trans (congrArg CompletionSession.context updated), ?_, placed⟩
  have listed := sameCandidates.trans (congrArg candidates updated)
  exact listed.trans (Selection.items_withItems session.selection _)

/-- Taking over a completion in an enabled session with the standard sources.  The candidates are
the offers of the catalog at the caret, in their order, and each continues what is typed to the whole
of its offer.  If one is taken over, it is the highlighted one, and it stands in the document where
the caret was, with the caret behind it.  If none is, nothing was offered and nothing changes. -/
theorem accept_completes (messages : Messages) (session : CompletionSession)
    (standard : session.completer = .standard messages) (enabled : session.enabled = true)
    (text : String) (caret : Nat) (mode : DocumentMode) (snapshot : Snapshot) (moves : List Int) :
    let document := (Document.ofText text mode).moveCaret caret
    let opened := moves.foldl moveBy (session.update document (some snapshot)).1
    let offers := snapshot.offers opened.context
    let before := Context.beforeCaret text caret
    opened.context = Context.atCaret text caret mode ∧
    List.Forall₂ (Offer.Completes messages snapshot.selectedServer? opened.context)
      offers opened.candidates ∧
    match opened.accept document with
    | (some candidate, _, after) =>
        ∃ index offer, opened.selection.index? = some index ∧ offers[index]? = some offer ∧
          opened.candidates[index]? = some candidate ∧
          Offer.Completes messages snapshot.selectedServer? opened.context offer candidate ∧
          after =
            { text := String.ofList
                (before ++ candidate.insertion.toList ++ text.toList.drop caret)
              caret := (before ++ candidate.insertion.toList).length
              mode := mode }
    | (none, kept, after) => offers = [] ∧ kept = opened ∧ after = document := by
  intro document opened offers before
  obtain ⟨found, listed, placed⟩ := foldl_moveBy_update enabled document (some snapshot) moves
  have context : opened.context = Context.atCaret text caret mode :=
    found.trans (Context.atCaret_min text caret mode)
  have first : Context.FirstOpens before mode.triggers opened.context :=
    Context.ofBefore_eq_iff.mp ((Context.atCaret_eq text caret mode).symm.trans context.symm)
  have complete := candidates_complete messages snapshot first
  rw [found, ← standard, ← listed, ← found] at complete
  refine ⟨context, complete, ?_⟩
  cases settled : opened.selection.commit with
  | none =>
      have nothing : opened.candidates = [] := placed.commit_eq_none_iff.mp settled
      rw [accept, settled]
      rw [nothing, List.forall₂_nil_right_iff] at complete
      exact ⟨complete, rfl, rfl⟩
  | some candidate =>
      obtain ⟨index, highlighted, item⟩ := Selection.commit_eq_some_iff.mp settled
      obtain ⟨inside, here⟩ := List.getElem?_eq_some_iff.mp item
      have insideOffers : index < offers.length := complete.length_eq.symm ▸ inside
      have completes := complete.get insideOffers inside
      rw [List.get_eq_getElem, List.get_eq_getElem] at completes
      rw [accept, settled]
      refine ⟨index, offers[index], highlighted, List.getElem?_eq_getElem insideOffers, item, ?_,
        ?_⟩
      · exact here ▸ completes
      · exact Document.insert_moveCaret_ofText text mode caret candidate.insertion

/-- Two backticks are continued to the code block of the one table with an example. -/
theorem accept_completes_fence :
    let session := ofCompleter (.standard .english)
    let document := (Document.ofText "é\n``" .markup).moveCaret 9
    let snapshot : Snapshot := ⟨[⟨"empty", []⟩, ⟨"trades", ["select"]⟩], [], [], some "a:1"⟩
    let opened := [1, -2].foldl moveBy (session.update document (some snapshot)).1
    session.completer = .standard .english ∧ session.enabled = true ∧
      ∃ candidate, opened.candidates = [candidate] ∧
        "``" ++ candidate.insertion = "```sql type='grid' server='a:1'\nselect\n```\n" := by
  intro session document snapshot opened
  refine ⟨rfl, rfl, ?_⟩
  obtain ⟨context, listed, -⟩ :=
    accept_completes .english session rfl rfl "é\n``" 9 .markup snapshot [1, -2]
  have fence : opened.context = .codeFence "``" := context.trans (by decide +kernel)
  change List.Forall₂ _ (snapshot.offers opened.context) opened.candidates at listed
  rw [fence, show snapshot.offers (.codeFence "``") = [.codeBlock ⟨"trades", ["select"]⟩] from rfl]
    at listed
  cases found : opened.candidates with
  | nil => simp [found] at listed
  | cons candidate others =>
      rw [found, List.forall₂_cons, List.forall₂_nil_left_iff] at listed
      obtain ⟨completes, rfl⟩ := listed
      refine ⟨candidate, rfl, ?_⟩
      have whole := completes.whole
      generalize spelled : (Context.codeFence "``").typed ++ candidate.insertion = text at whole
      cases whole with
      | codeBlock _ lead =>
          obtain rfl := Option.some.inj lead
          exact spelled

end CompletionSession

end QueryNotebook
