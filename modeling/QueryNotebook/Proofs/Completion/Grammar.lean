import QueryNotebook.Proofs.Completion.FromWord
import QueryNotebook.Proofs.Text.Piece

/-!
# The grammar of completion contexts

`Opens` says by the shape of the text before a caret what each trigger asks for; it neither cuts nor
trims.  `FirstOpens` takes the first of several triggers that asks for something, and the triggers
of a document are those of its mode.  The context at a caret is exactly what this grammar gives, so
it depends on the mode and on the characters before the caret and on nothing else.
-/

namespace QueryNotebook

/-- The triggers of a mode, the first to be tried first. -/
def DocumentMode.triggers : DocumentMode → List Trigger
  | .markup => [.codeFence, .chartType, .server, .table]
  | .query => [.table]
  | .unknown => []

/-- The context that a trigger asks for with the typed text. -/
def Trigger.context : Trigger → String → Context
  | .codeFence, typed => .codeFence typed
  | .chartType, typed => .chartType typed
  | .server, typed => .server typed
  | .table, _ => .table

namespace Context

/-! ## The grammar -/

/-- A piece stands last in a text: it follows a separator or the start of the text, and only blanks
that are no separators stand around it. -/
def StandsLast (separator : Char) (piece before : List Char) : Prop :=
  ∃ start left right, before = start ++ left ++ piece ++ right ∧
    (start = [] ∨ [separator] <:+ start) ∧
      ∀ c ∈ left ++ right, Text.isBlank c = true ∧ c ≠ separator

/-- The runs of backticks that open a code block. -/
def fences : List (List Char) :=
  ["`".toList, "``".toList, "```".toList]

/-- The words that open the attribute of a chart type, up to the quote before its value. -/
def chartTypeWords : List (List Char) :=
  ["type='".toList, "type=\"".toList]

/-- The words that open the attribute of a server, up to the quote before its value. -/
def serverWords : List (List Char) :=
  ["server='".toList, "server=\"".toList]

/-- A trigger asks for something after a text: code blocks by the last line, attributes by the last
word, tables by the last six characters. -/
inductive Opens (before : List Char) : Trigger → String → Prop where
  | codeFence {piece : List Char} (run : piece ∈ fences) (last : StandsLast '\n' piece before) :
      Opens before .codeFence (String.ofList piece)
  | chartType {piece : List Char} (opening : piece ∈ chartTypeWords)
      (last : StandsLast ' ' piece before) :
      Opens before .chartType (String.ofList piece)
  | server {piece : List Char} (opening : piece ∈ serverWords)
      (last : StandsLast ' ' piece before) :
      Opens before .server (String.ofList piece)
  | table {ending : List Char} (last : ending <:+ before)
      (word : Text.asciiEqual ending " FROM ".toList = true) :
      Opens before .table ""

/-- The first of the triggers that asks for something decides. -/
inductive FirstOpens (before : List Char) : List Trigger → Context → Prop where
  | none : FirstOpens before [] .none
  | opened {trigger : Trigger} {typed : String} {others : List Trigger}
      (opens : Opens before trigger typed) :
      FirstOpens before (trigger :: others) (trigger.context typed)
  | passed {trigger : Trigger} {others : List Trigger} {context : Context}
      (closed : ∀ typed, ¬ Opens before trigger typed) (later : FirstOpens before others context) :
      FirstOpens before (trigger :: others) context

/-! ## One check for each trigger -/

/-- What a single trigger finds after a text. -/
def check? (before : List Char) : Trigger → Option Context
  | .codeFence =>
      let line := lastPiece '\n' before
      if isFence line then some (.codeFence (String.ofList line)) else Option.none
  | .chartType =>
      let word := lastPiece ' ' before
      if chartTypeOpenings.contains word then some (.chartType (String.ofList word))
      else Option.none
  | .server =>
      let word := lastPiece ' ' before
      if serverOpenings.contains word then some (.server (String.ofList word)) else Option.none
  | .table => if endsWithFrom before then some .table else Option.none

/-- The context when the triggers are tried in a given order. -/
def firstOf (before : List Char) (order : List Trigger) : Context :=
  (order.findSome? (check? before)).getD .none

/-- The context after a text tries the triggers of the mode in their order. -/
theorem ofBefore_eq_firstOf (before : List Char) (mode : DocumentMode) :
    ofBefore before mode = firstOf before mode.triggers := by
  cases mode with
  | unknown => rfl
  | query =>
      by_cases word : endsWithFrom before <;>
        simp [ofBefore, firstOf, DocumentMode.triggers, check?, word]
  | markup =>
      simp only [ofBefore, ofMarkup?, firstOf, DocumentMode.triggers, List.findSome?, check?]
      split
      · rfl
      · split
        · rfl
        · split
          · rfl
          · by_cases word : endsWithFrom before <;> simp [word]

/-! ## The checks follow the grammar -/

/-- A trimmed piece without separators is the last one exactly when it stands last. -/
theorem lastPiece_eq_iff {separator : Char} {piece before : List Char}
    (trimmed : Text.trim piece = piece) (whole : separator ∉ piece) :
    lastPiece separator before = piece ↔ StandsLast separator piece before := by
  constructor
  · intro found
    obtain ⟨lastWhole, start, boundary, parts⟩ := Text.afterLast_eq_iff.mp
      (rfl : Text.afterLast separator before = Text.afterLast separator before)
    obtain ⟨left, right, blankLeft, blankRight, around⟩ := (Text.trim_eq_iff trimmed).mp found
    refine ⟨start, left, right, ?_, boundary, ?_⟩
    · rw [List.append_assoc start, List.append_assoc start, ← around]
      exact parts
    · rw [around] at lastWhole
      intro c member
      have blank : Text.isBlank c = true := by
        rcases List.mem_append.mp member with inLeft | inRight
        · exact Text.allBlank_eq_true_iff.mp blankLeft c inLeft
        · exact Text.allBlank_eq_true_iff.mp blankRight c inRight
      refine ⟨blank, fun same => lastWhole ?_⟩
      subst same
      rcases List.mem_append.mp member with inLeft | inRight
      · simp [inLeft]
      · simp [inRight]
  · rintro ⟨start, left, right, rfl, boundary, around⟩
    obtain ⟨aroundLeft, aroundRight⟩ := List.forall_mem_append.mp around
    have cut : Text.afterLast separator (start ++ left ++ piece ++ right) =
        left ++ piece ++ right := by
      apply Text.afterLast_eq_iff.mpr
      refine ⟨?_, start, boundary, by simp⟩
      simp only [List.mem_append, not_or]
      exact ⟨⟨fun member => (aroundLeft _ member).2 rfl, whole⟩,
        fun member => (aroundRight _ member).2 rfl⟩
    rw [lastPiece, cut, Text.trim_eq_iff trimmed]
    exact ⟨left, right, Text.allBlank_eq_true_iff.mpr fun c member => (aroundLeft c member).1,
      Text.allBlank_eq_true_iff.mpr fun c member => (aroundRight c member).1, rfl⟩

/-- A fence is one of the three runs of backticks. -/
theorem isFence_iff {piece : List Char} : isFence piece = true ↔ piece ∈ fences := by
  constructor
  · intro fence
    simp only [isFence, Bool.and_eq_true, decide_eq_true_eq, List.all_eq_true, beq_iff_eq] at fence
    obtain ⟨⟨some, few⟩, marks⟩ := fence
    have run : piece = List.replicate piece.length '\x60' := List.eq_replicate_iff.mpr ⟨rfl, marks⟩
    have count : piece.length = 1 ∨ piece.length = 2 ∨ piece.length = 3 := by omega
    rcases count with one | two | three
    · rw [run, one]
      decide
    · rw [run, two]
      decide
    · rw [run, three]
      decide
  · intro member
    simp only [fences, List.mem_cons, List.not_mem_nil, or_false] at member
    rcases member with rfl | rfl | rfl <;> decide

/-- The attribute of a chart type is opened by the words of the grammar. -/
theorem contains_chartTypeOpenings {piece : List Char} :
    chartTypeOpenings.contains piece = true ↔ piece ∈ chartTypeWords := by
  simp [chartTypeOpenings, chartTypeWords]

/-- The attribute of a server is opened by the words of the grammar. -/
theorem contains_serverOpenings {piece : List Char} :
    serverOpenings.contains piece = true ↔ piece ∈ serverWords := by
  simp [serverOpenings, serverWords]

/-- Pieces that a cut at the separator leaves whole and trimming leaves alone. -/
def Whole (separator : Char) (pieces : List (List Char)) : Prop :=
  ∀ piece ∈ pieces, Text.trim piece = piece ∧ separator ∉ piece

theorem whole_fences : Whole '\n' fences := by
  unfold Whole
  decide

theorem whole_chartTypeWords : Whole ' ' chartTypeWords := by
  unfold Whole
  decide

theorem whole_serverWords : Whole ' ' serverWords := by
  unfold Whole
  decide

/-- The last piece of a text stands last in it if it is one of the wanted ones. -/
theorem standsLast_lastPiece {separator : Char} {pieces : List (List Char)} {before : List Char}
    (whole : Whole separator pieces) (member : lastPiece separator before ∈ pieces) :
    StandsLast separator (lastPiece separator before) before :=
  (lastPiece_eq_iff (whole _ member).1 (whole _ member).2).mp rfl

/-- A wanted piece that stands last is the last piece of the text. -/
theorem StandsLast.lastPiece_eq {separator : Char} {pieces : List (List Char)}
    {piece before : List Char} (last : StandsLast separator piece before)
    (whole : Whole separator pieces) (member : piece ∈ pieces) :
    lastPiece separator before = piece :=
  (lastPiece_eq_iff (whole _ member).1 (whole _ member).2).mpr last

/-- Each check finds what the grammar lets its trigger ask for. -/
theorem check?_eq_some_iff {before : List Char} {trigger : Trigger} {context : Context} :
    check? before trigger = some context ↔
      ∃ typed, Opens before trigger typed ∧ trigger.context typed = context := by
  constructor
  · intro found
    cases trigger with
    | codeFence =>
        simp only [check?, Option.ite_none_right_eq_some, Option.some.injEq] at found
        obtain ⟨fence, rfl⟩ := found
        have run := isFence_iff.mp fence
        exact ⟨_, .codeFence run (standsLast_lastPiece whole_fences run), rfl⟩
    | chartType =>
        simp only [check?, Option.ite_none_right_eq_some, Option.some.injEq,
          contains_chartTypeOpenings] at found
        obtain ⟨opening, rfl⟩ := found
        exact ⟨_, .chartType opening (standsLast_lastPiece whole_chartTypeWords opening), rfl⟩
    | server =>
        simp only [check?, Option.ite_none_right_eq_some, Option.some.injEq,
          contains_serverOpenings] at found
        obtain ⟨opening, rfl⟩ := found
        exact ⟨_, .server opening (standsLast_lastPiece whole_serverWords opening), rfl⟩
    | table =>
        simp only [check?, Option.ite_none_right_eq_some, Option.some.injEq] at found
        obtain ⟨word, rfl⟩ := found
        obtain ⟨ending, last, same⟩ := endsWithFrom_iff.mp word
        exact ⟨_, .table last same, rfl⟩
  · rintro ⟨typed, opens, rfl⟩
    cases opens with
    | codeFence run last =>
        simp [check?, last.lastPiece_eq whole_fences run, isFence_iff.mpr run, Trigger.context]
    | chartType opening last =>
        simp only [check?, last.lastPiece_eq whole_chartTypeWords opening,
          contains_chartTypeOpenings.mpr opening, if_true, Trigger.context]
    | server opening last =>
        simp only [check?, last.lastPiece_eq whole_serverWords opening,
          contains_serverOpenings.mpr opening, if_true, Trigger.context]
    | table last word =>
        simp [check?, endsWithFrom_iff.mpr ⟨_, last, word⟩, Trigger.context]

/-- Trying the checks in an order finds what the first trigger that asks for something wants. -/
theorem firstOpens_firstOf (before : List Char) (order : List Trigger) :
    FirstOpens before order (firstOf before order) := by
  induction order with
  | nil => exact .none
  | cons trigger others inductionHypothesis =>
      cases found : check? before trigger with
      | none =>
          have same : firstOf before (trigger :: others) = firstOf before others := by
            simp [firstOf, found]
          rw [same]
          refine .passed (fun typed opens => ?_) inductionHypothesis
          rw [check?_eq_some_iff.mpr ⟨typed, opens, rfl⟩] at found
          contradiction
      | some context =>
          have same : firstOf before (trigger :: others) = context := by simp [firstOf, found]
          obtain ⟨typed, opens, rfl⟩ := check?_eq_some_iff.mp found
          rw [same]
          exact .opened opens

/-- The first trigger that asks for something settles the context. -/
theorem FirstOpens.firstOf_eq {before : List Char} {order : List Trigger} {context : Context}
    (first : FirstOpens before order context) : firstOf before order = context := by
  induction first with
  | none => rfl
  | opened opens => simp [firstOf, check?_eq_some_iff.mpr ⟨_, opens, rfl⟩]
  | @passed trigger others context closed _ inductionHypothesis =>
      have nothing : check? before trigger = Option.none := by
        rw [Option.eq_none_iff_forall_ne_some]
        intro found same
        obtain ⟨typed, opens, -⟩ := check?_eq_some_iff.mp same
        exact closed typed opens
      simpa [firstOf, nothing] using inductionHypothesis

/-- The context after a text is the one that the grammar gives. -/
theorem ofBefore_eq_iff {before : List Char} {mode : DocumentMode} {context : Context} :
    ofBefore before mode = context ↔ FirstOpens before mode.triggers context := by
  rw [ofBefore_eq_firstOf]
  constructor
  · rintro rfl
    exact firstOpens_firstOf before mode.triggers
  · exact FirstOpens.firstOf_eq

/-! ## The context at a caret -/

/-- The characters before a caret; a caret past the end stands at the end. -/
def beforeCaret (text : String) (caret : Nat) : List Char :=
  text.toList.take (min caret text.toList.length)

/-- The context at a caret is that of the text before it. -/
theorem atCaret_eq (text : String) (caret : Nat) (mode : DocumentMode) :
    atCaret text caret mode = ofBefore (beforeCaret text caret) mode := by
  rw [atCaret, Text.cutAt_eq, beforeCaret, ← List.take_eq_take_min]

/-- A caret past the end counts as the end. -/
theorem atCaret_min (text : String) (caret : Nat) (mode : DocumentMode) :
    atCaret text (min caret text.toList.length) mode = atCaret text caret mode := by
  rw [atCaret_eq, atCaret_eq, beforeCaret, beforeCaret, Nat.min_assoc, Nat.min_self]

/-- The context at a caret is exactly what the grammar of the mode gives for the characters before
the caret, the first trigger that asks for something winning; what follows the caret changes
nothing. -/
theorem atCaret_follows_grammar (text : String) (caret : Nat) (mode : DocumentMode) :
    (∀ context, atCaret text caret mode = context ↔
      FirstOpens (beforeCaret text caret) mode.triggers context) ∧
    ∀ after : List Char,
      atCaret (String.ofList (beforeCaret text caret ++ after))
          (beforeCaret text caret).length mode =
        atCaret text caret mode := by
  refine ⟨fun context => ?_, fun after => ?_⟩
  · rw [atCaret_eq, ofBefore_eq_iff]
  · have same : beforeCaret (String.ofList (beforeCaret text caret ++ after))
        (beforeCaret text caret).length = beforeCaret text caret := by
      generalize beforeCaret text caret = before
      simp [beforeCaret]
    rw [atCaret_eq, same, ← atCaret_eq]

end Context

end QueryNotebook
