import QueryNotebook.Proofs.Completion.Grammar

/-!
# Triggers never overlap

At most one trigger asks for something after a text, so the order in which they are tried does not
matter.  The checks look at different parts of the text, but whatever they find ends at its last
character that is not blank: a backtick, a quote or the last letter of `FROM`.  Only the two
attributes share theirs, and they want different words.
-/

namespace QueryNotebook

/-- The characters in which the text that fires a trigger can end, blanks aside. -/
def Trigger.endings : Trigger → List Char
  | .codeFence => ['\x60']
  | .chartType => ['\'', '\x22']
  | .server => ['\'', '\x22']
  | .table => ['M', 'm']

namespace Context

/-- The last character of a text that is not blank. -/
def lastSolid? (before : List Char) : Option Char :=
  (Text.trimEnd before).getLast?

/-- Blanks after a text do not hide its last character. -/
theorem lastSolid?_append {start blanks : List Char} {c : Char} (solid : Text.isBlank c = false)
    (blank : Text.allBlank blanks = true) : lastSolid? (start ++ [c] ++ blanks) = some c := by
  rw [lastSolid?, Text.trimEnd_append blank]
  simp [Text.trimEnd, solid]

/-- No such ending is blank. -/
theorem solid_of_mem_endings {trigger : Trigger} {c : Char} (ending : c ∈ trigger.endings) :
    Text.isBlank c = false := by
  have solid : trigger.endings.all (fun d => !Text.isBlank d) = true := by
    cases trigger <;> decide
  simpa using List.all_eq_true.mp solid c ending

/-- A piece that stands last ends a text, blanks aside. -/
theorem StandsLast.lastSolid?_mem {separator : Char} {trigger : Trigger}
    {pieces : List (List Char)} {piece before : List Char}
    (last : StandsLast separator piece before) (member : piece ∈ pieces)
    (ends : ∀ piece ∈ pieces, piece.getLast?.any trigger.endings.contains = true) :
    ∃ c ∈ trigger.endings, lastSolid? before = some c := by
  obtain ⟨c, ending, known⟩ := (Option.any_eq_true ..).mp (ends piece member)
  obtain ⟨inner, rfl⟩ := List.getLast?_eq_some_iff.mp ending
  obtain ⟨start, left, right, rfl, -, around⟩ := last
  have blank : Text.allBlank right = true := Text.allBlank_eq_true_iff.mpr fun d inRight =>
    (around d (List.mem_append_right left inRight)).1
  have listed : c ∈ trigger.endings := List.contains_iff_mem.mp known
  refine ⟨c, listed, ?_⟩
  rw [← List.append_assoc (start ++ left)]
  exact lastSolid?_append (solid_of_mem_endings listed) blank

/-- Whatever a text ends with when the word wants a table, it is the word's last letter and a
space. -/
theorem exists_of_fromCapitals {ending : List Char}
    (word : Text.asciiEqual ending fromCapitals = true) :
    ∃ start c, ending = start ++ [c] ++ [' '] ∧ c ∈ Trigger.table.endings := by
  have capitals : fromCapitals.map Char.toUpper = [' ', 'F', 'R', 'O'] ++ ['M', ' '] := by
    decide +kernel
  have large := (Text.asciiEqual_iff_map_toUpper.mp word).trans capitals
  obtain ⟨start, rest, rfl, -, restLarge⟩ := List.map_eq_append_iff.mp large
  obtain ⟨c, tail, rfl, letter, tailLarge⟩ := List.map_eq_cons_iff.mp restLarge
  obtain ⟨d, nothing, rfl, space, empty⟩ := List.map_eq_cons_iff.mp tailLarge
  obtain rfl : nothing = [] := List.map_eq_nil_iff.mp empty
  have blank : d = ' ' := by
    rcases Text.eq_or_eq_of_toUpper space with same | same <;> exact same
  have last : c = 'M' ∨ c = 'm' := Text.eq_or_eq_of_toUpper letter
  exact ⟨start, c, by simp [blank], by simpa [Trigger.endings] using last⟩

/-- What a trigger asks for is read off the last character that is not blank. -/
theorem Opens.lastSolid?_mem {before : List Char} {trigger : Trigger} {typed : String}
    (opens : Opens before trigger typed) : ∃ c ∈ trigger.endings, lastSolid? before = some c := by
  cases opens with
  | codeFence run last => exact last.lastSolid?_mem run (by decide)
  | chartType opening last => exact last.lastSolid?_mem opening (by decide)
  | server opening last => exact last.lastSolid?_mem opening (by decide)
  | table last word =>
      obtain ⟨start, c, rfl, known⟩ := exists_of_fromCapitals word
      obtain ⟨front, rfl⟩ := last
      refine ⟨c, known, ?_⟩
      rw [← List.append_assoc front, ← List.append_assoc front]
      exact lastSolid?_append (solid_of_mem_endings known) (by decide)

/-- Only the two attributes share their endings. -/
theorem eq_or_attributes {first second : Trigger} {c : Char} (known : c ∈ first.endings)
    (knownToo : c ∈ second.endings) :
    first = second ∨ (first = .chartType ∧ second = .server) ∨
      (first = .server ∧ second = .chartType) := by
  cases first <;> cases second <;> grind [Trigger.endings]

/-- The two attributes want different words, and a text has one last word. -/
theorem not_chartType_and_server {before left right : List Char}
    (chartType : left ∈ chartTypeWords) (lastLeft : StandsLast ' ' left before)
    (server : right ∈ serverWords) (lastRight : StandsLast ' ' right before) : False := by
  have same : left = right :=
    (lastLeft.lastPiece_eq whole_chartTypeWords chartType).symm.trans
      (lastRight.lastPiece_eq whole_serverWords server)
  have different : ∀ piece ∈ chartTypeWords, piece ∉ serverWords := by decide
  exact different left chartType (same ▸ server)

/-- At most one trigger asks for something. -/
theorem Opens.unique {before : List Char} {first second : Trigger} {typed other : String}
    (opens : Opens before first typed) (opensToo : Opens before second other) : first = second := by
  obtain ⟨c, known, ending⟩ := opens.lastSolid?_mem
  obtain ⟨d, knownToo, endingToo⟩ := opensToo.lastSolid?_mem
  obtain rfl : c = d := Option.some.inj (ending.symm.trans endingToo)
  rcases eq_or_attributes known knownToo with same | ⟨rfl, rfl⟩ | ⟨rfl, rfl⟩
  · exact same
  · cases opens with
    | chartType opening last =>
        cases opensToo with
        | server openingToo lastToo =>
            exact (not_chartType_and_server opening last openingToo lastToo).elim
  · cases opens with
    | server opening last =>
        cases opensToo with
        | chartType openingToo lastToo =>
            exact (not_chartType_and_server openingToo lastToo opening last).elim

/-- At most one check finds something. -/
theorem check?_unique {before : List Char} {first second : Trigger}
    (fires : (check? before first).isSome = true)
    (firesToo : (check? before second).isSome = true) :
    first = second := by
  obtain ⟨context, found⟩ := Option.isSome_iff_exists.mp fires
  obtain ⟨other, foundToo⟩ := Option.isSome_iff_exists.mp firesToo
  obtain ⟨typed, opens, -⟩ := check?_eq_some_iff.mp found
  obtain ⟨typedToo, opensToo, -⟩ := check?_eq_some_iff.mp foundToo
  exact opens.unique opensToo

/-! ## The order of the checks -/

/-- The check that finds something decides, wherever it stands in the order. -/
theorem firstOf_of_mem {before : List Char} {order : List Trigger} {trigger : Trigger}
    {context : Context} (member : trigger ∈ order) (found : check? before trigger = some context) :
    firstOf before order = context := by
  induction order with
  | nil => contradiction
  | cons head others inductionHypothesis =>
      cases here : check? before head with
      | some other =>
          obtain rfl : head = trigger :=
            check?_unique (Option.isSome_of_eq_some here) (Option.isSome_of_eq_some found)
          obtain rfl : other = context := Option.some.inj (here.symm.trans found)
          simp [firstOf, here]
      | none =>
          have later : trigger ∈ others := by
            rcases List.mem_cons.mp member with rfl | later
            · rw [found] at here
              contradiction
            · exact later
          simpa [firstOf, here] using inductionHypothesis later

/-- When no check finds anything, no order of them does. -/
theorem firstOf_of_forall_none {before : List Char} {order : List Trigger}
    (nothing : ∀ trigger ∈ order, check? before trigger = Option.none) :
    firstOf before order = .none := by
  have found : order.findSome? (check? before) = Option.none :=
    List.findSome?_eq_none_iff.mpr nothing
  simp [firstOf, found]

/-- Trying the same triggers in another order finds the same. -/
theorem firstOf_perm {before : List Char} {order other : List Trigger} (perm : order.Perm other) :
    firstOf before order = firstOf before other := by
  by_cases fires : ∃ trigger ∈ order, (check? before trigger).isSome = true
  · obtain ⟨trigger, member, found⟩ := fires
    obtain ⟨context, found⟩ := Option.isSome_iff_exists.mp found
    rw [firstOf_of_mem member found, firstOf_of_mem (perm.mem_iff.mp member) found]
  · have nothing : ∀ trigger ∈ order, check? before trigger = Option.none := by
      intro trigger member
      by_contra found
      exact fires ⟨trigger, member, Option.isSome_iff_ne_none.mpr found⟩
    rw [firstOf_of_forall_none nothing, firstOf_of_forall_none fun trigger member =>
      nothing trigger (perm.mem_iff.mpr member)]

/-- A table is wanted after the word in every order of checks that has the one for tables. -/
theorem firstOf_eq_table_iff {before : List Char} {order : List Trigger}
    (member : .table ∈ order) :
    firstOf before order = .table ↔ check? before .table = some .table := by
  constructor
  · intro wanted
    rw [firstOf] at wanted
    cases found : order.findSome? (check? before) with
    | none => simp [found] at wanted
    | some context =>
        obtain rfl : context = .table := by simpa [found] using wanted
        obtain ⟨trigger, -, check⟩ := List.exists_of_findSome?_eq_some found
        obtain ⟨typed, opens, same⟩ := check?_eq_some_iff.mp check
        cases trigger with
        | table => exact check
        | codeFence | chartType | server => simp [Trigger.context] at same
  · exact firstOf_of_mem member

/-- The triggers never overlap: at most one check finds something after any text.  A table is
therefore wanted in a query exactly when it is wanted in markup, and the checks of a mode give the
same context at every caret in whichever order they are made. -/
theorem triggers_never_overlap :
    (∀ (before : List Char) (first second : Trigger),
      (check? before first).isSome = true → (check? before second).isSome = true →
        first = second) ∧
    (∀ (text : String) (caret : Nat),
      atCaret text caret .query = .table ↔ atCaret text caret .markup = .table) ∧
    ∀ (text : String) (caret : Nat) (mode : DocumentMode) (order : List Trigger),
      order.Perm mode.triggers →
        firstOf (beforeCaret text caret) order = atCaret text caret mode := by
  refine ⟨fun before first second => check?_unique, fun text caret => ?_,
    fun text caret mode order perm => ?_⟩
  · rw [atCaret_eq, atCaret_eq, ofBefore_eq_firstOf, ofBefore_eq_firstOf,
      firstOf_eq_table_iff (by decide), firstOf_eq_table_iff (by decide)]
  · rw [atCaret_eq, ofBefore_eq_firstOf, firstOf_perm perm]

/-- A check that finds something is reached when it is made last. -/
theorem chartType_found_last :
    (check? "```sql type='".toList .chartType).isSome = true ∧
      firstOf (beforeCaret "```sql type='" 13) [.table, .server, .codeFence, .chartType] =
        atCaret "```sql type='" 13 .markup :=
  ⟨by decide +kernel, triggers_never_overlap.2.2 _ _ .markup _ (by decide)⟩

end Context

end QueryNotebook
