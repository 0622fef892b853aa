import Mathlib.Data.List.TakeWhile
import QueryNotebook.Text.Blank
import QueryNotebook.Text.Split

/-!
# Pieces of a text

What trimming and cutting at the first or the last separator leave of a text, said as a way to take
the text apart: only blanks are trimmed away, the part before the first separator is the longest
start without one, and the part after the last separator is what follows it.
-/

namespace QueryNotebook.Text

/-! ## Trimming -/

/-- A text is blank when all of its characters are. -/
theorem allBlank_eq_true_iff {text : List Char} :
    allBlank text = true ↔ ∀ c ∈ text, isBlank c = true :=
  List.all_eq_true

/-- Blanks before a text are trimmed away. -/
theorem trim_append_left {blanks : List Char} (blank : allBlank blanks = true)
    (text : List Char) : trim (blanks ++ text) = trim text := by
  rw [trim, trim, trimStart, trimStart,
    List.dropWhile_append_of_pos (allBlank_eq_true_iff.mp blank)]

/-- Blanks after a text are dropped at its end. -/
theorem trimEnd_append {blanks : List Char} (blank : allBlank blanks = true) (text : List Char) :
    trimEnd (text ++ blanks) = trimEnd text := by
  have turned : ∀ c ∈ blanks.reverse, isBlank c = true := fun c member =>
    allBlank_eq_true_iff.mp blank c (List.mem_reverse.mp member)
  rw [trimEnd, trimEnd, List.reverse_append, List.dropWhile_append_of_pos turned]

/-- A blank text is trimmed to nothing. -/
theorem trimStart_eq_nil {text : List Char} (blank : allBlank text = true) :
    trimStart text = [] :=
  List.dropWhile_eq_nil_iff.mpr (allBlank_eq_true_iff.mp blank)

/-- The blanks in front of a text are those of its start, unless all of the start is blank. -/
theorem trimStart_append {start : List Char} (solid : trimStart start ≠ []) (rest : List Char) :
    trimStart (start ++ rest) = trimStart start ++ rest := by
  unfold trimStart at solid ⊢
  rw [List.dropWhile_append, if_neg (by simpa using solid)]

/-- Blanks after a text are trimmed away. -/
theorem trim_append_right {blanks : List Char} (blank : allBlank blanks = true)
    (text : List Char) : trim (text ++ blanks) = trim text := by
  rw [trim, trim, trimStart, List.dropWhile_append]
  split
  · next nothing =>
    have empty : trimStart text = [] := by simpa [trimStart] using nothing
    have gone : blanks.dropWhile isBlank = [] := trimStart_eq_nil blank
    rw [gone, empty]
  · exact trimEnd_append blank _

/-- Dropping the blanks at the end of a text drops nothing else. -/
theorem exists_trimEnd (text : List Char) :
    ∃ blanks, allBlank blanks = true ∧ text = trimEnd text ++ blanks := by
  refine ⟨(text.reverse.takeWhile isBlank).reverse, ?_, ?_⟩
  · simp [allBlank]
  · rw [trimEnd, ← List.reverse_append, List.takeWhile_append_dropWhile, List.reverse_reverse]

/-- Only blanks are trimmed away. -/
theorem exists_trim (text : List Char) :
    ∃ left right, allBlank left = true ∧ allBlank right = true ∧
      text = left ++ trim text ++ right := by
  obtain ⟨right, blank, parts⟩ := exists_trimEnd (trimStart text)
  refine ⟨text.takeWhile isBlank, right, by simp [allBlank], blank, ?_⟩
  calc text = text.takeWhile isBlank ++ trimStart text := List.takeWhile_append_dropWhile.symm
    _ = text.takeWhile isBlank ++ (trim text ++ right) := by rw [trim, ← parts]
    _ = text.takeWhile isBlank ++ trim text ++ right := (List.append_assoc ..).symm

/-- Trimming leaves characters of the text only. -/
theorem mem_of_mem_trim {text : List Char} {c : Char} (member : c ∈ trim text) : c ∈ text := by
  obtain ⟨left, right, -, -, parts⟩ := exists_trim text
  rw [parts]
  exact List.mem_append_left _ (List.mem_append_right _ member)

/-- A trimmed piece is what trimming leaves exactly when only blanks stand around it. -/
theorem trim_eq_iff {text piece : List Char} (trimmed : trim piece = piece) :
    trim text = piece ↔
      ∃ left right, allBlank left = true ∧ allBlank right = true ∧
        text = left ++ piece ++ right := by
  constructor
  · rintro rfl
    exact exists_trim text
  · rintro ⟨left, right, blankLeft, blankRight, rfl⟩
    rw [trim_append_right blankRight, trim_append_left blankLeft, trimmed]

/-- Trimming leaves nothing of a text exactly when it is blank. -/
theorem trim_eq_nil_iff {text : List Char} : trim text = [] ↔ allBlank text = true := by
  constructor
  · intro nothing
    obtain ⟨left, right, blankLeft, blankRight, parts⟩ := exists_trim text
    rw [parts, nothing, allBlank_eq_true_iff]
    intro c member
    rcases List.mem_append.mp (List.append_nil left ▸ member) with inLeft | inRight
    · exact allBlank_eq_true_iff.mp blankLeft c inLeft
    · exact allBlank_eq_true_iff.mp blankRight c inRight
  · intro blank
    rw [trim, trimStart_eq_nil blank]
    rfl

/-- Nothing is trimmed off a text that has no more blanks than are left. -/
theorem trim_eq_self_of_countP {text : List Char}
    (count : (trim text).countP isBlank = text.countP isBlank) : trim text = text := by
  obtain ⟨left, right, blankLeft, blankRight, parts⟩ := exists_trim text
  have all (blanks : List Char) (blank : allBlank blanks = true) :
      blanks.countP isBlank = blanks.length :=
    List.countP_eq_length.mpr (allBlank_eq_true_iff.mp blank)
  have total := congrArg (List.countP isBlank) parts
  rw [List.countP_append, List.countP_append, all left blankLeft, all right blankRight] at total
  have noLeft : left = [] := List.length_eq_zero_iff.mp (by omega)
  have noRight : right = [] := List.length_eq_zero_iff.mp (by omega)
  rw [noLeft, noRight, List.nil_append, List.append_nil] at parts
  exact parts.symm

/-- A text that begins with a solid character still does when it is trimmed. -/
theorem exists_trim_cons {c : Char} (solid : isBlank c = false) (rest : List Char) :
    ∃ more, trim (c :: rest) = c :: more := by
  obtain ⟨left, right, blankLeft, blankRight, parts⟩ := exists_trim (c :: rest)
  have outside : ∀ blanks, allBlank blanks = true → c ∉ blanks := by
    intro blanks blank member
    rw [allBlank_eq_true_iff.mp blank c member] at solid
    contradiction
  have noLeft : left = [] := by
    cases left with
    | nil => rfl
    | cons d left =>
        obtain rfl : c = d := (List.cons.inj parts).1
        exact absurd (List.mem_cons_self ..) (outside _ blankLeft)
  rw [noLeft, List.nil_append] at parts
  cases trimmed : trim (c :: rest) with
  | nil =>
      rw [trimmed, List.nil_append] at parts
      exact absurd (parts ▸ List.mem_cons_self ..) (outside _ blankRight)
  | cons d more =>
      rw [trimmed, List.cons_append] at parts
      exact ⟨more, by rw [(List.cons.inj parts).1]⟩

/-! ## Texts that end in a solid character -/

/-- The text ends in a character that is not blank. -/
def EndsSolid (text : List Char) : Prop :=
  ∃ start c, text = start ++ [c] ∧ isBlank c = false

/-- What stands before the end of a text does not matter. -/
theorem EndsSolid.append_left {ending : List Char} (solid : EndsSolid ending)
    (start : List Char) : EndsSolid (start ++ ending) := by
  obtain ⟨middle, c, rfl, solid⟩ := solid
  exact ⟨start ++ middle, c, (List.append_assoc ..).symm, solid⟩

/-- The end of a text ends as the text does, unless it is empty. -/
theorem EndsSolid.of_append {start ending : List Char} (solid : EndsSolid (start ++ ending))
    (nonempty : ending ≠ []) : EndsSolid ending := by
  obtain ⟨whole, c, parts, solid⟩ := solid
  obtain rfl | ⟨middle, last, rfl⟩ := List.eq_nil_or_concat ending
  · contradiction
  · rw [List.concat_eq_append, ← List.append_assoc] at parts
    obtain rfl : last = c := List.cons.inj (List.append_inj' parts rfl).2 |>.1
    exact ⟨middle, last, List.concat_eq_append, solid⟩

/-- Nothing is dropped at the end of such a text. -/
theorem EndsSolid.trimEnd_eq {text : List Char} (solid : EndsSolid text) : trimEnd text = text := by
  obtain ⟨start, c, rfl, solid⟩ := solid
  simp [trimEnd, solid]

/-- Something is left of such a text when the blanks in front are dropped. -/
theorem EndsSolid.trimStart_ne_nil {text : List Char} (solid : EndsSolid text) :
    trimStart text ≠ [] := by
  obtain ⟨start, c, rfl, solid⟩ := solid
  intro nothing
  have blank := List.dropWhile_eq_nil_iff.mp nothing c (by simp)
  rw [solid] at blank
  contradiction

/-- Only blanks at the front are trimmed away from such a text. -/
theorem EndsSolid.trim_eq {text : List Char} (solid : EndsSolid text) :
    trim text = trimStart text := by
  have whole : text.takeWhile isBlank ++ trimStart text = text := List.takeWhile_append_dropWhile
  have nonempty := solid.trimStart_ne_nil
  rw [← whole] at solid
  exact (solid.of_append nonempty).trimEnd_eq

/-- A trimmed text ends in a solid character, unless it is empty. -/
theorem endsSolid_trim {text : List Char} (nonempty : trim text ≠ []) : EndsSolid (trim text) := by
  rw [trim, trimEnd] at nonempty ⊢
  cases rest : (trimStart text).reverse.dropWhile isBlank with
  | nil => simp [rest] at nonempty
  | cons c more =>
      have solid := List.head?_dropWhile_not isBlank (trimStart text).reverse
      rw [rest] at solid
      exact ⟨more.reverse, c, List.reverse_cons, by simpa using solid⟩

/-! ## Trimming again -/

/-- A solid character keeps the blanks behind it. -/
theorem trimStart_cons {c : Char} (solid : isBlank c = false) (rest : List Char) :
    trimStart (c :: rest) = c :: rest :=
  List.dropWhile_cons_of_neg (by simp [solid])

/-- A trimmed text has no blanks in front. -/
theorem trimStart_trim (text : List Char) : trimStart (trim text) = trim text := by
  cases trimmed : trim text with
  | nil => rfl
  | cons c rest =>
      obtain ⟨blanks, -, parts⟩ := exists_trimEnd (trimStart text)
      have begins : (text.dropWhile isBlank).head? = some c := by
        change (trimStart text).head? = some c
        rw [parts, ← trim, trimmed]
        rfl
      have solid := List.head?_dropWhile_not isBlank text
      rw [begins] at solid
      exact trimStart_cons (by simpa using solid) rest

/-- Trimming a second time changes nothing. -/
theorem trim_trim (text : List Char) : trim (trim text) = trim text := by
  by_cases nothing : trim text = []
  · rw [nothing, trim_nil]
  · rw [(endsSolid_trim nothing).trim_eq, trimStart_trim]

/-- The start of a text without blanks in front has none either. -/
theorem trimStart_of_append {start rest : List Char}
    (kept : trimStart (start ++ rest) = start ++ rest) : trimStart start = start := by
  cases start with
  | nil => rfl
  | cons c start =>
      cases blank : isBlank c with
      | false => exact trimStart_cons blank start
      | true =>
          -- A blank in front would make the text shorter.
          have shorter := List.length_dropWhile_le isBlank (start ++ rest)
          rw [trimStart, List.cons_append, List.dropWhile_cons_of_pos blank] at kept
          rw [kept, List.length_cons] at shorter
          omega

/-! ## The part before the first separator -/

/-- The characters of a text without separators are other ones. -/
theorem bne_of_notMem {separator : Char} {text : List Char} (clean : separator ∉ text) :
    ∀ c ∈ text, (c != separator) = true := by
  intro c member
  exact bne_iff_ne.mpr fun same => clean (same ▸ member)

/-- The first separator parts a text at the end of the longest start without one; a text without
separators is all start. -/
theorem splitFirst?_getD (separator : Char) (text : List Char) :
    (splitFirst? separator text).getD (text, []) =
      (text.takeWhile (· != separator), (text.dropWhile (· != separator)).tail) := by
  cases cut : splitFirst? separator text with
  | none =>
      have other := bne_of_notMem (splitFirst?_eq_none_iff.mp cut)
      rw [List.takeWhile_eq_self_iff.mpr other, List.dropWhile_eq_nil_iff.mpr other]
      rfl
  | some parts =>
      obtain ⟨whole, clean⟩ := splitFirst?_eq_some cut
      have other := bne_of_notMem clean
      rw [whole, List.takeWhile_append_of_pos other, List.dropWhile_append_of_pos other]
      simp

/-! ## The part after the last separator -/

variable {separator : Char}

/-- Without a cut there is no separator. -/
theorem splitLast?_eq_none_iff {text : List Char} :
    splitLast? separator text = none ↔ separator ∉ text := by
  induction text with
  | nil => simp [splitLast?]
  | cons c rest inductionHypothesis =>
      rw [splitLast?, List.mem_cons, not_or, ← inductionHypothesis]
      cases splitLast? separator rest with
      | some parts => simp
      | none =>
          by_cases same : c = separator
          · simp [same]
          · simp [same, Ne.symm same]

/-- A cut at the last separator loses nothing, and the part after it holds no separator. -/
theorem splitLast?_eq_some {text before after : List Char}
    (cut : splitLast? separator text = some (before, after)) :
    text = before ++ separator :: after ∧ separator ∉ after := by
  induction text generalizing before with
  | nil => simp [splitLast?] at cut
  | cons c rest inductionHypothesis =>
      rw [splitLast?] at cut
      cases found : splitLast? separator rest with
      | some parts =>
          rw [found] at cut
          obtain ⟨rfl, rfl⟩ := Prod.mk.inj (Option.some.inj cut)
          have inner := inductionHypothesis found
          exact ⟨congrArg (c :: ·) inner.1, inner.2⟩
      | none =>
          rw [found] at cut
          by_cases same : c = separator
          · obtain ⟨rfl, rfl⟩ : before = [] ∧ rest = after := by simpa [same, eq_comm] using cut
            exact ⟨by rw [same, List.nil_append], splitLast?_eq_none_iff.mp found⟩
          · simp [same] at cut

/-- The last separator is the one that no other follows. -/
theorem splitLast?_append {after : List Char} (last : separator ∉ after) (before : List Char) :
    splitLast? separator (before ++ separator :: after) = some (before, after) := by
  induction before with
  | nil => simp [splitLast?, splitLast?_eq_none_iff.mpr last]
  | cons c before inductionHypothesis => simp [splitLast?, inductionHypothesis]

/-- A text ends in a part without separators after a start that is empty or ends in a separator,
and in no other such part. -/
theorem afterLast_eq_iff {text piece : List Char} :
    afterLast separator text = piece ↔
      separator ∉ piece ∧
        ∃ start, (start = [] ∨ [separator] <:+ start) ∧ text = start ++ piece := by
  constructor
  · rintro rfl
    cases cut : splitLast? separator text with
    | none =>
        rw [afterLast, cut]
        exact ⟨splitLast?_eq_none_iff.mp cut, [], .inl rfl, rfl⟩
    | some parts =>
        obtain ⟨whole, last⟩ := splitLast?_eq_some cut
        rw [afterLast, cut]
        exact ⟨last, parts.1 ++ [separator], .inr ⟨parts.1, rfl⟩, by simpa using whole⟩
  · rintro ⟨last, start, rfl | ⟨before, rfl⟩, rfl⟩
    · rw [afterLast, splitLast?_eq_none_iff.mpr last]
    · rw [List.append_assoc, List.singleton_append, afterLast, splitLast?_append last]

end QueryNotebook.Text
