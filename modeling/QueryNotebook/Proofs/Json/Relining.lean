import QueryNotebook.Json.Reader
import QueryNotebook.Proofs.Json.Scalars
import QueryNotebook.Text.Blank

/-!
# Texts in other lines

The same JSON may stand in other lines: a carriage return may go before a line break, and so may the
last line break, and a line may be left out.  What is read of the one text is then read of the other,
as long as a line that is left out could not have been read itself.  Such a line begins with a stray
character, a slash or a blank that JSON does not know, and no reader passes over a stray character.

Reading never crosses a line break inside a text, a word or a number, so these are read off alike.
Between them blanks are skipped, and there the two texts meet again at the next solid character.
-/

namespace QueryNotebook.Json

/-- A slash, or a blank that may not stand between two pieces: nothing begins with it. -/
def isStray (c : Char) : Bool :=
  c == '/' || (Text.isBlank c && !isSpace c)

/-- The first solid character of a text is a stray one. -/
def Strays (text : List Char) : Prop :=
  ∃ c rest, skipSpace text = c :: rest ∧ isStray c = true

/-- A text that is over or goes on with another line. -/
def EndsLine (text : List Char) : Prop :=
  ∀ c ∈ text.head?, c = '\n'

/-- The right text is the left one in other lines. -/
inductive Relined : List Char → List Char → Prop where
  | nil : Relined [] []
  | lastBreak : Relined ['\n'] []
  | same (c : Char) {left right : List Char} (later : Relined left right) :
      Relined (c :: left) (c :: right)
  /-- A carriage return before the end of a line goes. -/
  | carriage {left right : List Char} (ends : EndsLine right) (later : Relined left right) :
      Relined ('\r' :: left) right
  /-- Before a line that cannot be read, nothing is asked of what follows. -/
  | stray {left right : List Char} (ends : EndsLine right) (strays : Strays left) :
      Relined ('\n' :: left) right

variable {left right : List Char} {c : Char}

/-! ## Reading along both texts -/

/-- A character that is no control character stands in both texts. -/
theorem Relined.cons_left (lined : Relined (c :: left) right) (printable : 32 ≤ c.toNat) :
    ∃ other, right = c :: other ∧ Relined left other := by
  cases lined with
  | lastBreak => contradiction
  | same _ later => exact ⟨_, rfl, later⟩
  | carriage => contradiction
  | stray => contradiction

/-- Characters that are no control characters stand in both texts. -/
theorem Relined.append_left {used : List Char} (lined : Relined (used ++ left) right)
    (printable : ∀ c ∈ used, 32 ≤ c.toNat) :
    ∃ other, right = used ++ other ∧ Relined left other := by
  induction used generalizing right with
  | nil => exact ⟨right, rfl, lined⟩
  | cons c used inductionHypothesis =>
      obtain ⟨between, rfl, later⟩ := lined.cons_left (printable c (List.mem_cons_self ..))
      obtain ⟨other, rfl, last⟩ := inductionHypothesis later fun d member =>
        printable d (List.mem_cons_of_mem c member)
      exact ⟨other, rfl, last⟩

/-- Both texts begin with the same character that is no control character, or neither does. -/
theorem Relined.head?_eq_iff (lined : Relined left right) (printable : 32 ≤ c.toNat) :
    left.head? = some c ↔ right.head? = some c := by
  have noBreak : '\n' ≠ c := by rintro rfl; contradiction
  have noReturn : '\r' ≠ c := by rintro rfl; contradiction
  have ended {text : List Char} (ends : EndsLine text) : text.head? ≠ some c := fun first =>
    noBreak (ends c first).symm
  cases lined with
  | nil => rfl
  | lastBreak => simp [noBreak]
  | same => rfl
  | carriage ends => simp [noReturn, ended ends]
  | stray ends => simp [noBreak, ended ends]

/-- A character at the front that is no control character may be taken off both texts. -/
theorem Relined.tail (lined : Relined left right) (first : left.head? = some c)
    (printable : 32 ≤ c.toNat) : Relined left.tail right.tail := by
  obtain ⟨rest, rfl⟩ := List.head?_eq_some_iff.mp first
  obtain ⟨other, rfl, later⟩ := lined.cons_left printable
  exact later

/-- Both texts begin with the same characters of a kind without line ends. -/
theorem Relined.span {kind : Char → Bool} (noBreak : kind '\n' = false)
    (noReturn : kind '\r' = false) (lined : Relined left right) :
    left.takeWhile kind = right.takeWhile kind ∧
      Relined (left.dropWhile kind) (right.dropWhile kind) := by
  have ended {text : List Char} (ends : EndsLine text) :
      text.takeWhile kind = [] ∧ text.dropWhile kind = text := by
    cases text with
    | nil => exact ⟨rfl, rfl⟩
    | cons c rest =>
        obtain rfl := ends c rfl
        simp [noBreak]
  induction lined with
  | nil => exact ⟨rfl, .nil⟩
  | lastBreak => simp [noBreak, Relined.lastBreak]
  | @same c left right later inductionHypothesis =>
      cases inside : kind c with
      | true => simpa [inside] using inductionHypothesis
      | false => simpa [inside] using later.same c
  | carriage ends later => simpa [noReturn, ended ends] using later.carriage ends
  | stray ends strays => simpa [noBreak, ended ends] using Relined.stray ends strays

/-! ## Blanks -/

/-- How texts go on that are at their first solid character. -/
inductive Meets : List Char → List Char → Prop where
  | nil : Meets [] []
  | same (c : Char) {left right : List Char} (later : Relined left right) :
      Meets (c :: left) (c :: right)
  | stray {c : Char} (stray : isStray c = true) (left right : List Char) : Meets (c :: left) right

/-- Texts in other lines meet after their blanks, unless there is a stray character. -/
theorem Relined.meets (lined : Relined left right) : Meets (skipSpace left) (skipSpace right) := by
  induction lined with
  | nil => exact .nil
  | lastBreak => exact .nil
  | @same c left right later inductionHypothesis =>
      cases space : isSpace c with
      | false =>
          rw [skipSpace_cons space, skipSpace_cons space]
          exact .same c later
      | true =>
          have skipped (text : List Char) : skipSpace (c :: text) = skipSpace text :=
            List.dropWhile_cons_of_pos space
          rwa [skipped, skipped]
  | carriage _ _ inductionHypothesis => exact inductionHypothesis
  | @stray left _ _ strays =>
      obtain ⟨c, rest, there, stray⟩ := strays
      have skipped : skipSpace ('\n' :: left) = c :: rest := there
      rw [skipped]
      exact .stray stray rest _

/-- Where one text is over after its blanks, the other is. -/
theorem Relined.skipSpace_eq_nil (lined : Relined left right) (empty : skipSpace left = []) :
    skipSpace right = [] := by
  have meets := lined.meets
  rw [empty] at meets
  generalize skipSpace right = after at meets
  cases meets
  rfl

/-- What comes after the blanks is no longer than the text. -/
theorem length_skipSpace_le (text : List Char) : (skipSpace text).length ≤ text.length :=
  (List.dropWhile_sublist isSpace).length_le

/-- Where one text goes on after its blanks, and not with a stray character, the other goes on
likewise. -/
theorem Relined.skipSpace_eq_cons (lined : Relined left right) {rest : List Char}
    (there : skipSpace left = c :: rest) (known : isStray c = false) :
    ∃ other, skipSpace right = c :: other ∧ Relined rest other ∧ other.length < right.length := by
  have meets := lined.meets
  have bound := length_skipSpace_le right
  rw [there] at meets
  generalize skipSpace right = after at meets bound
  cases meets with
  | same _ later => exact ⟨_, rfl, later, bound⟩
  | stray stray => simp [known] at stray

/-- A digit is not stray. -/
theorem isStray_of_isDigit (digit : isDigit c = true) : isStray c = false := by
  have range : 48 ≤ c.toNat ∧ c.toNat ≤ 57 := by
    simpa [isDigit, Char.le_def, UInt32.le_iff_toNat_le] using digit
  have noSlash : c ≠ '/' := by rintro rfl; contradiction
  have solid : Text.isBlank c = false := by
    simp [Text.isBlank, Text.inRanges, Text.blankRanges]
    omega
  simp [isStray, noSlash, solid]

/-- No number begins with a stray character. -/
theorem isStray_of_number (number : c = '-' ∨ isDigit c = true) : isStray c = false := by
  rcases number with rfl | digit
  · decide
  · exact isStray_of_isDigit digit

/-! ## Readers -/

/-- A reader reads the same from a text in other lines, and then stands where the lines differ at
most as before. -/
def Relines {α : Type} (read : List Char → Scan α) : Prop :=
  ∀ ⦃left right : List Char⦄ ⦃value : α⦄ ⦃rest : List Char⦄, Relined left right →
    read left = .ok (value, rest) →
    ∃ other, read right = .ok (value, other) ∧ Relined rest other ∧ other.length ≤ right.length

/-- A reader of nothing that gets as far in a text in other lines. -/
def Skips (skip : List Char → Except Fault (List Char)) : Prop :=
  ∀ ⦃left right rest : List Char⦄, Relined left right → skip left = .ok rest →
    ∃ other, skip right = .ok other ∧ Relined rest other ∧ other.length ≤ right.length

section Readers

variable {α β : Type}

/-- What is read behind a first solid character is read behind it in the other text. -/
theorem Relines.behind {read : List Char → Scan α} (relines : Relines read)
    (lined : Relined left right) {text rest : List Char} {value : α}
    (there : skipSpace left = c :: text) (known : isStray c = false)
    (ok : read text = .ok (value, rest)) :
    ∃ after other, skipSpace right = c :: after ∧ read after = .ok (value, other) ∧
      Relined rest other ∧ other.length < right.length := by
  obtain ⟨after, thereRight, lined, shorter⟩ := lined.skipSpace_eq_cons there known
  obtain ⟨other, readRight, later, bound⟩ := relines lined ok
  exact ⟨after, other, thereRight, readRight, later, Nat.lt_of_le_of_lt bound shorter⟩

/-- What is skipped behind a first solid character is skipped behind it in the other text. -/
theorem Skips.behind {skip : List Char → Except Fault (List Char)} (skips : Skips skip)
    (lined : Relined left right) {text rest : List Char} (there : skipSpace left = c :: text)
    (known : isStray c = false) (ok : skip text = .ok rest) :
    ∃ after other, skipSpace right = c :: after ∧ skip after = .ok other ∧
      Relined rest other ∧ other.length < right.length := by
  obtain ⟨after, thereRight, lined, shorter⟩ := lined.skipSpace_eq_cons there known
  obtain ⟨other, readRight, later, bound⟩ := skips lined ok
  exact ⟨after, other, thereRight, readRight, later, Nat.lt_of_le_of_lt bound shorter⟩

theorem map_eq_ok_iff {result : Except Fault α} {change : α → β} {changed : β} :
    result.map change = .ok changed ↔ ∃ value, result = .ok value ∧ change value = changed := by
  cases result <;> simp [Except.map]

theorem bind_eq_ok_iff {result : Except Fault α} {next : α → Except Fault β} {last : β} :
    result >>= next = .ok last ↔ ∃ value, result = .ok value ∧ next value = .ok last := by
  cases result <;> simp [bind, Except.bind]

/-- What was read may be changed; the text that is left stays. -/
theorem changed_eq_ok_iff {scan : Scan α} {change : α × List Char → β} {changed : β}
    {rest : List Char} :
    (scan.map fun done => (change done, done.2)) = .ok (changed, rest) ↔
      ∃ value, scan = .ok (value, rest) ∧ change (value, rest) = changed := by
  rw [map_eq_ok_iff]
  constructor
  · rintro ⟨⟨value, after⟩, done, same⟩
    obtain ⟨rfl, rfl⟩ := Prod.mk.inj same
    exact ⟨value, done, rfl⟩
  · rintro ⟨value, done, rfl⟩
    exact ⟨_, done, rfl⟩

/-- Where nothing was read, something may be given; the text that is left stays. -/
theorem given_eq_ok_iff {skip : Except Fault (List Char)} {given value : α} {rest : List Char} :
    (skip.map fun rest => (given, rest)) = .ok (value, rest) ↔ skip = .ok rest ∧ given = value := by
  cases skip with
  | error fault => simp [Except.map]
  | ok after => simp [Except.map, and_comm]

/-- What was read may be made into something else. -/
theorem Relines.map {read : List Char → Scan α} (relines : Relines read) (change : α → β) :
    Relines fun text => (read text).map fun done => (change done.1, done.2) := by
  intro left right value rest lined ok
  obtain ⟨found, done, rfl⟩ := changed_eq_ok_iff.mp ok
  obtain ⟨other, doneRight, later, bound⟩ := relines lined done
  exact ⟨other, changed_eq_ok_iff.mpr ⟨_, doneRight, rfl⟩, later, bound⟩

/-- Where nothing is read, something may be given. -/
theorem Skips.map {skip : List Char → Except Fault (List Char)} (skips : Skips skip) (value : α) :
    Relines fun text => (skip text).map fun rest => (value, rest) := by
  intro left right value rest lined ok
  obtain ⟨done, rfl⟩ := given_eq_ok_iff.mp ok
  obtain ⟨other, doneRight, later, bound⟩ := skips lined done
  exact ⟨other, given_eq_ok_iff.mpr ⟨doneRight, rfl⟩, later, bound⟩

/-- Reading may begin behind what was skipped. -/
theorem Skips.bind {skip : List Char → Except Fault (List Char)} {read : List Char → Scan α}
    (skips : Skips skip) (relines : Relines read) :
    Relines fun text => (skip text >>= read : Except Fault (α × List Char)) := by
  intro left right value rest lined ok
  obtain ⟨after, done, ok⟩ := bind_eq_ok_iff.mp ok
  obtain ⟨between, doneRight, lined, shorter⟩ := skips lined done
  obtain ⟨other, readRight, later, bound⟩ := relines lined ok
  exact ⟨other, bind_eq_ok_iff.mpr ⟨_, doneRight, readRight⟩, later, Nat.le_trans bound shorter⟩

/-- Skipping may go on behind what was skipped. -/
theorem Skips.andThen {skip next : List Char → Except Fault (List Char)} (skips : Skips skip)
    (later : Skips next) :
    Skips fun text => (skip text >>= next : Except Fault (List Char)) := by
  intro left right rest lined ok
  obtain ⟨after, done, ok⟩ := bind_eq_ok_iff.mp ok
  obtain ⟨between, doneRight, lined, shorter⟩ := skips lined done
  obtain ⟨other, readRight, later, bound⟩ := later lined ok
  exact ⟨other, bind_eq_ok_iff.mpr ⟨_, doneRight, readRight⟩, later, Nat.le_trans bound shorter⟩

/-- Reading may go on with what was read in view. -/
theorem Relines.bind {read : List Char → Scan α} {next : α → List Char → Scan β}
    (relines : Relines read) (later : ∀ value, Relines (next value)) :
    Relines fun text => Except.bind (read text) fun done => next done.1 done.2 := by
  intro left right value rest lined ok
  obtain ⟨⟨found, after⟩, done, ok⟩ := bind_eq_ok_iff.mp ok
  obtain ⟨between, doneRight, lined, shorter⟩ := relines lined done
  obtain ⟨other, readRight, later, bound⟩ := later found lined ok
  exact ⟨other, bind_eq_ok_iff.mpr ⟨_, doneRight, readRight⟩, later, Nat.le_trans bound shorter⟩

/-- A text is used up to a place within its line, in whatever it goes on behind that place. -/
def UsesUp (read : List Char → Except Fault α) (text rest : List Char) (made : List Char → α) :
    Prop :=
  ∃ used, text = used ++ rest ∧ (∀ c ∈ used, 32 ≤ c.toNat) ∧
    ∀ other, read (used ++ other) = .ok (made other)

/-- A unit may be put in front of what is used. -/
theorem UsesUp.append {read : List Char → Except Fault α} {unit text rest : List Char}
    {made changed : List Char → α} (usesUp : UsesUp read text rest made)
    (printable : ∀ c ∈ unit, 32 ≤ c.toNat)
    (reads : ∀ text other, read text = .ok (made other) →
      read (unit ++ text) = .ok (changed other)) :
    UsesUp read (unit ++ text) rest changed := by
  obtain ⟨used, rfl, printableUsed, readUsed⟩ := usesUp
  refine ⟨unit ++ used, (List.append_assoc ..).symm, ?_, fun other => ?_⟩
  · intro c member
    rcases List.mem_append.mp member with here | there
    · exact printable c here
    · exact printableUsed c there
  · rw [List.append_assoc, reads _ _ (readUsed other)]

/-- What is used up stands in a text in other lines too. -/
theorem UsesUp.relined {read : List Char → Except Fault α} {rest : List Char}
    {made : List Char → α} (usesUp : UsesUp read left rest made) (lined : Relined left right) :
    ∃ other, read right = .ok (made other) ∧ Relined rest other ∧ other.length ≤ right.length := by
  obtain ⟨used, rfl, printable, reads⟩ := usesUp
  obtain ⟨other, rfl, later⟩ := lined.append_left printable
  exact ⟨other, reads other, later, by simp⟩

end Readers

end QueryNotebook.Json
