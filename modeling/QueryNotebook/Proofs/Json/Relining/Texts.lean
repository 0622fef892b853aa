import QueryNotebook.Proofs.Json.Relining

/-!
# Words and texts in other lines

Words and texts hold no control character, so they stand within a line.  They are read up to their
end, whatever follows.
-/

namespace QueryNotebook.Json

/-! ## Words and texts -/

/-- A word is read where it stands. -/
theorem scanWord_eq_ok_iff {word text rest : List Char} :
    scanWord word text = .ok rest ↔ text = word ++ rest := by
  induction word generalizing text with
  | nil => simp [scanWord]
  | cons expected word inductionHypothesis =>
      cases text with
      | nil => simp [scanWord]
      | cons c text =>
          by_cases same : c = expected
          · simp [scanWord, same, inductionHypothesis]
          · simp [scanWord, same]

/-- A word without control characters is passed over. -/
theorem skips_scanWord {word : List Char} (printable : word.all fun c => 32 ≤ c.toNat) :
    Skips (scanWord word) := by
  intro left right rest lined ok
  have printable : ∀ c ∈ word, 32 ≤ c.toNat := by simpa using printable
  have usesUp : UsesUp (scanWord word) left rest id :=
    ⟨word, scanWord_eq_ok_iff.mp ok, printable, fun other => scanWord_eq_ok_iff.mpr rfl⟩
  exact usesUp.relined lined

/-- A hexadecimal digit is no control character. -/
theorem le_of_hexValue? {value : Nat} (digit : hexValue? c = some value) : 32 ≤ c.toNat := by
  unfold hexValue? at digit
  split at digit
  · next decimal => exact le_of_isDigit decimal
  · split at digit
    · next small => exact Nat.le_trans (by decide) (Char.le_def.mp small.1)
    · split at digit
      · next capital => exact Nat.le_trans (by decide) (Char.le_def.mp capital.1)
      · contradiction

/-- The digits of a code are no control characters. -/
theorem le_of_hexCode? {a b c d : Char} {code : Nat} (digits : hexCode? a b c d = some code) :
    ∀ digit ∈ [a, b, c, d], 32 ≤ digit.toNat := by
  simp only [hexCode?, bind, Option.bind_eq_some_iff] at digits
  obtain ⟨_, first, _, second, _, third, _, fourth, _⟩ := digits
  simp only [List.forall_mem_cons]
  exact ⟨le_of_hexValue? first, le_of_hexValue? second, le_of_hexValue? third,
    le_of_hexValue? fourth, by simp⟩

/-- A letter that means something after a backslash is no control character. -/
theorem le_of_escaped? {letter meant : Char} (escapes : escaped? letter = some meant) :
    32 ≤ letter.toNat := by
  refine Nat.le_of_not_lt fun control => ?_
  have meaningless : ∀ code < 32, escaped? (Char.ofNat code) = none := by decide
  have nothing := meaningless letter.toNat control
  rw [Char.ofNat_toNat] at nothing
  simp [nothing] at escapes

/-- The ways in which a character is spelled in a text that is read. -/
inductive Spells : List Char → Char → Prop where
  | plain {c : Char} (noQuote : c ≠ '\x22') (noEscape : c ≠ '\\') (printable : ¬ c.toNat < 32) :
      Spells [c] c
  | letter {letter meant : Char} (escapes : escaped? letter = some meant) :
      Spells ['\\', letter] meant
  | code {a b c d : Char} {code : Nat} (digits : hexCode? a b c d = some code)
      (notTrailing : isTrailing code = false) (notLeading : isLeading code = false) :
      Spells ['\\', 'u', a, b, c, d] (Char.ofNat code)
  | pair {a b c d e f g h : Char} {first second : Nat} (digits : hexCode? a b c d = some first)
      (moreDigits : hexCode? e f g h = some second) (notTrailing : isTrailing first = false)
      (leading : isLeading first = true) (trailing : isTrailing second = true) :
      Spells ['\\', 'u', a, b, c, d, '\\', 'u', e, f, g, h] (pairChar first second)

/-- A spelled character is read. -/
theorem Spells.scanString_append {unit : List Char} (spells : Spells unit c) (rest : List Char) :
    scanString (unit ++ rest) = Scan.push c (scanString rest) := by
  cases spells with
  | plain noQuote noEscape printable => exact scanString_plain noQuote noEscape printable rest
  | letter escapes => exact scanString_letter escapes rest
  | code digits notTrailing notLeading =>
      simp only [List.cons_append, List.nil_append]
      rw [scanString.eq_3, digits]
      simp [notTrailing, notLeading]
  | pair digits moreDigits notTrailing leading trailing =>
      simp only [List.cons_append, List.nil_append]
      rw [scanString.eq_3, digits]
      simp [notTrailing, leading, moreDigits, trailing]

/-- No character is spelled with control characters. -/
theorem Spells.printable {unit : List Char} (spells : Spells unit c) :
    ∀ d ∈ unit, 32 ≤ d.toNat := by
  have escape : 32 ≤ '\\'.toNat ∧ 32 ≤ 'u'.toNat := by decide
  cases spells with
  | plain _ _ printable => simpa using Nat.le_of_not_lt printable
  | letter escapes => simpa [escape] using le_of_escaped? escapes
  | code digits =>
      have printable := le_of_hexCode? digits
      simp only [List.forall_mem_cons] at printable ⊢
      exact ⟨escape.1, escape.2, printable⟩
  | pair digits moreDigits =>
      have printable := le_of_hexCode? digits
      have more := le_of_hexCode? moreDigits
      simp only [List.forall_mem_cons] at printable more ⊢
      exact ⟨escape.1, escape.2, printable.1, printable.2.1, printable.2.2.1, printable.2.2.2.1,
        escape.1, escape.2, more⟩

theorem push_eq_ok_iff {scan : Scan (List Char)} {value rest : List Char} :
    Scan.push c scan = .ok (value, rest) ↔
      ∃ others, scan = .ok (others, rest) ∧ value = c :: others := by
  rcases scan with fault | ⟨others, after⟩
  · simp [Scan.push, Except.map]
  · simp only [Scan.push, Except.map, Except.ok.injEq, Prod.mk.injEq]
    constructor
    · rintro ⟨rfl, rfl⟩
      exact ⟨others, ⟨rfl, rfl⟩, rfl⟩
    · rintro ⟨_, ⟨rfl, rfl⟩, rfl⟩
      exact ⟨rfl, rfl⟩

/-- The first character of a text that was read is spelled at its beginning. -/
def BeginsSpelled (text value rest : List Char) : Prop :=
  ∃ unit c more others, Spells unit c ∧ text = unit ++ more ∧
    scanString more = .ok (others, rest) ∧ value = c :: others

theorem Spells.begins {unit more value rest : List Char} (spells : Spells unit c)
    (read : Scan.push c (scanString more) = .ok (value, rest)) :
    BeginsSpelled (unit ++ more) value rest := by
  obtain ⟨others, later, same⟩ := push_eq_ok_iff.mp read
  exact ⟨unit, c, more, others, spells, rfl, later, same⟩

/-- A code that is read stands for a character, alone or as the first half of a pair. -/
theorem beginsSpelled_of_code {a b c d : Char} {after value rest : List Char}
    (read : scanString ('\\' :: 'u' :: a :: b :: c :: d :: after) = .ok (value, rest)) :
    BeginsSpelled ('\\' :: 'u' :: a :: b :: c :: d :: after) value rest := by
  rw [scanString.eq_3] at read
  simp only [Char.reduceEq, Char.reduceToNat, if_false, ne_eq, not_true_eq_false,
    Nat.reduceLT] at read
  split at read
  · contradiction
  · next code digits =>
    cases trailing : isTrailing code with
    | true => simp [trailing] at read
    | false =>
        simp only [trailing, Bool.false_eq_true, if_false] at read
        cases leading : isLeading code with
        | false => exact (Spells.code digits trailing leading).begins (by simpa [leading] using read)
        | true =>
            simp only [leading, Bool.not_true, Bool.false_eq_true, if_false] at read
            split at read
            · contradiction
            · contradiction
            · split at read
              · contradiction
              · next moreDigits =>
                split at read
                · next second => exact (Spells.pair digits moreDigits trailing leading second).begins read
                · contradiction
            · contradiction
            · contradiction

/-- What is read of a text is spelled in it, up to the quote that ends it. -/
theorem eq_or_beginsSpelled_of_scanString {text value rest : List Char}
    (read : scanString text = .ok (value, rest)) :
    (text = '\x22' :: rest ∧ value = []) ∨ BeginsSpelled text value rest := by
  have whole := read
  rw [scanString.eq_def] at read
  split at read
  · contradiction
  · split at read
    · next quote =>
      obtain ⟨rfl, rfl⟩ := Prod.mk.inj (Except.ok.inj read)
      exact .inl ⟨by rw [quote], rfl⟩
    · next noQuote =>
      refine .inr ?_
      split at read
      · contradiction
      · next printable =>
        split at read
        · next noEscape => exact (Spells.plain noQuote noEscape printable).begins read
        · next escape =>
          obtain rfl := Decidable.not_not.mp escape
          split at read
          · contradiction
          · exact beginsSpelled_of_code whole
          · contradiction
          · split at read
            · next escapes => exact (Spells.letter escapes).begins read
            · contradiction

/-- A text is read up to its quote, within its line. -/
theorem usesUp_scanString {text value rest : List Char}
    (read : scanString text = .ok (value, rest)) :
    UsesUp scanString text rest (Prod.mk value) := by
  induction value generalizing text with
  | nil =>
      rcases eq_or_beginsSpelled_of_scanString read with ⟨rfl, -⟩ | ⟨_, _, _, _, _, _, _, same⟩
      · exact ⟨['\x22'], rfl, List.forall_mem_singleton.mpr (by decide), scanString_quote⟩
      · contradiction
  | cons c others inductionHypothesis =>
      rcases eq_or_beginsSpelled_of_scanString read with ⟨-, same⟩ |
        ⟨unit, _, more, _, spells, rfl, later, same⟩
      · contradiction
      · obtain ⟨rfl, rfl⟩ := List.cons.inj same
        refine (inductionHypothesis later).append spells.printable fun text other ok => ?_
        rw [spells.scanString_append, ok]
        rfl

theorem relines_scanString : Relines scanString :=
  fun _ _ _ _ lined ok => (usesUp_scanString ok).relined lined

theorem skipString_quote (rest : List Char) : skipString ('\x22' :: rest) = .ok rest := by
  rw [skipString.eq_def]
  rfl

/-- A plain character of a text is skipped. -/
theorem skipString_plain {c : Char} (noQuote : c ≠ '\x22') (noEscape : c ≠ '\\')
    (printable : ¬ c.toNat < 32) (rest : List Char) :
    skipString (c :: rest) = skipString rest := by
  rw [skipString.eq_def]
  simp [noQuote, noEscape, printable]

/-- A letter that means something after a backslash is skipped with it. -/
theorem skipString_letter {letter meant : Char} (escapes : escaped? letter = some meant)
    (rest : List Char) : skipString ('\\' :: letter :: rest) = skipString rest := by
  have noCode : letter ≠ 'u' := by
    rintro rfl
    contradiction
  rw [skipString.eq_5 _ _ _ (fun _ _ _ _ _ code => absurd code noCode) noCode, escapes]
  rfl

/-- A code is skipped, whatever it stands for. -/
theorem skipString_code {a b c d : Char} {code : Nat} (digits : hexCode? a b c d = some code)
    (rest : List Char) :
    skipString ('\\' :: 'u' :: a :: b :: c :: d :: rest) = skipString rest := by
  rw [skipString.eq_3, digits]
  simp

/-- A text is passed over up to its quote, within its line. -/
theorem usesUp_skipString {text rest : List Char} (read : skipString text = .ok rest) :
    UsesUp skipString text rest id := by
  have behind {unit : List Char}
      (skipped : ∀ other, skipString (unit ++ other) = skipString other) (text other : List Char)
      (ok : skipString text = .ok (id other)) : skipString (unit ++ text) = .ok (id other) :=
    (skipped text).trans ok
  induction text using skipString.induct with
  | case1 => contradiction
  | case2 tail =>
      obtain rfl := Except.ok.inj ((skipString_quote tail).symm.trans read)
      exact ⟨['\x22'], rfl, List.forall_mem_singleton.mpr (by decide), skipString_quote⟩
  | case3 head tail noQuote control =>
      rw [skipString.eq_def] at read
      simp [noQuote, control] at read
  | case4 head tail noQuote printable noEscape inductionHypothesis =>
      have skipped (other : List Char) : skipString ([head] ++ other) = skipString other :=
        skipString_plain noQuote noEscape printable other
      have later := inductionHypothesis ((skipped tail).symm.trans read)
      exact later.append (by simpa using Nat.le_of_not_lt printable) (behind skipped)
  | case5 head noQuote printable escape =>
      simp [skipString, noQuote, printable, escape] at read
  | case6 head noQuote printable escape a b c d after noCode =>
      simp [skipString, noQuote, printable, escape, noCode] at read
  | case7 head noQuote printable escape a b c d after code digits inductionHypothesis =>
      obtain rfl := Decidable.not_not.mp escape
      have skipped (other : List Char) :
          skipString (['\\', 'u', a, b, c, d] ++ other) = skipString other :=
        skipString_code digits other
      have later := inductionHypothesis ((skipped after).symm.trans read)
      refine later.append (List.forall_mem_cons.mpr ⟨Nat.le_of_not_lt printable, ?_⟩) (behind skipped)
      exact List.forall_mem_cons.mpr ⟨by decide, le_of_hexCode? digits⟩
  | case8 head noQuote printable escape short tooShort =>
      simp [skipString, noQuote, printable, escape] at read
  | case9 head noQuote printable escape letter after noCode noLetter meant escapes
      inductionHypothesis =>
      obtain rfl := Decidable.not_not.mp escape
      have skipped (other : List Char) : skipString (['\\', letter] ++ other) = skipString other :=
        skipString_letter escapes other
      have later := inductionHypothesis ((skipped after).symm.trans read)
      refine later.append (List.forall_mem_cons.mpr ⟨Nat.le_of_not_lt printable, ?_⟩) (behind skipped)
      simpa using le_of_escaped? escapes
  | case10 head noQuote printable escape letter after noCode noLetter meaningless =>
      simp [skipString.eq_5 _ _ _ noCode noLetter, noQuote, printable, escape, meaningless] at read

theorem skips_skipString : Skips skipString :=
  fun _ _ _ lined ok => (usesUp_skipString ok).relined lined

end QueryNotebook.Json
