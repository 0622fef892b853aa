import Mathlib.Data.List.DropRight
import QueryNotebook.Json.Printer
import QueryNotebook.Json.Reader

/-!
# Texts and counts read back

What is printed for a text or a natural number is read as that text or number again, whatever
follows a text, and whatever cannot go on a number.  A printed text holds no control character, so
it never ends a line.
-/

namespace QueryNotebook.Json

/-! ## Blanks -/

theorem skipSpace_append {blanks : List Char} (blank : ∀ c ∈ blanks, isSpace c = true)
    (text : List Char) : skipSpace (blanks ++ text) = skipSpace text :=
  List.dropWhile_append_of_pos blank

@[simp] theorem skipSpace_skipSpace (text : List Char) :
    skipSpace (skipSpace text) = skipSpace text :=
  List.dropWhile_idempotent isSpace text

/-- Nothing is skipped before a character that is not a blank. -/
theorem skipSpace_cons {c : Char} (solid : isSpace c = false) (text : List Char) :
    skipSpace (c :: text) = c :: text :=
  List.dropWhile_cons_of_neg (by simp [solid])

/-- No number begins with a blank. -/
theorem isSpace_of_number {c : Char} (number : c = '-' ∨ isDigit c = true) : isSpace c = false := by
  refine Bool.eq_false_iff.mpr fun space => ?_
  simp only [isSpace, Bool.or_eq_true, beq_iff_eq] at space
  rcases space with ((rfl | rfl) | rfl) | rfl <;> rcases number with same | digit <;> contradiction

/-- The indentation of a line is skipped. -/
@[simp] theorem skipSpace_newLine (level : Nat) (text : List Char) :
    skipSpace (newLine level ++ text) = skipSpace text := by
  apply skipSpace_append
  intro c member
  rcases List.mem_cons.mp member with rfl | indentation
  · rfl
  · rw [(List.mem_replicate.mp indentation).2]
    rfl

/-! ## Texts -/

/-- A quote ends a text. -/
theorem scanString_quote (rest : List Char) : scanString ('\x22' :: rest) = .ok ([], rest) := by
  rw [scanString.eq_def]
  rfl

/-- A character that needs no escape stands for itself. -/
theorem scanString_plain {c : Char} (noQuote : c ≠ '\x22') (noEscape : c ≠ '\\')
    (printable : ¬ c.toNat < 32) (rest : List Char) :
    scanString (c :: rest) = Scan.push c (scanString rest) := by
  rw [scanString.eq_def]
  simp only [noQuote, noEscape, printable, if_false, ne_eq, not_false_eq_true, if_true]

/-- A letter after a backslash stands for another character. -/
theorem scanString_letter {letter meant : Char} (escapes : escaped? letter = some meant)
    (rest : List Char) :
    scanString ('\\' :: letter :: rest) = Scan.push meant (scanString rest) := by
  have noCode : letter ≠ 'u' := by
    rintro rfl
    contradiction
  -- The equation for a backslash that begins no code, neither a whole one nor a broken one.
  rw [scanString.eq_5 _ _ _ (fun _ _ _ _ _ code => absurd code noCode) noCode, escapes]
  rfl

/-- The printed digits of a control character's code are read as the code. -/
theorem hexCode?_hexDigit :
    ∀ code < 32, hexCode? '0' '0' (hexDigit (code / 16)) (hexDigit (code % 16)) = some code := by
  decide

/-- The code of a control character stands for it. -/
theorem scanString_code {c : Char} (control : c.toNat < 32) (rest : List Char) :
    scanString ('\\' :: 'u' :: '0' :: '0' :: hexDigit (c.toNat / 16) ::
      hexDigit (c.toNat % 16) :: rest) = Scan.push c (scanString rest) := by
  have notTrailing : isTrailing c.toNat = false := by simp [isTrailing]; omega
  have notLeading : isLeading c.toNat = false := by simp [isLeading]; omega
  rw [scanString.eq_3, hexCode?_hexDigit c.toNat control]
  simp [notTrailing, notLeading, Char.ofNat_toNat]

/-- The ways in which a character is printed in a text. -/
inductive Printing (c : Char) : Prop where
  /-- By a letter after a backslash. -/
  | letter (letter : Char) (printed : escapeChar c = ['\\', letter])
      (meant : escaped? letter = some c) (printable : 32 ≤ letter.toNat)
  /-- By the code of a control character. -/
  | code (printed : escapeChar c = ['\\', 'u', '0', '0', hexDigit (c.toNat / 16),
        hexDigit (c.toNat % 16)]) (control : c.toNat < 32)
  /-- By itself. -/
  | plain (printed : escapeChar c = [c]) (noQuote : c ≠ '\x22') (noEscape : c ≠ '\\')
      (printable : ¬ c.toNat < 32)

/-- Every character is printed in one of these ways. -/
theorem printing (c : Char) : Printing c := by
  by_cases special : c = '\x22' ∨ c = '\\'
  · rcases special with rfl | rfl
    · exact .letter '\x22' rfl rfl (by decide)
    · exact .letter '\\' rfl rfl (by decide)
  by_cases named : c = '\n' ∨ c = '\r' ∨ c = '\t' ∨ c = '\x08' ∨ c = '\x0c'
  · rcases named with rfl | rfl | rfl | rfl | rfl
    · exact .letter 'n' rfl rfl (by decide)
    · exact .letter 'r' rfl rfl (by decide)
    · exact .letter 't' rfl rfl (by decide)
    · exact .letter 'b' rfl rfl (by decide)
    · exact .letter 'f' rfl rfl (by decide)
  have others := named
  simp only [not_or] at others
  by_cases control : c.toNat < 32
  · exact .code (by simp [escapeChar, special, others, control]) control
  · obtain ⟨noQuote, noEscape⟩ := not_or.mp special
    exact .plain (by simp [escapeChar, special, others, control]) noQuote noEscape control

/-- A printed character is read as the character. -/
theorem scanString_escapeChar (c : Char) (rest : List Char) :
    scanString (escapeChar c ++ rest) = Scan.push c (scanString rest) := by
  cases printing c with
  | letter letter printed meant => exact printed ▸ scanString_letter meant rest
  | code printed control => exact printed ▸ scanString_code control rest
  | plain printed noQuote noEscape printable =>
      exact printed ▸ scanString_plain noQuote noEscape printable rest

/-- The characters of a printed text are read back up to its closing quote. -/
theorem scanString_flatMap (value rest : List Char) :
    scanString (value.flatMap escapeChar ++ '\x22' :: rest) = .ok (value, rest) := by
  induction value with
  | nil => exact scanString_quote rest
  | cons c value inductionHypothesis =>
      rw [List.flatMap_cons, List.append_assoc, scanString_escapeChar, inductionHypothesis]
      rfl

/-- A text begins and ends with a quote. -/
theorem stringText_append (value rest : List Char) :
    stringText value ++ rest = '\x22' :: (value.flatMap escapeChar ++ '\x22' :: rest) := by
  simp [stringText]

/-- A printed text is read back. -/
theorem readText_stringText (expected : Expectation) (value : String) (rest : List Char) :
    readText expected (stringText value.toList ++ rest) = .ok (value, rest) := by
  rw [stringText_append, readText, skipSpace_cons rfl]
  simp [scanString_flatMap, Except.map]

/-- The digits of a code are no control characters. -/
theorem le_hexDigit : ∀ value < 16, 32 ≤ (hexDigit value).toNat := by
  decide

/-- No printed character is a control character. -/
theorem le_of_mem_escapeChar {c d : Char} (member : d ∈ escapeChar c) : 32 ≤ d.toNat := by
  cases printing c with
  | letter letter printed _ printable =>
      rw [printed] at member
      rcases List.mem_cons.mp member with rfl | last
      · decide
      · rwa [List.mem_singleton.mp last]
  | code printed control =>
      have high : 32 ≤ (hexDigit (c.toNat / 16)).toNat := le_hexDigit _ (by omega)
      have low : 32 ≤ (hexDigit (c.toNat % 16)).toNat := le_hexDigit _ (by omega)
      simp only [printed, List.mem_cons, List.not_mem_nil, or_false] at member
      rcases member with rfl | rfl | rfl | rfl | rfl | rfl
      · decide
      · decide
      · decide
      · decide
      · exact high
      · exact low
  | plain printed _ _ printable =>
      rw [printed] at member
      rw [List.mem_singleton.mp member]
      exact Nat.le_of_not_lt printable

/-- A printed text holds no control character. -/
theorem le_of_mem_stringText {value : List Char} {c : Char} (member : c ∈ stringText value) :
    32 ≤ c.toNat := by
  simp only [stringText, List.mem_cons, List.mem_append, List.mem_flatMap, List.not_mem_nil,
    or_false] at member
  rcases member with rfl | ⟨d, _, printed⟩ | rfl
  · decide
  · exact le_of_mem_escapeChar printed
  · decide

/-! ## Counts -/

/-- A natural number is printed in its decimal digits. -/
theorem scalarText_ofNat (value : Nat) : scalarText (.ofNat value) = Nat.toDigits 10 value := by
  rw [← Nat.toList_repr]
  rfl

theorem isDigit_of_mem_toDigits {value : Nat} {c : Char} (member : c ∈ Nat.toDigits 10 value) :
    isDigit c = true :=
  Nat.isDigit_of_mem_toDigits (by decide) (by decide) member

/-- A digit is no control character. -/
theorem le_of_isDigit {c : Char} (digit : isDigit c = true) : 32 ≤ c.toNat := by
  have above : '0'.toNat ≤ c.toNat := by
    simp only [isDigit, Bool.and_eq_true, decide_eq_true_eq] at digit
    exact digit.1
  exact Nat.le_trans (by decide) above

/-- Only the number zero begins with a zero. -/
theorem head?_toDigits {value : Nat} (positive : 0 < value) :
    (Nat.toDigits 10 value).head? ≠ some '0' := by
  induction value using Nat.strongRecOn with
  | ind value inductionHypothesis =>
      rw [Nat.toDigits_eq_if (by decide)]
      split
      · next single =>
        have digits : ∀ digit < 10, 0 < digit → [digit.digitChar].head? ≠ some '0' := by decide
        exact digits value single positive
      · have higher := inductionHypothesis (value / 10) (by omega) (by omega)
        obtain ⟨first, others, cut⟩ :=
          List.exists_cons_of_ne_nil (Nat.toDigits_ne_nil (n := value / 10) (b := 10))
        rw [cut] at higher ⊢
        exact higher

/-- Reading digits on never makes a number smaller. -/
theorem le_ofDigitChars (digits : List Char) (start : Nat) :
    start ≤ Nat.ofDigitChars 10 digits start := by
  induction digits generalizing start with
  | nil => exact Nat.le_refl start
  | cons digit digits inductionHypothesis =>
      rw [Nat.ofDigitChars_cons]
      exact Nat.le_trans (by omega) (inductionHypothesis _)

/-- Digits are read to the last as long as their number stays below the bound. -/
theorem extendSignificand_eq {digits : List Char} {start : Nat}
    (bounded : Nat.ofDigitChars 10 digits start < significandBound) :
    extendSignificand start digits = (Nat.ofDigitChars 10 digits start, digits.length) := by
  induction digits generalizing start with
  | nil => rfl
  | cons digit digits inductionHypothesis =>
      have next : 10 * start + (digit.toNat - '0'.toNat) = start * 10 + digitValue digit := by
        rw [digitValue, Nat.mul_comm]
        rfl
      rw [Nat.ofDigitChars_cons, next] at bounded ⊢
      have fits := Nat.lt_of_le_of_lt (le_ofDigitChars digits _) bounded
      rw [extendSignificand]
      simp only [fits, if_true, inductionHypothesis bounded, List.length_cons]

/-- A text that cannot go on a number. -/
def EndsNumber (text : List Char) : Prop :=
  ∀ c ∈ text.head?, isDigit c = false ∧ c ≠ '.' ∧ c ≠ 'e' ∧ c ≠ 'E'

/-- A number can end before a mark or a line break. -/
theorem endsNumber_mark {mark : Char} (known : mark ∈ [',', ']', '\x7d', '\n'])
    (rest : List Char) : EndsNumber (mark :: rest) := by
  intro c first
  obtain rfl : mark = c := Option.some.inj first
  simp only [List.mem_cons, List.not_mem_nil, or_false] at known
  rcases known with rfl | rfl | rfl | rfl <;> decide

/-- No digits are taken from a text that begins with none. -/
theorem span_of_noDigit {text : List Char} (ends : ∀ c ∈ text.head?, isDigit c = false) :
    text.takeWhile isDigit = [] ∧ text.dropWhile isDigit = text := by
  cases text with
  | nil => exact ⟨rfl, rfl⟩
  | cons c rest => simp [ends c rfl]

theorem EndsNumber.noDigit {rest : List Char} (ends : EndsNumber rest) :
    ∀ c ∈ rest.head?, isDigit c = false :=
  fun c first => (ends c first).1

/-- Where a number ends, it has neither a fraction nor an exponent. -/
theorem EndsNumber.scanFraction {rest : List Char} (ends : EndsNumber rest) (value : Nat) :
    Json.scanFraction false value 0 rest = .ok (.natural value, rest) := by
  unfold Json.scanFraction
  split
  · exact absurd rfl (ends '.' rfl).2.1
  · exact absurd rfl (ends 'e' rfl).2.2.1
  · exact absurd rfl (ends 'E' rfl).2.2.2
  · rfl

theorem EndsNumber.scanNumber {rest : List Char} (ends : EndsNumber rest) {value : Nat}
    (bounded : value < significandBound) :
    Json.scanNumber (Nat.toDigits 10 value ++ rest) = .ok (.natural value, rest) := by
  have allDigits : ∀ c ∈ Nat.toDigits 10 value, isDigit c = true :=
    fun c => isDigit_of_mem_toDigits
  have stops := span_of_noDigit ends.noDigit
  have unsigned : ((Nat.toDigits 10 value ++ rest).head? == some '-') = false := by
    obtain ⟨first, others, cut⟩ :=
      List.exists_cons_of_ne_nil (Nat.toDigits_ne_nil (n := value) (b := 10))
    have digit : isDigit first = true := allDigits first (by simp [cut])
    have noSign : first ≠ '-' := by
      rintro rfl
      contradiction
    simpa [cut] using noSign
  have read : Nat.ofDigitChars 10 (Nat.toDigits 10 value) 0 = value :=
    Nat.ofDigitChars_toDigits (by decide) (by decide)
  have extended : extendSignificand 0 (Nat.toDigits 10 value) =
      (value, (Nat.toDigits 10 value).length) := by
    rw [extendSignificand_eq (by rwa [read]), read]
  unfold Json.scanNumber
  simp only [unsigned, Bool.false_eq_true, if_false, List.takeWhile_append_of_pos allDigits,
    List.dropWhile_append_of_pos allDigits, stops, List.append_nil]
  split
  · next nothing => exact absurd nothing Nat.toDigits_ne_nil
  · next second others leading =>
    -- Only zero begins with a zero, and it has no second digit.
    rcases Nat.eq_zero_or_pos value with rfl | positive
    · have single : ['0'] = '0' :: second :: others := leading
      simp at single
    · exact absurd (by rw [leading]; rfl) (head?_toDigits positive)
  · rw [extended, Nat.sub_self]
    exact ends.scanFraction value

/-- A printed number below the bound is read back where a number can end. -/
theorem EndsNumber.readCount {rest : List Char} (ends : EndsNumber rest) {value : Nat}
    (bounded : value < significandBound) :
    Json.readCount (scalarText (.ofNat value) ++ rest) = .ok (value, rest) := by
  obtain ⟨first, others, cut⟩ :=
    List.exists_cons_of_ne_nil (Nat.toDigits_ne_nil (n := value) (b := 10))
  have digit : isDigit first = true := isDigit_of_mem_toDigits (by rw [cut]; simp)
  have solid := isSpace_of_number (.inr digit)
  have number := ends.scanNumber bounded
  rw [scalarText_ofNat, Json.readCount]
  rw [cut, List.cons_append] at number ⊢
  rw [skipSpace_cons solid]
  simp only [digit, or_true, if_true, number]

end QueryNotebook.Json
