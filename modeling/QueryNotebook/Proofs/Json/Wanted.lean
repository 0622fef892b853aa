import QueryNotebook.Proofs.Json.Grammar
import QueryNotebook.Proofs.Json.Relining.Data

/-!
# Wanted data is skipped alike

A reader of wanted data that succeeds stands where skipping a value of any kind would stand.  So what
comes after a value does not depend on whether the value was wanted.
-/

namespace QueryNotebook.Json

/-! ## Texts -/

/-- What stands between the quotes of a text, and the characters that it spells. -/
inductive SpelledAs : List Char → List Char → Prop where
  | nil : SpelledAs [] []
  | cons {unit body value : List Char} {c : Char} (spells : Spells unit c)
      (later : SpelledAs body value) : SpelledAs (unit ++ body) (c :: value)

/-- A text is read exactly where its characters are spelled up to a quote. -/
theorem scanString_eq_ok_iff {text value rest : List Char} :
    scanString text = .ok (value, rest) ↔
      ∃ body, SpelledAs body value ∧ text = body ++ '\x22' :: rest := by
  constructor
  · intro read
    induction value generalizing text with
    | nil =>
        rcases eq_or_beginsSpelled_of_scanString read with ⟨rfl, -⟩ | ⟨_, _, _, _, _, _, _, same⟩
        · exact ⟨[], .nil, rfl⟩
        · contradiction
    | cons c others inductionHypothesis =>
        rcases eq_or_beginsSpelled_of_scanString read with ⟨-, same⟩ |
          ⟨unit, _, more, _, spells, rfl, later, same⟩
        · contradiction
        · obtain ⟨rfl, rfl⟩ := List.cons.inj same
          obtain ⟨body, spelled, rfl⟩ := inductionHypothesis later
          exact ⟨unit ++ body, .cons spells spelled, (List.append_assoc ..).symm⟩
  · rintro ⟨body, spelled, rfl⟩
    induction spelled with
    | nil => exact scanString_quote rest
    | cons spells _ inductionHypothesis =>
        rw [List.append_assoc, spells.scanString_append, inductionHypothesis]
        rfl

/-- A text in quotes that spells the given one. -/
def QuotedAs (value : String) (text : List Char) : Prop :=
  ∃ body, SpelledAs body value.toList ∧ text = quoted body

/-- A text in quotes is read from its opening quote on. -/
theorem QuotedAs.exists_scan {value : String} {text : List Char} (spelled : QuotedAs value text)
    (rest : List Char) :
    ∃ body, text ++ rest = '\x22' :: body ∧ scanString body = .ok (value.toList, rest) := by
  obtain ⟨body, spelled, rfl⟩ := spelled
  exact ⟨body ++ '\x22' :: rest, by simp [quoted], scanString_eq_ok_iff.mpr ⟨body, spelled, rfl⟩⟩

/-- A character that can be read is skipped. -/
theorem Spells.skipString_append {unit : List Char} {c : Char} (spells : Spells unit c)
    (rest : List Char) : skipString (unit ++ rest) = skipString rest := by
  cases spells with
  | plain noQuote noEscape printable => exact skipString_plain noQuote noEscape printable rest
  | letter escapes => exact skipString_letter escapes rest
  | code digits => exact skipString_code digits rest
  | pair digits moreDigits =>
      exact (skipString_code digits _).trans (skipString_code moreDigits rest)

theorem SpelledAs.skipString_append {body value : List Char} (spelled : SpelledAs body value)
    (rest : List Char) : skipString (body ++ '\x22' :: rest) = .ok rest := by
  induction spelled with
  | nil => exact skipString_quote rest
  | cons spells _ inductionHypothesis =>
      rw [List.append_assoc, spells.skipString_append, inductionHypothesis]

/-- A text that is read is skipped. -/
theorem skipString_of_scanString {text value rest : List Char}
    (read : scanString text = .ok (value, rest)) : skipString text = .ok rest := by
  obtain ⟨body, spelled, rfl⟩ := scanString_eq_ok_iff.mp read
  exact spelled.skipString_append rest

/-- What is read of a text is what stands between its quotes. -/
theorem Quotable.spelledAs_of_scanString {body value rest after : List Char}
    (quotable : Quotable body) (read : scanString (body ++ '\x22' :: rest) = .ok (value, after)) :
    SpelledAs body value ∧ after = rest := by
  have skipped := skipString_of_scanString read
  rw [quotable.skipString_append] at skipped
  obtain rfl := Except.ok.inj skipped
  obtain ⟨other, spelled, same⟩ := scanString_eq_ok_iff.mp read
  exact ⟨List.append_cancel_right same ▸ spelled, rfl⟩

/-! ## Numbers -/

theorem skipDigits_of_scanExponent {negative : Bool} {significand : Nat} {start : Int}
    {text rest : List Char} {value : Numeral}
    (read : scanExponent negative significand start text = .ok (value, rest)) :
    skipDigits (afterSign text) = .ok rest := by
  rw [scanExponent_eq] at read
  have shown : (afterSign text).takeWhile isDigit ≠ [] := by
    intro empty
    rw [empty] at read
    contradiction
  obtain ⟨rfl, -⟩ := handsOn_scaledBy _ _ _ _ _ read
  exact skipDigits_of_takeWhile shown

theorem skipExponent_of_orExponent {make : List Char → Scan Numeral} (hands : HandsOn make)
    {negative : Bool} {significand : Nat} {start : Int} {text rest : List Char} {value : Numeral}
    (read : orExponent make negative significand start text = .ok (value, rest)) :
    skipExponent text = .ok rest := by
  unfold orExponent at read
  split at read
  · rw [skipExponent_letter (.inl rfl), skipDigits_of_scanExponent read]
  · rw [skipExponent_letter (.inr rfl), skipDigits_of_scanExponent read]
  · next noSmall noCapital =>
    obtain ⟨rfl, -⟩ := hands read
    exact skipExponent_of_not noSmall noCapital

theorem skipFraction_of_scanFraction {negative : Bool} {significand : Nat} {start : Int}
    {text rest : List Char} {value : Numeral}
    (read : scanFraction negative significand start text = .ok (value, rest)) :
    skipFraction text = .ok rest := by
  by_cases first : text.head? = some '.'
  · obtain ⟨digits, rfl⟩ := List.head?_eq_some_iff.mp first
    rw [scanFraction_point, fractional] at read
    split at read
    · contradiction
    · next shown =>
      have skipped := skipExponent_of_orExponent (handsOn_map _) read
      rw [skipFraction.eq_1, skipDigits_of_takeWhile (by simpa using shown)]
      exact skipped
  · have noPoint : ∀ more, text = '.' :: more → False := fun more there =>
      first (by rw [there]; rfl)
    rw [scanFraction_pointless noPoint] at read
    rw [skipFraction.eq_2 _ noPoint]
    exact skipExponent_of_orExponent (handsOn_whole _ _ _) read

/-- A number that is read is skipped. -/
theorem skipNumber_of_scanNumber {text rest : List Char} {value : Numeral}
    (read : scanNumber text = .ok (value, rest)) : skipNumber text = .ok rest := by
  rw [scanNumber_eq] at read
  rw [skipNumber_eq]
  generalize afterMinus text = digits at read ⊢
  unfold beginning at read
  split at read
  · contradiction
  · contradiction
  · next noDigits alone =>
    have skipped := skipFraction_of_scanFraction read
    have integer : skipInteger digits = .ok (digits.dropWhile isDigit) := by
      unfold skipInteger
      split
      · next c more =>
        -- A zero at the front is the only digit.
        have zero : isDigit '0' = true := rfl
        cases digit : isDigit c with
        | true => exact (alone c (more.takeWhile isDigit) (by simp [zero, digit])).elim
        | false => simp [zero, digit]
      · exact skipDigits_of_takeWhile noDigits
    rw [integer]
    exact skipped

/-! ## Values -/

theorem skipAny_of_readCount {text rest : List Char} {value : Nat}
    (read : readCount text = .ok (value, rest)) : skipAny text = .ok rest := by
  rw [readCount] at read
  split at read
  · contradiction
  · next there =>
    split at read
    · next number =>
      rw [skipAny, skipValue_number there number]
      split at read
      · next scanned =>
        obtain ⟨rfl, rfl⟩ := Prod.mk.inj (Except.ok.inj read)
        exact skipNumber_of_scanNumber scanned
      · contradiction
      · contradiction
      · contradiction
    · contradiction

theorem skipAny_of_readBoolean {text rest : List Char} {value : Bool}
    (read : readBoolean text = .ok (value, rest)) : skipAny text = .ok rest := by
  rw [readBoolean] at read
  split at read
  · contradiction
  · next there =>
    obtain ⟨word, -⟩ := given_eq_ok_iff.mp read
    simp only [skipAny, skipValue, there, word]
  · next there =>
    obtain ⟨word, -⟩ := given_eq_ok_iff.mp read
    simp only [skipAny, skipValue, there, word]
  · contradiction

theorem skipAny_of_readText {expected : Expectation} {text rest : List Char} {value : String}
    (read : readText expected text = .ok (value, rest)) : skipAny text = .ok rest := by
  rw [readText] at read
  split at read
  · contradiction
  · next there =>
    obtain ⟨found, scanned, -⟩ := changed_eq_ok_iff.mp read
    simp only [skipAny, skipValue, there, skipString_of_scanString scanned]
  · contradiction

theorem skipAny_of_readText? {expected : Expectation} {text rest : List Char}
    {value : Option String} (read : readText? expected text = .ok (value, rest)) :
    skipAny text = .ok rest := by
  rw [readText?] at read
  split at read
  · next there =>
    obtain ⟨word, -⟩ := given_eq_ok_iff.mp read
    simp only [skipAny, skipValue, there, word]
  · obtain ⟨found, scanned, -⟩ := changed_eq_ok_iff.mp read
    rw [readText_skipSpace] at scanned
    exact skipAny_of_readText scanned

/-- A colon that is read stands behind blanks only. -/
theorem skipSpace_of_afterColon {text value : List Char} (colon : afterColon text = .ok value) :
    skipSpace text = ':' :: value := by
  rw [afterColon] at colon
  split at colon
  · next there => rw [there, Except.ok.inj colon]
  · contradiction

theorem skipValue_of_readNull {text rest : List Char} (read : readNull text = .ok ((), rest))
    (fuel : Nat) : skipValue (fuel + 1) text = .ok rest := by
  rw [readNull] at read
  split at read
  · contradiction
  · next there =>
    obtain ⟨word, -⟩ := given_eq_ok_iff.mp read
    simp only [skipValue, there, word]
  · contradiction

end QueryNotebook.Json
