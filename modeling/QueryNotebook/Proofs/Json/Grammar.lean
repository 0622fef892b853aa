import QueryNotebook.Proofs.Json.Relining.Values

/-!
# The grammar of JSON

The texts that are JSON, rule by rule: tokens first, then one derivation for values, elements and
members alike.  An object is derived together with its members, each by the characters between the
quotes of its name and the text of its value, so that what stands in an object can be spoken of
whatever its layout.

A value of any kind is skipped from end to end, whatever it holds.  In particular a number may be of
any size, arrays and objects may be nested to any depth, and a text may spell half of a surrogate
pair.
-/

namespace QueryNotebook.Json

/-! ## Tokens -/

/-- Any number of blanks. -/
def Blanks (text : List Char) : Prop :=
  ∀ c ∈ text, isSpace c = true

instance (text : List Char) : Decidable (Blanks text) :=
  decidable_of_iff (text.all isSpace = true) List.all_eq_true

/-- At least one digit, and nothing else. -/
structure Digits (text : List Char) : Prop where
  nonempty : text ≠ []
  only : ∀ c ∈ text, isDigit c = true

instance (text : List Char) : Decidable (Digits text) :=
  decidable_of_iff (text ≠ [] ∧ text.all isDigit = true)
    ⟨fun shown => ⟨shown.1, List.all_eq_true.mp shown.2⟩,
      fun shown => ⟨shown.nonempty, List.all_eq_true.mpr shown.only⟩⟩

/-- The whole part of a number, in which a leading zero stands alone. -/
structure WholePart (text : List Char) : Prop where
  digits : Digits text
  alone : text.head? = some '0' → text = ['0']

/-- The fraction of a number, if it has one. -/
inductive FractionPart : List Char → Prop where
  | absent : FractionPart []
  | present {digits : List Char} (shown : Digits digits) : FractionPart ('.' :: digits)

/-- The exponent of a number, if it has one. -/
inductive ExponentPart : List Char → Prop where
  | absent : ExponentPart []
  | present {letter : Char} {sign digits : List Char} (exponent : letter = 'e' ∨ letter = 'E')
      (signed : sign ∈ [[], ['+'], ['-']]) (shown : Digits digits) :
      ExponentPart (letter :: (sign ++ digits))

/-- A number, of any size. -/
inductive Number : List Char → Prop where
  | parts {sign whole fraction exponent : List Char} (signed : sign ∈ [[], ['-']])
      (wholePart : WholePart whole) (fractionPart : FractionPart fraction)
      (exponentPart : ExponentPart exponent) :
      Number (sign ++ (whole ++ (fraction ++ exponent)))

/-- A hexadecimal digit. -/
def isHex (c : Char) : Bool :=
  c ∈ "0123456789abcdefABCDEF".toList

/-- What may stand between the quotes of a text. -/
inductive Quotable : List Char → Prop where
  | nil : Quotable []
  | plain {c : Char} {rest : List Char} (noQuote : c ≠ '\x22') (noEscape : c ≠ '\\')
      (printable : 32 ≤ c.toNat) (later : Quotable rest) : Quotable (c :: rest)
  | letter {c : Char} {rest : List Char}
      (escapes : c ∈ ['\x22', '\\', '/', 'b', 'f', 'n', 'r', 't']) (later : Quotable rest) :
      Quotable ('\\' :: c :: rest)
  | code {a b c d : Char} {rest : List Char} (digits : [a, b, c, d].all isHex = true)
      (later : Quotable rest) : Quotable ('\\' :: 'u' :: a :: b :: c :: d :: rest)

/-- Characters that need no escape may stand in front. -/
theorem Quotable.plain_append {before rest : List Char}
    (plain : before.all fun c => c ≠ '\x22' ∧ c ≠ '\\' ∧ 32 ≤ c.toNat) (later : Quotable rest) :
    Quotable (before ++ rest) := by
  induction before with
  | nil => exact later
  | cons c before inductionHypothesis =>
      rw [List.all_cons, Bool.and_eq_true, decide_eq_true_eq] at plain
      obtain ⟨⟨noQuote, noEscape, printable⟩, plain⟩ := plain
      exact .plain noQuote noEscape printable (inductionHypothesis plain)

theorem Quotable.of_plain {body : List Char}
    (plain : body.all fun c => c ≠ '\x22' ∧ c ≠ '\\' ∧ 32 ≤ c.toNat) : Quotable body := by
  have whole := Quotable.plain_append plain .nil
  rwa [List.append_nil] at whole

/-- A text with its quotes. -/
def quoted (body : List Char) : List Char :=
  '\x22' :: (body ++ ['\x22'])

/-! ## Derivations -/

/-- A member of an object: what stands between the quotes of its name, and the text of its value. -/
structure Member where
  name : List Char
  value : List Char

/-- What a text may be derived as. -/
inductive Symbol where
  | value
  /-- An object with the given members. -/
  | object (members : List Member)
  /-- A value among blanks. -/
  | element
  | elements
  | member (member : Member)
  | members (members : List Member)

/-- The texts of each symbol. -/
inductive Derives : Symbol → List Char → Prop where
  | word {word : String} (known : word ∈ ["null", "true", "false"]) : Derives .value word.toList
  | number {text : List Char} (number : Number text) : Derives .value text
  | text {body : List Char} (quotable : Quotable body) : Derives .value (quoted body)
  | emptyArray {blanks : List Char} (blank : Blanks blanks) :
      Derives .value ('[' :: (blanks ++ [']']))
  | array {text : List Char} (elements : Derives .elements text) :
      Derives .value ('[' :: (text ++ [']']))
  | value {members : List Member} {text : List Char} (object : Derives (.object members) text) :
      Derives .value text
  | emptyObject {blanks : List Char} (blank : Blanks blanks) :
      Derives (.object []) ('\x7b' :: (blanks ++ ['\x7d']))
  | object {members : List Member} {text : List Char} (derived : Derives (.members members) text) :
      Derives (.object members) ('\x7b' :: (text ++ ['\x7d']))
  | element {before value after : List Char} (blank : Blanks before)
      (derived : Derives .value value) (blankAfter : Blanks after) :
      Derives .element (before ++ (value ++ after))
  | lastElement {text : List Char} (element : Derives .element text) : Derives .elements text
  | nextElement {text others : List Char} (element : Derives .element text)
      (later : Derives .elements others) : Derives .elements (text ++ ',' :: others)
  | member {member : Member} {before between lead after : List Char} (blank : Blanks before)
      (quotable : Quotable member.name) (blankBetween : Blanks between) (blankLead : Blanks lead)
      (derived : Derives .value member.value) (blankAfter : Blanks after) :
      Derives (.member member)
        (before ++ (quoted member.name ++ (between ++ ':' :: (lead ++ (member.value ++ after)))))
  | lastMember {member : Member} {text : List Char} (derived : Derives (.member member) text) :
      Derives (.members [member]) text
  | nextMember {member : Member} {members : List Member} {text others : List Char}
      (derived : Derives (.member member) text) (later : Derives (.members members) others) :
      Derives (.members (member :: members)) (text ++ ',' :: others)

/-- The blanks may be left out. -/
theorem Derives.bareElement {value : List Char} (derived : Derives .value value) :
    Derives .element value := by
  have blank : Blanks [] := by decide
  simpa using Derives.element blank derived blank

theorem Derives.bareMember {name value : List Char} (quotable : Quotable name)
    (derived : Derives .value value) :
    Derives (.member ⟨name, value⟩) (quoted name ++ ':' :: value) := by
  have blank : Blanks [] := by decide
  simpa using @Derives.member ⟨name, value⟩ [] [] [] [] blank quotable blank blank derived blank

/-- A document that is one object with the given members. -/
def ObjectText (contents : List Char) (members : List Member) : Prop :=
  ∃ before text after, contents = before ++ (text ++ after) ∧ Blanks before ∧
    Derives (.object members) text ∧ Blanks after

/-- An object alone is a document. -/
theorem ObjectText.of_object {contents text : List Char} {members : List Member}
    (derived : Derives (.object members) text) (same : text = contents) :
    ObjectText contents members :=
  ⟨[], text, [], by simp [same], by decide, derived, by decide⟩

/-! ## Tokens are skipped -/

/-- A number can end before a blank. -/
theorem EndsNumber.blanks_append {blanks rest : List Char} (blank : Blanks blanks)
    (ends : EndsNumber rest) : EndsNumber (blanks ++ rest) := by
  intro c first
  cases blanks with
  | nil => exact ends c first
  | cons d blanks =>
      obtain rfl : d = c := by simpa using first
      have space := blank d (List.mem_cons_self ..)
      simp only [isSpace, Bool.or_eq_true, beq_iff_eq] at space
      rcases space with ((rfl | rfl) | rfl) | rfl <;> decide

/-- A run of digits ends where no digit follows. -/
theorem Digits.span {digits rest : List Char} (shown : Digits digits)
    (ends : ∀ c ∈ rest.head?, isDigit c = false) :
    (digits ++ rest).takeWhile isDigit = digits ∧ (digits ++ rest).dropWhile isDigit = rest := by
  have stops := span_of_noDigit ends
  rw [List.takeWhile_append_of_pos shown.only, List.dropWhile_append_of_pos shown.only, stops.1,
    stops.2]
  exact ⟨List.append_nil _, rfl⟩

/-- Digits are skipped up to the first character that is none. -/
theorem skipDigits_of_takeWhile {text : List Char} (shown : text.takeWhile isDigit ≠ []) :
    skipDigits text = .ok (text.dropWhile isDigit) := by
  cases text with
  | nil => exact absurd rfl shown
  | cons c rest =>
      cases digit : isDigit c with
      | false => simp [digit] at shown
      | true => simp [skipDigits, digit]

theorem Digits.skipDigits_append {digits rest : List Char} (shown : Digits digits)
    (ends : ∀ c ∈ rest.head?, isDigit c = false) : skipDigits (digits ++ rest) = .ok rest := by
  obtain ⟨taken, left⟩ := shown.span ends
  rw [skipDigits_of_takeWhile (by rw [taken]; exact shown.nonempty), left]

theorem Digits.exists_cons {digits : List Char} (shown : Digits digits) :
    ∃ first others, digits = first :: others ∧ isDigit first = true := by
  obtain ⟨first, others, rfl⟩ := List.exists_cons_of_ne_nil shown.nonempty
  exact ⟨first, others, rfl, shown.only first (List.mem_cons_self ..)⟩

/-- A sign before digits is passed over. -/
theorem afterSign_append {sign digits : List Char} (signed : sign ∈ [[], ['+'], ['-']])
    (shown : Digits digits) (rest : List Char) :
    afterSign (sign ++ (digits ++ rest)) = digits ++ rest := by
  obtain ⟨first, others, rfl, digit⟩ := shown.exists_cons
  have noMinus : first ≠ '-' := by rintro rfl; contradiction
  have noPlus : first ≠ '+' := by rintro rfl; contradiction
  simp only [List.mem_cons, List.not_mem_nil, or_false] at signed
  rcases signed with rfl | rfl | rfl <;> simp [afterSign, noMinus, noPlus]

/-- A minus before digits is passed over. -/
theorem afterMinus_append {sign digits : List Char} (signed : sign ∈ [[], ['-']])
    (shown : Digits digits) (rest : List Char) :
    afterMinus (sign ++ (digits ++ rest)) = digits ++ rest := by
  obtain ⟨first, others, rfl, digit⟩ := shown.exists_cons
  have noMinus : first ≠ '-' := by rintro rfl; contradiction
  simp only [List.mem_cons, List.not_mem_nil, or_false] at signed
  rcases signed with rfl | rfl <;> simp [afterMinus, noMinus]

theorem ExponentPart.skipExponent_append {exponent rest : List Char}
    (exponentPart : ExponentPart exponent) (ends : EndsNumber rest) :
    skipExponent (exponent ++ rest) = .ok rest := by
  cases exponentPart with
  | absent =>
      refine skipExponent_of_not ?_ ?_
      · rintro more rfl
        exact (ends 'e' rfl).2.2.1 rfl
      · rintro more rfl
        exact (ends 'E' rfl).2.2.2 rfl
  | present letter signed shown =>
      rw [List.cons_append, List.append_assoc, skipExponent_letter letter,
        afterSign_append signed shown, shown.skipDigits_append ends.noDigit]

/-- What follows the digits of a number is no digit. -/
theorem ExponentPart.noDigit {exponent rest : List Char} (exponentPart : ExponentPart exponent)
    (ends : EndsNumber rest) : ∀ c ∈ (exponent ++ rest).head?, isDigit c = false := by
  cases exponentPart with
  | absent => exact ends.noDigit
  | present letter =>
      intro c first
      obtain rfl := Option.some.inj first
      rcases letter with rfl | rfl <;> rfl

theorem FractionPart.noDigit {fraction exponent rest : List Char}
    (fractionPart : FractionPart fraction) (exponentPart : ExponentPart exponent)
    (ends : EndsNumber rest) : ∀ c ∈ (fraction ++ (exponent ++ rest)).head?, isDigit c = false := by
  cases fractionPart with
  | absent => exact exponentPart.noDigit ends
  | present shown =>
      intro c first
      obtain rfl := Option.some.inj first
      rfl

theorem FractionPart.skipFraction_append {fraction exponent rest : List Char}
    (fractionPart : FractionPart fraction) (exponentPart : ExponentPart exponent)
    (ends : EndsNumber rest) : skipFraction (fraction ++ (exponent ++ rest)) = .ok rest := by
  have skipped := exponentPart.skipExponent_append ends
  cases fractionPart with
  | absent =>
      have noPoint : ∀ more, exponent ++ rest = '.' :: more → False := by
        intro more there
        cases exponentPart with
        | absent =>
            have point : rest.head? = some '.' := congrArg List.head? there
            exact (ends '.' point).2.1 rfl
        | present letter =>
            obtain ⟨same, -⟩ := List.cons.inj there
            rcases letter with rfl | rfl <;> contradiction
      rw [List.nil_append, skipFraction.eq_2 _ noPoint, skipped]
  | present shown =>
      have digits := shown.skipDigits_append (exponentPart.noDigit ends)
      rw [List.cons_append, skipFraction.eq_1, digits]
      exact skipped

theorem WholePart.skipInteger_append {whole rest : List Char} (wholePart : WholePart whole)
    (ends : ∀ c ∈ rest.head?, isDigit c = false) : skipInteger (whole ++ rest) = .ok rest := by
  obtain ⟨first, others, rfl, -⟩ := wholePart.digits.exists_cons
  by_cases zero : first = '0'
  · subst zero
    obtain ⟨-, rfl⟩ := List.cons.inj (wholePart.alone rfl)
    exact skipInteger_zero.mpr ⟨(span_of_noDigit ends).1, rfl⟩
  · have noZero : ∀ c more, first :: others ++ rest = '0' :: c :: more → False := fun c more there =>
      zero (List.cons.inj there).1
    rw [skipInteger.eq_2 _ noZero, wholePart.digits.skipDigits_append ends]

/-- A number is skipped where it can end. -/
theorem Number.skipNumber_append {text rest : List Char} (number : Number text)
    (ends : EndsNumber rest) : skipNumber (text ++ rest) = .ok rest := by
  cases number with
  | parts signed wholePart fractionPart exponentPart =>
      have integer := wholePart.skipInteger_append (fractionPart.noDigit exponentPart ends)
      simp only [List.append_assoc]
      rw [skipNumber_eq, afterMinus_append signed wholePart.digits, integer]
      exact fractionPart.skipFraction_append exponentPart ends

theorem Number.exists_cons {text : List Char} (number : Number text) :
    ∃ first others, text = first :: others ∧ (first = '-' ∨ isDigit first = true) := by
  cases number with
  | parts signed wholePart =>
      obtain ⟨first, others, rfl, digit⟩ := wholePart.digits.exists_cons
      simp only [List.mem_cons, List.not_mem_nil, or_false] at signed
      rcases signed with rfl | rfl
      · exact ⟨_, _, rfl, .inr digit⟩
      · exact ⟨_, _, rfl, .inl rfl⟩

/-- A hexadecimal digit has a value. -/
theorem exists_hexValue? {c : Char} (digit : isHex c = true) : ∃ value, hexValue? c = some value := by
  have known : "0123456789abcdefABCDEF".toList.all fun c => (hexValue? c).isSome := by decide
  refine Option.isSome_iff_exists.mp (List.all_eq_true.mp known c ?_)
  simpa [isHex] using digit

/-- The letters that may follow a backslash mean something. -/
theorem exists_escaped? {c : Char} (escapes : c ∈ ['\x22', '\\', '/', 'b', 'f', 'n', 'r', 't']) :
    ∃ meant, escaped? c = some meant := by
  have known : ['\x22', '\\', '/', 'b', 'f', 'n', 'r', 't'].all fun c => (escaped? c).isSome := by
    decide
  exact Option.isSome_iff_exists.mp (List.all_eq_true.mp known c escapes)

/-- The digits of a code have a value. -/
theorem exists_hexCode? {a b c d : Char} (digits : [a, b, c, d].all isHex = true) :
    ∃ code, hexCode? a b c d = some code := by
  have value (digit : Char) (member : digit ∈ [a, b, c, d]) :=
    exists_hexValue? (List.all_eq_true.mp digits digit member)
  obtain ⟨first, firstValue⟩ := value a (by simp)
  obtain ⟨second, secondValue⟩ := value b (by simp)
  obtain ⟨third, thirdValue⟩ := value c (by simp)
  obtain ⟨fourth, fourthValue⟩ := value d (by simp)
  exact ⟨_, by simp only [hexCode?, firstValue, secondValue, thirdValue, fourthValue]; rfl⟩

theorem Quotable.skipString_append {body : List Char} (quotable : Quotable body)
    (rest : List Char) : skipString (body ++ '\x22' :: rest) = .ok rest := by
  induction quotable with
  | nil => exact skipString_quote rest
  | plain noQuote noEscape printable _ inductionHypothesis =>
      exact (skipString_plain noQuote noEscape (Nat.not_lt.mpr printable) _).trans
        inductionHypothesis
  | letter escapes _ inductionHypothesis =>
      obtain ⟨meant, known⟩ := exists_escaped? escapes
      exact (skipString_letter known _).trans inductionHypothesis
  | code digits _ inductionHypothesis =>
      obtain ⟨code, known⟩ := exists_hexCode? digits
      exact (skipString_code known _).trans inductionHypothesis

/-- No control character stands in a text. -/
theorem Quotable.printable {body : List Char} (quotable : Quotable body) :
    ∀ c ∈ body, 32 ≤ c.toNat := by
  obtain ⟨used, whole, printable, -⟩ := usesUp_skipString (quotable.skipString_append [])
  rw [List.append_nil] at whole
  exact fun c member => printable c (by rw [← whole]; exact List.mem_append_left _ member)

/-! ## Values are skipped -/

theorem orClose_blanks {blanks : List Char} (blank : Blanks blanks) {close : Char}
    (solid : isSpace close = false) (skip : List Char → Except Fault (List Char))
    (rest : List Char) : orClose close skip (blanks ++ close :: rest) = .ok rest :=
  orClose_of_close (by rw [skipSpace_append blank, skipSpace_cons solid])

/-- How a member goes on behind its value. -/
def skipMembersAfter (fuel : Nat) (text : List Char) : Except Fault (List Char) :=
  match skipSpace text with
  | '\x7d' :: rest => .ok rest
  | ',' :: rest => skipMembers fuel rest
  | other => .error (faultAt other)

/-- What skipping makes of a derived text, given fuel in proportion to its length. -/
def Skipped : Symbol → List Char → Prop
  | .value, text | .object _, text => ∀ ⦃fuel : Nat⦄ ⦃rest : List Char⦄,
      2 * text.length < fuel → EndsNumber rest → skipValue fuel (text ++ rest) = .ok rest
  | .element, text => ∀ ⦃fuel : Nat⦄ ⦃rest : List Char⦄, 2 * text.length < fuel →
      EndsNumber rest →
      ∃ after, skipValue fuel (text ++ rest) = .ok after ∧ skipSpace after = skipSpace rest
  | .elements, text => ∀ ⦃fuel : Nat⦄ (rest : List Char), 2 * text.length + 1 < fuel →
      skipItems fuel (text ++ ']' :: rest) = .ok rest
  | .member _, text => ∀ ⦃fuel : Nat⦄ ⦃rest : List Char⦄, 2 * text.length < fuel →
      EndsNumber rest →
      skipMembers (fuel + 1) (text ++ rest) = skipMembersAfter fuel rest
  | .members _, text => ∀ ⦃fuel : Nat⦄ (rest : List Char), 2 * text.length + 1 < fuel →
      skipMembers fuel (text ++ '\x7d' :: rest) = .ok rest

theorem skipMembersAfter_blanks {blanks : List Char} (blank : Blanks blanks) (fuel : Nat)
    (rest : List Char) : skipMembersAfter fuel (blanks ++ rest) = skipMembersAfter fuel rest := by
  simp only [skipMembersAfter, skipSpace_append blank]

theorem skipValue_blanks {blanks : List Char} (blank : Blanks blanks) (fuel : Nat)
    (rest : List Char) : skipValue fuel (blanks ++ rest) = skipValue fuel rest := by
  rw [← skipValue_skipSpace, skipSpace_append blank, skipValue_skipSpace]

theorem skipped_word {word : String} (known : word ∈ ["null", "true", "false"]) :
    Skipped .value word.toList := by
  intro fuel rest enough ends
  obtain ⟨less, rfl⟩ : ∃ less, fuel = less + 1 := ⟨fuel - 1, by omega⟩
  simp only [List.mem_cons, List.not_mem_nil, or_false] at known
  rcases known with rfl | rfl | rfl <;> rfl

theorem skipped_number {text : List Char} (number : Number text) : Skipped .value text := by
  intro fuel rest enough ends
  obtain ⟨less, rfl⟩ : ∃ less, fuel = less + 1 := ⟨fuel - 1, by omega⟩
  have skipped := number.skipNumber_append ends
  obtain ⟨first, others, rfl, begins⟩ := number.exists_cons
  rw [List.cons_append, skipValue_number (skipSpace_cons (isSpace_of_number begins) _) begins]
  exact skipped

theorem skipped_text {body : List Char} (quotable : Quotable body) :
    Skipped .value (quoted body) := by
  intro fuel rest enough ends
  obtain ⟨less, rfl⟩ : ∃ less, fuel = less + 1 := ⟨fuel - 1, by omega⟩
  have there : skipSpace (quoted body ++ rest) = '\x22' :: (body ++ '\x22' :: rest) := by
    rw [quoted, List.cons_append, skipSpace_cons rfl, List.append_assoc]
    rfl
  simp only [skipValue, there]
  exact quotable.skipString_append rest

/-- What stands between two marks is skipped with them. -/
theorem skipValue_between {opening closing : Char}
    {skip : Nat → List Char → Except Fault (List Char)}
    (begins : ∀ {text rest : List Char}, skipSpace text = opening :: rest →
      ∀ fuel, skipValue (fuel + 1) text = orClose closing (skip fuel) rest)
    (solid : isSpace opening = false) {fuel : Nat} {inner rest : List Char}
    (closed : orClose closing (skip fuel) (inner ++ closing :: rest) = .ok rest) :
    skipValue (fuel + 1) (opening :: (inner ++ [closing]) ++ rest) = .ok rest := by
  rw [List.cons_append, List.append_assoc, begins (skipSpace_cons solid _)]
  exact closed

theorem skipped_emptyArray {blanks : List Char} (blank : Blanks blanks) :
    Skipped .value ('[' :: (blanks ++ [']'])) := by
  intro fuel rest enough ends
  obtain ⟨less, rfl⟩ : ∃ less, fuel = less + 1 := ⟨fuel - 1, by omega⟩
  exact skipValue_between skipValue_array rfl (orClose_blanks blank rfl _ _)

theorem skipped_array {text : List Char} (elements : Skipped .elements text) :
    Skipped .value ('[' :: (text ++ [']'])) := by
  intro fuel rest enough ends
  obtain ⟨less, rfl⟩ : ∃ less, fuel = less + 1 := ⟨fuel - 1, by omega⟩
  have room : 2 * text.length + 1 < less := by simp at enough; omega
  exact skipValue_between skipValue_array rfl
    (orClose_of_ok (skipItems_skipSpace less _) (skipItems_of_close · less) (elements rest room))

theorem skipped_emptyObject {blanks : List Char} (blank : Blanks blanks) :
    Skipped (.object []) ('\x7b' :: (blanks ++ ['\x7d'])) := by
  intro fuel rest enough ends
  obtain ⟨less, rfl⟩ : ∃ less, fuel = less + 1 := ⟨fuel - 1, by omega⟩
  exact skipValue_between skipValue_object rfl (orClose_blanks blank rfl _ _)

theorem skipped_object {members : List Member} {text : List Char}
    (derived : Skipped (.members members) text) :
    Skipped (.object members) ('\x7b' :: (text ++ ['\x7d'])) := by
  intro fuel rest enough ends
  obtain ⟨less, rfl⟩ : ∃ less, fuel = less + 1 := ⟨fuel - 1, by omega⟩
  have room : 2 * text.length + 1 < less := by simp at enough; omega
  exact skipValue_between skipValue_object rfl
    (orClose_of_ok (skipMembers_skipSpace less _) (skipMembers_of_close · less) (derived rest room))

theorem skipped_element {before value after : List Char} (blank : Blanks before)
    (derived : Skipped .value value) (blankAfter : Blanks after) :
    Skipped .element (before ++ (value ++ after)) := by
  intro fuel rest enough ends
  refine ⟨after ++ rest, ?_, skipSpace_append blankAfter rest⟩
  simp only [List.append_assoc, List.length_append] at enough ⊢
  rw [skipValue_blanks blank]
  exact derived (by omega) (ends.blanks_append blankAfter)

theorem skipped_lastElement {text : List Char} (element : Skipped .element text) :
    Skipped .elements text := by
  intro fuel rest enough
  obtain ⟨less, rfl⟩ : ∃ less, fuel = less + 1 := ⟨fuel - 1, by omega⟩
  have ends : EndsNumber (']' :: rest) := endsNumber_mark (by decide) _
  obtain ⟨after, skipped, there⟩ := element (by omega : 2 * text.length < less) ends
  rw [skipSpace_cons rfl] at there
  simp only [skipItems, skipped, there]

theorem skipped_nextElement {text others : List Char} (element : Skipped .element text)
    (later : Skipped .elements others) : Skipped .elements (text ++ ',' :: others) := by
  intro fuel rest enough
  obtain ⟨less, rfl⟩ : ∃ less, fuel = less + 1 := ⟨fuel - 1, by omega⟩
  simp only [List.length_append, List.length_cons] at enough
  have ends : EndsNumber (',' :: (others ++ ']' :: rest)) := endsNumber_mark (by decide) _
  obtain ⟨after, skipped, there⟩ := element (by omega : 2 * text.length < less) ends
  rw [skipSpace_cons rfl] at there
  rw [List.append_assoc, List.cons_append]
  simp only [skipItems, skipped, there]
  exact later rest (by omega)

theorem skipped_member {member : Member} {before between lead after : List Char}
    (blank : Blanks before) (quotable : Quotable member.name) (blankBetween : Blanks between)
    (blankLead : Blanks lead) (derived : Skipped .value member.value) (blankAfter : Blanks after) :
    Skipped (.member member)
      (before ++ (quoted member.name ++ (between ++ ':' :: (lead ++ (member.value ++ after))))) := by
  intro fuel rest enough ends
  simp only [quoted, List.append_assoc, List.cons_append, List.length_append, List.length_cons,
    List.nil_append] at enough ⊢
  have value : skipValue fuel (lead ++ (member.value ++ (after ++ rest))) = .ok (after ++ rest) := by
    rw [skipValue_blanks blankLead]
    exact derived (by omega) (ends.blanks_append blankAfter)
  rw [skipMembers, skipSpace_append blank, skipSpace_cons rfl]
  simp only [quotable.skipString_append, skipSpace_append blankBetween,
    skipSpace_cons (rfl : isSpace ':' = false), value]
  exact skipMembersAfter_blanks blankAfter fuel rest

theorem skipped_lastMember {member : Member} {text : List Char}
    (derived : Skipped (.member member) text) : Skipped (.members [member]) text := by
  intro fuel rest enough
  obtain ⟨less, rfl⟩ : ∃ less, fuel = less + 1 := ⟨fuel - 1, by omega⟩
  have ends : EndsNumber ('\x7d' :: rest) := endsNumber_mark (by decide) _
  exact derived (by omega) ends

theorem skipped_nextMember {member : Member} {members : List Member} {text others : List Char}
    (derived : Skipped (.member member) text) (later : Skipped (.members members) others) :
    Skipped (.members (member :: members)) (text ++ ',' :: others) := by
  intro fuel rest enough
  obtain ⟨less, rfl⟩ : ∃ less, fuel = less + 1 := ⟨fuel - 1, by omega⟩
  simp only [List.length_append, List.length_cons] at enough
  have ends : EndsNumber (',' :: (others ++ '\x7d' :: rest)) := endsNumber_mark (by decide) _
  rw [List.append_assoc, List.cons_append, derived (by omega) ends, skipMembersAfter,
    skipSpace_cons rfl]
  exact later rest (by omega)

/-- Whatever is derived is skipped. -/
theorem Derives.skipped {symbol : Symbol} {text : List Char} (derived : Derives symbol text) :
    Skipped symbol text := by
  induction derived with
  | word known => exact skipped_word known
  | number number => exact skipped_number number
  | text quotable => exact skipped_text quotable
  | emptyArray blank => exact skipped_emptyArray blank
  | array _ elements => exact skipped_array elements
  | value _ object => exact object
  | emptyObject blank => exact skipped_emptyObject blank
  | object _ members => exact skipped_object members
  | element blank _ blankAfter value => exact skipped_element blank value blankAfter
  | lastElement _ element => exact skipped_lastElement element
  | nextElement _ _ element later => exact skipped_nextElement element later
  | member blank quotable blankBetween blankLead _ blankAfter value =>
      exact skipped_member blank quotable blankBetween blankLead value blankAfter
  | lastMember _ member => exact skipped_lastMember member
  | nextMember _ _ member later => exact skipped_nextMember member later

/-- A value is skipped where a number can end, with the blanks before it. -/
theorem Derives.skipAny_append {lead value rest : List Char} (blank : Blanks lead)
    (derived : Derives .value value) (ends : EndsNumber rest) :
    skipAny (lead ++ (value ++ rest)) = .ok rest := by
  rw [skipAny, skipValue_blanks blank]
  exact derived.skipped (by simp; omega) ends

end QueryNotebook.Json
