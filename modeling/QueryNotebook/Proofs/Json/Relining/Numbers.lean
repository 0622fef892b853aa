import QueryNotebook.Proofs.Json.Relining

/-!
# Numbers in other lines

A number goes on for as long as it can.  It ends at a line break as it does at the end of the text,
so a text in other lines gives the same number.
-/

namespace QueryNotebook.Json

variable {left right : List Char} {c : Char}

/-- The first character of both texts is looked at alike. -/
theorem Relined.head?_beq (lined : Relined left right) (printable : 32 ≤ c.toNat) :
    (left.head? == some c) = (right.head? == some c) := by
  rw [Bool.eq_iff_iff, beq_iff_eq, beq_iff_eq]
  exact lined.head?_eq_iff printable

/-- A character that one text does not begin with does not begin the other. -/
theorem Relined.no_cons (lined : Relined left right) (printable : 32 ≤ c.toNat)
    (no : ∀ rest, left = c :: rest → False) (rest : List Char) (there : right = c :: rest) :
    False := by
  have first : right.head? = some c := by rw [there]; rfl
  obtain ⟨others, here⟩ := List.head?_eq_some_iff.mp ((lined.head?_eq_iff printable).mpr first)
  exact no others here

/-- The text after the minus that it begins with. -/
def afterMinus (text : List Char) : List Char :=
  if text.head? == some '-' then text.tail else text

/-- The text after the sign that it begins with. -/
def afterSign (text : List Char) : List Char :=
  if text.head? == some '-' || text.head? == some '+' then text.tail else text

theorem Relined.afterMinus (lined : Relined left right) :
    Relined (afterMinus left) (afterMinus right) := by
  have minus : (left.head? == some '-') = (right.head? == some '-') := lined.head?_beq (by decide)
  simp only [Json.afterMinus, ← minus]
  split
  · next first => exact lined.tail (beq_iff_eq.mp first) (by decide)
  · exact lined

theorem Relined.afterSign (lined : Relined left right) :
    Relined (afterSign left) (afterSign right) := by
  have minus : (left.head? == some '-') = (right.head? == some '-') := lined.head?_beq (by decide)
  have plus : (left.head? == some '+') = (right.head? == some '+') := lined.head?_beq (by decide)
  simp only [Json.afterSign, ← minus, ← plus]
  split
  · next first =>
    rcases (Bool.or_eq_true _ _).mp first with first | first
    · exact lined.tail (beq_iff_eq.mp first) (by decide)
    · exact lined.tail (beq_iff_eq.mp first) (by decide)
  · exact lined

theorem length_afterMinus_le (text : List Char) : (afterMinus text).length ≤ text.length := by
  unfold afterMinus
  split <;> simp

theorem length_afterSign_le (text : List Char) : (afterSign text).length ≤ text.length := by
  unfold afterSign
  split <;> simp

/-- Both texts begin with the same digits. -/
theorem Relined.digits (lined : Relined left right) :
    left.takeWhile isDigit = right.takeWhile isDigit ∧
      Relined (left.dropWhile isDigit) (right.dropWhile isDigit) :=
  lined.span rfl rfl

theorem length_dropDigits_le (text : List Char) :
    (text.dropWhile isDigit).length ≤ text.length :=
  (List.dropWhile_sublist isDigit).length_le

/-! ## Numbers that are read -/

/-- A number that is made of digits read before, so that the text stays where it is. -/
def HandsOn (make : List Char → Scan Numeral) : Prop :=
  ∀ ⦃text : List Char⦄ ⦃value : Numeral⦄ ⦃rest : List Char⦄, make text = .ok (value, rest) →
    rest = text ∧ ∀ other, make other = .ok (value, other)

theorem handsOn_map (result : Except Fault Numeral) :
    HandsOn fun text => result.map fun value => (value, text) := by
  intro text value rest ok
  obtain ⟨number, rfl, same⟩ := map_eq_ok_iff.mp ok
  obtain ⟨rfl, rfl⟩ := Prod.mk.inj same
  exact ⟨rfl, fun other => rfl⟩

theorem handsOn_ok (number : Numeral) : HandsOn fun text => .ok (number, text) :=
  handsOn_map (.ok number)

/-- The number with the digits of an exponent. -/
def scaledBy (negative : Bool) (significand : Nat) (start : Int) (down : Bool)
    (shown rest : List Char) : Scan Numeral :=
  if shown.isEmpty then .error (faultAt rest)
  else
    match exponentOf? shown with
    | some size =>
        let exponent := if down then start - size else start + size
        (realOf negative significand exponent).map fun value => (value, rest)
    | none =>
        if significand = 0 || down then .ok (.real (.finite negative 0 0), rest)
        else .error .malformed

theorem handsOn_scaledBy (negative : Bool) (significand : Nat) (start : Int) (down : Bool)
    (shown : List Char) : HandsOn (scaledBy negative significand start down shown) := by
  unfold scaledBy
  split
  · intro text value rest ok
    contradiction
  · cases exponentOf? shown with
    | some size => exact handsOn_map _
    | none =>
        dsimp only
        split
        · exact handsOn_ok _
        · intro text value rest ok
          contradiction

theorem scanExponent_eq (negative : Bool) (significand : Nat) (start : Int) (text : List Char) :
    scanExponent negative significand start text =
      scaledBy negative significand start (text.head? == some '-')
        ((afterSign text).takeWhile isDigit) ((afterSign text).dropWhile isDigit) := rfl

theorem relines_scanExponent (negative : Bool) (significand : Nat) (start : Int) :
    Relines (scanExponent negative significand start) := by
  intro left right value rest lined ok
  obtain ⟨shown, later⟩ := lined.afterSign.digits
  have minus : (left.head? == some '-') = (right.head? == some '-') := lined.head?_beq (by decide)
  rw [scanExponent_eq, minus, shown] at ok
  obtain ⟨rfl, made⟩ := handsOn_scaledBy _ _ _ _ _ ok
  have bound := Nat.le_trans (length_dropDigits_le _) (length_afterSign_le right)
  exact ⟨_, made _, later, bound⟩

/-- A number with an exponent if there is one. -/
def orExponent (make : List Char → Scan Numeral) (negative : Bool) (significand : Nat)
    (start : Int) (text : List Char) : Scan Numeral :=
  match text with
  | 'e' :: more => scanExponent negative significand start more
  | 'E' :: more => scanExponent negative significand start more
  | _ => make text

theorem orExponent_of_not {text : List Char} (noSmall : ∀ more, text = 'e' :: more → False)
    (noCapital : ∀ more, text = 'E' :: more → False) (make : List Char → Scan Numeral)
    (negative : Bool) (significand : Nat) (start : Int) :
    orExponent make negative significand start text = make text :=
  orExponent.eq_3 _ _ _ _ _ noSmall noCapital

theorem relines_orExponent {make : List Char → Scan Numeral} (hands : HandsOn make)
    (negative : Bool) (significand : Nat) (start : Int) :
    Relines (orExponent make negative significand start) := by
  intro left right value rest lined ok
  unfold orExponent at ok
  split at ok
  · obtain ⟨other, rfl, behind⟩ := lined.cons_left (by decide)
    obtain ⟨last, read, later, bound⟩ := relines_scanExponent _ _ _ behind ok
    exact ⟨last, read, later, Nat.le_succ_of_le bound⟩
  · obtain ⟨other, rfl, behind⟩ := lined.cons_left (by decide)
    obtain ⟨last, read, later, bound⟩ := relines_scanExponent _ _ _ behind ok
    exact ⟨last, read, later, Nat.le_succ_of_le bound⟩
  · next noSmall noCapital =>
    obtain ⟨rfl, made⟩ := hands ok
    refine ⟨right, ?_, lined, Nat.le_refl _⟩
    have noSmall := lined.no_cons (by decide) noSmall
    have noCapital := lined.no_cons (by decide) noCapital
    rw [orExponent_of_not noSmall noCapital, made right]

/-- The number without fraction and exponent. -/
def whole (negative : Bool) (significand : Nat) (start : Int) (text : List Char) : Scan Numeral :=
  if start ≠ 0 then (realOf negative significand start).map fun value => (value, text)
  else if !negative then .ok (.natural significand, text)
  else if significand = 0 ∨ Nat.pow 2 63 < significand then
    .ok (.real (.ofRatio true significand 1), text)
  else .ok (.negative (-(significand : Int)), text)

theorem handsOn_whole (negative : Bool) (significand : Nat) (start : Int) :
    HandsOn (whole negative significand start) := by
  unfold whole
  split
  · exact handsOn_map _
  · split
    · exact handsOn_ok _
    · split
      · exact handsOn_ok _
      · exact handsOn_ok _

/-- The number with the digits of a fraction, and an exponent if there is one. -/
def fractional (negative : Bool) (significand : Nat) (start : Int) (shown : List Char)
    (rest : List Char) : Scan Numeral :=
  if shown.isEmpty then .error (faultAt rest)
  else
    let extended := extendSignificand significand shown
    let exponent := start - extended.2
    orExponent (fun text => (realOf negative extended.1 exponent).map fun value => (value, text))
      negative extended.1 exponent rest

theorem relines_fractional (negative : Bool) (significand : Nat) (start : Int)
    (shown : List Char) : Relines (fractional negative significand start shown) := by
  unfold fractional
  split
  · intro left right value rest lined ok
    contradiction
  · exact relines_orExponent (handsOn_map _) _ _ _

theorem scanFraction_point (negative : Bool) (significand : Nat) (start : Int)
    (text : List Char) :
    scanFraction negative significand start ('.' :: text) =
      fractional negative significand start (text.takeWhile isDigit) (text.dropWhile isDigit) := by
  simp only [scanFraction, fractional]
  generalize text.dropWhile isDigit = rest
  split
  · rfl
  · split
    · rfl
    · rfl
    · next noSmall noCapital => rw [orExponent_of_not noSmall noCapital]

theorem scanFraction_pointless {text : List Char} (noPoint : ∀ rest, text = '.' :: rest → False)
    (negative : Bool) (significand : Nat) (start : Int) :
    scanFraction negative significand start text =
      orExponent (whole negative significand start) negative significand start text := by
  unfold scanFraction
  split
  · exact (noPoint _ rfl).elim
  · rfl
  · rfl
  · next noSmall noCapital =>
    rw [orExponent_of_not noSmall noCapital]
    rfl

theorem relines_scanFraction (negative : Bool) (significand : Nat) (start : Int) :
    Relines (scanFraction negative significand start) := by
  intro left right value rest lined ok
  by_cases first : left.head? = some '.'
  · obtain ⟨text, rfl⟩ := List.head?_eq_some_iff.mp first
    obtain ⟨other, rfl, behind⟩ := lined.cons_left (by decide)
    obtain ⟨shown, unread⟩ := behind.digits
    rw [scanFraction_point, shown] at ok
    obtain ⟨last, read, later, bound⟩ := relines_fractional _ _ _ _ unread ok
    refine ⟨last, ?_, later, Nat.le_succ_of_le (Nat.le_trans bound (length_dropDigits_le other))⟩
    rw [scanFraction_point, read]
  · have noPoint : ∀ rest, left = '.' :: rest → False := fun rest there =>
      first (by rw [there]; rfl)
    rw [scanFraction_pointless noPoint] at ok
    rw [scanFraction_pointless (lined.no_cons (by decide) noPoint)]
    exact relines_orExponent (handsOn_whole _ _ _) _ _ _ lined ok

/-- The number with the given first digits. -/
def beginning (negative : Bool) (shown rest : List Char) : Scan Numeral :=
  match shown with
  | [] => .error (faultAt rest)
  | '0' :: _ :: _ => .error .malformed
  | digits =>
      let extended := extendSignificand 0 digits
      scanFraction negative extended.1 ((digits.length - extended.2 : Nat) : Int) rest

theorem relines_beginning (negative : Bool) (shown : List Char) :
    Relines (beginning negative shown) := by
  unfold beginning
  split
  · intro left right value rest lined ok
    contradiction
  · intro left right value rest lined ok
    contradiction
  · exact relines_scanFraction _ _ _

theorem scanNumber_eq (text : List Char) :
    scanNumber text = beginning (text.head? == some '-') ((afterMinus text).takeWhile isDigit)
      ((afterMinus text).dropWhile isDigit) := rfl

theorem relines_scanNumber : Relines scanNumber := by
  intro left right value rest lined ok
  obtain ⟨shown, unread⟩ := lined.afterMinus.digits
  have minus : (left.head? == some '-') = (right.head? == some '-') := lined.head?_beq (by decide)
  have bound := Nat.le_trans (length_dropDigits_le _) (length_afterMinus_le right)
  rw [scanNumber_eq, minus, shown] at ok
  obtain ⟨last, read, later, shorter⟩ := relines_beginning _ _ unread ok
  exact ⟨last, read, later, Nat.le_trans shorter bound⟩

/-! ## Numbers that are skipped -/

theorem skips_skipDigits : Skips skipDigits := by
  intro left right rest lined ok
  unfold skipDigits at ok
  split at ok
  · contradiction
  · next c text =>
    split at ok
    · next digit =>
      obtain ⟨other, rfl, behind⟩ := lined.cons_left (le_of_isDigit digit)
      obtain rfl := Except.ok.inj ok
      refine ⟨other.dropWhile isDigit, ?_, behind.digits.2,
        Nat.le_succ_of_le (length_dropDigits_le other)⟩
      rw [skipDigits, if_pos digit]
    · contradiction

/-- The exponent of a skipped number, after its letter. -/
theorem skipExponent_letter {letter : Char} (exponent : letter = 'e' ∨ letter = 'E')
    (text : List Char) : skipExponent (letter :: text) = skipDigits (afterSign text) := by
  by_cases signed : ∃ rest, text = '+' :: rest ∨ text = '-' :: rest
  · obtain ⟨rest, rfl | rfl⟩ := signed <;> rcases exponent with rfl | rfl <;> rfl
  · have noPlus : ∀ rest, text = '+' :: rest → False := fun rest there => signed ⟨rest, .inl there⟩
    have noMinus : ∀ rest, text = '-' :: rest → False := fun rest there => signed ⟨rest, .inr there⟩
    have unsigned : afterSign text = text := by
      cases text with
      | nil => rfl
      | cons c rest =>
          have plus : c ≠ '+' := fun same => noPlus rest (by rw [same])
          have minus : c ≠ '-' := fun same => noMinus rest (by rw [same])
          simp [afterSign, plus, minus]
    rw [unsigned]
    rcases exponent with rfl | rfl
    · exact skipExponent.eq_5 text noPlus noMinus
    · exact skipExponent.eq_6 text noPlus noMinus

/-- A skipped number without an exponent ends at once. -/
theorem skipExponent_of_not {text : List Char} (noSmall : ∀ rest, text = 'e' :: rest → False)
    (noCapital : ∀ rest, text = 'E' :: rest → False) : skipExponent text = .ok text :=
  skipExponent.eq_7 text (fun _ => noSmall _) (fun _ => noSmall _) (fun _ => noCapital _)
    (fun _ => noCapital _) noSmall noCapital

theorem skips_skipExponent : Skips skipExponent := by
  intro left right rest lined ok
  by_cases first : ∃ letter, (letter = 'e' ∨ letter = 'E') ∧ left.head? = some letter
  · obtain ⟨letter, exponent, there⟩ := first
    have printable : 32 ≤ letter.toNat := by rcases exponent with rfl | rfl <;> decide
    obtain ⟨text, rfl⟩ := List.head?_eq_some_iff.mp there
    obtain ⟨other, rfl, behind⟩ := lined.cons_left printable
    rw [skipExponent_letter exponent] at ok
    obtain ⟨last, read, later, bound⟩ := skips_skipDigits behind.afterSign ok
    refine ⟨last, ?_, later, Nat.le_succ_of_le (Nat.le_trans bound (length_afterSign_le other))⟩
    rw [skipExponent_letter exponent, read]
  · have noSmall : ∀ rest, left = 'e' :: rest → False := fun rest there =>
      first ⟨'e', .inl rfl, by rw [there]; rfl⟩
    have noCapital : ∀ rest, left = 'E' :: rest → False := fun rest there =>
      first ⟨'E', .inr rfl, by rw [there]; rfl⟩
    rw [skipExponent_of_not noSmall noCapital] at ok
    obtain rfl := Except.ok.inj ok
    refine ⟨right, ?_, lined, Nat.le_refl _⟩
    exact skipExponent_of_not (lined.no_cons (by decide) noSmall)
      (lined.no_cons (by decide) noCapital)

/-- The text after the integer part of a skipped number. -/
def skipInteger (text : List Char) : Except Fault (List Char) :=
  match text with
  | '0' :: c :: rest => if isDigit c then .error .malformed else .ok (c :: rest)
  | other => skipDigits other

/-- The text after the fraction and the exponent of a skipped number. -/
def skipFraction (text : List Char) : Except Fault (List Char) :=
  match text with
  | '.' :: rest => skipDigits rest >>= skipExponent
  | other => skipExponent other

theorem skipNumber_eq (text : List Char) :
    skipNumber text = (skipInteger (afterMinus text) >>= skipFraction) := by
  have unsigned : (if text.head? == some '-' then text.tail else text) = afterMinus text := rfl
  unfold skipNumber
  dsimp only
  rw [unsigned]
  generalize afterMinus text = digits
  split
  · rw [skipInteger]
    split <;> rfl
  · next noZero =>
    rw [skipInteger.eq_2 digits noZero]
    rfl

/-- A leading zero of a skipped number stands alone. -/
theorem skipInteger_zero {text rest : List Char} :
    skipInteger ('0' :: text) = .ok rest ↔ text.takeWhile isDigit = [] ∧ text = rest := by
  cases text with
  | nil => simp [skipInteger, skipDigits, isDigit]
  | cons c text =>
      cases digit : isDigit c with
      | true => simp [skipInteger, digit]
      | false => simp [skipInteger, digit]

theorem skips_skipInteger : Skips skipInteger := by
  intro left right rest lined ok
  by_cases first : left.head? = some '0'
  · obtain ⟨text, rfl⟩ := List.head?_eq_some_iff.mp first
    obtain ⟨other, rfl, behind⟩ := lined.cons_left (by decide)
    obtain ⟨alone, rfl⟩ := skipInteger_zero.mp ok
    rw [behind.digits.1] at alone
    exact ⟨other, skipInteger_zero.mpr ⟨alone, rfl⟩, behind, Nat.le_succ _⟩
  · have noZero : ∀ c rest, left = '0' :: c :: rest → False := fun c rest there =>
      first (by rw [there]; rfl)
    have noZeroRight : ∀ c rest, right = '0' :: c :: rest → False := fun c rest =>
      lined.no_cons (by decide) (fun rest there => first (by rw [there]; rfl)) (c :: rest)
    rw [skipInteger.eq_2 _ noZero] at ok
    rw [skipInteger.eq_2 _ noZeroRight]
    exact skips_skipDigits lined ok

theorem skips_skipFraction : Skips skipFraction := by
  intro left right rest lined ok
  by_cases first : left.head? = some '.'
  · obtain ⟨text, rfl⟩ := List.head?_eq_some_iff.mp first
    obtain ⟨other, rfl, behind⟩ := lined.cons_left (by decide)
    obtain ⟨last, read, later, bound⟩ := skips_skipDigits.andThen skips_skipExponent behind ok
    exact ⟨last, read, later, Nat.le_succ_of_le bound⟩
  · have noPoint : ∀ rest, left = '.' :: rest → False := fun rest there =>
      first (by rw [there]; rfl)
    rw [skipFraction.eq_2 _ noPoint] at ok
    rw [skipFraction.eq_2 _ (lined.no_cons (by decide) noPoint)]
    exact skips_skipExponent lined ok

theorem skips_skipNumber : Skips skipNumber := by
  intro left right rest lined ok
  rw [skipNumber_eq] at ok
  obtain ⟨last, read, later, bound⟩ :=
    skips_skipInteger.andThen skips_skipFraction lined.afterMinus ok
  exact ⟨last, by rw [skipNumber_eq]; exact read, later,
    Nat.le_trans bound (length_afterMinus_le right)⟩

end QueryNotebook.Json
