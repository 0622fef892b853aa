import QueryNotebook.Proofs.Json.Relining.Numbers
import QueryNotebook.Proofs.Json.Relining.Texts

/-!
# Values in other lines

Values of any kind are skipped alike in a text in other lines.  What is skipped may be nested, and the
length of the text bounds the nesting.  A text in other lines has another length, so that the bounds
differ too; what counts is that each is enough for its text.
-/

namespace QueryNotebook.Json

variable {left right : List Char}

/-! ## Skipping -/

theorem skipValue_skipSpace (fuel : Nat) (text : List Char) :
    skipValue fuel (skipSpace text) = skipValue fuel text := by
  cases fuel with
  | zero => rfl
  | succ fuel => rw [skipValue, skipValue, skipSpace_skipSpace]

theorem skipItems_skipSpace (fuel : Nat) (text : List Char) :
    skipItems fuel (skipSpace text) = skipItems fuel text := by
  cases fuel with
  | zero => rfl
  | succ fuel => rw [skipItems, skipItems, skipValue_skipSpace]

theorem skipMembers_skipSpace (fuel : Nat) (text : List Char) :
    skipMembers fuel (skipSpace text) = skipMembers fuel text := by
  cases fuel with
  | zero => rfl
  | succ fuel => rw [skipMembers, skipMembers, skipSpace_skipSpace]

/-- No item begins with a closing bracket. -/
theorem skipItems_of_close {text rest after : List Char} (close : skipSpace text = ']' :: rest)
    (fuel : Nat) : skipItems fuel text ≠ .ok after := by
  cases fuel with
  | zero => simp [skipItems]
  | succ fuel =>
      cases fuel with
      | zero => simp [skipItems, skipValue]
      | succ fuel => simp [skipItems, skipValue, close, isDigit]

/-- No member begins with a closing brace. -/
theorem skipMembers_of_close {text rest after : List Char} (close : skipSpace text = '\x7d' :: rest)
    (fuel : Nat) : skipMembers fuel text ≠ .ok after := by
  cases fuel with
  | zero => simp [skipMembers]
  | succ fuel => simp [skipMembers, close]

/-- What is skipped with some fuel is skipped in a text in other lines with any fuel that is enough
for that text. -/
def SkipsWith (skip : Nat → List Char → Except Fault (List Char)) (fuel extra : Nat) : Prop :=
  ∀ ⦃enough : Nat⦄ ⦃left right rest : List Char⦄, Relined left right →
    2 * right.length + extra ≤ enough → skip fuel left = .ok rest →
    ∃ other, skip enough right = .ok other ∧ Relined rest other ∧ other.length ≤ right.length

/-- What is skipped after an opening mark, unless the closing mark comes at once. -/
def orClose (close : Char) (skip : List Char → Except Fault (List Char)) (text : List Char) :
    Except Fault (List Char) :=
  match skipSpace text with
  | [] => skip []
  | c :: after => if c = close then .ok after else skip (c :: after)

/-- The closing mark comes at once. -/
theorem orClose_of_close {skip : List Char → Except Fault (List Char)} {close : Char}
    {text rest : List Char} (there : skipSpace text = close :: rest) :
    orClose close skip text = .ok rest := by
  unfold orClose
  rw [there]
  exact if_pos rfl

/-- Where the closing mark does not come at once, this is skipping with the blanks. -/
theorem orClose_of_not {skip : List Char → Except Fault (List Char)} {close : Char}
    {text : List Char} (blanks : skip (skipSpace text) = skip text)
    (no : ∀ rest, skipSpace text ≠ close :: rest) : orClose close skip text = skip text := by
  unfold orClose
  rw [← blanks]
  cases there : skipSpace text with
  | nil => rfl
  | cons c after => exact if_neg fun same => no after (by rw [there, same])

/-- What is skipped after an opening mark did not begin with the closing one. -/
theorem orClose_of_ok {skip : List Char → Except Fault (List Char)} {close : Char}
    {text rest : List Char} (blanks : skip (skipSpace text) = skip text)
    (opens : ∀ {more after : List Char}, skipSpace text = close :: more → skip text ≠ .ok after)
    (ok : skip text = .ok rest) : orClose close skip text = .ok rest := by
  rw [orClose_of_not blanks fun more there => opens there ok, ok]

theorem SkipsWith.orClose {skip : Nat → List Char → Except Fault (List Char)} {fuel extra : Nat}
    (skips : SkipsWith skip fuel extra) {close : Char} (known : isStray close = false)
    (blanks : ∀ fuel text, skip fuel (skipSpace text) = skip fuel text)
    (opens : ∀ {text rest after : List Char}, skipSpace text = close :: rest →
      ∀ fuel, skip fuel text ≠ .ok after) :
    SkipsWith (fun fuel => orClose close (skip fuel)) fuel extra := by
  intro enough left right rest lined bound ok
  by_cases close? : ∃ after, skipSpace left = close :: after
  · obtain ⟨after, there⟩ := close?
    obtain ⟨other, thereRight, behind, shorter⟩ := lined.skipSpace_eq_cons there known
    obtain rfl := Except.ok.inj ((orClose_of_close there).symm.trans ok)
    exact ⟨other, orClose_of_close thereRight, behind, Nat.le_of_lt shorter⟩
  · have no : ∀ rest, skipSpace left ≠ close :: rest := fun rest there => close? ⟨rest, there⟩
    obtain ⟨other, read, later, shorter⟩ :=
      skips lined bound ((orClose_of_not (blanks fuel left) no).symm.trans ok)
    exact ⟨other, orClose_of_ok (blanks enough right) (fun there => opens there enough) read, later,
      shorter⟩

/-- A match on the closing mark is a choice by the first character. -/
theorem skipValue_array {text rest : List Char} (there : skipSpace text = '[' :: rest) (fuel : Nat) :
    skipValue (fuel + 1) text = orClose ']' (skipItems fuel) rest := by
  simp only [skipValue, there, orClose]
  split
  · next close => simp [close]
  · next more =>
    cases behind : skipSpace rest with
    | nil => rfl
    | cons c after =>
        have noClose : c ≠ ']' := fun same => more after (by rw [behind, same])
        simp [noClose]

theorem skipValue_object {text rest : List Char} (there : skipSpace text = '\x7b' :: rest)
    (fuel : Nat) : skipValue (fuel + 1) text = orClose '\x7d' (skipMembers fuel) rest := by
  simp only [skipValue, there, orClose]
  split
  · next close => simp [close]
  · next more =>
    cases behind : skipSpace rest with
    | nil => rfl
    | cons c after =>
        have noClose : c ≠ '\x7d' := fun same => more after (by rw [behind, same])
        simp [noClose]

theorem skipValue_number {text rest : List Char} {c : Char} (there : skipSpace text = c :: rest)
    (number : c = '-' ∨ isDigit c = true) (fuel : Nat) :
    skipValue (fuel + 1) text = skipNumber (c :: rest) := by
  have other {d : Char} {more : List Char} (same : skipSpace text = d :: more)
      (noNumber : ¬ (d = '-' ∨ isDigit d = true)) : False := by
    obtain ⟨rfl, -⟩ := List.cons.inj (same.symm.trans there)
    exact noNumber number
  rw [skipValue]
  split
  · next empty => simp [there] at empty
  · next same => exact (other same (by decide)).elim
  · next same => exact (other same (by decide)).elim
  · next same => exact (other same (by decide)).elim
  · next same => exact (other same (by decide)).elim
  · next same => exact (other same (by decide)).elim
  · next same => exact (other same (by decide)).elim
  · next same =>
    obtain ⟨rfl, rfl⟩ := List.cons.inj (same.symm.trans there)
    exact if_pos number

theorem skipsWith_skipValue {fuel : Nat} (items : SkipsWith skipItems fuel 2)
    (members : SkipsWith skipMembers fuel 2) : SkipsWith skipValue (fuel + 1) 1 := by
  intro enough left right rest lined bound ok
  obtain ⟨less, rfl⟩ : ∃ less, enough = less + 1 := ⟨enough - 1, by omega⟩
  have read := ok
  rw [skipValue] at ok
  split at ok
  case h_1 => contradiction
  case h_2 there =>
    obtain ⟨after, other, thereRight, skipped, later, shorter⟩ :=
      (skips_scanWord (by decide)).behind lined there (by decide) ok
    exact ⟨other, by simp only [skipValue, thereRight, skipped], later, Nat.le_of_lt shorter⟩
  case h_3 there =>
    obtain ⟨after, other, thereRight, skipped, later, shorter⟩ :=
      (skips_scanWord (by decide)).behind lined there (by decide) ok
    exact ⟨other, by simp only [skipValue, thereRight, skipped], later, Nat.le_of_lt shorter⟩
  case h_4 there =>
    obtain ⟨after, other, thereRight, skipped, later, shorter⟩ :=
      (skips_scanWord (by decide)).behind lined there (by decide) ok
    exact ⟨other, by simp only [skipValue, thereRight, skipped], later, Nat.le_of_lt shorter⟩
  case h_5 there =>
    obtain ⟨after, other, thereRight, skipped, later, shorter⟩ :=
      skips_skipString.behind lined there (by decide) ok
    exact ⟨other, by simp only [skipValue, thereRight, skipped], later, Nat.le_of_lt shorter⟩
  case h_6 there =>
    obtain ⟨after, thereRight, lined, shorter⟩ := lined.skipSpace_eq_cons there (by decide)
    have room : 2 * after.length + 2 ≤ less := by omega
    obtain ⟨other, skipped, later, within⟩ := items.orClose (by decide) skipItems_skipSpace
      skipItems_of_close lined room ((skipValue_array there fuel).symm.trans read)
    exact ⟨other, (skipValue_array thereRight less).trans skipped, later, by omega⟩
  case h_7 there =>
    obtain ⟨after, thereRight, lined, shorter⟩ := lined.skipSpace_eq_cons there (by decide)
    have room : 2 * after.length + 2 ≤ less := by omega
    obtain ⟨other, skipped, later, within⟩ := members.orClose (by decide) skipMembers_skipSpace
      skipMembers_of_close lined room ((skipValue_object there fuel).symm.trans read)
    exact ⟨other, (skipValue_object thereRight less).trans skipped, later, by omega⟩
  case h_8 c text _ _ _ _ _ _ there =>
    split at ok
    · next number =>
      obtain ⟨after, thereRight, lined, shorter⟩ :=
        lined.skipSpace_eq_cons there (isStray_of_number number)
      obtain ⟨other, skipped, later, within⟩ := skips_skipNumber (lined.same c) ok
      refine ⟨other, (skipValue_number thereRight number less).trans skipped, later, ?_⟩
      exact Nat.le_trans within shorter
    · contradiction

theorem skipsWith_skipItems {fuel : Nat} (value : SkipsWith skipValue fuel 1)
    (items : SkipsWith skipItems fuel 2) : SkipsWith skipItems (fuel + 1) 2 := by
  intro enough left right rest lined bound ok
  obtain ⟨less, rfl⟩ : ∃ less, enough = less + 1 := ⟨enough - 1, by omega⟩
  rw [skipItems] at ok
  split at ok
  · contradiction
  · next between skipped =>
    have room : 2 * right.length + 1 ≤ less := by omega
    obtain ⟨betweenRight, skippedRight, lined, within⟩ := value lined room skipped
    simp only [skipItems, skippedRight]
    split at ok
    · next there =>
      obtain ⟨other, thereRight, later, shorter⟩ := lined.skipSpace_eq_cons there (by decide)
      obtain rfl := Except.ok.inj ok
      simp only [thereRight]
      exact ⟨other, rfl, later, by omega⟩
    · next there =>
      obtain ⟨after, thereRight, lined, shorter⟩ := lined.skipSpace_eq_cons there (by decide)
      have room : 2 * after.length + 2 ≤ less := by omega
      obtain ⟨other, read, later, bound⟩ := items lined room ok
      simp only [thereRight]
      exact ⟨other, read, later, by omega⟩
    · contradiction

theorem skipsWith_skipMembers {fuel : Nat} (value : SkipsWith skipValue fuel 1)
    (members : SkipsWith skipMembers fuel 2) : SkipsWith skipMembers (fuel + 1) 2 := by
  intro enough left right rest lined bound ok
  obtain ⟨less, rfl⟩ : ∃ less, enough = less + 1 := ⟨enough - 1, by omega⟩
  rw [skipMembers] at ok
  split at ok
  · next there =>
    obtain ⟨name, thereRight, lined, shorter⟩ := lined.skipSpace_eq_cons there (by decide)
    simp only [skipMembers, thereRight]
    split at ok
    · contradiction
    · next named =>
      obtain ⟨afterName, namedRight, lined, within⟩ := skips_skipString lined named
      simp only [namedRight]
      split at ok
      · next colon =>
        obtain ⟨text, colonRight, lined, nearer⟩ := lined.skipSpace_eq_cons colon (by decide)
        simp only [colonRight]
        split at ok
        · contradiction
        · next skipped =>
          have room : 2 * text.length + 1 ≤ less := by omega
          obtain ⟨between, skippedRight, lined, behind⟩ := value lined room skipped
          simp only [skippedRight]
          split at ok
          · next close =>
            obtain ⟨other, closeRight, later, last⟩ := lined.skipSpace_eq_cons close (by decide)
            obtain rfl := Except.ok.inj ok
            simp only [closeRight]
            exact ⟨other, rfl, later, by omega⟩
          · next comma =>
            obtain ⟨more, commaRight, lined, last⟩ := lined.skipSpace_eq_cons comma (by decide)
            have room : 2 * more.length + 2 ≤ less := by omega
            obtain ⟨other, read, later, bound⟩ := members lined room ok
            simp only [commaRight]
            exact ⟨other, read, later, by omega⟩
          · contradiction
      · contradiction
  · contradiction

/-- Values, items and members are skipped with any fuel that is enough. -/
theorem skipsWith_all (fuel : Nat) :
    SkipsWith skipValue fuel 1 ∧ SkipsWith skipItems fuel 2 ∧ SkipsWith skipMembers fuel 2 := by
  induction fuel with
  | zero =>
      refine ⟨?_, ?_, ?_⟩
      · intro enough left right rest _ _ ok
        simp [skipValue] at ok
      · intro enough left right rest _ _ ok
        simp [skipItems] at ok
      · intro enough left right rest _ _ ok
        simp [skipMembers] at ok
  | succ fuel inductionHypothesis =>
      obtain ⟨value, items, members⟩ := inductionHypothesis
      exact ⟨skipsWith_skipValue items members, skipsWith_skipItems value items,
        skipsWith_skipMembers value members⟩

/-- A value of any kind is skipped in a text in other lines. -/
theorem skips_skipAny : Skips skipAny := by
  intro left right rest lined ok
  have room : 2 * right.length + 1 ≤ 2 * right.length + 2 := Nat.le_succ _
  exact (skipsWith_all _).1 lined room ok

end QueryNotebook.Json
