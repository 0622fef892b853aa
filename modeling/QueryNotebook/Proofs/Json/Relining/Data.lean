import QueryNotebook.Proofs.Json.Arrays
import QueryNotebook.Proofs.Json.Relining.Values

/-!
# Wanted data in other lines

Every reader of wanted data reads the same from a text in other lines, and so does the reading of the
members of an object when the reader of a single member does.
-/

namespace QueryNotebook.Json

variable {left right : List Char}

/-! ## Values -/

theorem relines_readCount : Relines readCount := by
  intro left right value rest lined ok
  rw [readCount] at ok
  split at ok
  · contradiction
  · next c text there =>
    split at ok
    · next number =>
      obtain ⟨after, thereRight, lined, shorter⟩ :=
        lined.skipSpace_eq_cons there (isStray_of_number number)
      split at ok
      · next scanned =>
        obtain ⟨rfl, rfl⟩ := Prod.mk.inj (Except.ok.inj ok)
        obtain ⟨other, scannedRight, later, within⟩ := relines_scanNumber (lined.same c) scanned
        refine ⟨other, ?_, later, Nat.le_trans within shorter⟩
        simp only [readCount, thereRight, number, if_true, scannedRight]
      · contradiction
      · contradiction
      · contradiction
    · contradiction

theorem relines_readBoolean : Relines readBoolean := by
  intro left right value rest lined ok
  rw [readBoolean] at ok
  split at ok
  · contradiction
  · next there =>
    obtain ⟨after, other, thereRight, read, later, shorter⟩ :=
      ((skips_scanWord (by decide)).map true).behind lined there (by decide) ok
    exact ⟨other, by simp only [readBoolean, thereRight, read], later, Nat.le_of_lt shorter⟩
  · next there =>
    obtain ⟨after, other, thereRight, read, later, shorter⟩ :=
      ((skips_scanWord (by decide)).map false).behind lined there (by decide) ok
    exact ⟨other, by simp only [readBoolean, thereRight, read], later, Nat.le_of_lt shorter⟩
  · contradiction

theorem relines_readText (expected : Expectation) : Relines (readText expected) := by
  intro left right value rest lined ok
  rw [readText] at ok
  split at ok
  · contradiction
  · next there =>
    obtain ⟨after, other, thereRight, read, later, shorter⟩ :=
      (relines_scanString.map String.ofList).behind lined there (by decide) ok
    exact ⟨other, by simp only [readText, thereRight, read], later, Nat.le_of_lt shorter⟩
  · contradiction

theorem relines_readNull : Relines readNull := by
  intro left right value rest lined ok
  rw [readNull] at ok
  split at ok
  · contradiction
  · next there =>
    obtain ⟨after, other, thereRight, read, later, shorter⟩ :=
      ((skips_scanWord (by decide)).map ()).behind lined there (by decide) ok
    exact ⟨other, by simp only [readNull, thereRight, read], later, Nat.le_of_lt shorter⟩
  · contradiction

theorem readText_skipSpace (expected : Expectation) (text : List Char) :
    readText expected (skipSpace text) = readText expected text := by
  simp only [readText, skipSpace_skipSpace]

/-- A text that is read is there. -/
theorem readText?_of_readText {expected : Expectation} {text rest : List Char} {value : String}
    (read : readText expected text = .ok (value, rest)) :
    readText? expected text = .ok (some value, rest) := by
  unfold readText?
  split
  · next there => simp [readText, there] at read
  · rw [readText_skipSpace, read]
    rfl

theorem relines_readText? (expected : Expectation) : Relines (readText? expected) := by
  intro left right value rest lined ok
  rw [readText?] at ok
  split at ok
  · next there =>
    obtain ⟨after, other, thereRight, read, later, shorter⟩ :=
      ((skips_scanWord (by decide)).map none).behind lined there (by decide) ok
    exact ⟨other, by simp only [readText?, thereRight, read], later, Nat.le_of_lt shorter⟩
  · obtain ⟨found, read, rfl⟩ := changed_eq_ok_iff.mp ok
    rw [readText_skipSpace] at read
    obtain ⟨other, readRight, later, bound⟩ := relines_readText expected lined read
    exact ⟨other, readText?_of_readText readRight, later, bound⟩

/-! ## Marks -/

theorem skips_afterColon : Skips afterColon := by
  intro left right rest lined ok
  rw [afterColon] at ok
  split at ok
  · next there =>
    obtain ⟨other, thereRight, later, shorter⟩ := lined.skipSpace_eq_cons there (by decide)
    obtain rfl := Except.ok.inj ok
    exact ⟨other, by simp only [afterColon, thereRight], later, Nat.le_of_lt shorter⟩
  · contradiction

theorem skips_endArray : Skips endArray := by
  intro left right rest lined ok
  rw [endArray] at ok
  split at ok
  · contradiction
  · next there =>
    obtain ⟨other, thereRight, later, shorter⟩ := lined.skipSpace_eq_cons there (by decide)
    obtain rfl := Except.ok.inj ok
    exact ⟨other, by simp only [endArray, thereRight], later, Nat.le_of_lt shorter⟩
  · contradiction

/-- A document ends in a text in other lines too. -/
theorem Relined.endDocument (lined : Relined left right) (ok : Json.endDocument left = .ok ()) :
    Json.endDocument right = .ok () := by
  have empty : skipSpace left = [] := by
    by_cases empty : skipSpace left = []
    · exact empty
    · simp [Json.endDocument, empty] at ok
  simp [Json.endDocument, lined.skipSpace_eq_nil empty]

/-! ## Elements -/

/-- What the next element comes to: the array ends, or an element begins here, or behind a comma. -/
theorem cases_of_nextElement? {first : Bool} {text : List Char} {next : Option (List Char)}
    (ok : nextElement? first text = .ok next) :
    (next = none ∧ ∃ rest, skipSpace text = ']' :: rest) ∨
      (first = true ∧ next = some (skipSpace text)) ∨
      (first = false ∧ ∃ rest, skipSpace text = ',' :: rest ∧ next = some (skipSpace rest)) := by
  rw [nextElement?] at ok
  split at ok
  · contradiction
  · next close => exact .inl ⟨(Except.ok.inj ok).symm, _, close⟩
  · next comma =>
    cases first with
    | true => exact .inr (.inl ⟨rfl, by rw [comma]; exact (Except.ok.inj ok).symm⟩)
    | false =>
        simp only [Bool.false_eq_true, if_false] at ok
        split at ok
        · contradiction
        · contradiction
        · exact .inr (.inr ⟨rfl, _, comma, (Except.ok.inj ok).symm⟩)
  · cases first with
    | true => exact .inr (.inl ⟨rfl, (Except.ok.inj ok).symm⟩)
    | false => contradiction

/-- The array ends in a text in other lines too. -/
theorem Relined.nextElement?_none {first : Bool} (lined : Relined left right)
    (ok : nextElement? first left = .ok none) : nextElement? first right = .ok none := by
  rcases cases_of_nextElement? ok with ⟨-, rest, there⟩ | ⟨-, same⟩ | ⟨-, _, -, same⟩
  · obtain ⟨other, thereRight, -⟩ := lined.skipSpace_eq_cons there (by decide)
    exact nextElement?_close thereRight first
  · contradiction
  · contradiction

/-- An element is read from a text in other lines too. -/
theorem Relined.nextElement?_some {α : Type} {read : List Char → Scan α} (relines : Relines read)
    (blanks : ∀ text, read (skipSpace text) = read text)
    (opens : ∀ ⦃text value rest⦄, read text = .ok (value, rest) → Opens text)
    {first : Bool} {element rest : List Char} {value : α} (lined : Relined left right)
    (next : nextElement? first left = .ok (some element))
    (ok : read element = .ok (value, rest)) :
    ∃ elementRight other, nextElement? first right = .ok (some elementRight) ∧
      read elementRight = .ok (value, other) ∧ Relined rest other ∧
      other.length ≤ right.length := by
  rcases cases_of_nextElement? next with ⟨none, -⟩ | ⟨rfl, same⟩ | ⟨rfl, behind, comma, same⟩
  · contradiction
  · obtain rfl := Option.some.inj same
    rw [blanks] at ok
    obtain ⟨other, readRight, later, bound⟩ := relines lined ok
    exact ⟨skipSpace right, other, nextElement?_first (opens readRight),
      (blanks right).trans readRight, later, bound⟩
  · obtain rfl := Option.some.inj same
    rw [blanks] at ok
    obtain ⟨after, other, commaRight, readRight, later, shorter⟩ :=
      relines.behind lined comma (by decide) ok
    exact ⟨skipSpace after, other, nextElement?_comma commaRight (opens readRight),
      (blanks after).trans readRight, later, Nat.le_of_lt shorter⟩

/-! ## Members -/

section Members

variable {σ : Type} {step : σ → String → List Char → Scan σ}

/-- The members of an object from the name of one of them on, after its quote. -/
def membersFrom (step : σ → String → List Char → Scan σ) (fuel : Nat) (state : σ)
    (name : List Char) : Scan σ :=
  match scanString name with
  | .error fault => .error fault
  | .ok (key, after) =>
      match step state (String.ofList key) after with
      | .error fault => .error fault
      | .ok (next, rest) => foldMembers step fuel false next rest

theorem foldMembers_succ (fuel : Nat) (first : Bool) (state : σ) (text : List Char) :
    foldMembers step (fuel + 1) first state text =
      match skipSpace text with
      | [] => .error .endOfText
      | '\x7d' :: rest => .ok (state, rest)
      | '\x22' :: name => if first then membersFrom step fuel state name else .error .malformed
      | ',' :: rest =>
          if first then .error .malformed
          else
            match skipSpace rest with
            | '\x22' :: name => membersFrom step fuel state name
            | other => .error (faultAt other)
      | _ :: _ => .error .malformed := rfl

/-- Members that are read with some fuel are read in a text in other lines with any fuel that is
enough for that text. -/
def FoldsWith (step : σ → String → List Char → Scan σ) (fuel : Nat) : Prop :=
  ∀ ⦃enough : Nat⦄ ⦃first : Bool⦄ ⦃state final : σ⦄ ⦃left right rest : List Char⦄,
    Relined left right → right.length < enough →
    foldMembers step fuel first state left = .ok (final, rest) →
    ∃ other, foldMembers step enough first state right = .ok (final, other) ∧
      Relined rest other ∧ other.length ≤ right.length

variable (relines : ∀ state name, Relines (step state name)) {fuel : Nat}
include relines

theorem FoldsWith.membersFrom (folds : FoldsWith step fuel) {enough : Nat} {state final : σ}
    {rest : List Char} (lined : Relined left right) (room : right.length < enough)
    (ok : membersFrom step fuel state left = .ok (final, rest)) :
    ∃ other, membersFrom step enough state right = .ok (final, other) ∧
      Relined rest other ∧ other.length ≤ right.length := by
  unfold Json.membersFrom at ok
  split at ok
  · contradiction
  · next key after scanned =>
    obtain ⟨behind, scannedRight, lined, within⟩ := relines_scanString lined scanned
    split at ok
    · contradiction
    · next next more stepped =>
      obtain ⟨moreRight, steppedRight, lined, nearer⟩ :=
        relines state (String.ofList key) lined stepped
      have room : moreRight.length < enough := by omega
      obtain ⟨other, read, later, bound⟩ := folds lined room ok
      refine ⟨other, ?_, later, by omega⟩
      simp only [Json.membersFrom, scannedRight, steppedRight, read]

theorem FoldsWith.succ (folds : FoldsWith step fuel) : FoldsWith step (fuel + 1) := by
  intro enough first state final left right rest lined room ok
  obtain ⟨less, rfl⟩ : ∃ less, enough = less + 1 := ⟨enough - 1, by omega⟩
  rw [foldMembers_succ] at ok
  split at ok
  · contradiction
  · next there =>
    obtain ⟨other, thereRight, later, shorter⟩ := lined.skipSpace_eq_cons there (by decide)
    obtain ⟨rfl, rfl⟩ := Prod.mk.inj (Except.ok.inj ok)
    exact ⟨other, by simp only [foldMembers_succ, thereRight], later, Nat.le_of_lt shorter⟩
  · next there =>
    obtain ⟨name, thereRight, lined, shorter⟩ := lined.skipSpace_eq_cons there (by decide)
    cases first with
    | false => contradiction
    | true =>
        have room : name.length < less := by omega
        obtain ⟨other, read, later, bound⟩ := folds.membersFrom relines lined room ok
        exact ⟨other, by simp only [foldMembers_succ, thereRight, if_true, read], later, by omega⟩
  · next there =>
    obtain ⟨after, thereRight, lined, shorter⟩ := lined.skipSpace_eq_cons there (by decide)
    cases first with
    | true => contradiction
    | false =>
        simp only [Bool.false_eq_true, if_false] at ok
        split at ok
        · next quote =>
          obtain ⟨name, quoteRight, lined, nearer⟩ := lined.skipSpace_eq_cons quote (by decide)
          have room : name.length < less := by omega
          obtain ⟨other, read, later, bound⟩ := folds.membersFrom relines lined room ok
          refine ⟨other, ?_, later, by omega⟩
          simp only [foldMembers_succ, thereRight, Bool.false_eq_true, if_false, quoteRight, read]
        · contradiction
  · contradiction

theorem foldsWith_all (fuel : Nat) : FoldsWith step fuel := by
  induction fuel with
  | zero =>
      intro enough first state final left right rest _ _ ok
      simp [foldMembers] at ok
  | succ fuel inductionHypothesis => exact inductionHypothesis.succ relines

/-- The members of an object are read alike if every single member is. -/
theorem relines_readMembers (state : σ) : Relines (readMembers step state) :=
  fun _ _ _ _ lined ok => foldsWith_all relines _ lined (Nat.lt_succ_self _) ok

end Members

end QueryNotebook.Json
