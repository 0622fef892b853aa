import QueryNotebook.Proofs.Json.Arrays
import QueryNotebook.Proofs.Json.Objects

/-!
# Trees read back

The indented notation of a tree is read as the tree, whatever texts it holds and however deep it is
nested, as long as the members of its objects stand in order and its numbers are natural and below
the bound.  Nothing is said of other numbers: they are rounded when they are read.
-/

namespace QueryNotebook.Json

/-- Data in the form in which it is read: the names of every object stand in order, each of them
once, and every number is a natural one below the bound. -/
inductive Ordered : Datum → Prop where
  | null : Ordered .null
  | boolean (value : Bool) : Ordered (.boolean value)
  | natural {value : Nat} (bounded : value < significandBound) : Ordered (.ofNat value)
  | text (value : String) : Ordered (.text value)
  | array {items : List Datum} (ordered : ∀ item ∈ items, Ordered item) : Ordered (.array items)
  | object {members : List (String × Datum)} (sorted : Dictionary.Sorted ⟨members⟩)
      (ordered : ∀ member ∈ members, Ordered member.2) : Ordered (.object members)

/-! ## Parts are shorter -/

theorem length_indented_lt_indentedItems {item : Datum} {items : List Datum} (member : item ∈ items)
    (level : Nat) : (indented level item).length < (indentedItems level items).length := by
  induction items with
  | nil => contradiction
  | cons first others inductionHypothesis =>
      simp only [indentedItems, List.length_cons, List.length_append]
      rcases List.mem_cons.mp member with rfl | later
      · omega
      · have shorter := inductionHypothesis later
        omega

theorem length_indented_lt_indentedMembers {member : String × Datum}
    {members : List (String × Datum)} (inside : member ∈ members) (level : Nat) :
    (indented level member.2).length < (indentedMembers level members).length := by
  induction members with
  | nil => contradiction
  | cons first others inductionHypothesis =>
      simp only [indentedMembers, List.length_cons, List.length_append]
      rcases List.mem_cons.mp inside with rfl | later
      · omega
      · have shorter := inductionHypothesis later
        omega

/-- An item is printed within the brackets of its array. -/
theorem length_indented_lt_array {item : Datum} {items : List Datum} (member : item ∈ items)
    (level : Nat) :
    (indented (level + 1) item).length < (indented level (.array items)).length := by
  refine Nat.lt_trans (length_indented_lt_indentedItems member (level + 1)) ?_
  cases items with
  | nil => contradiction
  | cons first others =>
      simp only [indented, indentedItems, List.length_cons, List.length_append]
      omega

/-- A value is printed within the braces of its object. -/
theorem length_indented_lt_object {member : String × Datum} {members : List (String × Datum)}
    (inside : member ∈ members) (level : Nat) :
    (indented (level + 1) member.2).length < (indented level (.object members)).length := by
  refine Nat.lt_trans (length_indented_lt_indentedMembers inside (level + 1)) ?_
  cases members with
  | nil => contradiction
  | cons first others =>
      simp only [indented, indentedMembers, List.length_cons, List.length_append]
      omega

/-! ## Values -/

theorem readDatum_skipSpace (fuel : Nat) (text : List Char) :
    readDatum fuel (skipSpace text) = readDatum fuel text := by
  cases fuel with
  | zero => rfl
  | succ fuel => rw [readDatum, readDatum, skipSpace_skipSpace]

/-- No value begins where an array ends. -/
theorem opens_of_readDatum {fuel : Nat} {text rest : List Char} {datum : Datum}
    (read : readDatum fuel text = .ok (datum, rest)) : Opens text := by
  cases fuel with
  | zero => contradiction
  | succ fuel =>
      constructor
      · intro nothing
        simp [readDatum, nothing] at read
      · intro behind close
        have noNumber : isDigit ']' = false := by decide
        simp [readDatum, close, noNumber] at read

/-- A value that begins with a digit is read as a number. -/
theorem readDatum_digit {first : Char} (digit : isDigit first = true) (fuel : Nat)
    (others : List Char) :
    readDatum (fuel + 1) (first :: others) =
      (scanNumber (first :: others)).map fun read => (read.1.datum, read.2) := by
  rw [readDatum, skipSpace_cons (isSpace_of_number (.inr digit))]
  split
  · contradiction
  case h_8 same =>
    obtain ⟨rfl, rfl⟩ := List.cons.inj same
    simp only [digit, or_true, if_true]
  -- None of the characters that begin another value is a digit.
  all_goals
    next same =>
      obtain ⟨rfl, -⟩ := List.cons.inj same
      contradiction

/-- A printed number is read where it can end. -/
theorem readDatum_ofNat {value : Nat} (bounded : value < significandBound) (fuel level : Nat)
    {rest : List Char} (ends : EndsNumber rest) :
    readDatum (fuel + 1) (indented level (.ofNat value) ++ rest) = .ok (.ofNat value, rest) := by
  have number := ends.scanNumber bounded
  have printed : indented level (.ofNat value) = Nat.toDigits 10 value := scalarText_ofNat value
  obtain ⟨first, others, digits⟩ :=
    List.exists_cons_of_ne_nil (Nat.toDigits_ne_nil (n := value) (b := 10))
  have digit : isDigit first = true := isDigit_of_mem_toDigits (by rw [digits]; simp)
  rw [printed]
  rw [digits, List.cons_append] at number ⊢
  rw [readDatum_digit digit, number]
  rfl

/-- A printed text is read as a value. -/
theorem readDatum_text (value : String) (fuel level : Nat) (rest : List Char) :
    readDatum (fuel + 1) (indented level (.text value) ++ rest) = .ok (.text value, rest) := by
  have quote := skipSpace_cons (c := '\x22') rfl
    (value.toList.flatMap escapeChar ++ '\x22' :: rest)
  rw [indented, scalarText, stringText_append, readDatum, quote]
  simp [scanString_flatMap, Except.map]

/-- The step that reads the items of an array, the last of them in front. -/
def readItem (fuel : Nat) (items : List Datum) (element : List Char) : Scan (List Datum) :=
  (readDatum fuel element).map fun read => (read.1 :: items, read.2)

theorem readsElement_readItem (fuel : Nat) : ReadsElement (readItem fuel) where
  blanks items text := by rw [readItem, readItem, readDatum_skipSpace]
  opens {items text next rest} read := by
    unfold readItem at read
    cases value : readDatum fuel text with
    | error fault => simp [value, Except.map] at read
    | ok found => exact opens_of_readDatum value

/-- Items that are read one by one are read one after another. -/
theorem readsElements_readItem {fuel level : Nat} {known items : List Datum}
    (reads : ∀ item ∈ items, ∀ rest, EndsNumber rest →
      readDatum fuel (indented level item ++ rest) = .ok (item, rest)) :
    ReadsElements (readItem fuel) level known items (items.reverse ++ known) := by
  induction items generalizing known with
  | nil => exact .nil known
  | cons item others inductionHypothesis =>
      obtain ⟨first, later⟩ := List.forall_mem_cons.mp reads
      rw [List.reverse_cons, List.append_assoc]
      refine .cons (fun rest ends => ?_) (inductionHypothesis later)
      rw [readItem, first rest ends]
      rfl

/-- A printed array is read when its items are. -/
theorem readDatum_array {fuel level : Nat} {items : List Datum}
    (reads : ∀ item ∈ items, ∀ rest, EndsNumber rest →
      readDatum fuel (indented (level + 1) item ++ rest) = .ok (item, rest)) (rest : List Char) :
    readDatum (fuel + 1) (indented level (.array items) ++ rest) = .ok (.array items, rest) := by
  have listed : ReadsElements (readItem fuel) (level + 1) [] items (items.reverse ++ []) :=
    readsElements_readItem reads
  obtain ⟨body, printed, read⟩ := foldElements_indented (readsElement_readItem fuel) listed rest
  rw [printed, readDatum, skipSpace_cons rfl]
  change (foldElements (readItem fuel) (body.length + 1) true [] body).map _ = _
  rw [read]
  simp [Except.map]

/-- The step that reads the members of an object. -/
def readMember (fuel : Nat) (members : Dictionary Datum) (name : String) (afterName : List Char) :
    Scan (Dictionary Datum) :=
  match afterColon afterName with
  | .error fault => .error fault
  | .ok value => (readDatum fuel value).map fun read => (members.insert name read.1, read.2)

/-- A printed object is read when its values are and its members stand in order. -/
theorem readDatum_object {fuel level : Nat} {members : List (String × Datum)}
    (sorted : Dictionary.Sorted ⟨members⟩)
    (reads : ∀ member ∈ members, ∀ rest, EndsNumber rest →
      readDatum fuel (indented (level + 1) member.2 ++ rest) = .ok (member.2, rest))
    (rest : List Char) :
    readDatum (fuel + 1) (indented level (.object members) ++ rest) = .ok (.object members, rest) := by
  have inserts : ∀ member ∈ members, ∀ known rest, EndsNumber rest →
      readMember fuel known member.1
          (':' :: ' ' :: (indented (level + 1) member.2 ++ rest)) =
        .ok (known.insert member.1 member.2, rest) := by
    intro member inside known rest ends
    have colon (text : List Char) : afterColon (':' :: text) = .ok text := rfl
    have blank (text : List Char) : readDatum fuel (' ' :: text) = readDatum fuel text := by
      rw [← readDatum_skipSpace, ← readDatum_skipSpace fuel text]
      rfl
    simp only [readMember, colon, blank, reads member inside rest ends, Except.map]
  have listed : ReadsMembers (readMember fuel) (level + 1) .empty
      (members.map fun member => (member.1, id member.2)) ⟨members⟩ :=
    readsMembers_entries id sorted inserts
  obtain ⟨body, printed, read⟩ := readMembers_indented (List.map_id members ▸ listed) rest
  rw [printed, readDatum, skipSpace_cons rfl]
  change (readMembers (readMember fuel) .empty body).map _ = _
  rw [read]
  rfl

/-- A printed value is read back where a number can end, as long as its length bounds the nesting. -/
theorem Ordered.readDatum_indented {datum : Datum} (ordered : Ordered datum) {fuel level : Nat}
    (enough : (indented level datum).length ≤ fuel) {rest : List Char} (ends : EndsNumber rest) :
    readDatum (fuel + 1) (indented level datum ++ rest) = .ok (datum, rest) := by
  induction ordered generalizing fuel level rest with
  | null => rfl
  | boolean value => cases value <;> rfl
  | natural bounded => exact readDatum_ofNat bounded fuel level ends
  | text value => exact readDatum_text value fuel level rest
  | array _ inductionHypothesis =>
      refine readDatum_array (fun item member rest ends => ?_) rest
      have shorter := Nat.lt_of_lt_of_le (length_indented_lt_array member level) enough
      obtain ⟨less, rfl⟩ : ∃ less, fuel = less + 1 := ⟨fuel - 1, by omega⟩
      exact inductionHypothesis item member (Nat.le_of_lt_succ shorter) ends
  | object sorted _ inductionHypothesis =>
      refine readDatum_object sorted (fun member inside rest ends => ?_) rest
      have shorter := Nat.lt_of_lt_of_le (length_indented_lt_object inside level) enough
      obtain ⟨less, rfl⟩ : ∃ less, fuel = less + 1 := ⟨fuel - 1, by omega⟩
      exact inductionHypothesis member inside (Nat.le_of_lt_succ shorter) ends

/-- What is printed of ordered data on lines of its own is read as the data. -/
theorem Ordered.parse_indentedString {datum : Datum} (ordered : Ordered datum) :
    parse (indentedString datum ++ "\n") = .ok datum := by
  have printed : (indentedString datum ++ "\n").toList = indented 0 datum ++ ['\n'] := by
    simp [indentedString]
  have enough : (indented 0 datum).length ≤ (indented 0 datum ++ ['\n']).length := by
    rw [List.length_append]
    exact Nat.le_add_right _ _
  have ends : EndsNumber ['\n'] := endsNumber_mark (by decide) []
  rw [parse, printed]
  simp only [ordered.readDatum_indented enough ends, bind, Except.bind]
  rfl

end QueryNotebook.Json
