import QueryNotebook.Proofs.Document

/-!
# Editing a document

A document keeps its text as bytes and its caret as a number of characters.  Whatever is done with
it, the caret stands in the text or at its end.  The byte position of any number of characters is a
boundary between two of them, so a text can be cut there, be it for an insertion or to look at what
comes before a caret.
-/

namespace QueryNotebook

/-! ## Positions in the bytes of a text -/

namespace Text

/-- The size of a text is the number of its bytes. -/
theorem byteSize_eq (text : List Char) : byteSize text = (String.ofList text).utf8ByteSize := by
  induction text with
  | nil => rfl
  | cons c rest inductionHypothesis =>
      have parts : String.ofList (c :: rest) = String.singleton c ++ String.ofList rest := by
        rw [String.singleton_eq_ofList, ← String.ofList_append, List.singleton_append]
      rw [parts, String.utf8ByteSize_append, String.utf8ByteSize_singleton, byteSize,
        inductionHypothesis]

/-- A text is cut at the position of a character, and it is cut into characters. -/
theorem splitAtByte?_byteOffset (text : List Char) (number : Nat) :
    splitAtByte? (byteOffset text number) text = some (text.take number, text.drop number) := by
  have cut := splitAtByte?_append (text.take number) (text.drop number)
  rwa [List.take_append_drop, ← byteOffset_eq] at cut

/-- The position of a character is a boundary between the characters of the text. -/
theorem isValid_byteOffset (text : String) (number : Nat) :
    (⟨byteOffset text.toList number⟩ : String.Pos.Raw).IsValid text := by
  rw [String.Pos.Raw.isValid_iff_exists_append]
  refine ⟨String.ofList (text.toList.take number), String.ofList (text.toList.drop number), ?_, ?_⟩
  · rw [← String.ofList_append, List.take_append_drop, String.ofList_toList]
  · rw [byteOffset_eq, byteSize_eq]
    rfl

end Text

/-! ## Steps -/

/-- What is done with a document. -/
inductive DocumentStep where
  | caretMoved (caret : Nat)
  | inserted (text : String)

namespace Document

/-- The document after a step. -/
def handle (document : Document) : DocumentStep → Document
  | .caretMoved caret => document.moveCaret caret
  | .inserted text => document.insert text

/-- The document after several steps, the oldest of them first. -/
def after (document : Document) (steps : List DocumentStep) : Document :=
  steps.foldl handle document

/-- The caret stands before a character of the text or at its end. -/
def CaretInside (document : Document) : Prop :=
  document.caret ≤ document.text.toList.length

theorem caretInside_ofText (text : String) (mode : DocumentMode) :
    (ofText text mode).CaretInside :=
  Nat.le_refl _

/-- A caret that is moved stays inside, wherever it was. -/
theorem caretInside_moveCaret (document : Document) (caret : Nat) :
    (document.moveCaret caret).CaretInside :=
  Nat.min_le_right _ _

/-- An insertion moves the caret by as much as the text grows. -/
theorem CaretInside.insert {document : Document} (inside : document.CaretInside)
    (inserted : String) : (document.insert inserted).CaretInside := by
  unfold CaretInside at inside ⊢
  rw [insert_eq]
  simp only [String.toList_ofList, List.length_append, List.length_take, List.length_drop]
  omega

theorem CaretInside.handle {document : Document} (inside : document.CaretInside)
    (step : DocumentStep) : (document.handle step).CaretInside := by
  cases step with
  | caretMoved caret => exact caretInside_moveCaret document caret
  | inserted text => exact inside.insert text

/-- The caret is inside after any steps. -/
theorem CaretInside.after {document : Document} (inside : document.CaretInside)
    (steps : List DocumentStep) : (document.after steps).CaretInside := by
  induction steps generalizing document with
  | nil => exact inside
  | cons step later inductionHypothesis => exact inductionHypothesis (inside.handle step)

/-- No step changes the kind of a document. -/
theorem mode_after (document : Document) (steps : List DocumentStep) :
    (document.after steps).mode = document.mode := by
  induction steps generalizing document with
  | nil => rfl
  | cons step later inductionHypothesis =>
      refine (inductionHypothesis (document.handle step)).trans ?_
      cases step with
      | caretMoved caret => exact mode_moveCaret document caret
      | inserted text => exact mode_insert document text

/-! ## Insertions -/

/-- The bytes of an insertion stand between the bytes before the position of the caret and those
behind it. -/
theorem toByteArray_insert (document : Document) (inserted : String) :
    let position := Text.byteOffset document.text.toList document.caret
    let bytes := document.text.toByteArray
    (document.insert inserted).text.toByteArray =
      bytes.extract 0 position ++ inserted.toByteArray ++ bytes.extract position bytes.size := by
  intro position bytes
  let before := String.ofList (document.text.toList.take document.caret)
  let behind := String.ofList (document.text.toList.drop document.caret)
  have whole : bytes = before.toByteArray ++ behind.toByteArray := by
    rw [← String.toByteArray_append, ← String.ofList_append, List.take_append_drop,
      String.ofList_toList]
  have atCaret : position = before.toByteArray.size := by
    rw [String.size_toByteArray, ← Text.byteSize_eq, ← Text.byteOffset_eq]
  have size : bytes.size = before.toByteArray.size + behind.toByteArray.size := by
    rw [whole, ByteArray.size_append]
  rw [size, whole, ByteArray.extract_append_eq_left atCaret,
    ByteArray.extract_append_eq_right atCaret rfl, insert_eq]
  dsimp only
  rw [String.ofList_append, String.ofList_append, String.ofList_toList,
    String.toByteArray_append, String.toByteArray_append]

/-- An insertion goes between what stands before the caret and what stands behind it. -/
theorem insert_of_parts {document : Document} {before behind : List Char}
    (parts : document.text.toList = before ++ behind) (size : before.length = document.caret)
    (inserted : String) :
    document.insert inserted =
      ⟨String.ofList (before ++ inserted.toList ++ behind), document.caret + inserted.toList.length,
        document.mode⟩ := by
  rw [insert_eq, parts, List.take_left' size, List.drop_left' size]

/-- Two insertions one behind the other are one insertion. -/
theorem CaretInside.insert_insert {document : Document} (inside : document.CaretInside)
    (first second : String) :
    (document.insert first).insert second = document.insert (first ++ second) := by
  have parts := (List.take_append_drop document.caret document.text.toList).symm
  have size := List.length_take_of_le inside
  -- What the first insertion put in stands before the caret of the second one.
  have moreParts : (document.insert first).text.toList =
      (document.text.toList.take document.caret ++ first.toList) ++
        document.text.toList.drop document.caret := by
    rw [insert_of_parts parts size, String.toList_ofList]
  have moreSize : (document.text.toList.take document.caret ++ first.toList).length =
      (document.insert first).caret := by
    rw [insert_of_parts parts size, List.length_append, size]
  rw [insert_of_parts moreParts moreSize, insert_of_parts parts size, insert_of_parts parts size]
  simp [Nat.add_assoc]

/-- A document is right in characters, whatever was done with it.  The caret stands between its first
character and its end, and moving it any number of characters stops there.  The byte position of any
number of characters is the size of so many characters, or of all there are; it is a boundary, so the
text can be cut there.  An insertion goes between what stands before the caret and what stands behind
it, in characters as in bytes, with the caret behind it, and may come in two parts. -/
theorem after_in_characters (text : String) (mode : DocumentMode) (steps : List DocumentStep) :
    let document := (ofText text mode).after steps
    let characters := document.text.toList
    document.caret ≤ characters.length ∧
      (∀ caret, document.moveCaret caret =
        ⟨document.text, min caret characters.length, mode⟩) ∧
      (∀ number,
        let position := Text.byteOffset characters number
        position =
            (String.ofList (characters.take (min number characters.length))).utf8ByteSize ∧
          (⟨position⟩ : String.Pos.Raw).IsValid document.text ∧
          Text.splitAtByte? position characters =
            some (characters.take number, characters.drop number)) ∧
      (∃ before behind, characters = before ++ behind ∧ before.length = document.caret ∧
        ∀ inserted, document.insert inserted =
          ⟨String.ofList (before ++ inserted.toList ++ behind),
            document.caret + inserted.toList.length, mode⟩) ∧
      (∀ inserted,
        let position := Text.byteOffset characters document.caret
        let bytes := document.text.toByteArray
        (document.insert inserted).text.toByteArray =
          bytes.extract 0 position ++ inserted.toByteArray ++ bytes.extract position bytes.size) ∧
      (∀ first second,
        (document.insert first).insert second = document.insert (first ++ second)) := by
  intro document characters
  have inside : document.CaretInside := (caretInside_ofText text mode).after steps
  have kind : document.mode = mode := mode_after (ofText text mode) steps
  refine ⟨inside, ?_, ?_, ?_, document.toByteArray_insert, inside.insert_insert⟩
  · intro caret
    rw [← kind]
    rfl
  · intro number
    refine ⟨?_, Text.isValid_byteOffset _ number, Text.splitAtByte?_byteOffset _ number⟩
    rw [Text.byteOffset_eq, Text.byteSize_eq, ← List.take_eq_take_min]
  · refine ⟨characters.take document.caret, characters.drop document.caret,
      (List.take_append_drop ..).symm, List.length_take_of_le inside, fun inserted => ?_⟩
    rw [← kind]
    exact insert_of_parts (List.take_append_drop ..).symm (List.length_take_of_le inside) inserted

end Document

end QueryNotebook
