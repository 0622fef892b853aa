import QueryNotebook.Document
import QueryNotebook.Proofs.Text.Bytes

/-!
# Documents in characters

A document cuts its text at byte positions, but what it does can be said in characters: an insertion
stands between the characters before the caret and those after it, and the caret follows it.
-/

namespace QueryNotebook.Document

/-- An insertion stands between the characters before the caret and those after it. -/
theorem insert_eq (document : Document) (inserted : String) :
    document.insert inserted =
      { text := String.ofList (document.text.toList.take document.caret ++ inserted.toList ++
          document.text.toList.drop document.caret)
        caret := document.caret + inserted.toList.length
        mode := document.mode } := by
  rw [insert, Text.cutAt_eq]

/-- A document as its editor sets it up: the caret stands in the text or at its end. -/
theorem moveCaret_ofText (text : String) (mode : DocumentMode) (caret : Nat) :
    (ofText text mode).moveCaret caret = ⟨text, min caret text.toList.length, mode⟩ := rfl

/-- An insertion into such a document leaves the caret behind what is inserted. -/
theorem insert_moveCaret_ofText (text : String) (mode : DocumentMode) (caret : Nat)
    (inserted : String) :
    ((ofText text mode).moveCaret caret).insert inserted =
      let start := text.toList.take (min caret text.toList.length) ++ inserted.toList
      { text := String.ofList (start ++ text.toList.drop caret)
        caret := start.length
        mode := mode } := by
  have size : (text.toList.take (min caret text.toList.length) ++ inserted.toList).length =
      min caret text.toList.length + inserted.toList.length := by
    simp
  have behind : text.toList.drop caret = text.toList.drop (min caret text.toList.length) :=
    List.drop_eq_drop_min
  rw [moveCaret_ofText, insert_eq]
  dsimp only
  rw [size, behind]

end QueryNotebook.Document
