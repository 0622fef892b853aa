import QueryNotebook.Text.Utf8

/-!
# Cutting between characters

Byte positions come from counting characters, so they always stand between two of them.  The cut at
the position of a character therefore never fails, and it is the cut that counts characters; what
the last bytes of a text are is likewise a question of where the text comes apart.
-/

namespace QueryNotebook.Text

@[simp] theorem byteSize_reverse (text : List Char) : byteSize text.reverse = byteSize text := by
  induction text with
  | nil => rfl
  | cons c rest inductionHypothesis => simp [byteSize, inductionHypothesis, Nat.add_comm]

/-- A character stands at the byte position that the characters before it take up. -/
theorem charIndices_getElem? (start number : Nat) (text : List Char) :
    (charIndices start text)[number]? =
      text[number]?.map fun c => (start + byteSize (text.take number), c) := by
  induction text generalizing start number with
  | nil => simp [charIndices]
  | cons c rest inductionHypothesis =>
      cases number with
      | zero => simp [charIndices]
      | succ number => simp [charIndices, inductionHypothesis, byteSize, Nat.add_assoc]

/-- The byte position of a character is the size of the text before it; past the end it is the size
of the whole text. -/
theorem byteOffset_eq (text : List Char) (number : Nat) :
    byteOffset text number = byteSize (text.take number) := by
  unfold byteOffset
  rw [charIndices_getElem?]
  by_cases inside : number < text.length
  · simp [List.getElem?_eq_getElem inside]
  · have past : text.length ≤ number := Nat.le_of_not_lt inside
    simp [List.getElem?_eq_none past, List.take_of_length_le past]

/-- The position after a whole number of characters is a boundary. -/
theorem splitAtByte?_append (left right : List Char) :
    splitAtByte? (byteSize left) (left ++ right) = some (left, right) := by
  induction left with
  | nil => cases right <;> rfl
  | cons c rest inductionHypothesis =>
      have positive := c.utf8Size_pos
      obtain ⟨position, size⟩ : ∃ position, c.utf8Size + byteSize rest = position + 1 :=
        ⟨c.utf8Size + byteSize rest - 1, by omega⟩
      have fits : c.utf8Size ≤ position + 1 := by omega
      have remaining : position + 1 - c.utf8Size = byteSize rest := by omega
      simp only [byteSize, size, List.cons_append, splitAtByte?, if_pos fits, remaining,
        inductionHypothesis, Option.map_some]

/-- A cut at a character never fails, and it counts characters. -/
@[simp] theorem cutAt_eq (text : List Char) (number : Nat) :
    cutAt text number = (text.take number, text.drop number) := by
  have cut := splitAtByte?_append (text.take number) (text.drop number)
  rw [List.take_append_drop] at cut
  simp [cutAt, byteOffset_eq, cut]

/-- The walk back over a text finds the wanted bytes when a character starts them. -/
theorem takeBytesBack?_append (walked rest taken : List Char) :
    takeBytesBack? (byteSize walked) (walked ++ rest) taken = some (walked.reverse ++ taken) := by
  induction walked generalizing taken with
  | nil => cases rest <;> rfl
  | cons c walked inductionHypothesis =>
      have positive := c.utf8Size_pos
      obtain ⟨wanted, size⟩ : ∃ wanted, c.utf8Size + byteSize walked = wanted + 1 :=
        ⟨c.utf8Size + byteSize walked - 1, by omega⟩
      have fits : c.utf8Size ≤ wanted + 1 := by omega
      have remaining : wanted + 1 - c.utf8Size = byteSize walked := by omega
      simp [byteSize, size, takeBytesBack?, fits, remaining, inductionHypothesis]

/-- The walk back over a text takes whole characters, as many bytes as wanted. -/
theorem exists_of_takeBytesBack? {wanted : Nat} {turned taken ending : List Char}
    (found : takeBytesBack? wanted turned taken = some ending) :
    ∃ walked rest, turned = walked ++ rest ∧ byteSize walked = wanted ∧
      ending = walked.reverse ++ taken := by
  induction turned generalizing wanted taken with
  | nil =>
      cases wanted with
      | zero => exact ⟨[], [], rfl, rfl, by simpa [takeBytesBack?] using found.symm⟩
      | succ wanted => simp [takeBytesBack?] at found
  | cons c turned inductionHypothesis =>
      cases wanted with
      | zero => exact ⟨[], c :: turned, rfl, rfl, by simpa [takeBytesBack?] using found.symm⟩
      | succ wanted =>
          by_cases fits : c.utf8Size ≤ wanted + 1
          · rw [takeBytesBack?, if_pos fits] at found
            obtain ⟨walked, rest, rfl, size, rfl⟩ := inductionHypothesis found
            refine ⟨c :: walked, rest, rfl, ?_, by simp⟩
            simp only [byteSize]
            omega
          · simp [takeBytesBack?, fits] at found

/-- A text has last bytes that start at a character exactly when it comes apart there. -/
theorem lastBytes?_eq_some_iff {count : Nat} {text ending : List Char} :
    lastBytes? count text = some ending ↔ ending <:+ text ∧ byteSize ending = count := by
  constructor
  · intro found
    obtain ⟨walked, rest, parts, size, rfl⟩ := exists_of_takeBytesBack? found
    refine ⟨⟨rest.reverse, ?_⟩, by simpa using size⟩
    simpa using (congrArg List.reverse parts).symm
  · rintro ⟨⟨start, rfl⟩, size⟩
    have walk := takeBytesBack?_append ending.reverse start.reverse []
    simpa [lastBytes?, size] using walk

end QueryNotebook.Text
