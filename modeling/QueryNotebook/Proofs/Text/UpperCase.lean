import Mathlib
import QueryNotebook.Text.Case
import QueryNotebook.Text.Utf8

/-!
# Upper case at the end of a text

Whether a text ends with an ASCII word can be asked of the text itself or of its upper-case form.
The two questions differ only where a character beyond ASCII becomes several letters, such as a
ligature; for a word into which no such image reaches they have the same answer.
-/

namespace QueryNotebook.Text

/-! ## ASCII letters -/

/-- A capital and its small letter take one byte each. -/
@[simp] theorem utf8Size_toLower (c : Char) : c.toLower.utf8Size = c.utf8Size := by
  by_cases capital : c.isUpper
  · have range : 65 ≤ c.toNat ∧ c.toNat ≤ 90 := by
      simpa [Char.isUpper, UInt32.le_iff_toNat_le] using capital
    have size : ∀ d : Char, d.toNat ≤ 127 → d.utf8Size = 1 := fun d small =>
      Char.utf8Size_eq_one_iff.mpr (UInt32.le_iff_toNat_le.mpr small)
    have valid : (c.toNat + 32).isValidChar := .inl (by omega)
    rw [size c (by omega), size c.toLower]
    rw [Char.toLower_eq_of_isUpper capital, Char.toNat_ofNat, if_pos valid]
    omega
  · rw [Char.toLower_eq_of_not_isUpper capital]

/-- Making ASCII capitals small keeps the size of a text. -/
@[simp] theorem byteSize_asciiLower (text : List Char) :
    byteSize (asciiLower text) = byteSize text := by
  induction text with
  | nil => rfl
  | cons c rest inductionHypothesis =>
      have tail : byteSize (rest.map Char.toLower) = byteSize rest := inductionHypothesis
      simp [asciiLower, byteSize, tail]

/-- Texts that agree when their ASCII letters are small agree when they are large. -/
theorem asciiEqual_iff_map_toUpper {left right : List Char} :
    asciiEqual left right = true ↔ left.map Char.toUpper = right.map Char.toUpper := by
  simp only [asciiEqual, asciiLower, beq_iff_eq]
  constructor
  · intro same
    simpa [Function.comp_def] using congrArg (List.map Char.toUpper) same
  · intro same
    simpa [Function.comp_def] using congrArg (List.map Char.toLower) same

/-- A character is the large or the small form of the letter that it is in either case. -/
theorem eq_or_eq_of_toUpper {c large : Char} (upper : c.toUpper = large) :
    c = large ∨ c = large.toLower := by
  by_cases capital : c.isUpper
  · have notSmall : ¬ c.isLower := Char.not_isLower_of_isUpper capital
    exact .inl ((Char.toUpper_eq_of_not_isLower notSmall).symm.trans upper)
  · refine .inr ?_
    rw [← upper, Char.toLower_toUpper_eq_toLower, Char.toLower_eq_of_not_isUpper capital]

/-! ## Upper-casing the end of a text -/

/-- A character beyond ASCII is no small letter of ASCII. -/
theorem toUpper_of_le {c : Char} (foreign : 128 ≤ c.toNat) : c.toUpper = c := by
  apply Char.toUpper_eq_of_not_isLower
  intro small
  have range : 97 ≤ c.toNat ∧ c.toNat ≤ 122 := by
    simpa [Char.isLower, UInt32.le_iff_toNat_le] using small
  omega

/-- An ASCII text is upper-cased letter by letter. -/
theorem upper_of_ascii {text : List Char} (ascii : ∀ c ∈ text, c.toNat < 128) :
    upper text = text.map Char.toUpper := by
  induction text with
  | nil => rfl
  | cons c rest inductionHypothesis =>
      obtain ⟨first, others⟩ := List.forall_mem_cons.mp ascii
      rw [upper_cons, upperChar, if_pos first, inductionHypothesis others]
      rfl

/-- A text whose ASCII letters become an ASCII word when large consists of ASCII characters. -/
theorem ascii_of_map_toUpper {text word : List Char} (ascii : ∀ x ∈ word, x.toNat < 128)
    (large : text.map Char.toUpper = word) : ∀ c ∈ text, c.toNat < 128 := by
  intro c member
  by_contra foreign
  have image : c.toUpper ∈ word := large ▸ List.mem_map_of_mem member
  rw [toUpper_of_le (Nat.le_of_not_lt foreign)] at image
  exact foreign (ascii c image)

/-- No image of a character beyond ASCII ends inside the word: where the image is the last thing in
a text, the text does not end with any part of the word from its start. -/
def SparedByImages (word : List Char) : Prop :=
  ∀ part, part <+: word → part ≠ [] → ∀ c : Char, 128 ≤ c.toNat → ∀ before,
    ¬ part <:+ before ++ upperChar c

/-- A word that images spare ends an upper-cased text only by ending the text itself. -/
theorem exists_of_suffix_upper {word text : List Char} (spared : SparedByImages word)
    (ends : word <:+ upper text) :
    ∃ ending, ending <:+ text ∧ ending.map Char.toUpper = word := by
  induction word using List.reverseRecOn generalizing text with
  | nil => exact ⟨[], List.nil_suffix, rfl⟩
  | append_singleton word x inductionHypothesis =>
      have sparedStart : SparedByImages word := fun part start =>
        spared part (List.IsPrefix.trans start (List.prefix_append word [x]))
      rcases List.eq_nil_or_concat text with rfl | ⟨start, c, rfl⟩
      · simp at ends
      · have image : upper [c] = upperChar c := by simp
        rw [List.concat_eq_append] at ends ⊢
        rw [upper_append, image] at ends
        by_cases ascii : c.toNat < 128
        · rw [upperChar, if_pos ascii, List.suffix_concat_iff] at ends
          obtain empty | ⟨rest, parts, restEnds⟩ := ends
          · simp at empty
          · obtain ⟨rfl, last⟩ := List.append_inj' parts rfl
            obtain ⟨ending, ⟨before, rfl⟩, large⟩ := inductionHypothesis sparedStart restEnds
            refine ⟨ending ++ [c], ⟨before, by simp⟩, ?_⟩
            rw [List.map_append, large, last, List.map_singleton]
        · exact absurd ends
            (spared _ (List.prefix_refl _) (by simp) c (Nat.le_of_not_lt ascii) (upper start))

/-- An ASCII word that images spare ends the upper-cased text exactly when the text ends with it in
some case. -/
theorem suffix_upper_iff {word text : List Char} (ascii : ∀ x ∈ word, x.toNat < 128)
    (spared : SparedByImages word) :
    word <:+ upper text ↔ ∃ ending, ending <:+ text ∧ ending.map Char.toUpper = word := by
  constructor
  · exact exists_of_suffix_upper spared
  · rintro ⟨ending, ⟨start, rfl⟩, large⟩
    rw [upper_append, upper_of_ascii (ascii_of_map_toUpper ascii large), large]
    exact List.suffix_append _ _

end QueryNotebook.Text
