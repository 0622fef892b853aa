import QueryNotebook.Completion.Context
import QueryNotebook.Proofs.Text.Bytes
import QueryNotebook.Proofs.Text.UpperCase

/-!
# The word that wants a table

The trigger for tables looks at the last six bytes of a text and compares them without regard to the
case of ASCII letters.  It fires exactly when the text ends with ` FROM ` in some case, and exactly
when the upper-case form of the whole text ends with ` FROM `.

The second is not immediate.  A ligature such as `ﬀ` becomes letters of the word, so upper-casing
can bring an `F` to the end of a text that has none; but it brings two, and no space before them.
-/

namespace QueryNotebook.Context

/-- The word in capitals. -/
def fromCapitals : List Char :=
  " FROM ".toList

/-- The word consists of ASCII characters. -/
theorem ascii_fromCapitals : ∀ c ∈ fromCapitals, 0 < c.toNat ∧ c.toNat < 128 := by
  simp [fromCapitals]

/-- The last six bytes decide as the last six characters do. -/
theorem endsWithFrom_iff {before : List Char} :
    endsWithFrom before = true ↔
      ∃ ending, ending <:+ before ∧ Text.asciiEqual ending fromCapitals = true := by
  have small : Text.asciiLower fromWord = Text.asciiLower fromCapitals := by decide
  constructor
  · intro fires
    unfold endsWithFrom at fires
    split at fires
    · next ending found =>
      refine ⟨ending, (Text.lastBytes?_eq_some_iff.mp found).1, ?_⟩
      rwa [Text.asciiEqual, ← small]
    · contradiction
  · rintro ⟨ending, ends, same⟩
    rw [Text.asciiEqual, ← small] at same
    have size : Text.byteSize ending = Text.byteSize fromWord := by
      rw [← Text.byteSize_asciiLower ending, beq_iff_eq.mp same, Text.byteSize_asciiLower]
    rw [endsWithFrom, Text.lastBytes?_eq_some_iff.mpr ⟨ends, size⟩]
    exact same

/-- An image ends in no character of the word, or in two `F`, of which the word has only one. -/
def missesFrom (image : List Char) : Bool :=
  match image.reverse with
  | 'F' :: 'F' :: _ => true
  | c :: _ => !fromCapitals.contains c
  | [] => false

/-- A text that ends in such an image does not end inside the word. -/
theorem not_suffix_of_missesFrom {image : List Char} (misses : missesFrom image = true)
    {part : List Char} (start : part <+: fromCapitals) (nonempty : part ≠ [])
    (before : List Char) : ¬ part <:+ before ++ image := by
  intro ends
  rw [← List.reverse_prefix, List.reverse_append] at ends
  unfold missesFrom at misses
  split at misses
  · next shape =>
    rw [shape] at ends
    have starts : part ∈ List.inits [' ', 'F', 'R', 'O', 'M', ' '] := (List.mem_inits ..).mpr start
    simp only [List.inits, List.map_cons, List.map_nil, List.mem_cons, List.not_mem_nil,
      or_false] at starts
    -- The word has one `F`, after a space, so no part of it ends in two.
    rcases starts with rfl | rfl | rfl | rfl | rfl | rfl | rfl <;>
      simp [List.cons_prefix_cons] at ends nonempty
  · next c rest _ shape =>
    rw [shape] at ends
    obtain rfl | ⟨inner, last, rfl⟩ := List.eq_nil_or_concat part
    · exact nonempty rfl
    · rw [List.concat_eq_append, List.reverse_append, List.reverse_singleton,
        List.singleton_append, List.cons_append, List.cons_prefix_cons] at ends
      have member : last ∈ fromCapitals := start.subset (by simp)
      simp [← ends.1, member] at misses
  · contradiction

/-- The letters that an expansion adds stop short of the word. -/
theorem missesFrom_upperExpansions :
    ∀ entry ∈ Text.upperExpansions, missesFrom (entry.2.map Char.ofNat) = true := by
  decide +kernel

/-- A run above ASCII maps to characters above ASCII, or a single one of it to an ASCII letter that
the word does not have. -/
theorem missesFrom_upperRuns : ∀ run ∈ Text.upperRuns,
    128 ≤ run.image ∨ run.first = run.last ∧ missesFrom [Char.ofNat run.image] = true := by
  decide +kernel

/-- A character from beyond ASCII is not in the word. -/
theorem missesFrom_ofNat {code : Nat} (foreign : 128 ≤ code) :
    missesFrom [Char.ofNat code] = true := by
  have outside : Char.ofNat code ∉ fromCapitals := by
    intro member
    have range := ascii_fromCapitals _ member
    rw [Char.toNat_ofNat] at range
    split at range <;> omega
  simpa [missesFrom] using outside

/-- Whatever a character beyond ASCII becomes, the word does not end in it. -/
theorem missesFrom_upperChar {c : Char} (foreign : 128 ≤ c.toNat) :
    missesFrom (Text.upperChar c) = true := by
  rw [Text.upperChar, if_neg (Nat.not_lt.mpr foreign)]
  unfold Text.mapCode
  split
  · next entry found => exact missesFrom_upperExpansions entry (List.mem_of_find?_eq_some found)
  · split
    · next code found =>
      obtain ⟨run, member, applied⟩ := List.exists_of_findSome?_eq_some found
      unfold Text.CaseRun.apply? at applied
      split at applied
      · next reached =>
        obtain rfl := Option.some.inj applied
        rcases missesFrom_upperRuns run member with large | ⟨single, misses⟩
        · exact missesFrom_ofNat (by omega)
        · have first : c.toNat - run.first = 0 := by omega
          rwa [first]
      · contradiction
    · rw [← Char.ofNat_toNat c]
      exact missesFrom_ofNat foreign

/-- Upper-casing brings no part of the word to the end of a text that a character beyond ASCII
ends. -/
theorem sparedByImages_fromCapitals : Text.SparedByImages fromCapitals :=
  fun _ start nonempty _ foreign before =>
    not_suffix_of_missesFrom (missesFrom_upperChar foreign) start nonempty before

/-- The trigger compares six bytes and ignores the case of ASCII letters; upper-casing the whole
text first, over all characters, and looking for the word at its end gives the same answer. -/
theorem endsWithFrom_iff_suffix_upper (before : List Char) :
    endsWithFrom before = true ↔ " FROM ".toList <:+ Text.upper before := by
  have ascii : ∀ c ∈ fromCapitals, c.toNat < 128 := fun c member => (ascii_fromCapitals c member).2
  have large : fromCapitals.map Char.toUpper = fromCapitals := by decide +kernel
  change _ ↔ fromCapitals <:+ Text.upper before
  rw [endsWithFrom_iff, Text.suffix_upper_iff ascii sparedByImages_fromCapitals]
  simp only [Text.asciiEqual_iff_map_toUpper, large]

end QueryNotebook.Context
