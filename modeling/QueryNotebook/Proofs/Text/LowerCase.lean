import Mathlib
import QueryNotebook.Proofs.Text.Piece
import QueryNotebook.Text.Case

/-!
# Lower case

What lower-casing makes of a text.  It keeps a character or puts small letters in its place, so a
text in lower case stays as it is when it is lower-cased again, and no blank or dash comes in.

A capital sigma is the one character whose image depends on its surroundings.  A piece of a text is
therefore not always lower-cased as it is within the text: at the ends of the piece a sigma may take
another form.  It does not where the piece is set off by blanks.
-/

namespace QueryNotebook.Text

/-! ## Single characters -/

/-- A character that lower-casing may put in the place of another one: it is in lower case, and
neither blank nor a dash. -/
structure Small (c : Char) : Prop where
  fixed : lowerChar c = [c]
  solid : isBlank c = false
  noDash : c ≠ '-'

instance (c : Char) : Decidable (Small c) :=
  decidable_of_iff (lowerChar c = [c] ∧ isBlank c = false ∧ c ≠ '-')
    ⟨fun ⟨fixed, solid, noDash⟩ => ⟨fixed, solid, noDash⟩,
      fun small => ⟨small.fixed, small.solid, small.noDash⟩⟩

/-- The images of a run lie outside a range of codes. -/
def CaseRun.avoids (run : CaseRun) (first last : Nat) : Bool :=
  Nat.blt (run.image + (run.last - run.first)) first || Nat.blt last run.image

/-- The images of a run are not in the reach of another one: they lie outside of it, or between its
members, which are then every other character. -/
def CaseRun.escapes (run other : CaseRun) : Bool :=
  run.avoids other.first other.last ||
    other.stride % 2 == 0 && (run.stride % 2 == 0 || run.first == run.last) &&
      (run.image + other.first) % 2 == 1

/-- Codes that no run maps to: the dash, the ASCII capitals, the characters with several images, the
codes between the characters, and the blanks. -/
def unmadeRanges : List (Nat × Nat) :=
  [(0x2D, 0x2D), (0x41, 0x5A), (0x130, 0x130), (0xD800, 0xDFFF)] ++ blankRanges

/-- The images of a run are codes of characters, and none of those that no run maps to. -/
theorem avoids_unmadeRanges : ∀ run ∈ lowerRuns,
    run.image + (run.last - run.first) < 0x110000 ∧
      ∀ range ∈ unmadeRanges, run.avoids range.1 range.2 = true := by
  decide +kernel

/-- No run maps to what a run changes. -/
theorem all_escapes : (lowerRuns.all fun run => lowerRuns.all run.escapes) = true := by
  decide +kernel

/-- What a character with several images becomes is small. -/
theorem small_lowerExpansions :
    ∀ entry ∈ lowerExpansions, entry.2 ≠ [] ∧ ∀ code ∈ entry.2, Small (Char.ofNat code) := by
  decide +kernel

/-- What the ASCII capitals become is small. -/
theorem small_asciiLetters : ∀ offset < 26, Small (Char.ofNat (0x41 + offset + 32)) := by
  decide +kernel

/-- An ASCII character that is not a capital stays as it is. -/
theorem lowerChar_ascii {c : Char} (ascii : c.toNat < 128)
    (noCapital : ¬ (0x41 ≤ c.toNat ∧ c.toNat ≤ 0x5A)) : lowerChar c = [c] := by
  have kept : ¬ c.isUpper := by
    simpa [Char.isUpper, UInt32.le_iff_toNat_le] using noCapital
  rw [lowerChar, if_pos ascii, Char.toLower_eq_of_not_isUpper kept]

/-- An ASCII capital becomes a small character. -/
theorem small_toLower {c : Char} (capital : 0x41 ≤ c.toNat ∧ c.toNat ≤ 0x5A) :
    Small c.toLower := by
  have upper : c.isUpper := by
    simpa [Char.isUpper, UInt32.le_iff_toNat_le] using capital
  rw [Char.toLower_eq_of_isUpper upper, ← Nat.add_sub_of_le capital.1]
  exact small_asciiLetters (c.toNat - 0x41) (by omega)

/-- The image of a run lies between its least and its greatest one. -/
theorem CaseRun.image_bounds {run : CaseRun} {code image : Nat}
    (mapped : run.apply? code = some image) :
    run.image ≤ image ∧ image ≤ run.image + (run.last - run.first) ∧
      (image - run.image) % run.stride = 0 := by
  unfold CaseRun.apply? at mapped
  split at mapped
  · next reached =>
    obtain ⟨low, high, step⟩ := reached
    obtain rfl := Option.some.inj mapped
    rw [Nat.add_sub_cancel_left]
    exact ⟨by omega, by omega, step⟩
  · contradiction

/-- The image of a run is not in a range that the run avoids. -/
theorem CaseRun.not_mem_of_avoids {run : CaseRun} {first last code image : Nat}
    (avoids : run.avoids first last = true) (mapped : run.apply? code = some image) :
    ¬ (first ≤ image ∧ image ≤ last) := by
  obtain ⟨low, high, -⟩ := image_bounds mapped
  simp only [CaseRun.avoids, Bool.or_eq_true, Nat.blt_eq] at avoids
  omega

/-- The image of a run is outside the reach of a run that it escapes. -/
theorem CaseRun.image_unreached {run other : CaseRun} (escapes : run.escapes other = true)
    {code image : Nat} (mapped : run.apply? code = some image) : other.apply? image = none := by
  simp only [CaseRun.escapes, Bool.or_eq_true, Bool.and_eq_true, beq_iff_eq] at escapes
  unfold CaseRun.apply?
  rw [if_neg]
  rintro ⟨low, high, reached⟩
  rcases escapes with avoids | ⟨⟨otherEven, even⟩, odd⟩
  · exact not_mem_of_avoids avoids mapped ⟨low, high⟩
  · -- The images and the members of the other run are an odd distance apart.
    obtain ⟨least, greatest, step⟩ := image_bounds mapped
    have apart : (image - other.first) % 2 = 0 :=
      Nat.mod_eq_zero_of_dvd
        (Nat.dvd_trans (Nat.dvd_of_mod_eq_zero otherEven) (Nat.dvd_of_mod_eq_zero reached))
    have distance : (image - run.image) % 2 = 0 := by
      rcases even with even | single
      · exact Nat.mod_eq_zero_of_dvd
          (Nat.dvd_trans (Nat.dvd_of_mod_eq_zero even) (Nat.dvd_of_mod_eq_zero step))
      · omega
    omega

/-- The images of the runs are small. -/
theorem small_image {run : CaseRun} (member : run ∈ lowerRuns) {code image : Nat}
    (mapped : run.apply? code = some image) : Small (Char.ofNat image) := by
  obtain ⟨bounded, avoids⟩ := avoids_unmadeRanges run member
  have outside : ∀ range ∈ unmadeRanges, ¬ (range.1 ≤ image ∧ image ≤ range.2) :=
    fun range unmade => CaseRun.not_mem_of_avoids (avoids range unmade) mapped
  have dash := outside (0x2D, 0x2D) (by decide)
  have capital := outside (0x41, 0x5A) (by decide)
  have expanded := outside (0x130, 0x130) (by decide)
  have surrogate := outside (0xD800, 0xDFFF) (by decide)
  have greatest := (CaseRun.image_bounds mapped).2.1
  simp only at dash capital expanded surrogate
  have code : (Char.ofNat image).toNat = image := by
    have valid : image.isValidChar := by
      simp only [Nat.isValidChar]
      omega
    rw [Char.ofNat, dif_pos valid]
    rfl
  refine ⟨?fixed, ?solid, ?noDash⟩
  case fixed =>
    by_cases ascii : image < 128
    · exact lowerChar_ascii (code.symm ▸ ascii) (code.symm ▸ capital)
    · have unexpanded : lowerExpansions.find? (fun entry => entry.1 == image) = none := by
        simp [lowerExpansions]
        omega
      have unreached : lowerRuns.findSome? (fun other => other.apply? image) = none :=
        List.findSome?_eq_none_iff.mpr fun other otherMember =>
          CaseRun.image_unreached
            (List.all_eq_true.mp (List.all_eq_true.mp all_escapes run member) other otherMember)
            mapped
      rw [lowerChar, code, if_neg ascii, mapCode, code, unexpanded, unreached]
  case solid =>
    rw [isBlank, code, inRanges, List.any_eq_false]
    intro range blank
    simpa using outside range (List.mem_append_right _ blank)
  case noDash =>
    intro same
    rw [same] at code
    exact dash (by rw [← code]; decide)

/-- A character is kept or becomes small letters. -/
theorem lowerChar_eq_or_small (c : Char) :
    lowerChar c = [c] ∨ lowerChar c ≠ [] ∧ ∀ d ∈ lowerChar c, Small d := by
  by_cases ascii : c.toNat < 128
  · by_cases capital : 0x41 ≤ c.toNat ∧ c.toNat ≤ 0x5A
    · rw [lowerChar, if_pos ascii]
      exact .inr ⟨List.cons_ne_nil _ _, List.forall_mem_singleton.mpr (small_toLower capital)⟩
    · exact .inl (lowerChar_ascii ascii capital)
  · rw [lowerChar, if_neg ascii]
    unfold mapCode
    split
    · next entry found =>
      obtain ⟨nonempty, small⟩ := small_lowerExpansions entry (List.mem_of_find?_eq_some found)
      exact .inr ⟨by simpa using nonempty, List.forall_mem_map.mpr small⟩
    · split
      · next image found =>
        obtain ⟨run, member, mapped⟩ := List.exists_of_findSome?_eq_some found
        exact .inr ⟨List.cons_ne_nil _ _,
          List.forall_mem_singleton.mpr (small_image member mapped)⟩
      · exact .inl rfl

/-! ## Texts -/

/-- The lower-case form of a part of a text, given the characters before it nearest first, and those
after it. -/
def lowerBetween (before part after : List Char) : List Char :=
  match part with
  | [] => []
  | c :: rest =>
      (if c = 'Σ' then [if endsWord before (rest ++ after) then 'ς' else 'σ'] else lowerChar c) ++
        lowerBetween (c :: before) rest after

/-- A text is lower-cased part by part, each part in its place. -/
theorem lowerAfter_append (before part after : List Char) :
    lowerAfter before (part ++ after) =
      lowerBetween before part after ++ lowerAfter (part.reverse ++ before) after := by
  induction part generalizing before with
  | nil => rfl
  | cons c rest inductionHypothesis =>
      rw [List.cons_append, lowerAfter, lowerBetween, inductionHypothesis, List.append_assoc,
        List.reverse_cons, List.append_assoc, List.singleton_append]

/-- With nothing after it a part is the rest of its text. -/
theorem lowerBetween_nil (before part : List Char) :
    lowerBetween before part [] = lowerAfter before part := by
  simpa [lowerAfter] using (lowerAfter_append before part []).symm

/-- What stands in a lower-cased text stood in the text or is small, and is in lower case either
way. -/
theorem of_mem_lowerAfter {before text : List Char} {d : Char}
    (member : d ∈ lowerAfter before text) : lowerChar d = [d] ∧ (d ∈ text ∨ Small d) := by
  induction text generalizing before with
  | nil => contradiction
  | cons c rest inductionHypothesis =>
      rw [lowerAfter, List.mem_append] at member
      rcases member with image | later
      · split at image
        · have sigma : Small d := by
            split at image
            · exact List.mem_singleton.mp image ▸ (by decide +kernel)
            · exact List.mem_singleton.mp image ▸ (by decide +kernel)
          exact ⟨sigma.fixed, .inr sigma⟩
        · rcases lowerChar_eq_or_small c with kept | ⟨-, small⟩
          · obtain rfl := List.mem_singleton.mp (kept ▸ image)
            exact ⟨kept, .inl (List.mem_cons_self ..)⟩
          · exact ⟨(small d image).fixed, .inr (small d image)⟩
      · obtain ⟨fixed, stood | small⟩ := inductionHypothesis later
        · exact ⟨fixed, .inl (List.mem_cons_of_mem c stood)⟩
        · exact ⟨fixed, .inr small⟩

/-- A text in lower case stays as it is. -/
theorem lowerAfter_of_fixed {text : List Char} (fixed : ∀ c ∈ text, lowerChar c = [c])
    (before : List Char) : lowerAfter before text = text := by
  induction text generalizing before with
  | nil => rfl
  | cons c rest inductionHypothesis =>
      obtain ⟨first, others⟩ := List.forall_mem_cons.mp fixed
      have noSigma : c ≠ 'Σ' := by
        rintro rfl
        revert first
        decide +kernel
      rw [lowerAfter, if_neg noSigma, first, inductionHypothesis others]
      rfl

/-- A text that ends in a solid character still does in lower case. -/
theorem EndsSolid.lower {text : List Char} (solid : EndsSolid text) :
    EndsSolid (Text.lower text) := by
  obtain ⟨start, c, rfl, solid⟩ := solid
  have image : EndsSolid (lowerAfter (start.reverse ++ []) [c]) := by
    have nonempty : lowerAfter (start.reverse ++ []) [c] ≠ [] := by
      rw [lowerAfter]
      split
      · simp
      · rcases lowerChar_eq_or_small c with kept | ⟨nonempty, -⟩
        · simp [kept]
        · simp [nonempty]
    obtain nothing | ⟨before, d, parts⟩ :=
      List.eq_nil_or_concat (lowerAfter (start.reverse ++ []) [c])
    · exact absurd nothing nonempty
    · rw [List.concat_eq_append] at parts
      refine ⟨before, d, parts, ?_⟩
      have member : d ∈ lowerAfter (start.reverse ++ []) [c] := by
        rw [parts]
        exact List.mem_append_right _ (List.mem_singleton_self d)
      obtain ⟨-, stood | small⟩ := of_mem_lowerAfter member
      · exact List.mem_singleton.mp stood ▸ solid
      · exact small.solid
  rw [Text.lower, lowerAfter_append]
  exact image.append_left _

/-! ## Pieces of a text -/

/-- Every capital sigma of a piece takes the same form in the piece alone as in the text around it. -/
def KeepsForms (start piece rest : List Char) : Prop :=
  ∀ left right, piece = left ++ 'Σ' :: right →
    endsWord left.reverse right = endsWord (left.reverse ++ start.reverse) (right ++ rest)

/-- Two surroundings that give every capital sigma the same form give a piece the same lower case. -/
theorem lowerBetween_congr {before piece after before' after' : List Char}
    (same : ∀ left right, piece = left ++ 'Σ' :: right →
      endsWord (left.reverse ++ before) (right ++ after) =
        endsWord (left.reverse ++ before') (right ++ after')) :
    lowerBetween before piece after = lowerBetween before' piece after' := by
  induction piece generalizing before before' with
  | nil => rfl
  | cons c rest inductionHypothesis =>
      have later := @inductionHypothesis (c :: before) (c :: before') fun left right parts => by
        simpa using same (c :: left) right (by rw [parts]; rfl)
      rw [lowerBetween, lowerBetween, later]
      by_cases sigma : c = 'Σ'
      · subst sigma
        have first : endsWord before (rest ++ after) = endsWord before' (rest ++ after') :=
          same [] rest rfl
        rw [first]
      · rw [if_neg sigma, if_neg sigma]

/-- A piece whose sigmas keep their forms is found in lower case where it stands in the text. -/
theorem KeepsForms.lower_in_place {start piece rest : List Char}
    (keeps : KeepsForms start piece rest) :
    lower piece <:+: lower (start ++ piece ++ rest) := by
  have inPlace : lower piece = lowerBetween start.reverse piece rest := by
    rw [lower, ← lowerBetween_nil]
    refine lowerBetween_congr fun left right parts => ?_
    simpa using keeps left right parts
  rw [inPlace, lower, List.append_assoc, lowerAfter_append, List.append_nil, lowerAfter_append]
  exact ⟨_, _, List.append_assoc ..⟩

/-- The tables of cased and of case-ignorable characters hold no blank. -/
theorem blank_uncased : ∀ range ∈ blankRanges,
    ∀ code ∈ List.range' range.1 (range.2 - range.1 + 1),
      inRanges caseIgnorableRanges code = false ∧ inRanges casedRanges code = false := by
  decide +kernel

/-- A blank has no case, and no word goes on behind it. -/
theorem uncased_of_isBlank {c : Char} (blank : isBlank c = true) :
    isCaseIgnorable c = false ∧ isCased c = false := by
  obtain ⟨range, member, inside⟩ := List.any_eq_true.mp blank
  simp only [Bool.and_eq_true, decide_eq_true_eq] at inside
  refine blank_uncased range member c.toNat (List.mem_range'.mpr ⟨c.toNat - range.1, ?_, ?_⟩)
  · omega
  · omega

/-- Behind blanks no case is met. -/
theorem meetsCased_append {blanks : List Char} (blank : allBlank blanks = true)
    (text : List Char) : meetsCased (text ++ blanks) = meetsCased text := by
  unfold meetsCased
  rw [List.dropWhile_append]
  cases met : text.dropWhile isCaseIgnorable with
  | cons c rest => rfl
  | nil =>
      cases blanks with
      | nil => rfl
      | cons c rest =>
          obtain ⟨ignorable, cased⟩ :=
            uncased_of_isBlank (allBlank_eq_true_iff.mp blank c (List.mem_cons_self ..))
          simp [ignorable, cased]

/-- What stands behind a character that a word does not pass over does not matter. -/
theorem meetsCased_append_of_not_all {text : List Char} (stops : ¬ text.all isCaseIgnorable = true)
    (more : List Char) : meetsCased (text ++ more) = meetsCased text := by
  unfold meetsCased
  rw [List.dropWhile_append]
  cases met : text.dropWhile isCaseIgnorable with
  | cons c rest => rfl
  | nil => exact absurd (List.all_eq_true.mpr (List.dropWhile_eq_nil_iff.mp met)) stops

/-- Where the form of a sigma changes with what stands around a piece, the piece begins or ends with
it, case-ignorable characters aside. -/
theorem all_isCaseIgnorable_of_endsWord_ne {before after more further : List Char}
    (changes : endsWord before after ≠ endsWord (before ++ more) (after ++ further)) :
    before.all isCaseIgnorable = true ∨ after.all isCaseIgnorable = true := by
  by_contra inside
  obtain ⟨stopsBefore, stopsAfter⟩ := not_or.mp inside
  rw [endsWord, endsWord, meetsCased_append_of_not_all stopsBefore,
    meetsCased_append_of_not_all stopsAfter] at changes
  contradiction

/-- The forms that sigmas keep in a piece they keep in the piece without the blanks around it. -/
theorem KeepsForms.of_blanks {start left piece right rest : List Char}
    (blankLeft : allBlank left = true) (blankRight : allBlank right = true)
    (keeps : KeepsForms start (left ++ piece ++ right) rest) :
    KeepsForms (start ++ left) piece (right ++ rest) := by
  intro before after parts
  have turned : allBlank left.reverse = true := by simpa [allBlank] using blankLeft
  calc endsWord before.reverse after
      = endsWord (before.reverse ++ left.reverse) (after ++ right) := by
        rw [endsWord, endsWord, meetsCased_append turned, meetsCased_append blankRight]
    _ = endsWord ((left ++ before).reverse ++ start.reverse) ((after ++ right) ++ rest) := by
        rw [← List.reverse_append]
        exact keeps (left ++ before) (after ++ right) (by simp [parts])
    _ = endsWord (before.reverse ++ (start ++ left).reverse) (after ++ (right ++ rest)) := by
        simp

end QueryNotebook.Text
