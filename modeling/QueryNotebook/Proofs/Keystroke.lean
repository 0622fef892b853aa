import QueryNotebook.Keystroke
import QueryNotebook.Proofs.Text.Joined
import QueryNotebook.Proofs.Text.LowerCase

/-!
# Reading the notation of a keystroke again

Whether a keystroke that was read from a notation is read again from the notation it is written in.
The written form names the modifiers in a fixed order and ends in the key, so a keystroke with
modifiers always returns.  Without modifiers the key stands alone: a dash alone names no key, and
blanks before the key are trimmed away.  Such keys come from notations with empty pieces, which a
reader skips.
-/

namespace QueryNotebook

/-- The names of the modifiers that are held, as a notation lists them. -/
def Modifiers.names (modifiers : Modifiers) : List (List Char) :=
  (if modifiers.platform then ["cmd".toList] else []) ++
    (if modifiers.control then ["ctrl".toList] else []) ++
      (if modifiers.alternate then ["alt".toList] else []) ++
        (if modifiers.shift then ["shift".toList] else [])

/-- A name of a modifier is not empty, has no blanks in front and holds no dash. -/
theorem Modifiers.names_clean (modifiers : Modifiers) :
    ∀ name ∈ modifiers.names, name ≠ [] ∧ Text.trimStart name = name ∧ '-' ∉ name := by
  obtain ⟨control, alternate, shift, platform⟩ := modifiers
  revert control alternate shift platform
  decide

/-- No names are listed exactly when no modifier is held. -/
theorem Modifiers.names_eq_nil_iff {modifiers : Modifiers} :
    modifiers.names = [] ↔ modifiers = .none := by
  obtain ⟨control, alternate, shift, platform⟩ := modifiers
  revert control alternate shift platform
  decide

namespace Keystroke

/-! ## Writing a keystroke -/

/-- The names of modifiers name them. -/
theorem readModifiers_names (modifiers : Modifiers) :
    readModifiers .none modifiers.names = .ok modifiers := by
  obtain ⟨control, alternate, shift, platform⟩ := modifiers
  revert control alternate shift platform
  decide

/-- A notation joins the names of the modifiers and the key with dashes. -/
theorem toList_display (keystroke : Keystroke) :
    keystroke.display.toList =
      Text.join '-' (keystroke.modifiers.names ++ [keystroke.key.toList]) := by
  obtain ⟨⟨control, alternate, shift, platform⟩, key⟩ := keystroke
  cases control <;> cases alternate <;> cases shift <;> cases platform <;>
    simp [display, Modifiers.names, Text.join]

/-- The names of the modifiers are the pieces of their part of a notation. -/
theorem modifierPieces_join {modifiers : Modifiers} (some : modifiers.names ≠ []) :
    modifierPieces (Text.join '-' modifiers.names) = modifiers.names := by
  have clean := modifiers.names_clean
  rw [modifierPieces, Text.splitOn_join some fun name member => (clean name member).2.2]
  exact List.filter_eq_self.mpr fun name member => by simpa using (clean name member).1

/-! ## Reading a keystroke -/

/-- A notation names a keystroke exactly when its last part is there and the others name the
modifiers. -/
theorem parse_eq_ok_iff {source : String} {keystroke : Keystroke} :
    parse source = .ok keystroke ↔
      (splitKey (Text.trim source.toList)).2 ≠ [] ∧
        readModifiers .none (modifierPieces (splitKey (Text.trim source.toList)).1) =
          .ok keystroke.modifiers ∧
        String.ofList (Text.lower (splitKey (Text.trim source.toList)).2) = keystroke.key := by
  unfold parse
  dsimp only
  by_cases noKey : (splitKey (Text.trim source.toList)).2 = []
  · -- Without a key the answer is a fault, for a blank notation another one than else.
    simp only [noKey, List.isEmpty_nil, if_true, ne_eq, not_true, false_and, iff_false]
    split
    · rintro ⟨⟩
    · rintro ⟨⟩
  · have something : Text.trim source.toList ≠ [] := by
      intro nothing
      rw [nothing] at noKey
      exact noKey rfl
    rw [if_neg (by simpa using something), if_neg (by simpa using noKey)]
    split
    · next name unnamed => simp [unnamed]
    · next held named =>
      obtain ⟨modifiers, key⟩ := keystroke
      simp [named, noKey, ofKey]

/-- The key after the last dash is cut off, also where it is a dash itself. -/
theorem splitKey_append {key : List Char} (dash : key = ['-'] ∨ '-' ∉ key) (nonempty : key ≠ [])
    (before : List Char) : splitKey (before ++ '-' :: key) = (before, key) := by
  rcases dash with rfl | noDash
  · have ends : Text.dropEnd? ['-', '-'] (before ++ ['-', '-']) = some before :=
      Text.dropEnd?_eq_some_iff.mpr rfl
    rw [splitKey, ends]
  · have continues : Text.dropEnd? ['-', '-'] (before ++ '-' :: key) = none := by
      rw [Option.eq_none_iff_forall_ne_some]
      intro rest ends
      obtain ⟨start, c, rfl⟩ := List.eq_nil_or_concat key |>.resolve_left nonempty
      have same : (before ++ '-' :: start) ++ [c] = (rest ++ ['-']) ++ ['-'] := by
        simpa using Text.dropEnd?_eq_some_iff.mp ends
      obtain rfl : c = '-' := by simpa using (List.append_inj' same rfl).2
      simp at noDash
    rw [splitKey, continues, Text.splitLast?_append noDash]

/-- A text without dashes is all key. -/
theorem splitKey_of_notMem {key : List Char} (noDash : '-' ∉ key) : splitKey key = ([], key) := by
  have continues : Text.dropEnd? ['-', '-'] key = none := by
    rw [Option.eq_none_iff_forall_ne_some]
    intro rest ends
    rw [Text.dropEnd?_eq_some_iff.mp ends] at noDash
    simp at noDash
  rw [splitKey, continues, Text.splitLast?_eq_none_iff.mpr noDash]

/-- The key that is cut off ends its notation, and is a dash or holds none. -/
theorem splitKey_key (source : List Char) :
    (splitKey source).2 <:+ source ∧
      ((splitKey source).2 = ['-'] ∨ '-' ∉ (splitKey source).2) := by
  unfold splitKey
  split
  · next modifiers ends =>
    rw [Text.dropEnd?_eq_some_iff.mp ends]
    exact ⟨⟨modifiers ++ ['-'], by simp⟩, .inl rfl⟩
  · split
    · next parts found =>
      obtain ⟨whole, noDash⟩ := Text.splitLast?_eq_some found
      exact ⟨⟨parts.1 ++ ['-'], by simp [whole]⟩, .inr noDash⟩
    · next alone => exact ⟨List.suffix_rfl, .inr (Text.splitLast?_eq_none_iff.mp alone)⟩

/-! ## Reading what was written -/

/-- The text of a key: a dash or a text without dashes, in lower case, that ends in a solid
character. -/
structure KeyText (key : List Char) : Prop where
  dash : key = ['-'] ∨ '-' ∉ key
  fixed : ∀ c ∈ key, Text.lowerChar c = [c]
  solid : Text.EndsSolid key

/-- A key that was read has such a text. -/
theorem keyText_of_parse {source : String} {keystroke : Keystroke}
    (parsed : parse source = .ok keystroke) : KeyText keystroke.key.toList := by
  obtain ⟨something, -, lowered⟩ := parse_eq_ok_iff.mp parsed
  obtain ⟨⟨start, parts⟩, dash⟩ := splitKey_key (Text.trim source.toList)
  rw [← lowered, String.toList_ofList]
  have solid : Text.EndsSolid (splitKey (Text.trim source.toList)).2 := by
    have whole : Text.EndsSolid (Text.trim source.toList) :=
      Text.endsSolid_trim (by rw [← parts]; simp [something])
    rw [← parts] at whole
    exact whole.of_append something
  refine ⟨?dash, fun c member => (Text.of_mem_lowerAfter member).1, solid.lower⟩
  case dash =>
    rcases dash with isDash | noDash
    · rw [isDash]
      exact .inl (by decide +kernel)
    · refine .inr fun member => ?_
      obtain ⟨-, stood | small⟩ := Text.of_mem_lowerAfter member
      · exact noDash stood
      · exact small.noDash rfl

/-- The notation of a keystroke with modifiers is not trimmed. -/
theorem trim_display {keystroke : Keystroke} (held : keystroke.modifiers.names ≠ [])
    (solid : Text.EndsSolid keystroke.key.toList) :
    Text.trim keystroke.display.toList = keystroke.display.toList := by
  have ends : Text.EndsSolid keystroke.display.toList := by
    rw [toList_display, Text.join_concat held, ← List.singleton_append, ← List.append_assoc]
    exact solid.append_left _
  obtain ⟨name, others, listed⟩ := List.exists_cons_of_ne_nil held
  obtain ⟨nonempty, kept, -⟩ := keystroke.modifiers.names_clean name (by simp [listed])
  obtain ⟨rest, begins⟩ : ∃ rest, keystroke.display.toList = name ++ rest := by
    rw [toList_display, listed, List.cons_append]
    cases others with
    | nil => exact ⟨_, List.intercalate_cons_cons.trans (List.append_assoc ..)⟩
    | cons next others => exact ⟨_, List.intercalate_cons_cons.trans (List.append_assoc ..)⟩
  rw [ends.trim_eq, begins, Text.trimStart_append (kept.symm ▸ nonempty), kept]

/-- A keystroke with modifiers is read again from its notation. -/
theorem parse_display_of_held {keystroke : Keystroke} (held : keystroke.modifiers ≠ .none)
    (text : KeyText keystroke.key.toList) : parse keystroke.display = .ok keystroke := by
  have names : keystroke.modifiers.names ≠ [] := mt Modifiers.names_eq_nil_iff.mp held
  have something : keystroke.key.toList ≠ [] := by
    obtain ⟨start, c, parts, -⟩ := text.solid
    simp [parts]
  rw [parse_eq_ok_iff, trim_display names text.solid, toList_display, Text.join_concat names,
    splitKey_append text.dash something, modifierPieces_join names]
  refine ⟨something, readModifiers_names _, ?_⟩
  rw [Text.lower, Text.lowerAfter_of_fixed text.fixed, String.ofList_toList]

/-- A key without modifiers, other than a dash, is read again without the blanks in front. -/
theorem parse_display_of_alone {keystroke : Keystroke} (alone : keystroke.modifiers = .none)
    (noDash : keystroke.key ≠ "-") (text : KeyText keystroke.key.toList) :
    parse keystroke.display =
      .ok ⟨.none, String.ofList (Text.trimStart keystroke.key.toList)⟩ := by
  have shown : keystroke.display.toList = keystroke.key.toList := by
    rw [toList_display, Modifiers.names_eq_nil_iff.mpr alone, List.nil_append]
    simp [Text.join]
  have clean : '-' ∉ keystroke.key.toList :=
    text.dash.resolve_left fun isDash => noDash (String.toList_inj.mp isDash)
  have kept : Text.trimStart keystroke.key.toList <:+ keystroke.key.toList :=
    List.dropWhile_suffix _
  rw [parse_eq_ok_iff, shown, text.solid.trim_eq,
    splitKey_of_notMem fun member => clean (kept.subset member)]
  refine ⟨text.solid.trimStart_ne_nil, rfl, ?_⟩
  rw [Text.lower, Text.lowerAfter_of_fixed fun c member => text.fixed c (kept.subset member)]

/-- A keystroke that was read is read again from its notation exactly when it holds a modifier, or
its key is not a dash and has no blanks in front.  A dash alone is refused, and other keys without
modifiers lose the blanks in front of them. -/
theorem parse_display {source : String} {keystroke : Keystroke}
    (parsed : parse source = .ok keystroke) :
    parse keystroke.display =
        (if keystroke.modifiers ≠ .none then .ok keystroke
        else if keystroke.key = "-" then .error (.noKey "-")
        else .ok ⟨.none, String.ofList (Text.trimStart keystroke.key.toList)⟩) ∧
      (parse keystroke.display = .ok keystroke ↔
        keystroke.modifiers ≠ .none ∨
          keystroke.key ≠ "-" ∧ Text.trimStart keystroke.key.toList = keystroke.key.toList) := by
  have text := keyText_of_parse parsed
  by_cases held : keystroke.modifiers = .none
  · by_cases isDash : keystroke.key = "-"
    · obtain ⟨modifiers, key⟩ := keystroke
      simp only at held isDash
      subst held isDash
      have refused : parse (display ⟨.none, "-"⟩) = .error (.noKey "-") := by decide +kernel
      exact ⟨by simpa using refused, by simp [refused]⟩
    · have reread := parse_display_of_alone held isDash text
      refine ⟨by simpa [held, isDash] using reread, ?_⟩
      obtain ⟨modifiers, key⟩ := keystroke
      simp only at held isDash
      subst held
      rw [reread]
      simp [isDash, String.ext_iff]
  · have reread := parse_display_of_held held text
    exact ⟨by simpa [held] using reread, by simp [held, reread]⟩

/-- The dash with two modifiers, named in another order and case, is read again. -/
theorem parse_display_dash :
    parse " Shift-OPT--" = .ok ⟨⟨false, true, true, false⟩, "-"⟩ ∧
      parse "alt-shift--" = .ok ⟨⟨false, true, true, false⟩, "-"⟩ :=
  have parsed : parse " Shift-OPT--" = .ok ⟨⟨false, true, true, false⟩, "-"⟩ := by decide +kernel
  ⟨parsed, (parse_display parsed).2.mpr (.inl (by decide))⟩

/-- The dash without modifiers is named by two dashes, and refused when it is written as one. -/
theorem parse_display_dash_alone :
    parse "--" = .ok ⟨.none, "-"⟩ ∧ display ⟨.none, "-"⟩ = "-" ∧
      parse "-" = .error (.noKey "-") := by
  decide +kernel

end Keystroke

end QueryNotebook
