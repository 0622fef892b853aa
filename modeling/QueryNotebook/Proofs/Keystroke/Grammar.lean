import QueryNotebook.Proofs.Keystroke
import QueryNotebook.Proofs.Text.Names

/-!
# The notation of keystrokes

The grammar of the notation, and that reading follows it.  A dash separates, is a key and may stand
around without meaning, so the grammar says first how a text comes apart: a dash behind a dash at the
end of the text is the key, and otherwise the key is what follows the last dash.  Before the key stand
names of modifiers.  Only which modifiers are named matters, and a piece that names none spoils it.
-/

namespace QueryNotebook

namespace Modifier

/-- The names of a modifier, in small letters. -/
def aliases : Modifier → List String
  | .control => ["ctrl", "control"]
  | .alternate => ["alt", "option", "opt"]
  | .shift => ["shift"]
  | .platform => ["cmd", "super", "win", "platform", "meta"]

/-- The vocabulary of modifiers. -/
def nameTable : NameTable Modifier where
  names := aliases
  small modifier := by cases modifier <;> decide

/-- A piece of text is a name of the modifier, in ASCII letters of any case. -/
abbrev NamedBy (modifier : Modifier) (piece : List Char) : Prop :=
  nameTable.Calls modifier piece

/-- A modifier is found by its names and by nothing else. -/
theorem ofAlias?_eq_some_iff {name : String} {modifier : Modifier} :
    ofAlias? name = some modifier ↔ name ∈ modifier.aliases := by
  constructor
  · intro found
    unfold ofAlias? at found
    split_ifs at found with named named named named
    all_goals
      obtain rfl := Option.some.inj found
      simpa [aliases] using named
  · intro member
    have all : ∀ modifier : Modifier, ∀ name ∈ modifier.aliases, ofAlias? name = some modifier := by
      intro modifier
      cases modifier <;> decide
    exact all modifier name member

/-- A piece is read, in small letters, as the modifier that it names. -/
theorem readBy_ofAlias? :
    nameTable.ReadBy fun piece => ofAlias? (String.ofList (Text.asciiLower piece)) := by
  intro piece modifier
  have calls : modifier.NamedBy piece ↔
      String.ofList (Text.asciiLower piece) ∈ modifier.aliases := NameTable.calls_iff
  exact ofAlias?_eq_some_iff.trans calls.symm

/-- The empty piece names no modifier. -/
theorem not_namedBy_nil (modifier : Modifier) : ¬ modifier.NamedBy [] := by
  cases modifier <;> decide

end Modifier

/-- Modifiers are told apart by what they hold. -/
theorem Modifiers.eq_of_holds {modifiers others : Modifiers}
    (same : ∀ modifier, modifiers.holds modifier = others.holds modifier) : modifiers = others := by
  obtain ⟨control, alternate, shift, platform⟩ := modifiers
  obtain ⟨control', alternate', shift', platform'⟩ := others
  simp only [Modifiers.mk.injEq]
  exact ⟨same .control, same .alternate, same .shift, same .platform⟩

namespace Keystroke

/-! ## The grammar -/

/-- A text comes apart into the part that names modifiers and the key. -/
inductive Parts : List Char → List Char → List Char → Prop where
  /-- A dash behind a dash at the end is the key. -/
  | dash (modifiers : List Char) : Parts (modifiers ++ ['-', '-']) modifiers ['-']
  /-- Otherwise the key follows the last dash. -/
  | key (modifiers : List Char) {key : List Char} (noDash : '-' ∉ key) (nonempty : key ≠ []) :
      Parts (modifiers ++ '-' :: key) modifiers key
  /-- Without a dash there is nothing but the key. -/
  | alone {key : List Char} (noDash : '-' ∉ key) (nonempty : key ≠ []) : Parts key [] key

/-- Every piece between dashes names a modifier, the empty pieces aside. -/
def WellNamed (modifiers : List Char) : Prop :=
  ∀ piece ∈ modifiers.splitOn '-', piece ≠ [] → ∃ modifier : Modifier, modifier.NamedBy piece

/-- A piece between dashes names the modifier. -/
def Names (modifiers : List Char) (modifier : Modifier) : Prop :=
  ∃ piece ∈ modifiers.splitOn '-', modifier.NamedBy piece

/-- The notation of a keystroke: its modifiers are those that the first part names, its key is the
second part in lower case. -/
def Denotes (text : List Char) (keystroke : Keystroke) : Prop :=
  ∃ modifiers key, Parts text modifiers key ∧ WellNamed modifiers ∧
    (∀ modifier, keystroke.modifiers.holds modifier = true ↔ Names modifiers modifier) ∧
      keystroke.key = String.ofList (Text.lower key)

/-! ## Taking a text apart -/

/-- A text is taken apart as the grammar has it, unless no key is left. -/
theorem parts_iff {text modifiers key : List Char} :
    Parts text modifiers key ↔ splitKey text = (modifiers, key) ∧ key ≠ [] := by
  constructor
  · intro parts
    cases parts with
    | dash => exact ⟨splitKey_append (.inl rfl) (by simp) modifiers, by simp⟩
    | key _ noDash nonempty => exact ⟨splitKey_append (.inr noDash) nonempty modifiers, nonempty⟩
    | alone noDash nonempty => exact ⟨splitKey_of_notMem noDash, nonempty⟩
  · rintro ⟨split, nonempty⟩
    unfold splitKey at split
    split at split
    · next rest ends =>
      obtain ⟨rfl, rfl⟩ := Prod.mk.inj split
      exact Text.dropEnd?_eq_some_iff.mp ends ▸ .dash rest
    · split at split
      · next found =>
        subst split
        obtain ⟨whole, noDash⟩ := Text.splitLast?_eq_some found
        exact whole ▸ .key modifiers noDash nonempty
      · next none =>
        obtain ⟨rfl, rfl⟩ := Prod.mk.inj split
        exact .alone (Text.splitLast?_eq_none_iff.mp none) nonempty

/-- A text comes apart in one way. -/
theorem Parts.unique {text modifiers key others other : List Char}
    (parts : Parts text modifiers key) (again : Parts text others other) :
    modifiers = others ∧ key = other := by
  rw [parts_iff] at parts again
  exact Prod.mk.inj (parts.1.symm.trans again.1)

/-! ## Naming modifiers -/

theorem mem_modifierPieces_iff {modifiers piece : List Char} :
    piece ∈ modifierPieces modifiers ↔ piece ∈ modifiers.splitOn '-' ∧ piece ≠ [] := by
  simp [modifierPieces]

/-- Pieces are read as the modifiers that they name, in addition to those that are known, exactly
when each of them names one. -/
theorem readModifiers_eq_ok_iff {known modifiers : Modifiers} {pieces : List (List Char)} :
    readModifiers known pieces = .ok modifiers ↔
      (∀ piece ∈ pieces, ∃ modifier : Modifier, modifier.NamedBy piece) ∧
        ∀ modifier, modifiers.holds modifier = true ↔
          known.holds modifier = true ∨ ∃ piece ∈ pieces, modifier.NamedBy piece := by
  induction pieces generalizing known with
  | nil =>
      have same : known = modifiers ↔
          ∀ modifier, modifiers.holds modifier = true ↔ known.holds modifier = true :=
        ⟨by rintro rfl; simp, fun same => Modifiers.eq_of_holds fun modifier =>
          Bool.eq_iff_iff.mpr (same modifier).symm⟩
      simpa [readModifiers] using same
  | cons piece rest inductionHypothesis =>
      rw [readModifiers]
      split
      · next added found =>
        have named : added.NamedBy piece := (Modifier.readBy_ofAlias? piece added).mp found
        have only (modifier : Modifier) : modifier.NamedBy piece ↔ modifier = added :=
          ⟨fun again => Modifier.readBy_ofAlias?.unique again named, by rintro rfl; exact named⟩
        rw [inductionHypothesis]
        simp only [List.forall_mem_cons, Modifiers.holds_insert, Bool.or_eq_true,
          decide_eq_true_eq, List.exists_mem_cons_iff, only]
        have some : ∃ modifier, modifier = added := ⟨added, rfl⟩
        simp only [some, true_and]
        refine and_congr_right fun _ => forall_congr' fun modifier => ?_
        rw [or_left_comm, or_assoc]
      · next none =>
        have unnamed : ¬ ∃ modifier : Modifier, modifier.NamedBy piece :=
          not_exists.mpr (Modifier.readBy_ofAlias?.eq_none_iff.mp none)
        simp [unnamed]

/-- What is reported of pieces that are not read is one of them that names no modifier. -/
theorem exists_of_readModifiers_eq_error {known : Modifiers} {pieces : List (List Char)}
    {name : String} (refused : readModifiers known pieces = .error name) :
    ∃ piece ∈ pieces, (∀ modifier : Modifier, ¬ modifier.NamedBy piece) ∧
      name = String.ofList (Text.asciiLower piece) := by
  induction pieces generalizing known with
  | nil => contradiction
  | cons piece rest inductionHypothesis =>
      rw [readModifiers] at refused
      split at refused
      · obtain ⟨later, member, unnamed⟩ := inductionHypothesis refused
        exact ⟨later, List.mem_cons_of_mem _ member, unnamed⟩
      · next none =>
        exact ⟨piece, List.mem_cons_self .., Modifier.readBy_ofAlias?.eq_none_iff.mp none,
          (Except.error.inj refused).symm⟩

/-- The part that names modifiers is read piece by piece, the empty pieces aside. -/
theorem readModifiers_modifierPieces_eq_ok_iff {part : List Char} {modifiers : Modifiers} :
    readModifiers .none (modifierPieces part) = .ok modifiers ↔
      WellNamed part ∧ ∀ modifier, modifiers.holds modifier = true ↔ Names part modifier := by
  have nothing (modifier : Modifier) : Modifiers.none.holds modifier = false := by
    cases modifier <;> rfl
  have named (modifier : Modifier) :
      (∃ piece ∈ modifierPieces part, modifier.NamedBy piece) ↔ Names part modifier := by
    simp only [mem_modifierPieces_iff]
    constructor
    · rintro ⟨piece, ⟨member, -⟩, named⟩
      exact ⟨piece, member, named⟩
    · rintro ⟨piece, member, named⟩
      refine ⟨piece, ⟨member, ?_⟩, named⟩
      rintro rfl
      exact modifier.not_namedBy_nil named
  have wellNamed : (∀ piece ∈ modifierPieces part, ∃ modifier : Modifier, modifier.NamedBy piece) ↔
      WellNamed part := by
    simp only [mem_modifierPieces_iff, WellNamed, and_imp]
  simp only [readModifiers_eq_ok_iff, nothing, Bool.false_eq_true, false_or, named, wellNamed]

/-! ## Reading a notation -/

/-- Reading follows the grammar. -/
theorem parse_eq_ok_iff_denotes {source : String} {keystroke : Keystroke} :
    parse source = .ok keystroke ↔ Denotes (Text.trim source.toList) keystroke := by
  rw [parse_eq_ok_iff, readModifiers_modifierPieces_eq_ok_iff]
  constructor
  · rintro ⟨nonempty, ⟨wellNamed, held⟩, lowered⟩
    exact ⟨_, _, parts_iff.mpr ⟨rfl, nonempty⟩, wellNamed, held, lowered.symm⟩
  · rintro ⟨modifiers, key, parts, wellNamed, held, lowered⟩
    obtain ⟨split, nonempty⟩ := parts_iff.mp parts
    rw [split]
    exact ⟨nonempty, ⟨wellNamed, held⟩, lowered.symm⟩

/-- Where all pieces name modifiers, these are read. -/
theorem WellNamed.exists_readModifiers {part : List Char} (wellNamed : WellNamed part) :
    ∃ modifiers, readModifiers .none (modifierPieces part) = .ok modifiers := by
  cases read : readModifiers .none (modifierPieces part) with
  | ok modifiers => exact ⟨modifiers, rfl⟩
  | error name =>
      obtain ⟨piece, member, unnamed, -⟩ := exists_of_readModifiers_eq_error read
      obtain ⟨inside, nonempty⟩ := mem_modifierPieces_iff.mp member
      obtain ⟨modifier, named⟩ := wellNamed piece inside nonempty
      exact absurd named (unnamed modifier)

/-- A text that comes apart is refused for a piece that names no modifier. -/
theorem Parts.parse_eq_error {source : String} {modifiers key : List Char}
    (parts : Parts (Text.trim source.toList) modifiers key) (spoiled : ¬ WellNamed modifiers) :
    ∃ piece ∈ modifiers.splitOn '-', piece ≠ [] ∧
      (∀ modifier : Modifier, ¬ modifier.NamedBy piece) ∧
        parse source = .error (.unknownModifier (String.ofList (Text.asciiLower piece))
          (String.ofList (Text.trim source.toList))) := by
  obtain ⟨split, nonempty⟩ := parts_iff.mp parts
  have something : Text.trim source.toList ≠ [] := by
    intro nothing
    rw [nothing] at split
    exact nonempty (Prod.mk.inj split).2.symm
  cases read : readModifiers .none (modifierPieces modifiers) with
  | ok held => exact absurd (readModifiers_modifierPieces_eq_ok_iff.mp read).1 spoiled
  | error name =>
      obtain ⟨piece, member, unnamed, rfl⟩ := exists_of_readModifiers_eq_error read
      obtain ⟨inside, solid⟩ := mem_modifierPieces_iff.mp member
      refine ⟨piece, inside, solid, unnamed, ?_⟩
      simp [parse, something, split, nonempty, read]

/-- Reading follows the grammar of the notation, for every text.  It gives what the trimmed text
denotes, and something exactly when the text comes apart and every piece of its first part names a
modifier; one piece that does not is enough to refuse the text.  Two texts with one key name the same
keystroke if they name the same modifiers, in whatever order, case and spelling and however often,
and with empty pieces or without. -/
theorem parse_follows_rules (source : String) :
    let shown := Text.trim source.toList
    (∀ keystroke, parse source = .ok keystroke ↔ Denotes shown keystroke) ∧
      ((∃ keystroke, parse source = .ok keystroke) ↔
        ∃ modifiers key, Parts shown modifiers key ∧ WellNamed modifiers) ∧
      (∀ modifiers key, Parts shown modifiers key → ¬ WellNamed modifiers →
        ∃ piece ∈ modifiers.splitOn '-', piece ≠ [] ∧
          (∀ modifier : Modifier, ¬ modifier.NamedBy piece) ∧
            parse source = .error (.unknownModifier (String.ofList (Text.asciiLower piece))
              (String.ofList shown))) ∧
      (∀ (other : String) (modifiers others key : List Char), Parts shown modifiers key →
        Parts (Text.trim other.toList) others key → WellNamed modifiers → WellNamed others →
          (∀ modifier, Names modifiers modifier ↔ Names others modifier) →
            parse other = parse source) := by
  intro shown
  -- What is read of a text whose pieces all name modifiers.
  have read {text : String} {modifiers key : List Char} (wellNamed : WellNamed modifiers)
      (parts : Parts (Text.trim text.toList) modifiers key) :
      ∃ keystroke, parse text = .ok keystroke := by
    obtain ⟨held, named⟩ := wellNamed.exists_readModifiers
    obtain ⟨-, holds⟩ := readModifiers_modifierPieces_eq_ok_iff.mp named
    exact ⟨⟨held, String.ofList (Text.lower key)⟩,
      parse_eq_ok_iff_denotes.mpr ⟨modifiers, key, parts, wellNamed, holds, rfl⟩⟩
  refine ⟨fun keystroke => parse_eq_ok_iff_denotes, ?_, ?_, ?_⟩
  · constructor
    · rintro ⟨keystroke, parsed⟩
      obtain ⟨modifiers, key, parts, wellNamed, -⟩ := parse_eq_ok_iff_denotes.mp parsed
      exact ⟨modifiers, key, parts, wellNamed⟩
    · rintro ⟨modifiers, key, parts, wellNamed⟩
      exact read wellNamed parts
  · exact fun modifiers key parts spoiled => parts.parse_eq_error spoiled
  · intro other modifiers others key parts otherParts wellNamed otherWellNamed same
    obtain ⟨keystroke, parsed⟩ := read wellNamed parts
    rw [parsed, parse_eq_ok_iff_denotes]
    obtain ⟨_, _, again, -, held, lowered⟩ := parse_eq_ok_iff_denotes.mp parsed
    obtain ⟨rfl, rfl⟩ := parts.unique again
    exact ⟨others, key, otherParts, otherWellNamed,
      fun modifier => (held modifier).trans (same modifier), lowered⟩

/-- A notation of the dash in which a modifier is named twice, in capital letters and by two names, a
piece is empty and blanks stand in front, names the same keystroke as the shortest one. -/
theorem parse_follows_rules_reordered :
    WellNamed "Shift-CONTROL-ctrl-".toList ∧ WellNamed "ctrl-shift".toList ∧
      parse "ctrl-shift--" = parse " Shift-CONTROL-ctrl---" := by
  have long : readModifiers .none (modifierPieces "Shift-CONTROL-ctrl-".toList) =
      .ok ⟨true, false, true, false⟩ := by decide +kernel
  have short : readModifiers .none (modifierPieces "ctrl-shift".toList) =
      .ok ⟨true, false, true, false⟩ := by decide +kernel
  obtain ⟨longNamed, longNames⟩ := readModifiers_modifierPieces_eq_ok_iff.mp long
  obtain ⟨shortNamed, shortNames⟩ := readModifiers_modifierPieces_eq_ok_iff.mp short
  have longParts : Parts (Text.trim " Shift-CONTROL-ctrl---".toList)
      "Shift-CONTROL-ctrl-".toList ['-'] := parts_iff.mpr (by decide +kernel)
  have shortParts : Parts (Text.trim "ctrl-shift--".toList) "ctrl-shift".toList ['-'] :=
    parts_iff.mpr (by decide +kernel)
  exact ⟨longNamed, shortNamed, (parse_follows_rules " Shift-CONTROL-ctrl---").2.2.2
    "ctrl-shift--" _ _ _ longParts shortParts longNamed shortNamed
    fun modifier => (longNames modifier).symm.trans (shortNames modifier)⟩

end Keystroke

end QueryNotebook
