import QueryNotebook.Proofs.Json.Members
import QueryNotebook.Proofs.Settings.Relining

/-!
# The values of settings

The texts that stand for the value of a setting, and how they are read: a count in its digits, a truth
value, a text in quotes however its characters are spelled, null where there may be none, and a
modifier style by its name or as the only member of an object.  A value that is read is read from end
to end, so what follows it does not depend on which setting it belongs to.
-/

namespace QueryNotebook.Settings

open Json (Blanks EndsNumber QuotedAs Derives)

/-! ## One field -/

/-- The settings with one field taken over from others. -/
def takeOver (source settings : Settings) : Field → Settings
  | .recentCapacity => { settings with recentCapacity := source.recentCapacity }
  | .completionEnabled => { settings with completionEnabled := source.completionEnabled }
  | .paletteMaxResults => { settings with paletteMaxResults := source.paletteMaxResults }
  | .defaultServer => { settings with defaultServer := source.defaultServer }
  | .snippetsFile => { settings with snippetsFile := source.snippetsFile }
  | .modifierStyle => { settings with modifierStyle := source.modifierStyle }

@[simp] theorem fieldDatum_takeOver_self (source settings : Settings) (field : Field) :
    (takeOver source settings field).fieldDatum field = source.fieldDatum field := by
  cases field <;> rfl

@[simp] theorem fieldDatum_takeOver_of_ne (source settings : Settings) {field other : Field}
    (different : other ≠ field) :
    (takeOver source settings field).fieldDatum other = settings.fieldDatum other := by
  cases field <;> cases other <;> first | rfl | exact absurd rfl different

theorem ofNat_inj {value other : Nat} : Datum.ofNat value = Datum.ofNat other ↔ value = other := by
  rw [Datum.ofNat, Datum.ofNat, Datum.integer.injEq, Int.ofNat_inj]

theorem ofText?_inj {value? other? : Option String} :
    Datum.ofText? value? = Datum.ofText? other? ↔ value? = other? := by
  cases value? <;> cases other? <;> simp [Datum.ofText?]

theorem modifierStyle_name_inj {style other : ModifierStyle} :
    style.name = other.name ↔ style = other := by
  cases style <;> cases other <;> decide

/-- Settings that are alike in every field are equal. -/
theorem eq_of_fieldDatum {settings other : Settings}
    (alike : ∀ field, settings.fieldDatum field = other.fieldDatum field) : settings = other := by
  obtain ⟨capacity, enabled, results, server, file, style⟩ := settings
  obtain ⟨capacity', enabled', results', server', file', style'⟩ := other
  have path : Function.Injective (Option.map Path.text) :=
    Option.map_injective fun ⟨_⟩ ⟨_⟩ same => congrArg Path.mk same
  obtain rfl := ofNat_inj.mp (alike .recentCapacity)
  obtain rfl : enabled = enabled' := by simpa [fieldDatum] using alike .completionEnabled
  obtain rfl := ofNat_inj.mp (alike .paletteMaxResults)
  obtain rfl := ofText?_inj.mp (alike .defaultServer)
  obtain rfl := path (ofText?_inj.mp (alike .snippetsFile))
  obtain rfl : style = style' :=
    modifierStyle_name_inj.mp (by simpa [fieldDatum] using alike .modifierStyle)
  rfl

/-! ## Written values -/

/-- The digits of a count of at most 64 bits. -/
def WrittenCount (value : Nat) (text : List Char) : Prop :=
  value < Nat.pow 2 64 ∧ text = Nat.toDigits 10 value

/-- A text in quotes, or null in its absence. -/
def WrittenText? (value? : Option String) (text : List Char) : Prop :=
  match value? with
  | none => text = "null".toList
  | some value => QuotedAs value text

/-- A modifier style: its name, or an object whose only member has that name and is null. -/
inductive WrittenStyle (style : ModifierStyle) : List Char → Prop where
  | name {text : List Char} (spelled : QuotedAs style.name text) : WrittenStyle style text
  | onlyMember {before name between lead after : List Char} (blank : Blanks before)
      (spelled : QuotedAs style.name name) (blankBetween : Blanks between) (blankLead : Blanks lead)
      (blankAfter : Blanks after) :
      WrittenStyle style ('\x7b' :: (before ++ (name ++ (between ++ ':' :: (lead ++
        ("null".toList ++ (after ++ ['\x7d'])))))))

/-- The text stands for the value that the settings have in the field. -/
def Written (settings : Settings) (text : List Char) : Field → Prop
  | .recentCapacity => WrittenCount settings.recentCapacity text
  | .completionEnabled => text = (if settings.completionEnabled then "true" else "false").toList
  | .paletteMaxResults => WrittenCount settings.paletteMaxResults text
  | .defaultServer => WrittenText? settings.defaultServer text
  | .snippetsFile => WrittenText? (settings.snippetsFile.map Path.text) text
  | .modifierStyle => WrittenStyle settings.modifierStyle text

/-- Only the value counts of the settings. -/
theorem Written.congr {settings other : Settings} {text : List Char} {field : Field}
    (written : settings.Written text field)
    (alike : other.fieldDatum field = settings.fieldDatum field) : other.Written text field := by
  cases field with
  | recentCapacity =>
      rw [Written, ofNat_inj.mp alike]
      exact written
  | completionEnabled =>
      have same : other.completionEnabled = settings.completionEnabled := by
        simpa [fieldDatum] using alike
      rw [Written, same]
      exact written
  | paletteMaxResults =>
      rw [Written, ofNat_inj.mp alike]
      exact written
  | defaultServer =>
      rw [Written, ofText?_inj.mp alike]
      exact written
  | snippetsFile =>
      rw [Written, ofText?_inj.mp alike]
      exact written
  | modifierStyle =>
      have same : other.modifierStyle.name = settings.modifierStyle.name := by
        simpa [fieldDatum] using alike
      rw [Written, modifierStyle_name_inj.mp same]
      exact written

/-! ## Written values are read -/

theorem WrittenCount.readCount {value : Nat} {text rest : List Char}
    (written : WrittenCount value text) (ends : EndsNumber rest) :
    Json.readCount (text ++ rest) = .ok (value, rest) := by
  obtain ⟨bounded, rfl⟩ := written
  rw [← Json.scalarText_ofNat]
  exact ends.readCount bounded

theorem WrittenText?.readText? {value? : Option String} {text : List Char}
    (written : WrittenText? value? text) (expected : Expectation) (rest : List Char) :
    Json.readText? expected (text ++ rest) = .ok (value?, rest) := by
  cases value? with
  | none =>
      obtain rfl := written
      rfl
  | some value =>
      obtain ⟨body, there, scanned⟩ := Json.QuotedAs.exists_scan written rest
      apply Json.readText?_of_readText
      rw [there, Json.readText, Json.skipSpace_cons rfl]
      simp [scanned, Except.map]

/-- The name of a style is read as the style. -/
theorem readStyleName_of_scanString {style : ModifierStyle} {text rest : List Char}
    (scanned : Json.scanString text = .ok (style.name.toList, rest)) :
    readStyleName text = .ok (style, rest) := by
  have known : ModifierStyle.ofName? style.name = some style := by cases style <;> decide
  simp [readStyleName, scanned, known]

theorem WrittenStyle.readStyle {style : ModifierStyle} {text : List Char}
    (written : WrittenStyle style text) (rest : List Char) :
    Settings.readStyle (text ++ rest) = .ok (style, rest) := by
  cases written with
  | name spelled =>
      obtain ⟨body, there, scanned⟩ := spelled.exists_scan rest
      rw [there, Settings.readStyle, Json.skipSpace_cons rfl]
      exact readStyleName_of_scanString scanned
  | @onlyMember before name between lead after blank spelled blankBetween blankLead blankAfter =>
      obtain ⟨body, there, scanned⟩ := spelled.exists_scan (between ++ ':' :: (lead ++
        ("null".toList ++ (after ++ '\x7d' :: rest))))
      have null : Json.readNull (lead ++ ("null".toList ++ (after ++ '\x7d' :: rest))) =
          .ok ((), after ++ '\x7d' :: rest) := by
        rw [Json.readNull, Json.skipSpace_append blankLead]
        rfl
      have brace : Json.skipSpace (after ++ '\x7d' :: rest) = '\x7d' :: rest := by
        rw [Json.skipSpace_append blankAfter, Json.skipSpace_cons rfl]
      simp only [List.cons_append, List.append_assoc, List.nil_append]
      rw [Settings.readStyle, Json.skipSpace_cons rfl]
      simp only [Json.skipSpace_append blank, there, Json.skipSpace_cons (rfl : Json.isSpace '\x22' = false),
        readStyleName_of_scanString scanned, Json.afterColon_blanks blankBetween, null, brace, bind,
        Except.bind]

/-- A field is read behind any blanks. -/
theorem readField_blanks {blanks : List Char} (blank : Blanks blanks) (settings : Settings)
    (field : Field) (text : List Char) :
    readField settings (blanks ++ text) field = readField settings text field := by
  rw [← readField_skipSpace, Json.skipSpace_append blank, readField_skipSpace]

/-- The written value of a field is read as the value, where a number can end. -/
theorem Written.readField {source : Settings} {text : List Char} {field : Field}
    (written : source.Written text field) (settings : Settings) {lead rest : List Char}
    (blank : Blanks lead) (ends : EndsNumber rest) :
    Settings.readField settings (lead ++ (text ++ rest)) field =
      .ok (takeOver source settings field, rest) := by
  rw [readField_blanks blank]
  cases field with
  | recentCapacity =>
      rw [Settings.readField, WrittenCount.readCount written ends]
      rfl
  | completionEnabled =>
      obtain rfl := written
      rw [Settings.readField, takeOver]
      cases source.completionEnabled <;> rfl
  | paletteMaxResults =>
      rw [Settings.readField, WrittenCount.readCount written ends]
      rfl
  | defaultServer =>
      rw [Settings.readField, WrittenText?.readText? written]
      rfl
  | snippetsFile =>
      rw [Settings.readField, WrittenText?.readText? written]
      simp [Except.map, takeOver, Function.comp_def]
  | modifierStyle =>
      rw [Settings.readField, WrittenStyle.readStyle written]
      rfl

/-- A member of another name leaves everything as it was, whatever its value is. -/
theorem readMember_of_ofKey?_none {name : String} (unknown : Field.ofKey? name = none)
    {value : List Char} (derived : Derives .value value) (progress : Progress)
    {between lead rest : List Char} (blankBetween : Blanks between) (blankLead : Blanks lead)
    (ends : EndsNumber rest) :
    readMember progress name (between ++ ':' :: (lead ++ (value ++ rest))) = .ok (progress, rest) := by
  simp only [readMember, unknown, Json.afterColon_blanks blankBetween, bind, Except.bind,
    derived.skipAny_append blankLead ends]

/-- The member of a field that is not marked sets the field and marks it. -/
theorem Written.readMember {source : Settings} {name : String} {field : Field} {value : List Char}
    (written : source.Written value field) (known : Field.ofKey? name = some field)
    {progress : Progress} (fresh : field ∉ progress.2) {between lead rest : List Char}
    (blankBetween : Blanks between) (blankLead : Blanks lead) (ends : EndsNumber rest) :
    Settings.readMember progress name (between ++ ':' :: (lead ++ (value ++ rest))) =
      .ok ((takeOver source progress.1 field, field :: progress.2), rest) := by
  simp only [Settings.readMember, known, fresh, if_false, Json.afterColon_blanks blankBetween, bind,
    Except.bind, written.readField progress.1 blankLead ends]

/-- A text stands for one value at most. -/
theorem Written.unique {settings other : Settings} {text : List Char} {field : Field}
    (written : settings.Written text field) (again : other.Written text field) :
    settings.fieldDatum field = other.fieldDatum field := by
  have blank : Blanks [] := by simp [Blanks]
  have ends : EndsNumber [] := by simp [EndsNumber]
  have read := written.readField default blank ends
  rw [again.readField default blank ends] at read
  have same := congrArg (fieldDatum · field) (Prod.mk.inj (Except.ok.inj read)).1
  simpa using same.symm

/-! ## Values that are read are skipped -/

theorem scanString_of_readStyleName {style : ModifierStyle} {text rest : List Char}
    (read : readStyleName text = .ok (style, rest)) :
    ∃ name, Json.scanString text = .ok (name, rest) := by
  rw [readStyleName] at read
  split at read
  · contradiction
  · next name after scanned =>
    dsimp only at read
    split at read
    · obtain ⟨-, rfl⟩ := Prod.mk.inj (Except.ok.inj read)
      exact ⟨name, scanned⟩
    · contradiction

/-- The only member of an object is skipped up to the closing brace. -/
theorem skipMembers_of_readOnlyMember {style : ModifierStyle} {text name rest : List Char}
    (quote : Json.skipSpace text = '\x22' :: name)
    (read : readOnlyMember name = .ok (style, rest)) (fuel : Nat) :
    Json.skipMembers (fuel + 2) text = .ok rest := by
  obtain ⟨⟨found, afterName⟩, named, read⟩ := Json.bind_eq_ok_iff.mp read
  obtain ⟨value, colon, read⟩ := Json.bind_eq_ok_iff.mp read
  obtain ⟨⟨⟨⟩, afterNull⟩, null, close⟩ := Json.bind_eq_ok_iff.mp read
  obtain ⟨spelled, scanned⟩ := scanString_of_readStyleName named
  rw [Json.skipMembers, quote]
  simp only [Json.skipString_of_scanString scanned]
  simp only [Json.skipSpace_of_afterColon colon, Json.skipValue_of_readNull null]
  have close : endStyle found afterNull = .ok (style, rest) := close
  rw [endStyle] at close
  split at close
  · next brace =>
    obtain ⟨-, rfl⟩ := Prod.mk.inj (Except.ok.inj close)
    simp only [brace]
  · contradiction

theorem skipAny_of_readStyle {style : ModifierStyle} {text rest : List Char}
    (read : readStyle text = .ok (style, rest)) : Json.skipAny text = .ok rest := by
  rw [readStyle] at read
  split at read
  · contradiction
  · next there =>
    obtain ⟨name, scanned⟩ := scanString_of_readStyleName read
    simp only [Json.skipAny, Json.skipValue, there, Json.skipString_of_scanString scanned]
  · next inner there =>
    split at read
    · next name quote =>
      have some : text ≠ [] := by
        rintro rfl
        contradiction
      obtain ⟨fuel, enough⟩ : ∃ fuel, 2 * text.length + 1 = fuel + 2 :=
        ⟨2 * text.length - 1, by have := List.length_pos_of_ne_nil some; omega⟩
      have skipped := skipMembers_of_readOnlyMember quote read fuel
      rw [Json.skipAny, Json.skipValue_object there, enough]
      exact Json.orClose_of_ok (Json.skipMembers_skipSpace _ _)
        (fun close => Json.skipMembers_of_close close _) skipped
    · contradiction
  · contradiction

/-- A field that is read is skipped. -/
theorem skipAny_of_readField {settings next : Settings} {field : Field} {text rest : List Char}
    (read : readField settings text field = .ok (next, rest)) : Json.skipAny text = .ok rest := by
  cases field with
  | recentCapacity =>
      rw [readField] at read
      obtain ⟨value, count, -⟩ := Json.changed_eq_ok_iff.mp read
      exact Json.skipAny_of_readCount count
  | completionEnabled =>
      rw [readField] at read
      obtain ⟨value, boolean, -⟩ := Json.changed_eq_ok_iff.mp read
      exact Json.skipAny_of_readBoolean boolean
  | paletteMaxResults =>
      rw [readField] at read
      obtain ⟨value, count, -⟩ := Json.changed_eq_ok_iff.mp read
      exact Json.skipAny_of_readCount count
  | defaultServer =>
      rw [readField] at read
      obtain ⟨value?, server, -⟩ := Json.changed_eq_ok_iff.mp read
      exact Json.skipAny_of_readText? server
  | snippetsFile =>
      rw [readField] at read
      obtain ⟨value?, file, -⟩ := Json.changed_eq_ok_iff.mp read
      exact Json.skipAny_of_readText? file
  | modifierStyle =>
      rw [readField] at read
      obtain ⟨style, named, -⟩ := Json.changed_eq_ok_iff.mp read
      exact skipAny_of_readStyle named

end QueryNotebook.Settings
