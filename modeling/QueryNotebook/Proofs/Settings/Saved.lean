import QueryNotebook.ConfigFiles
import QueryNotebook.Proofs.Disk.FileTree
import QueryNotebook.Proofs.Json.Lines
import QueryNotebook.Proofs.Settings.Comments
import QueryNotebook.Proofs.Settings.Fields

/-!
# Settings that are saved

Settings come back from the text that they are saved as, whatever their texts hold.  The text is
printed so that none of its lines can be taken for a comment, so the reader sees the object as it
was printed, and reads every field from it.
-/

namespace QueryNotebook.Settings

/-! ## Reading what was printed -/

/-- Settings that hold no number of more than 64 bits. -/
structure Bounded (settings : Settings) : Prop where
  recentCapacity : settings.recentCapacity < Nat.pow 2 64
  paletteMaxResults : settings.paletteMaxResults < Nat.pow 2 64

/-- A text is printed in quotes that spell it. -/
theorem quotedAs_stringText (value : String) : Json.QuotedAs value (Json.stringText value.toList) := by
  obtain ⟨body, spelled, same⟩ :=
    Json.scanString_eq_ok_iff.mp (Json.scanString_flatMap value.toList [])
  exact ⟨_, List.append_cancel_right same ▸ spelled, rfl⟩

/-- The value of a field is printed as it may be written. -/
theorem written_indented {source : Settings} (bounded : source.Bounded) (level : Nat)
    (field : Field) : source.Written (Json.indented level (source.fieldDatum field)) field := by
  have text? (value? : Option String) :
      WrittenText? value? (Json.indented level (.ofText? value?)) := by
    cases value? with
    | none => rfl
    | some value => exact quotedAs_stringText value
  cases field with
  | recentCapacity => exact ⟨bounded.recentCapacity, Json.scalarText_ofNat _⟩
  | completionEnabled =>
      rw [Written, fieldDatum]
      cases source.completionEnabled <;> rfl
  | paletteMaxResults => exact ⟨bounded.paletteMaxResults, Json.scalarText_ofNat _⟩
  | defaultServer => exact text? _
  | snippetsFile => exact text? _
  | modifierStyle => exact .name (quotedAs_stringText _)

/-- The printed members of some fields are read one after another, each field once. -/
theorem readsMembers_fields {source : Settings} (bounded : source.Bounded) (level : Nat)
    {fields : List Field} (different : fields.Nodup) (progress : Progress)
    (fresh : ∀ field ∈ fields, field ∉ progress.2) :
    Json.ReadsMembers readMember level progress
      (fields.map fun field => (field.key, source.fieldDatum field))
      (fields.foldl (takeOver source) progress.1, fields.reverse ++ progress.2) := by
  -- The reader refuses a field that it has seen, so those to come must stay apart from those read.
  induction fields generalizing progress with
  | nil => exact .nil progress
  | cons field others inductionHypothesis =>
      obtain ⟨absent, different⟩ := List.nodup_cons.mp different
      obtain ⟨new, fresh⟩ := List.forall_mem_cons.mp fresh
      have later := inductionHypothesis different
        (takeOver source progress.1 field, field :: progress.2) (by
          intro other member again
          rcases List.mem_cons.mp again with rfl | before
          · exact absent member
          · exact fresh other member before)
      rw [List.reverse_cons, List.append_assoc]
      exact .cons (fun rest ends => (written_indented bounded level field).readMember
        (Field.ofKey?_key field) new (by decide : Json.Blanks []) (by decide : Json.Blanks [' ']) ends)
        later

/-- The printed object is read as the settings. -/
theorem readDocument_indented {settings : Settings} (bounded : settings.Bounded) :
    readDocument (Json.indented 0 settings.datum) = .ok settings := by
  have different : Field.all.Nodup := by decide
  have reads := readsMembers_fields bounded 1 different (default, []) (by simp)
  obtain ⟨body, printed, read⟩ := Json.readMembers_indented reads []
  rw [List.append_nil] at printed
  rw [datum, printed, readDocument, readValue, Json.skipSpace_cons rfl]
  simp only [read]
  rfl

/-! ## Lines -/

/-- Every field takes one line. -/
theorem takesOneLine_fieldDatum (settings : Settings) (level : Nat) (field : Field) :
    Json.TakesOneLine level (settings.fieldDatum field) := by
  have count (value : Nat) : Json.TakesOneLine level (.ofNat value) := by
    intro c member
    have digit : c ∈ Json.scalarText (.ofNat value) := member
    rw [Json.scalarText_ofNat] at digit
    exact Json.le_of_isDigit (Json.isDigit_of_mem_toDigits digit)
  have text (value : String) : Json.TakesOneLine level (.text value) :=
    fun c => Json.le_of_mem_stringText
  have null : ∀ c ∈ Json.scalarText .null, 32 ≤ c.toNat := by simp [Json.scalarText]
  have boolean (value : Bool) : ∀ c ∈ Json.scalarText (.boolean value), 32 ≤ c.toNat := by
    have yes : ∀ c ∈ ['t', 'r', 'u', 'e'], 32 ≤ c.toNat := by simp
    have no : ∀ c ∈ ['f', 'a', 'l', 's', 'e'], 32 ≤ c.toNat := by simp
    cases value
    · exact no
    · exact yes
  have text? (value? : Option String) : Json.TakesOneLine level (.ofText? value?) := by
    cases value? with
    | none => exact null
    | some value => exact text value
  cases field with
  | recentCapacity => exact count _
  | completionEnabled => exact boolean _
  | paletteMaxResults => exact count _
  | defaultServer => exact text? _
  | snippetsFile => exact text? _
  | modifierStyle => exact text _

/-- No line of the printed settings can be taken for a comment. -/
theorem dropComments_render (settings : Settings) :
    dropComments settings.render.toList = settings.render.toList ∧
      ∀ line ∈ Text.lines settings.render.toList, isComment line = false := by
  apply dropComments_eq_self
  intro piece inside
  rw [render, Json.indentedString, String.toList_ofList, datum] at inside
  have printed : Json.PrintedLine piece := by
    refine Json.printedLine_of_mem ?_ inside
    intro member listed
    obtain ⟨field, -, rfl⟩ := List.mem_map.mp listed
    exact settings.takesOneLine_fieldDatum 1 field
  obtain ⟨indentation, c, rest, parts, first⟩ := printed.begins
  refine ⟨printed.notMem_return, ⟨_, c, rest, parts, ?_, ?_, ?_⟩⟩
  · rw [Text.allBlank_eq_true_iff]
    intro blank member
    rw [(List.mem_replicate.mp member).2]
    decide
  · rcases first with rfl | rfl | rfl <;> decide
  · rcases first with rfl | rfl | rfl <;> decide

/-- The printed text is parsed to the settings. -/
theorem parse_render {settings : Settings} (bounded : settings.Bounded) :
    parse settings.render = .ok settings := by
  rw [parse, settings.dropComments_render.1, render, Json.indentedString, String.toList_ofList]
  exact readDocument_indented bounded

/-- Settings are read from the file that they were written to. -/
theorem result_read {settings : Settings} (bounded : settings.Bounded) {path : Path}
    {tree : FileTree} (held : tree.readText path = .ok settings.render) :
    ((read path).runOn tree).result = .ok settings := by
  have contents : ((readConfig path).runOn tree).result = .ok settings.render := by
    rw [readConfig, Disk.result_runOn_bind, Disk.runOn_read, held]
    rfl
  rw [read, Disk.result_runOn_bind, contents]
  dsimp only
  rw [parse_render bounded]
  rfl

/-- Settings survive being saved.  The text that they are saved as is parsed to the settings.  None
of its lines can be taken for a comment, so the parser sees it as it is, whatever the texts in it
hold.  Wherever the settings can be written, they are read again. -/
theorem saved_settings_return {settings : Settings} (bounded : settings.Bounded) :
    parse settings.render = .ok settings ∧
      (∀ line ∈ Text.lines settings.render.toList, isComment line = false) ∧
      dropComments settings.render.toList = settings.render.toList ∧
      ∀ path tree, ((settings.writeTo path).runOn tree).result = .ok () →
        let saved := ((settings.writeTo path).runOn tree).tree
        saved.readText path = .ok settings.render ∧
          ((read path).runOn saved).result = .ok settings := by
  obtain ⟨whole, lines⟩ := settings.dropComments_render
  refine ⟨parse_render bounded, lines, whole, ?_⟩
  intro path tree written saved
  have held : saved.readText path = .ok settings.render := Disk.readText_of_writeInFolder written
  exact ⟨held, result_read bounded held⟩

/-- The largest counts and texts that look like comments and line breaks survive too. -/
theorem saved_settings_return_hard :
    let settings : Settings :=
      { recentCapacity := Nat.pow 2 64 - 1
        completionEnabled := false
        paletteMaxResults := 0
        defaultServer := some "// \"a\\\n// b\r\n\x01\x7f"
        snippetsFile := some ⟨"\n//"⟩
        modifierStyle := .control }
    parse settings.render = .ok settings ∧
      dropComments settings.render.toList = settings.render.toList ∧
      ((read ⟨"a"⟩).runOn ((settings.writeTo ⟨"a"⟩).runOn ⟨[], []⟩).tree).result = .ok settings := by
  intro settings
  have bounded : settings.Bounded := ⟨by decide, by decide⟩
  obtain ⟨parsed, -, whole, reads⟩ := saved_settings_return bounded
  have writable : Disk.Writable ⟨[], []⟩ ⟨"a"⟩ := ⟨"", rfl⟩
  have written : ((settings.writeTo ⟨"a"⟩).runOn ⟨[], []⟩).result = .ok () :=
    writable.result_writeInFolder _
  exact ⟨parsed, whole, (reads ⟨"a"⟩ ⟨[], []⟩ written).2⟩

end QueryNotebook.Settings
