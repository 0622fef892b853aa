import QueryNotebook.Proofs.Json.Relining.Data
import QueryNotebook.Settings

/-!
# Settings in other lines

Settings are read from a text in other lines as they are read from the text itself: every field, a
member of any other name, and the whole document, be it an object or an array.
-/

namespace QueryNotebook.Settings

open Json (Relines Skips Relined)

variable {left right : List Char}

/-! ## Fields -/

theorem relines_readStyleName : Relines readStyleName := by
  intro left right value rest lined ok
  rw [readStyleName] at ok
  split at ok
  · contradiction
  · next scanned =>
    obtain ⟨other, scannedRight, later, bound⟩ := Json.relines_scanString lined scanned
    dsimp only at ok
    split at ok
    · next style known =>
      obtain ⟨rfl, rfl⟩ := Prod.mk.inj (Except.ok.inj ok)
      exact ⟨other, by simp only [readStyleName, scannedRight, known], later, bound⟩
    · contradiction

/-- The closing brace behind a style. -/
def endStyle (style : ModifierStyle) (text : List Char) :
    Except Json.Fault (ModifierStyle × List Char) :=
  match Json.skipSpace text with
  | '\x7d' :: last => .ok (style, last)
  | other => .error (Json.faultAt other)

theorem relines_endStyle (style : ModifierStyle) : Relines (endStyle style) := by
  intro left right value rest lined ok
  rw [endStyle] at ok
  split at ok
  · next close =>
    obtain ⟨other, closeRight, later, shorter⟩ := lined.skipSpace_eq_cons close (by decide)
    obtain ⟨rfl, rfl⟩ := Prod.mk.inj (Except.ok.inj ok)
    exact ⟨other, by simp only [endStyle, closeRight], later, Nat.le_of_lt shorter⟩
  · contradiction

/-- The name of a style with null behind it, up to the closing brace. -/
def readOnlyMember (name : List Char) : Except Json.Fault (ModifierStyle × List Char) := do
  let (style, afterName) ← readStyleName name
  let afterColon ← Json.afterColon afterName
  let ((), afterNull) ← Json.readNull afterColon
  endStyle style afterNull

theorem relines_readOnlyMember : Relines readOnlyMember :=
  relines_readStyleName.bind fun style =>
    Json.skips_afterColon.bind (Json.relines_readNull.bind fun _ => relines_endStyle style)

theorem relines_readStyle : Relines readStyle := by
  intro left right value rest lined ok
  rw [readStyle] at ok
  split at ok
  · contradiction
  · next there =>
    obtain ⟨after, other, thereRight, read, later, shorter⟩ :=
      relines_readStyleName.behind lined there (by decide) ok
    exact ⟨other, by simp only [readStyle, thereRight, read], later, Nat.le_of_lt shorter⟩
  · next there =>
    obtain ⟨after, thereRight, lined, shorter⟩ := lined.skipSpace_eq_cons there (by decide)
    split at ok
    · next quote =>
      obtain ⟨name, other, quoteRight, read, later, nearer⟩ :=
        relines_readOnlyMember.behind lined quote (by decide) ok
      refine ⟨other, ?_, later, by omega⟩
      simp only [readStyle, thereRight, quoteRight]
      exact read
    · contradiction
  · contradiction

theorem relines_readField (settings : Settings) (field : Field) :
    Relines fun text => readField settings text field := by
  cases field with
  | recentCapacity =>
      exact Json.relines_readCount.map fun value => { settings with recentCapacity := value }
  | completionEnabled =>
      exact Json.relines_readBoolean.map fun value => { settings with completionEnabled := value }
  | paletteMaxResults =>
      exact Json.relines_readCount.map fun value => { settings with paletteMaxResults := value }
  | defaultServer =>
      exact (Json.relines_readText? .text).map fun value =>
        { settings with defaultServer := value }
  | snippetsFile =>
      exact (Json.relines_readText? .path).map fun value =>
        { settings with snippetsFile := value.map Path.mk }
  | modifierStyle =>
      exact relines_readStyle.map fun value => { settings with modifierStyle := value }

/-- A field is read behind its blanks. -/
theorem readField_skipSpace (settings : Settings) (field : Field) (text : List Char) :
    readField settings (Json.skipSpace text) field = readField settings text field := by
  cases field <;>
    simp only [readField, Json.readCount, Json.readBoolean, Json.readText?, Json.readText, readStyle,
      Json.skipSpace_skipSpace]

/-- No field begins where an array ends. -/
theorem opens_of_readField {settings next : Settings} {field : Field} {text rest : List Char}
    (ok : readField settings text field = .ok (next, rest)) : Json.Opens text := by
  rw [← readField_skipSpace] at ok
  constructor
  · intro empty
    rw [empty] at ok
    cases field <;> contradiction
  · intro rest close
    rw [close] at ok
    cases field <;> contradiction

/-! ## Documents -/

theorem relines_readMember (progress : Progress) (name : String) :
    Relines (readMember progress name) := by
  unfold readMember
  cases Field.ofKey? name with
  | none => exact Json.skips_afterColon.bind (Json.skips_skipAny.map progress)
  | some field =>
      dsimp only
      split
      · intro left right value rest lined ok
        contradiction
      · exact Json.skips_afterColon.bind ((relines_readField progress.1 field).map
          fun settings => (settings, field :: progress.2))

theorem relines_readElements (fields : List Field) (first : Bool) (settings : Settings) :
    Relines (readElements fields first settings) := by
  induction fields generalizing first settings with
  | nil => exact Json.skips_endArray.map settings
  | cons field fields inductionHypothesis =>
      intro left right value rest lined ok
      rw [readElements] at ok
      split at ok
      · contradiction
      · next ended =>
        obtain ⟨other, read, later, bound⟩ := inductionHypothesis first settings lined ok
        exact ⟨other, by simp only [readElements, lined.nextElement?_none ended, read], later, bound⟩
      · next element next =>
        split at ok
        · contradiction
        · next updated after read =>
          obtain ⟨elementRight, between, nextRight, readRight, lined, within⟩ :=
            lined.nextElement?_some (relines_readField settings field)
              (readField_skipSpace settings field) (fun _ _ _ => opens_of_readField) next read
          obtain ⟨other, last, later, bound⟩ := inductionHypothesis false updated lined ok
          refine ⟨other, ?_, later, Nat.le_trans bound within⟩
          simp only [readElements, nextRight, readRight, last]

theorem relines_readValue : Relines readValue := by
  intro left right value rest lined ok
  rw [readValue] at ok
  split at ok
  · contradiction
  · next there =>
    have members := Json.relines_readMembers relines_readMember (default, [])
    obtain ⟨after, other, thereRight, read, later, shorter⟩ :=
      (members.map Prod.fst).behind lined there (by decide) ok
    exact ⟨other, by simp only [readValue, thereRight, read], later, Nat.le_of_lt shorter⟩
  · next there =>
    have elements := relines_readElements Field.all true default
    obtain ⟨after, other, thereRight, read, later, shorter⟩ :=
      elements.behind lined there (by decide) ok
    exact ⟨other, by simp only [readValue, thereRight, read], later, Nat.le_of_lt shorter⟩
  · contradiction

/-- The settings of a document are those of the document in other lines. -/
theorem readDocument_relined {settings : Settings} (lined : Relined left right)
    (ok : readDocument left = .ok settings) : readDocument right = .ok settings := by
  obtain ⟨⟨found, rest⟩, read, ok⟩ := Json.bind_eq_ok_iff.mp ok
  obtain ⟨⟨⟩, ends, same⟩ := Json.bind_eq_ok_iff.mp ok
  obtain ⟨other, readRight, later, -⟩ := relines_readValue lined read
  exact Json.bind_eq_ok_iff.mpr
    ⟨_, readRight, Json.bind_eq_ok_iff.mpr ⟨(), later.endDocument ends, same⟩⟩

end QueryNotebook.Settings
