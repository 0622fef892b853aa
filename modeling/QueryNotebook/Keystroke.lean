import QueryNotebook.Text.Case
import QueryNotebook.Text.Split
import QueryNotebook.Text.Quoted

/-!
# Keystrokes

A key pressed with a set of modifiers, and its notation: modifier names and the key, separated by
dashes, as in `ctrl-shift-p`.  The dash is also a key; it is written `-` in the last place, so a
notation that ends in two dashes names that key.
-/

namespace QueryNotebook

/-- A key that is held while another one is pressed. -/
inductive Modifier where
  | control
  | alternate
  | shift
  | platform
deriving DecidableEq, Repr

/-- The modifier of the given name, in small letters. -/
def Modifier.ofAlias? (name : String) : Option Modifier :=
  if name = "ctrl" ∨ name = "control" then some .control
  else if name = "alt" ∨ name = "option" ∨ name = "opt" then some .alternate
  else if name = "shift" then some .shift
  else if name = "cmd" ∨ name = "super" ∨ name = "win" ∨ name = "platform" ∨ name = "meta" then
    some .platform
  else none

/-- The modifiers that are held. -/
structure Modifiers where
  control : Bool
  alternate : Bool
  shift : Bool
  platform : Bool
deriving DecidableEq, Repr

namespace Modifiers

/-- No modifier at all. -/
def none : Modifiers := ⟨false, false, false, false⟩

/-- No modifier is held. -/
def isEmpty (modifiers : Modifiers) : Bool :=
  modifiers == none

/-- The modifiers with one more. -/
def insert (modifiers : Modifiers) : Modifier → Modifiers
  | .control => { modifiers with control := true }
  | .alternate => { modifiers with alternate := true }
  | .shift => { modifiers with shift := true }
  | .platform => { modifiers with platform := true }

/-- The modifier is held. -/
def holds (modifiers : Modifiers) : Modifier → Bool
  | .control => modifiers.control
  | .alternate => modifiers.alternate
  | .shift => modifiers.shift
  | .platform => modifiers.platform

/-- Inserting a modifier adds it and nothing else. -/
@[simp] theorem holds_insert (modifiers : Modifiers) (added modifier : Modifier) :
    (modifiers.insert added).holds modifier = (decide (modifier = added) || modifiers.holds modifier) := by
  cases added <;> cases modifier <;> simp [insert, holds]

end Modifiers

/-- A key pressed with modifiers.  The key is in lower case. -/
structure Keystroke where
  modifiers : Modifiers
  key : String
deriving DecidableEq, Repr

namespace Keystroke

/-- Why a notation names no keystroke. -/
inductive Fault where
  /-- Nothing but blanks. -/
  | empty
  /-- The part after the last dash is missing. -/
  | noKey (source : String)
  /-- A part before the last dash names no modifier. -/
  | unknownModifier (name source : String)
deriving DecidableEq, Repr

/-- The wording of a fault. -/
def Fault.message : Fault → String
  | .empty => "empty keystroke"
  | .noKey source => "keystroke '" ++ source ++ "' has no key"
  | .unknownModifier name source => "unknown modifier '" ++ name ++ "' in '" ++ source ++ "'"

/-- The keystroke of a key in any case. -/
def ofKey (modifiers : Modifiers) (key : String) : Keystroke :=
  ⟨modifiers, String.ofList (Text.lower key.toList)⟩

/-- The part that names the modifiers and the part that names the key. -/
def splitKey (source : List Char) : List Char × List Char :=
  match Text.dropEnd? ['-', '-'] source with
  | some modifiers => (modifiers, ['-'])
  | none =>
      match Text.splitLast? '-' source with
      | some parts => parts
      | none => ([], source)

/-- The pieces that must name modifiers; empty pieces do not count. -/
def modifierPieces (modifiers : List Char) : List (List Char) :=
  (modifiers.splitOn '-').filter fun piece => !piece.isEmpty

/-- The modifiers that the pieces name, or the first piece that names none, in small letters. -/
def readModifiers : Modifiers → List (List Char) → Except String Modifiers
  | known, [] => .ok known
  | known, piece :: rest =>
      let name := String.ofList (Text.asciiLower piece)
      match Modifier.ofAlias? name with
      | some modifier => readModifiers (known.insert modifier) rest
      | none => .error name

/-- The keystroke that a notation names.  Blanks around it do not count. -/
def parse (source : String) : Except Fault Keystroke :=
  let trimmed := Text.trim source.toList
  let shown := String.ofList trimmed
  if trimmed.isEmpty then .error .empty
  else
    let parts := splitKey trimmed
    if parts.2.isEmpty then .error (.noKey shown)
    else
      match readModifiers .none (modifierPieces parts.1) with
      | .error name => .error (.unknownModifier name shown)
      | .ok modifiers => .ok (ofKey modifiers (String.ofList parts.2))

/-- The notation of a keystroke, its modifiers in a fixed order. -/
def display (keystroke : Keystroke) : String :=
  (if keystroke.modifiers.platform then "cmd-" else "") ++
    (if keystroke.modifiers.control then "ctrl-" else "") ++
      (if keystroke.modifiers.alternate then "alt-" else "") ++
        (if keystroke.modifiers.shift then "shift-" else "") ++ keystroke.key

/-- A keystroke as a diagnostic shows it. -/
def describe (keystroke : Keystroke) : String :=
  "Keystroke \x7b modifiers: Modifiers \x7b ctrl: " ++ toString keystroke.modifiers.control ++
    ", alt: " ++ toString keystroke.modifiers.alternate ++ ", shift: " ++
      toString keystroke.modifiers.shift ++ ", platform: " ++
        toString keystroke.modifiers.platform ++ " \x7d, key: " ++
          Text.quotedString keystroke.key ++ " \x7d"

end Keystroke

end QueryNotebook
