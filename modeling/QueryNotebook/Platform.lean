import QueryNotebook.Keystroke

/-!
# Platforms

What differs between the desktops that the notebook runs on: the modifier of the main shortcuts,
how a keystroke is shown to a reader, and which menus the system provides.
-/

namespace QueryNotebook

/-- Which modifier the main shortcuts use where the platform leaves a choice. -/
inductive ModifierStyle where
  | platform
  | control
deriving DecidableEq, Repr

/-- The name of a style in settings. -/
def ModifierStyle.name : ModifierStyle → String
  | .platform => "platform"
  | .control => "ctrl"

/-- The style of the given name. -/
def ModifierStyle.ofName? (name : String) : Option ModifierStyle :=
  if name = "platform" then some .platform
  else if name = "ctrl" then some .control
  else none

/-- The platform that the notebook runs on. -/
inductive Platform where
  | mac (style : ModifierStyle)
  | desktop
deriving DecidableEq, Repr

namespace Platform

/-- The platform of this build. -/
def ofBuild (_style : ModifierStyle) : Platform :=
  .desktop

/-- The name of a platform. -/
def name : Platform → String
  | .mac _ => "macos"
  | .desktop => "desktop"

/-- Commands also appear in a menu bar of the system. -/
def hasSystemMenuBar : Platform → Bool
  | .mac _ => true
  | .desktop => false

/-- The system provides the entry about the program. -/
def providesAboutEntry : Platform → Bool
  | .mac _ => true
  | .desktop => false

/-- The modifier of the main shortcuts. -/
def primaryModifier : Platform → Modifier
  | .mac .platform => .platform
  | .mac .control => .control
  | .desktop => .control

/-- A main shortcut. -/
def shortcut (platform : Platform) (key : String) : Keystroke :=
  .ofKey (Modifiers.none.insert platform.primaryModifier) key

/-- A main shortcut with shift. -/
def shiftedShortcut (platform : Platform) (key : String) : Keystroke :=
  .ofKey ((Modifiers.none.insert platform.primaryModifier).insert .shift) key

/-- How a key is shown: by its usual label, or in upper case. -/
def keyLabel (key : String) : String :=
  if key = "enter" then "Enter"
  else if key = "escape" then "Esc"
  else if key = "backspace" then "Backspace"
  else if key = "delete" then "Del"
  else if key = "tab" then "Tab"
  else if key = "space" then "Space"
  else if key = "up" then "↑"
  else if key = "down" then "↓"
  else if key = "left" then "←"
  else if key = "right" then "→"
  else if key = "pageup" then "PgUp"
  else if key = "pagedown" then "PgDn"
  else String.ofList (Text.upper key.toList)

/-- How a modifier is shown. -/
def modifierLabel : Platform → Modifier → String
  | .mac _, .control => "⌃"
  | .mac _, .alternate => "⌥"
  | .mac _, .shift => "⇧"
  | .mac _, .platform => "⌘"
  | .desktop, .control => "Ctrl"
  | .desktop, .alternate => "Alt"
  | .desktop, .shift => "Shift"
  | .desktop, .platform => "Super"

/-- What stands between the labels of a shown keystroke. -/
def labelSeparator : Platform → String
  | .mac _ => ""
  | .desktop => "+"

/-- How a keystroke is shown to a reader: the modifiers in a fixed order, then the key. -/
def spell (platform : Platform) (keystroke : Keystroke) : String :=
  let held := [Modifier.control, .alternate, .shift, .platform].filter keystroke.modifiers.holds
  String.intercalate platform.labelSeparator
    (held.map platform.modifierLabel ++ [keyLabel keystroke.key])

end Platform

end QueryNotebook
