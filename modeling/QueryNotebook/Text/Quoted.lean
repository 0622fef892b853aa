import QueryNotebook.Text.Blank
import QueryNotebook.Text.VisibleTable

/-!
# Quoted text

The form in which a diagnostic shows a text: between double quotes, with every character visible.
A character that has no picture, or that would attach itself to the one before it, is spelled out
by its code point.
-/

namespace QueryNotebook.Text

/-- A mark that attaches to the character before it. -/
def isExtending (c : Char) : Bool :=
  inRanges extendingRanges c.toNat

/-- A character that can be shown as itself. -/
def isPrintable (c : Char) : Bool :=
  !inRanges unprintableRanges c.toNat

/-- A code point in braces after `\u`, in the fewest hexadecimal digits. -/
def codePointEscape (c : Char) : List Char :=
  "\\u\x7b".toList ++ Nat.toDigits 16 c.toNat ++ ['\x7d']

/-- One character as it stands between the quotes. -/
def quotedChar (c : Char) : List Char :=
  if c = '\x00' then ['\\', '0']
  else if c = '\t' then ['\\', 't']
  else if c = '\r' then ['\\', 'r']
  else if c = '\n' then ['\\', 'n']
  else if c = '\x22' ∨ c = '\\' then ['\\', c]
  else if isExtending c || !isPrintable c then codePointEscape c
  else [c]

/-- A text between double quotes. -/
def quoted (text : List Char) : List Char :=
  '\x22' :: (text.flatMap quotedChar ++ ['\x22'])

/-- A text between double quotes, as a string. -/
def quotedString (text : String) : String :=
  String.ofList (quoted text.toList)

end QueryNotebook.Text
