/-!
# White space

Which characters are blank, and trimming at either end.  The class is the standard's White_Space
property; control characters outside it and zero-width characters are not blank.
-/

namespace QueryNotebook.Text

/-- Membership of a code point in a list of inclusive ranges. -/
def inRanges (ranges : List (Nat × Nat)) (code : Nat) : Bool :=
  ranges.any fun range => range.1 ≤ code && code ≤ range.2

/-- The White_Space property, as inclusive ranges of code points. -/
def blankRanges : List (Nat × Nat) := [
  (0x09, 0x0D), (0x20, 0x20), (0x85, 0x85), (0xA0, 0xA0), (0x1680, 0x1680), (0x2000, 0x200A),
  (0x2028, 0x2029), (0x202F, 0x202F), (0x205F, 0x205F), (0x3000, 0x3000)]

/-- A character of the White_Space property. -/
def isBlank (c : Char) : Bool :=
  inRanges blankRanges c.toNat

/-- The text from its first character that is not blank. -/
def trimStart (text : List Char) : List Char :=
  text.dropWhile isBlank

/-- The text up to its last character that is not blank. -/
def trimEnd (text : List Char) : List Char :=
  (text.reverse.dropWhile isBlank).reverse

/-- The text without the blank characters at either end. -/
def trim (text : List Char) : List Char :=
  trimEnd (trimStart text)

/-- A text of blank characters only; the empty text is one. -/
def allBlank (text : List Char) : Bool :=
  text.all isBlank

@[simp] theorem trim_nil : trim [] = [] := rfl

@[simp] theorem allBlank_nil : allBlank [] = true := rfl

@[simp] theorem allBlank_cons (c : Char) (text : List Char) :
    allBlank (c :: text) = (isBlank c && allBlank text) := rfl

end QueryNotebook.Text
