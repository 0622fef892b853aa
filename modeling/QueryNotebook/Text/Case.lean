import QueryNotebook.Text.Blank
import QueryNotebook.Text.CaseTable

/-!
# Letter case

Lower- and upper-casing of whole texts, over all characters and over the ASCII letters alone, and
the case-blind comparisons built on them.

A text is mapped character by character, with one exception: a capital sigma becomes the final form
`ς` at the end of a word and `σ` elsewhere.  Some characters map to several, so a mapped text may be
longer than the text it came from.
-/

namespace QueryNotebook.Text

/-- The image of a character under a table of runs and a table of expansions. -/
def mapCode (runs : List CaseRun) (expansions : List (Nat × List Nat)) (c : Char) : List Char :=
  match expansions.find? fun entry => entry.1 == c.toNat with
  | some entry => entry.2.map Char.ofNat
  | none =>
      match runs.findSome? fun run => run.apply? c.toNat with
      | some image => [Char.ofNat image]
      | none => [c]

/-- The lower-case form of a single character, whatever stands around it. -/
def lowerChar (c : Char) : List Char :=
  if c.toNat < 128 then [c.toLower] else mapCode lowerRuns lowerExpansions c

/-- The upper-case form of a single character. -/
def upperChar (c : Char) : List Char :=
  if c.toNat < 128 then [c.toUpper] else mapCode upperRuns upperExpansions c

/-- A character that has a case. -/
def isCased (c : Char) : Bool :=
  inRanges casedRanges c.toNat

/-- A character that a word may hold between its cased letters, such as an apostrophe. -/
def isCaseIgnorable (c : Char) : Bool :=
  inRanges caseIgnorableRanges c.toNat

/-- The first character that is not case-ignorable exists and has a case. -/
def meetsCased (text : List Char) : Bool :=
  match text.dropWhile isCaseIgnorable with
  | [] => false
  | c :: _ => isCased c

/-- A sigma ends its word when a cased letter comes before it and none after it, case-ignorable
characters aside.  The characters before the sigma are given nearest first. -/
def endsWord (before after : List Char) : Bool :=
  meetsCased before && !meetsCased after

/-- Lower-casing of the rest of a text, given the characters before it nearest first. -/
def lowerAfter (before : List Char) : List Char → List Char
  | [] => []
  | c :: rest =>
      (if c = 'Σ' then [if endsWord before rest then 'ς' else 'σ'] else lowerChar c) ++
        lowerAfter (c :: before) rest

/-- The lower-case form of a text. -/
def lower (text : List Char) : List Char :=
  lowerAfter [] text

/-- The upper-case form of a text. -/
def upper (text : List Char) : List Char :=
  text.flatMap upperChar

/-- The text with its ASCII capitals made small and all else kept. -/
def asciiLower (text : List Char) : List Char :=
  text.map Char.toLower

/-- Two texts that differ at most in the case of ASCII letters. -/
def asciiEqual (left right : List Char) : Bool :=
  asciiLower left == asciiLower right

/-- The needle occurs in the text as a contiguous part. -/
def occursIn (needle : List Char) : List Char → Bool
  | [] => needle.isEmpty
  | c :: rest => needle.isPrefixOf (c :: rest) || occursIn needle rest

@[simp] theorem lower_nil : lower [] = [] := rfl

@[simp] theorem upper_nil : upper [] = [] := rfl

@[simp] theorem upper_cons (c : Char) (text : List Char) :
    upper (c :: text) = upperChar c ++ upper text := rfl

/-- Upper-casing has no context: a text may be cut anywhere. -/
@[simp] theorem upper_append (left right : List Char) :
    upper (left ++ right) = upper left ++ upper right := by
  simp [upper]

/-- ASCII lower-casing keeps the number of characters. -/
@[simp] theorem length_asciiLower (text : List Char) : (asciiLower text).length = text.length := by
  simp [asciiLower]

end QueryNotebook.Text
