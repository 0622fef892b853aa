import QueryNotebook.Datum

/-!
# JSON output

Two notations of a plain value: compact, without any blank, and indented by two spaces a level.
A string escapes the quote, the backslash and the control characters and nothing else.
-/

namespace QueryNotebook.Json

/-- One hexadecimal digit. -/
def hexDigit (value : Nat) : Char :=
  Nat.digitChar value

/-- One character as it stands in a string. -/
def escapeChar (c : Char) : List Char :=
  if c = '\x22' ∨ c = '\\' then ['\\', c]
  else if c = '\n' then ['\\', 'n']
  else if c = '\r' then ['\\', 'r']
  else if c = '\t' then ['\\', 't']
  else if c = '\x08' then ['\\', 'b']
  else if c = '\x0c' then ['\\', 'f']
  else if c.toNat < 32 then
    ['\\', 'u', '0', '0', hexDigit (c.toNat / 16), hexDigit (c.toNat % 16)]
  else [c]

/-- A string with its quotes. -/
def stringText (value : List Char) : List Char :=
  '\x22' :: (value.flatMap escapeChar ++ ['\x22'])

/-- The style of a number that is not an integer. -/
def numberStyle : Binary64.Style where
  tie := .even
  layout := .scientificOutside (-4) 16

/-- A value without parts. -/
def scalarText : Datum → List Char
  | .null => "null".toList
  | .boolean value => (toString value).toList
  | .integer value => (toString value).toList
  | .number value => value.text numberStyle
  | .text value => stringText value.toList
  | .array _ => []
  | .object _ => []

mutual

/-- A value without blanks. -/
def compact : Datum → List Char
  | .array items => '[' :: (compactItems true items ++ [']'])
  | .object members => '\x7b' :: (compactMembers true members ++ ['\x7d'])
  | .null => scalarText .null
  | .boolean value => scalarText (.boolean value)
  | .integer value => scalarText (.integer value)
  | .number value => scalarText (.number value)
  | .text value => scalarText (.text value)

/-- The items of an array; a comma stands before each but the first. -/
def compactItems (first : Bool) : List Datum → List Char
  | [] => []
  | item :: rest => (if first then [] else [',']) ++ compact item ++ compactItems false rest

/-- The members of an object; a comma stands before each but the first. -/
def compactMembers (first : Bool) : List (String × Datum) → List Char
  | [] => []
  | (name, value) :: rest =>
      (if first then [] else [',']) ++ stringText name.toList ++ ':' :: compact value ++
        compactMembers false rest

end

/-- A line break and the indentation of a level. -/
def newLine (level : Nat) : List Char :=
  '\n' :: List.replicate (2 * level) ' '

mutual

/-- A value whose parts stand on lines of their own, indented below the given level. -/
def indented (level : Nat) : Datum → List Char
  | .array [] => ['[', ']']
  | .array (item :: rest) =>
      '[' :: (newLine (level + 1) ++ indented (level + 1) item ++
        indentedItems (level + 1) rest ++ newLine level ++ [']'])
  | .object [] => ['\x7b', '\x7d']
  | .object ((name, value) :: rest) =>
      '\x7b' :: (newLine (level + 1) ++ stringText name.toList ++ ':' :: ' ' ::
        indented (level + 1) value ++ indentedMembers (level + 1) rest ++ newLine level ++
          ['\x7d'])
  | .null => scalarText .null
  | .boolean value => scalarText (.boolean value)
  | .integer value => scalarText (.integer value)
  | .number value => scalarText (.number value)
  | .text value => scalarText (.text value)

/-- The items after the first one of an array. -/
def indentedItems (level : Nat) : List Datum → List Char
  | [] => []
  | item :: rest => ',' :: (newLine level ++ indented level item ++ indentedItems level rest)

/-- The members after the first one of an object. -/
def indentedMembers (level : Nat) : List (String × Datum) → List Char
  | [] => []
  | (name, value) :: rest =>
      ',' :: (newLine level ++ stringText name.toList ++ ':' :: ' ' :: indented level value ++
        indentedMembers level rest)

end

/-- The compact notation as a string. -/
def compactString (datum : Datum) : String :=
  String.ofList (compact datum)

/-- The indented notation as a string, without a final line break. -/
def indentedString (datum : Datum) : String :=
  String.ofList (indented 0 datum)

end QueryNotebook.Json
