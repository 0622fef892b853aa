import QueryNotebook.Datum
import QueryNotebook.Text.Quoted

/-!
# Data of the wrong shape

What can be wrong with well-formed data: the causes, and one function with their wording.  The two
notations write a fraction differently, so the style of numbers is a parameter of the wording.
-/

namespace QueryNotebook

/-- What stood where something else was expected. -/
inductive Found where
  | null
  | boolean (value : Bool)
  | integer (value : Int)
  | number (value : Binary64)
  | text (value : String)
  | sequence
  | map
deriving DecidableEq, Repr

/-- What a reader was looking for. -/
inductive Expectation where
  | count
  | boolean
  | text
  | path
  | sequence
  | map
  | unit
  | settings
  | snippet
  | snippetLibrary
deriving DecidableEq, Repr

/-- Why data does not have the shape that its reader wants. -/
inductive DataFault where
  /-- A value of another kind. -/
  | invalidType (found : Found) (expected : Expectation)
  /-- A value of the right kind outside the allowed range. -/
  | invalidValue (found : Found) (expected : Expectation)
  /-- A name that is none of the allowed ones. -/
  | unknownChoice (name first second : String)
  /-- An object names a field twice. -/
  | duplicateField (name : String)
  /-- An object lacks a required field. -/
  | missingField (name : String)
  /-- A record written as a sequence ends before its required fields do. -/
  | tooFewElements (length : Nat) (expected : Expectation) (wanted : Nat)
  /-- A record written as a sequence goes on after its last field. -/
  | tooManyElements (length : Nat)
  /-- A value of the right shape that its domain refuses, in the domain's own words. -/
  | refused (message : String)
deriving DecidableEq, Repr

/-- How a value is named in a message. -/
def Found.describe (style : Binary64.Style) : Found → String
  | .null => "null"
  | .boolean value => "boolean `" ++ toString value ++ "`"
  | .integer value => "integer `" ++ toString value ++ "`"
  | .number value => "floating point `" ++ String.ofList (value.text style) ++ "`"
  | .text value => "string " ++ Text.quotedString value
  | .sequence => "sequence"
  | .map => "map"

/-- How an expectation is named in a message. -/
def Expectation.describe : Expectation → String
  | .count => "usize"
  | .boolean => "a boolean"
  | .text => "a string"
  | .path => "path string"
  | .sequence => "a sequence"
  | .map => "a map"
  | .unit => "unit"
  | .settings => "struct Settings"
  | .snippet => "struct Snippet"
  | .snippetLibrary => "struct SnippetLibrary"

/-- The wording of a fault. -/
def DataFault.message (style : Binary64.Style) : DataFault → String
  | .invalidType found expected =>
      "invalid type: " ++ found.describe style ++ ", expected " ++ expected.describe
  | .invalidValue found expected =>
      "invalid value: " ++ found.describe style ++ ", expected " ++ expected.describe
  | .unknownChoice name first second =>
      "unknown variant `" ++ name ++ "`, expected `" ++ first ++ "` or `" ++ second ++ "`"
  | .duplicateField name => "duplicate field `" ++ name ++ "`"
  | .missingField name => "missing field `" ++ name ++ "`"
  | .tooFewElements length expected wanted =>
      "invalid length " ++ toString length ++ ", expected " ++ expected.describe ++ " with " ++
        toString wanted ++ " elements"
  | .tooManyElements length =>
      "invalid length " ++ toString length ++ ", expected fewer elements in array"
  | .refused message => message

/-- What a plain value is found to be. -/
def Datum.found : Datum → Found
  | .null => .null
  | .boolean value => .boolean value
  | .integer value => .integer value
  | .number value => .number value
  | .text value => .text value
  | .array _ => .sequence
  | .object _ => .map

/-- The text that a plain value must be. -/
def Datum.asText (datum : Datum) : Except DataFault String :=
  match datum with
  | .text value => .ok value
  | other => .error (.invalidType other.found .text)

end QueryNotebook
