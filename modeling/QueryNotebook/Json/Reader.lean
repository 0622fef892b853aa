import QueryNotebook.Json.Scanner

/-!
# Reading wanted data from JSON

Readers for the kinds of value that configuration files want, and for the members of an object and
the elements of an array.  A value of another kind is named in the fault, after as much of it has
been read as the message needs.
-/

namespace QueryNotebook.Json

/-- The fault of a value of the wrong kind, from its first character. -/
def unexpectedAt (expected : Expectation) (text : List Char) : Fault :=
  let unexpected (found : Found) : Fault := .data (.invalidType found expected)
  match text with
  | [] => .malformed
  | 'n' :: rest =>
      match scanWord "ull".toList rest with
      | .ok _ => unexpected .null
      | .error fault => fault
  | 't' :: rest =>
      match scanWord "rue".toList rest with
      | .ok _ => unexpected (.boolean true)
      | .error fault => fault
  | 'f' :: rest =>
      match scanWord "alse".toList rest with
      | .ok _ => unexpected (.boolean false)
      | .error fault => fault
  | '\x22' :: rest =>
      match scanString rest with
      | .ok (value, _) => unexpected (.text (String.ofList value))
      | .error fault => fault
  | '[' :: _ => unexpected .sequence
  | '\x7b' :: _ => unexpected .map
  | c :: rest =>
      if c = '-' ∨ isDigit c then
        match scanNumber (c :: rest) with
        | .ok (.natural value, _) => unexpected (.integer value)
        | .ok (.negative value, _) => unexpected (.integer value)
        | .ok (.real value, _) => unexpected (.number value)
        | .error fault => fault
      else .malformed

/-- A count: a natural number of at most 64 bits. -/
def readCount (text : List Char) : Scan Nat :=
  match skipSpace text with
  | [] => .error .endOfText
  | c :: rest =>
      if c = '-' ∨ isDigit c then
        match scanNumber (c :: rest) with
        | .ok (.natural value, after) => .ok (value, after)
        | .ok (.negative value, _) => .error (.data (.invalidValue (.integer value) .count))
        | .ok (.real value, _) => .error (.data (.invalidType (.number value) .count))
        | .error fault => .error fault
      else .error (unexpectedAt .count (c :: rest))

/-- A truth value. -/
def readBoolean (text : List Char) : Scan Bool :=
  match skipSpace text with
  | [] => .error .endOfText
  | 't' :: rest => (scanWord "rue".toList rest).map fun after => (true, after)
  | 'f' :: rest => (scanWord "alse".toList rest).map fun after => (false, after)
  | other => .error (unexpectedAt .boolean other)

/-- A string; `expected` is what a message calls it. -/
def readText (expected : Expectation) (text : List Char) : Scan String :=
  match skipSpace text with
  | [] => .error .endOfText
  | '\x22' :: rest => (scanString rest).map fun read => (String.ofList read.1, read.2)
  | other => .error (unexpectedAt expected other)

/-- The value null. -/
def readNull (text : List Char) : Scan Unit :=
  match skipSpace text with
  | [] => .error .endOfText
  | 'n' :: rest => (scanWord "ull".toList rest).map fun after => ((), after)
  | other => .error (unexpectedAt .unit other)

/-- A string, or null in its absence. -/
def readText? (expected : Expectation) (text : List Char) : Scan (Option String) :=
  match skipSpace text with
  | 'n' :: rest => (scanWord "ull".toList rest).map fun after => (none, after)
  | other => (readText expected other).map fun read => (some read.1, read.2)

/-- The text after the colon that separates a name from its value. -/
def afterColon (text : List Char) : Except Fault (List Char) :=
  match skipSpace text with
  | ':' :: rest => .ok rest
  | other => .error (faultAt other)

/-- The members of an object, folded into a state from the text after its opening brace or after a
member.  Each step takes the name and the text after it, and reads the colon and the value itself,
so that it may refuse a name first.  The first argument bounds the number of members. -/
def foldMembers {σ : Type} (step : σ → String → List Char → Scan σ) :
    Nat → Bool → σ → List Char → Scan σ
  | 0, _, _, _ => .error .malformed
  | fuel + 1, first, state, text =>
      let member (name : List Char) : Scan σ :=
        match scanString name with
        | .error fault => .error fault
        | .ok (key, after) =>
            match step state (String.ofList key) after with
            | .error fault => .error fault
            | .ok (next, rest) => foldMembers step fuel false next rest
      match skipSpace text with
      | [] => .error .endOfText
      | '\x7d' :: rest => .ok (state, rest)
      | '\x22' :: name => if first then member name else .error .malformed
      | ',' :: rest =>
          if first then .error .malformed
          else
            match skipSpace rest with
            | '\x22' :: name => member name
            | other => .error (faultAt other)
      | _ :: _ => .error .malformed

/-- The members of an object, from the text after its opening brace. -/
def readMembers {σ : Type} (step : σ → String → List Char → Scan σ) (state : σ)
    (text : List Char) : Scan σ :=
  foldMembers step (text.length + 1) true state text

/-- The text of the next element of an array, or none before the closing bracket. -/
def nextElement? (first : Bool) (text : List Char) : Except Fault (Option (List Char)) :=
  match skipSpace text with
  | [] => .error .endOfText
  | ']' :: _ => .ok none
  | ',' :: rest =>
      if first then .ok (some (',' :: rest))
      else
        match skipSpace rest with
        | [] => .error .endOfText
        | ']' :: _ => .error .malformed
        | other => .ok (some other)
  | other => if first then .ok (some other) else .error .malformed

/-- The text after the closing bracket of an array whose wanted elements have been read. -/
def endArray (text : List Char) : Except Fault (List Char) :=
  match skipSpace text with
  | [] => .error .endOfText
  | ']' :: rest => .ok rest
  | _ :: _ => .error .malformed

/-- Nothing but blanks may follow a document. -/
def endDocument (text : List Char) : Except Fault Unit :=
  if (skipSpace text).isEmpty then .ok () else .error .malformed

end QueryNotebook.Json
