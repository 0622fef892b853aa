import QueryNotebook.Dictionary
import QueryNotebook.Json.Reader

/-!
# JSON trees

Reading a JSON text of any kind as plain data.  Every value is wanted, so numbers and strings are
held to the rules for wanted ones.  The members of an object are kept in the order of their names,
and of several members with one name the last one counts.
-/

namespace QueryNotebook.Json

/-- A number as plain data. -/
def Numeral.datum : Numeral → Datum
  | .natural value => .ofNat value
  | .negative value => .integer value
  | .real value => .number value

/-- The elements of an array, folded into a state from the text after its opening bracket or after
an element.  The first argument bounds the number of elements. -/
def foldElements {σ : Type} (step : σ → List Char → Scan σ) :
    Nat → Bool → σ → List Char → Scan σ
  | 0, _, _, _ => .error .malformed
  | fuel + 1, first, state, text =>
      match nextElement? first text with
      | .error fault => .error fault
      | .ok none => (endArray text).map fun rest => (state, rest)
      | .ok (some element) =>
          match step state element with
          | .error fault => .error fault
          | .ok (next, rest) => foldElements step fuel false next rest

/-- A value of any kind.  The first argument bounds the depth of nesting. -/
def readDatum : Nat → List Char → Scan Datum
  | 0, _ => .error .malformed
  | fuel + 1, text =>
      match skipSpace text with
      | [] => .error .endOfText
      | 'n' :: rest => (scanWord "ull".toList rest).map fun after => (.null, after)
      | 't' :: rest => (scanWord "rue".toList rest).map fun after => (.boolean true, after)
      | 'f' :: rest => (scanWord "alse".toList rest).map fun after => (.boolean false, after)
      | '\x22' :: rest =>
          (scanString rest).map fun read => (.text (String.ofList read.1), read.2)
      | '[' :: rest =>
          let step (items : List Datum) (element : List Char) : Scan (List Datum) :=
            (readDatum fuel element).map fun read => (read.1 :: items, read.2)
          (foldElements step (rest.length + 1) true [] rest).map fun read =>
            (.array read.1.reverse, read.2)
      | '\x7b' :: rest =>
          let step (members : Dictionary Datum) (name : String) (afterName : List Char) :
              Scan (Dictionary Datum) :=
            match afterColon afterName with
            | .error fault => .error fault
            | .ok value =>
                (readDatum fuel value).map fun read => (members.insert name read.1, read.2)
          (readMembers step .empty rest).map fun read => (.object read.1.entries, read.2)
      | c :: rest =>
          if c = '-' ∨ isDigit c then
            (scanNumber (c :: rest)).map fun read => (read.1.datum, read.2)
          else .error .malformed

/-- The plain data that a JSON text holds; the length of the text bounds every nesting. -/
def parse (source : String) : Except Fault Datum := do
  let text := source.toList
  let (datum, rest) ← readDatum (text.length + 1) text
  endDocument rest
  .ok datum

end QueryNotebook.Json
