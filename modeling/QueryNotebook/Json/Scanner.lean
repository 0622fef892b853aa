import QueryNotebook.Datum.Fault
import QueryNotebook.Text.Utf8

/-!
# Scanning JSON

The pieces of JSON text: blanks, words, numbers and strings, and skipping a value of any kind.
Every function takes the text that is left and returns what it read with what is left after it, so
text is always read front to back and the first problem decides.

A value that is wanted and a value that is skipped are held to different rules.  A skipped number
may have any size, and a skipped string may spell out half of a surrogate pair.
-/

namespace QueryNotebook.Json

/-- Why JSON text was not read. -/
inductive Fault where
  /-- The text breaks the rules of the notation. -/
  | malformed
  /-- The text ends inside a value. -/
  | endOfText
  /-- The text is well-formed up to here, but is not the wanted data. -/
  | data (fault : DataFault)
deriving DecidableEq, Repr

/-- What was read, with the text that is left. -/
abbrev Scan (α : Type) := Except Fault (α × List Char)

/-- The characters that may stand between any two pieces. -/
def isSpace (c : Char) : Bool :=
  c == ' ' || c == '\n' || c == '\t' || c == '\r'

/-- The text from its first character that is not a blank. -/
def skipSpace (text : List Char) : List Char :=
  text.dropWhile isSpace

/-- A decimal digit. -/
def isDigit (c : Char) : Bool :=
  '0' ≤ c && c ≤ '9'

/-- The value of a decimal digit. -/
def digitValue (c : Char) : Nat :=
  c.toNat - 48

/-- The fault at a place where the text does not go on as it must: it ends, or it goes on
otherwise. -/
def faultAt : List Char → Fault
  | [] => .endOfText
  | _ :: _ => .malformed

/-- The text after the given word. -/
def scanWord : List Char → List Char → Except Fault (List Char)
  | [], text => .ok text
  | _ :: _, [] => .error .endOfText
  | expected :: word, c :: text => if c = expected then scanWord word text else .error .malformed

/-! ## Numbers -/

/-- A number: an integer of at most 64 bits, or a double. -/
inductive Numeral where
  | natural (value : Nat)
  | negative (value : Int)
  | real (value : Binary64)
deriving DecidableEq, Repr

/-- The bound on the digits that a number is read with: 64 bits. -/
def significandBound : Nat := Nat.pow 2 64

/-- A significand extended by digits for as long as it stays below the bound, with the number of
digits used. -/
def extendSignificand (significand : Nat) : List Char → Nat × Nat
  | [] => (significand, 0)
  | digit :: rest =>
      let next := significand * 10 + digitValue digit
      if next < significandBound then
        let extended := extendSignificand next rest
        (extended.1, extended.2 + 1)
      else (significand, 0)

/-- The double for a power of ten up to 308. -/
def powerOfTen (power : Nat) : Binary64 :=
  .ofDecimal false 1 (power : Int)

/-- A significand scaled by a power of ten in rounded steps of at most `10 ^ 308`; none when the
result is too large. -/
def scaleByTen : Nat → Binary64 → Int → Option Binary64
  | 0, value, _ => some value
  | fuel + 1, value, exponent =>
      if exponent.natAbs ≤ 308 then
        if exponent < 0 then some (value.scaleDown (powerOfTen exponent.natAbs))
        else
          match value.scaleUp (powerOfTen exponent.natAbs) with
          | .infinite _ => none
          | scaled => some scaled
      else if value.isZero then some value
      else if 0 < exponent then none
      else scaleByTen fuel (value.scaleDown (powerOfTen 308)) (exponent + 308)

/-- The double with the given digits and decimal exponent. -/
def realOf (negative : Bool) (significand : Nat) (exponent : Int) : Except Fault Numeral :=
  match scaleByTen 4 (.ofRatio negative significand 1) exponent with
  | some value => .ok (.real value)
  | none => .error .malformed

/-- The value of decimal digits, or none above the bound on exponents. -/
def exponentOf? (digits : List Char) : Option Nat :=
  digits.foldl (fun value digit =>
    value.bind fun known =>
      let next := known * 10 + digitValue digit
      if next < Nat.pow 2 31 then some next else none) (some 0)

/-- The exponent part of a number, from the text after its letter. -/
def scanExponent (negative : Bool) (significand : Nat) (start : Int) (text : List Char) :
    Scan Numeral :=
  let down := text.head? == some '-'
  let digits := if down || text.head? == some '+' then text.tail else text
  let shown := digits.takeWhile isDigit
  let rest := digits.dropWhile isDigit
  if shown.isEmpty then .error (faultAt rest)
  else
    match exponentOf? shown with
    | some size =>
        let exponent := if down then start - size else start + size
        (realOf negative significand exponent).map fun value => (value, rest)
    | none =>
        if significand = 0 || down then .ok (.real (.finite negative 0 0), rest)
        else .error .malformed

/-- What follows the integer part of a number, whose digits beyond the bound count in
`start`. -/
def scanFraction (negative : Bool) (significand : Nat) (start : Int) (text : List Char) :
    Scan Numeral :=
  match text with
  | '.' :: after =>
      let shown := after.takeWhile isDigit
      let rest := after.dropWhile isDigit
      if shown.isEmpty then .error (faultAt rest)
      else
        let extended := extendSignificand significand shown
        let exponent := start - extended.2
        match rest with
        | 'e' :: more => scanExponent negative extended.1 exponent more
        | 'E' :: more => scanExponent negative extended.1 exponent more
        | _ => (realOf negative extended.1 exponent).map fun value => (value, rest)
  | 'e' :: more => scanExponent negative significand start more
  | 'E' :: more => scanExponent negative significand start more
  | _ =>
      if start ≠ 0 then
        (realOf negative significand start).map fun value => (value, text)
      else if !negative then .ok (.natural significand, text)
      else if significand = 0 ∨ Nat.pow 2 63 < significand then
        .ok (.real (.ofRatio true significand 1), text)
      else .ok (.negative (-(significand : Int)), text)

/-- A number, from its sign or first digit.  A leading zero stands alone. -/
def scanNumber (text : List Char) : Scan Numeral :=
  let negative := text.head? == some '-'
  let unsigned := if negative then text.tail else text
  let shown := unsigned.takeWhile isDigit
  let rest := unsigned.dropWhile isDigit
  match shown with
  | [] => .error (faultAt rest)
  | '0' :: _ :: _ => .error .malformed
  | digits =>
      let extended := extendSignificand 0 digits
      scanFraction negative extended.1 ((digits.length - extended.2 : Nat) : Int) rest

/-! ## Strings -/

/-- The value of a hexadecimal digit. -/
def hexValue? (c : Char) : Option Nat :=
  if isDigit c then some (c.toNat - 48)
  else if 'a' ≤ c ∧ c ≤ 'f' then some (c.toNat - 87)
  else if 'A' ≤ c ∧ c ≤ 'F' then some (c.toNat - 55)
  else none

/-- The value of four hexadecimal digits. -/
def hexCode? (a b c d : Char) : Option Nat := do
  let first ← hexValue? a
  let second ← hexValue? b
  let third ← hexValue? c
  let fourth ← hexValue? d
  pure (((first * 16 + second) * 16 + third) * 16 + fourth)

/-- The fault where four hexadecimal digits are missing: the end of the text counts when fewer than
four bytes are left. -/
def hexFault (text : List Char) : Fault :=
  if Text.byteSize text < 4 then .endOfText else .malformed

/-- The character that a letter after a backslash stands for. -/
def escaped? (c : Char) : Option Char :=
  if c = '\x22' ∨ c = '\\' ∨ c = '/' then some c
  else if c = 'n' then some '\n'
  else if c = 'r' then some '\r'
  else if c = 't' then some '\t'
  else if c = 'b' then some '\x08'
  else if c = 'f' then some '\x0c'
  else none

/-- A code unit that begins a surrogate pair. -/
def isLeading (code : Nat) : Bool :=
  0xD800 ≤ code && code ≤ 0xDBFF

/-- A code unit that ends a surrogate pair. -/
def isTrailing (code : Nat) : Bool :=
  0xDC00 ≤ code && code ≤ 0xDFFF

/-- The character of a surrogate pair. -/
def pairChar (leading trailing : Nat) : Char :=
  Char.ofNat ((leading - 0xD800) * 0x400 + (trailing - 0xDC00) + 0x10000)

/-- A character in front of what a scan reads. -/
def Scan.push (c : Char) (scan : Scan (List Char)) : Scan (List Char) :=
  scan.map fun read => (c :: read.1, read.2)

/-- The characters of a string, from the text after its opening quote. -/
def scanString : List Char → Scan (List Char)
  | [] => .error .endOfText
  | c :: rest =>
      if c = '\x22' then .ok ([], rest)
      else if c.toNat < 32 then .error .malformed
      else if c ≠ '\\' then Scan.push c (scanString rest)
      else
        match rest with
        | [] => .error .endOfText
        | 'u' :: a :: b :: c :: d :: after =>
            match hexCode? a b c d with
            | none => .error (hexFault (a :: b :: c :: d :: after))
            | some code =>
                if isTrailing code then .error .malformed
                else if !isLeading code then Scan.push (Char.ofNat code) (scanString after)
                else
                  match after with
                  | [] => .error .endOfText
                  | ['\\'] => .error .endOfText
                  | '\\' :: 'u' :: e :: f :: g :: h :: last =>
                      match hexCode? e f g h with
                      | none => .error (hexFault (e :: f :: g :: h :: last))
                      | some second =>
                          if isTrailing second then
                            Scan.push (pairChar code second) (scanString last)
                          else .error .malformed
                  | '\\' :: 'u' :: short => .error (hexFault short)
                  | _ => .error .malformed
        | 'u' :: short => .error (hexFault short)
        | letter :: after =>
            match escaped? letter with
            | some meant => Scan.push meant (scanString after)
            | none => .error .malformed

/-! ## Skipping -/

/-- The text after a skipped string, from the text after its opening quote. -/
def skipString : List Char → Except Fault (List Char)
  | [] => .error .endOfText
  | c :: rest =>
      if c = '\x22' then .ok rest
      else if c.toNat < 32 then .error .malformed
      else if c ≠ '\\' then skipString rest
      else
        match rest with
        | [] => .error .endOfText
        | 'u' :: a :: b :: c :: d :: after =>
            match hexCode? a b c d with
            | none => .error (hexFault (a :: b :: c :: d :: after))
            | some _ => skipString after
        | 'u' :: short => .error (hexFault short)
        | letter :: after =>
            match escaped? letter with
            | some _ => skipString after
            | none => .error .malformed

/-- The text after at least one digit. -/
def skipDigits (text : List Char) : Except Fault (List Char) :=
  match text with
  | [] => .error .malformed
  | c :: rest => if isDigit c then .ok (rest.dropWhile isDigit) else .error .malformed

/-- The text after the exponent part of a skipped number, from its letter on. -/
def skipExponent (text : List Char) : Except Fault (List Char) :=
  match text with
  | 'e' :: '+' :: rest => skipDigits rest
  | 'e' :: '-' :: rest => skipDigits rest
  | 'E' :: '+' :: rest => skipDigits rest
  | 'E' :: '-' :: rest => skipDigits rest
  | 'e' :: rest => skipDigits rest
  | 'E' :: rest => skipDigits rest
  | rest => .ok rest

/-- The text after a skipped number, which may end the text only after a digit. -/
def skipNumber (text : List Char) : Except Fault (List Char) := do
  let unsigned := if text.head? == some '-' then text.tail else text
  let afterInteger ←
    match unsigned with
    | '0' :: c :: rest => if isDigit c then .error .malformed else .ok (c :: rest)
    | other => skipDigits other
  match afterInteger with
  | '.' :: rest =>
      let afterFraction ← skipDigits rest
      skipExponent afterFraction
  | other => skipExponent other

mutual

/-- The text after a value of any kind.  The first argument bounds the number of nested steps. -/
def skipValue : Nat → List Char → Except Fault (List Char)
  | 0, _ => .error .malformed
  | fuel + 1, text =>
      match skipSpace text with
      | [] => .error .endOfText
      | 'n' :: rest => scanWord "ull".toList rest
      | 't' :: rest => scanWord "rue".toList rest
      | 'f' :: rest => scanWord "alse".toList rest
      | '\x22' :: rest => skipString rest
      | '[' :: rest =>
          match skipSpace rest with
          | ']' :: after => .ok after
          | other => skipItems fuel other
      | '\x7b' :: rest =>
          match skipSpace rest with
          | '\x7d' :: after => .ok after
          | other => skipMembers fuel other
      | c :: rest =>
          if c = '-' ∨ isDigit c then skipNumber (c :: rest) else .error .malformed

/-- The text after the items of an array and its closing bracket. -/
def skipItems : Nat → List Char → Except Fault (List Char)
  | 0, _ => .error .malformed
  | fuel + 1, text =>
      match skipValue fuel text with
      | .error fault => .error fault
      | .ok after =>
          match skipSpace after with
          | ']' :: rest => .ok rest
          | ',' :: rest => skipItems fuel rest
          | other => .error (faultAt other)

/-- The text after the members of an object and its closing brace. -/
def skipMembers : Nat → List Char → Except Fault (List Char)
  | 0, _ => .error .malformed
  | fuel + 1, text =>
      match skipSpace text with
      | '\x22' :: name =>
          match skipString name with
          | .error fault => .error fault
          | .ok afterName =>
              match skipSpace afterName with
              | ':' :: value =>
                  match skipValue fuel value with
                  | .error fault => .error fault
                  | .ok after =>
                      match skipSpace after with
                      | '\x7d' :: rest => .ok rest
                      | ',' :: rest => skipMembers fuel rest
                      | other => .error (faultAt other)
              | other => .error (faultAt other)
      | other => .error (faultAt other)

end

/-- The text after a value of any kind; the length of the text bounds every nesting. -/
def skipAny (text : List Char) : Except Fault (List Char) :=
  skipValue (2 * text.length + 2) text

end QueryNotebook.Json
