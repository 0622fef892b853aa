import QueryNotebook.Toml.Tree

/-!
# The pieces of TOML text

Blanks, keys, strings, numbers, dates and times.  Every function takes the text that is left and
returns what it read with what is left after it, or nothing when the text does not go on with such a
piece.
-/

namespace QueryNotebook.Toml

/-- What was read, with the text that is left. -/
abbrev Scan (α : Type) := Option (α × List Char)

/-! ## Blanks and comments -/

/-- A blank within a line. -/
def isSpace (c : Char) : Bool :=
  c == ' ' || c == '\t'

/-- The text after the blanks that it begins with. -/
def skipSpace (text : List Char) : List Char :=
  text.dropWhile isSpace

/-- A character that may stand anywhere within a line. -/
def isPlain (c : Char) : Bool :=
  c == '\t' || (' ' ≤ c && c ≤ '~') || 0x80 ≤ c.toNat

/-- The text after a line break. -/
def afterBreak? : List Char → Option (List Char)
  | '\n' :: rest => some rest
  | '\r' :: '\n' :: rest => some rest
  | _ => none

/-- The text after a comment, if one stands here. -/
def skipComment (text : List Char) : List Char :=
  match text with
  | '#' :: rest => rest.dropWhile isPlain
  | other => other

/-- The text after the rest of a line that may hold only blanks and a comment. -/
def afterLine? (text : List Char) : Option (List Char) :=
  match skipComment (skipSpace text) with
  | [] => some []
  | other => afterBreak? other

/-! ## Strings -/

/-- The value of a hexadecimal digit. -/
def hexValue? (c : Char) : Option Nat :=
  if '0' ≤ c ∧ c ≤ '9' then some (c.toNat - 48)
  else if 'a' ≤ c ∧ c ≤ 'f' then some (c.toNat - 87)
  else if 'A' ≤ c ∧ c ≤ 'F' then some (c.toNat - 55)
  else none

/-- The character that hexadecimal digits name. -/
def hexChar? (digits : List Char) : Option Char := do
  let values ← digits.mapM hexValue?
  let code := values.foldl (fun code value => code * 16 + value) 0
  if code.isValidChar then some (Char.ofNat code) else none

/-- The character that a letter after a backslash stands for. -/
def escaped? (c : Char) : Option Char :=
  if c = '\x22' ∨ c = '\\' then some c
  else if c = 'n' then some '\n'
  else if c = 'r' then some '\r'
  else if c = 't' then some '\t'
  else if c = 'b' then some '\x08'
  else if c = 'f' then some '\x0c'
  else none

/-- A character in front of what a scan reads. -/
def Scan.push (c : Char) (scan : Scan (List Char)) : Scan (List Char) :=
  scan.map fun read => (c :: read.1, read.2)

/-- A backslash before this text ends its line: only blanks follow. -/
def endsLine (text : List Char) : Bool :=
  (afterBreak? (skipSpace text)).isSome

/-- What the closing quotes of a long string leave: up to two quotes before the last three belong to
the string.  The text is what follows the first three. -/
def closing (quote : Char) : List Char → Scan (List Char)
  | [] => some ([], [])
  | [c] => if c = quote then some ([quote], []) else some ([], [c])
  | c :: d :: rest =>
      if c = quote then
        if d = quote then some ([quote, quote], rest) else some ([quote], d :: rest)
      else some ([], c :: d :: rest)

/-- The characters of a string with escapes, from the text after its opening quotes.  A long string
may span lines; while `skipping`, blanks and line breaks after a line's final backslash are passed
over. -/
def escapedBody (long skipping : Bool) : List Char → Scan (List Char)
  | [] => none
  | '\r' :: '\n' :: rest =>
      if !long then none
      else if skipping then escapedBody long true rest
      else Scan.push '\n' (escapedBody long false rest)
  | '\n' :: rest =>
      if !long then none
      else if skipping then escapedBody long true rest
      else Scan.push '\n' (escapedBody long false rest)
  | '\x22' :: rest =>
      if !long then some ([], rest)
      else
        match rest with
        | '\x22' :: '\x22' :: after => closing '\x22' after
        | _ => Scan.push '\x22' (escapedBody long false rest)
  | '\\' :: rest =>
      if long && endsLine rest then escapedBody long true rest
      else
        match rest with
        | 'u' :: a :: b :: c :: d :: after =>
            match hexChar? [a, b, c, d] with
            | some meant => Scan.push meant (escapedBody long false after)
            | none => none
        | 'U' :: a :: b :: c :: d :: e :: f :: g :: h :: after =>
            match hexChar? [a, b, c, d, e, f, g, h] with
            | some meant => Scan.push meant (escapedBody long false after)
            | none => none
        | letter :: after =>
            match escaped? letter with
            | some meant => Scan.push meant (escapedBody long false after)
            | none => none
        | [] => none
  | c :: rest =>
      if skipping && isSpace c then escapedBody long true rest
      else if isPlain c then Scan.push c (escapedBody long false rest)
      else none

/-- The characters of a string without escapes, from the text after its opening quotes. -/
def literalBody (long : Bool) : List Char → Scan (List Char)
  | [] => none
  | '\r' :: '\n' :: rest =>
      if long then Scan.push '\n' (literalBody long rest) else none
  | '\n' :: rest =>
      if long then Scan.push '\n' (literalBody long rest) else none
  | '\'' :: rest =>
      if !long then some ([], rest)
      else
        match rest with
        | '\'' :: '\'' :: after => closing '\'' after
        | _ => Scan.push '\'' (literalBody long rest)
  | c :: rest =>
      if isPlain c then Scan.push c (literalBody long rest) else none

/-- A string on one line, from its opening quote. -/
def readShortString (text : List Char) : Scan (List Char) :=
  match text with
  | '\x22' :: rest => escapedBody false false rest
  | '\'' :: rest => literalBody false rest
  | _ => none

/-- The text of a long string from its first character that counts: a line break right after the
opening quotes does not. -/
def dropFirstBreak (text : List Char) : List Char :=
  (afterBreak? text).getD text

/-- A string of any form, from its opening quote. -/
def readString (text : List Char) : Scan (List Char) :=
  match text with
  | '\x22' :: '\x22' :: '\x22' :: rest => escapedBody true false (dropFirstBreak rest)
  | '\'' :: '\'' :: '\'' :: rest => literalBody true (dropFirstBreak rest)
  | other => readShortString other

/-! ## Keys -/

/-- A character of a key without quotes. -/
def isBare (c : Char) : Bool :=
  ('a' ≤ c && c ≤ 'z') || ('A' ≤ c && c ≤ 'Z') || ('0' ≤ c && c ≤ '9') || c == '-' || c == '_'

/-- One part of a key. -/
def readKeyPart (text : List Char) : Scan String :=
  match text with
  | [] => none
  | c :: rest =>
      if c = '\x22' ∨ c = '\'' then
        (readShortString (c :: rest)).map fun read => (String.ofList read.1, read.2)
      else if isBare c then
        some (String.ofList (c :: rest.takeWhile isBare), rest.dropWhile isBare)
      else none

/-- The parts of a key, with blanks around each.  The first argument bounds their number. -/
def readKeyParts : Nat → List Char → Scan (List String)
  | 0, _ => none
  | fuel + 1, text =>
      match readKeyPart (skipSpace text) with
      | none => none
      | some (part, after) =>
          match skipSpace after with
          | '.' :: rest => (readKeyParts fuel rest).map fun read => (part :: read.1, read.2)
          | rest => some ([part], rest)

/-- The bound on the parts of a key and on the nesting of values. -/
def depthBound : Nat := 80

/-- A key: fewer parts than the bound, with points between them. -/
def readKey (text : List Char) : Scan (List String) :=
  readKeyParts (depthBound - 1) text

/-! ## Numbers -/

/-- A decimal digit. -/
def isDigit (c : Char) : Bool :=
  '0' ≤ c && c ≤ '9'

/-- The digits that follow a digit; an underscore may stand between two digits. -/
def moreDigits (accepts : Char → Bool) : List Char → Scan (List Char)
  | [] => some ([], [])
  | ['_'] => none
  | '_' :: digit :: rest =>
      if accepts digit then Scan.push digit (moreDigits accepts rest) else none
  | c :: rest =>
      if accepts c then Scan.push c (moreDigits accepts rest) else some ([], c :: rest)

/-- At least one digit. -/
def readDigits (accepts : Char → Bool) : List Char → Scan (List Char)
  | [] => none
  | c :: rest => if accepts c then Scan.push c (moreDigits accepts rest) else none

/-- The value of digits in a base. -/
def digitsValue (base : Nat) (digits : List Char) : Nat :=
  digits.foldl (fun value digit => value * base + (hexValue? digit).getD 0) 0

/-- The digits of a decimal integer: a leading zero stands alone. -/
def readDecimal (text : List Char) : Scan (List Char) :=
  match text with
  | '0' :: rest => some (['0'], rest)
  | other => readDigits isDigit other

/-- An integer of 64 bits. -/
def integerValue? (value : Int) : Option Value :=
  if -(Nat.pow 2 63 : Int) ≤ value ∧ value < (Nat.pow 2 63 : Int) then some (.integer value) else none

/-- An integer in a base other than ten, from its digits on. -/
def readBased (base : Nat) (accepts : Char → Bool) (text : List Char) : Option (Value × List Char) := do
  let (digits, rest) ← readDigits accepts text
  let value ← integerValue? (digitsValue base digits)
  pure (value, rest)

/-- A double, unless it overflows to positive infinity. -/
def doubleValue? (negative : Bool) (digits : List Char) (exponent : Int) : Option Value :=
  match Binary64.ofDecimal negative (digitsValue 10 digits) exponent with
  | .infinite false => none
  | double => some (.number double)

/-- The exponent of a double, from the text after its letter. -/
def readExponent (text : List Char) : Scan Int :=
  let down := text.head? == some '-'
  let digits := if down || text.head? == some '+' then text.tail else text
  (readDigits isDigit digits).map fun read =>
    let size : Int := digitsValue 10 read.1
    (if down then -size else size, read.2)

/-- A letter that begins an exponent. -/
def isExponentLetter (c : Char) : Bool :=
  c == 'e' || c == 'E'

/-- A decimal number without its sign. -/
def readUnsigned (negative : Bool) (text : List Char) : Option (Value × List Char) := do
  let (whole, rest) ← readDecimal text
  match rest with
  | '.' :: after =>
      let (fraction, last) ← readDigits isDigit after
      let digits := whole ++ fraction
      match last with
      | c :: more =>
          if isExponentLetter c then
            let (exponent, final) ← readExponent more
            let value ← doubleValue? negative digits (exponent - fraction.length)
            pure (value, final)
          else
            let value ← doubleValue? negative digits (-fraction.length)
            pure (value, last)
      | [] =>
          let value ← doubleValue? negative digits (-fraction.length)
          pure (value, last)
  | c :: more =>
      if isExponentLetter c then
        let (exponent, final) ← readExponent more
        let value ← doubleValue? negative whole exponent
        pure (value, final)
      else
        let size : Int := digitsValue 10 whole
        let value ← integerValue? (if negative then -size else size)
        pure (value, rest)
  | [] =>
      let size : Int := digitsValue 10 whole
      let value ← integerValue? (if negative then -size else size)
      pure (value, rest)

/-- A number, from its sign, first digit or first letter. -/
def readNumber (text : List Char) : Scan Value :=
  match text with
  | '0' :: 'x' :: rest => readBased 16 (fun c => (hexValue? c).isSome) rest
  | '0' :: 'o' :: rest => readBased 8 (fun c => '0' ≤ c && c ≤ '7') rest
  | '0' :: 'b' :: rest => readBased 2 (fun c => c == '0' || c == '1') rest
  | _ =>
      let negative := text.head? == some '-'
      match if negative || text.head? == some '+' then text.tail else text with
      | 'i' :: 'n' :: 'f' :: rest => some (.number (.infinite negative), rest)
      | 'n' :: 'a' :: 'n' :: rest => some (.number .notANumber, rest)
      | unsigned => readUnsigned negative unsigned

/-! ## Dates and times -/

/-- A number of exactly so many decimal digits. -/
def readFixed : Nat → Nat → List Char → Scan Nat
  | 0, value, text => some (value, text)
  | _ + 1, _, [] => none
  | count + 1, value, c :: rest =>
      if isDigit c then readFixed count (value * 10 + (c.toNat - 48)) rest else none

/-- Two digits within bounds. -/
def readPair (least greatest : Nat) (text : List Char) : Option (Nat × List Char) := do
  let (value, rest) ← readFixed 2 0 text
  if least ≤ value ∧ value ≤ greatest then some (value, rest) else none

/-- The text after a given character. -/
def after? (c : Char) : List Char → Option (List Char)
  | [] => none
  | d :: rest => if d = c then some rest else none

/-- The number of days of a month. -/
def daysOf (year month : Nat) : Nat :=
  if month = 2 then
    if year % 4 = 0 ∧ (year % 100 ≠ 0 ∨ year % 400 = 0) then 29 else 28
  else if month = 4 ∨ month = 6 ∨ month = 9 ∨ month = 11 then 30
  else 31

/-- The text after a date that exists. -/
def skipDate (text : List Char) : Option (List Char) := do
  let (year, rest) ← readFixed 4 0 text
  let (month, rest) ← readPair 1 12 (← after? '-' rest)
  let (_, rest) ← readPair 1 (daysOf year month) (← after? '-' rest)
  pure rest

/-- The text after a time of day, which may have a fraction of a second. -/
def skipTime (text : List Char) : Option (List Char) := do
  let (_, rest) ← readPair 0 23 text
  let (_, rest) ← readPair 0 59 (← after? ':' rest)
  let (_, rest) ← readPair 0 60 (← after? ':' rest)
  match rest with
  | '.' :: c :: more => pure (if isDigit c then more.dropWhile isDigit else rest)
  | _ => pure rest

/-- The text after an offset from universal time, if one stands here. -/
def skipOffset (text : List Char) : Option (List Char) :=
  match text with
  | [] => some []
  | c :: rest =>
      if c = 'Z' ∨ c = 'z' then some rest
      else if c = '+' ∨ c = '-' then do
        let (_, minutes) ← readPair 0 23 rest
        let (_, last) ← readPair 0 59 (← after? ':' minutes)
        pure last
      else some text

/-- A character that may stand between a date and a time. -/
def isDateTimeSeparator (c : Char) : Bool :=
  c == 'T' || c == 't' || c == ' '

/-- The text after a date, a time, or both. -/
def skipDateTime (text : List Char) : Option (List Char) :=
  match skipDate text with
  | none => skipTime text
  | some [] => some []
  | some (c :: rest) =>
      match if isDateTimeSeparator c then skipTime rest else none with
      | none => some (c :: rest)
      | some afterTime => skipOffset afterTime

/-- A date or time, or else a number. -/
def readNumeric (text : List Char) : Scan Value :=
  match skipDateTime text with
  | some rest => some (.dateTime (String.ofList (text.take (text.length - rest.length))), rest)
  | none => readNumber text

end QueryNotebook.Toml
