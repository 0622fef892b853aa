import QueryNotebook.Text.Split
import QueryNotebook.Toml.Scalar

/-!
# Reading TOML

Values of every kind, the statements of a document, and the document as plain data.  A text that is
not TOML has no reading, whatever is wrong with it.
-/

namespace QueryNotebook.Toml

/-- The text after blanks, line breaks and comments.  The first argument bounds the pieces. -/
def skipGaps : Nat → List Char → List Char
  | 0, text => text
  | fuel + 1, text =>
      match text with
      | [] => []
      | c :: rest =>
          if isSpace c then skipGaps fuel rest
          else if c = '#' then skipGaps fuel (rest.dropWhile isPlain)
          else
            match afterBreak? (c :: rest) with
            | some after => skipGaps fuel after
            | none => c :: rest

/-- The text after the blanks, line breaks and comments between the items of an array. -/
def skipGap (text : List Char) : List Char :=
  skipGaps text.length text

/-- A value that has no parts. -/
def readScalar (text : List Char) : Scan Value :=
  match text with
  | [] => none
  | c :: rest =>
      if c = '\x22' ∨ c = '\'' then
        (readString text).map fun read => (.text (String.ofList read.1), read.2)
      else if c = 't' then (Text.dropStart? "rue".toList rest).map fun after => (.boolean true, after)
      else if c = 'f' then
        (Text.dropStart? "alse".toList rest).map fun after => (.boolean false, after)
      else if c = 'i' then readNumber text
      else if c = 'n' then readNumber text
      else if c = '+' ∨ c = '-' ∨ isDigit c then readNumeric text
      else none

mutual

/-- A value, inside `depth` others.  The first argument bounds the number of nested steps. -/
def readValue : Nat → Nat → List Char → Scan Value
  | 0, _, _ => none
  | fuel + 1, depth, text =>
      match text with
      | '[' :: rest =>
          if depthBound ≤ depth + 1 then none
          else
            match skipGap rest with
            | ']' :: after => some (.array [], after)
            | other =>
                (readItems fuel (depth + 1) other).map fun read => (.array read.1, read.2)
      | '\x7b' :: rest =>
          if depthBound ≤ depth + 1 then none
          else
            match skipSpace rest with
            | '\x7d' :: after => some (.table .braces [], after)
            | other =>
                (readMembers fuel (depth + 1) [] other).map fun read =>
                  (.table .braces read.1, read.2)
      | other => readScalar other

/-- The items of an array and its closing bracket; the last item may have a comma too. -/
def readItems : Nat → Nat → List Char → Scan (List Value)
  | 0, _, _ => none
  | fuel + 1, depth, text =>
      match readValue fuel depth text with
      | none => none
      | some (item, after) =>
          match skipGap after with
          | ']' :: rest => some ([item], rest)
          | ',' :: rest =>
              match skipGap rest with
              | ']' :: last => some ([item], last)
              | other => (readItems fuel depth other).map fun read => (item :: read.1, read.2)
          | _ => none

/-- The members of a table in braces, added to those before them, and its closing brace. -/
def readMembers : Nat → Nat → Entries → List Char → Scan Entries
  | 0, _, _, _ => none
  | fuel + 1, depth, entries, text =>
      match readKey text with
      | none => none
      | some (key, '=' :: afterKey) =>
          match key.getLast?, readValue fuel depth (skipSpace afterKey) with
          | some name, some (value, after) =>
              match entries.insert key.dropLast name value, skipSpace after with
              | some grown, '\x7d' :: rest => some (grown, rest)
              | some grown, ',' :: rest => readMembers fuel depth grown rest
              | _, _ => none
          | _, _ => none
      | some _ => none

end

/-- A header, from the text after its first bracket. -/
def readHeader (draft : Draft) (text : List Char) : Option (Draft × List Char) :=
  match text with
  | '[' :: rest =>
      match readKey rest with
      | some (place, ']' :: ']' :: after) => do
          let opened ← draft.openElement place
          let last ← afterLine? after
          pure (opened, last)
      | _ => none
  | other =>
      match readKey other with
      | some (place, ']' :: after) => do
          let opened ← draft.openTable place
          let last ← afterLine? after
          pure (opened, last)
      | _ => none

/-- An entry of the current table. -/
def readEntry (draft : Draft) (text : List Char) : Option (Draft × List Char) :=
  match readKey text with
  | some (key, '=' :: afterKey) => do
      let name ← key.getLast?
      let (value, after) ← readValue (2 * text.length + 2) 0 (skipSpace afterKey)
      let extended ← draft.entry key.dropLast name value
      let last ← afterLine? after
      pure (extended, last)
  | _ => none

/-- One statement, from its first character. -/
def readStatement (draft : Draft) (text : List Char) : Scan Draft :=
  match text with
  | [] => none
  | c :: rest =>
      if c = '#' then (afterLine? (c :: rest)).map fun after => (draft, after)
      else if c = '\n' ∨ c = '\r' then (afterBreak? (c :: rest)).map fun after => (draft, after)
      else if c = '[' then readHeader draft rest
      else readEntry draft (c :: rest)

/-- All statements of a document.  The first argument bounds their number. -/
def readStatements : Nat → Draft → List Char → Option Draft
  | 0, _, _ => none
  | fuel + 1, draft, text =>
      match skipSpace text with
      | [] => some draft
      | other =>
          match readStatement draft other with
          | none => none
          | some (next, rest) => readStatements fuel next rest

/-- The text without the mark that may begin a file. -/
def dropByteOrderMark (text : List Char) : List Char :=
  match text with
  | '\uFEFF' :: rest => rest
  | other => other

/-- The entries of a document, or none for a text that is not TOML. -/
def readDocument (text : List Char) : Option (List (String × Datum)) := do
  let statements := dropByteOrderMark text
  let draft ← readStatements (statements.length + 1) .start statements
  let entries ← draft.finish
  pure (entryData entries)

end QueryNotebook.Toml
