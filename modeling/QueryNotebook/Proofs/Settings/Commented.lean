import QueryNotebook.Proofs.Settings.Comments
import QueryNotebook.Proofs.Settings.Relining

/-!
# Comments between the lines of settings

Settings that can be read without taking comments for anything special are read the same when lines
that are comments are put anywhere between their lines.  The comments are taken out without regard
to the notation.  That is sound because in a text that can be read no line begins with a slash: a
text in quotes does not go over a line break, and nothing else may begin with a slash.

Taking the comments out loses the carriage returns at the ends of lines and the last line break.
What is left is the old text in other lines.
-/

namespace QueryNotebook.Settings

open Json (Relined Strays EndsLine isStray)

/-! ## Lines that are comments -/

/-- Lines with comments put before, between and behind them.  A carriage return that ends a text
belongs to its last line only for as long as no line follows. -/
inductive Commented : List (List Char) → List (List Char) → Prop where
  | nil : Commented [] []
  | line (line : List Char) {lines others : List (List Char)} (later : Commented lines others) :
      Commented (line :: lines) (line :: others)
  | ended (line : List Char) {lines others : List (List Char)} (later : Commented lines others) :
      Commented (line :: lines) (Text.dropReturn line :: others)
  | comment {comment : List Char} (isComment : isComment comment = true)
      {lines others : List (List Char)} (later : Commented lines others) :
      Commented lines (comment :: others)

/-- A line without the carriage return that may end it, and the carriage return. -/
theorem exists_dropReturn (line : List Char) :
    ∃ returns, line = Text.dropReturn line ++ returns ∧ ∀ c ∈ returns, c = '\r' := by
  unfold Text.dropReturn
  cases dropped : Text.dropEnd? ['\r'] line with
  | none => exact ⟨[], by simp, by simp⟩
  | some rest => exact ⟨['\r'], Text.dropEnd?_eq_some_iff.mp dropped, by simp⟩

/-- Carriage returns at its end do not make a line a comment. -/
theorem isComment_append {returns : List Char} (only : ∀ c ∈ returns, c = '\r') (line : List Char) :
    isComment (line ++ returns) = isComment line := by
  have blank : Text.allBlank returns = true := Text.allBlank_eq_true_iff.mpr fun c member => by
    rw [only c member]
    decide
  rw [isComment, isComment, Text.trim_append_right blank]

/-- A slash behind blanks is stray, unless one of the blanks is already. -/
theorem strays_append {before : List Char} (blank : Text.allBlank before = true)
    (rest : List Char) : Strays (before ++ '/' :: rest) := by
  induction before with
  | nil => exact ⟨'/', rest, rfl, rfl⟩
  | cons c before inductionHypothesis =>
      rw [Text.allBlank_cons, Bool.and_eq_true] at blank
      cases space : Json.isSpace c with
      | true =>
          obtain ⟨d, after, there, stray⟩ := inductionHypothesis blank.2
          refine ⟨d, after, ?_, stray⟩
          rwa [Json.skipSpace, List.cons_append, List.dropWhile_cons_of_pos space]
      | false =>
          have stray : isStray c = true := by simp [isStray, blank.1, space]
          exact ⟨c, _, Json.skipSpace_cons space _, stray⟩

/-- A comment begins with a stray character. -/
theorem strays_of_isComment {line : List Char} (comment : isComment line = true)
    (rest : List Char) : Strays (line ++ rest) := by
  obtain ⟨more, slashes⟩ := Option.isSome_iff_exists.mp comment
  obtain ⟨before, after, blank, -, whole⟩ := Text.exists_trim line
  rw [Text.dropStart?_eq_some_iff.mp slashes] at whole
  rw [whole, List.append_assoc, List.append_assoc]
  exact strays_append blank _

/-! ## The lines of both texts -/

/-- The lines of the left text that are no comments are the right ones, but for carriage returns at
their ends. -/
inductive Kept : List (List Char) → List (List Char) → Prop where
  | nil : Kept [] []
  | line (line returns : List Char) (only : ∀ c ∈ returns, c = '\r')
      {lines others : List (List Char)} (later : Kept lines others) :
      Kept ((line ++ returns) :: lines) (line :: others)
  | comment {comment : List Char} (isComment : isComment comment = true)
      {lines others : List (List Char)} (later : Kept lines others) :
      Kept (comment :: lines) others

/-- Taking the comments out takes out those that were put in. -/
theorem Commented.kept {lines others : List (List Char)} (commented : Commented lines others) :
    Kept lines (others.filter fun line => !isComment line) := by
  induction commented with
  | nil => exact .nil
  | @line line lines others later inductionHypothesis =>
      cases comment : isComment line with
      | true =>
          rw [List.filter_cons, comment]
          exact .comment comment inductionHypothesis
      | false =>
          rw [List.filter_cons, comment]
          have kept := inductionHypothesis.line line [] (by simp)
          rwa [List.append_nil] at kept
  | @ended line lines others later inductionHypothesis =>
      obtain ⟨returns, whole, only⟩ := exists_dropReturn line
      have same : isComment line = isComment (Text.dropReturn line) :=
        (congrArg isComment whole).trans (isComment_append only _)
      cases comment : isComment line with
      | true =>
          rw [List.filter_cons, ← same, comment]
          exact .comment comment inductionHypothesis
      | false =>
          rw [List.filter_cons, ← same, comment]
          have kept := inductionHypothesis.line (Text.dropReturn line) returns only
          rwa [← whole] at kept
  | comment isComment later inductionHypothesis =>
      rw [List.filter_cons, isComment]
      exact inductionHypothesis

/-- Every line with a line break in front. -/
def feed (lines : List (List Char)) : List Char :=
  lines.flatMap fun line => '\n' :: line

theorem endsLine_feed (lines : List (List Char)) : EndsLine (feed lines) := by
  intro c first
  cases lines with
  | nil => contradiction
  | cons line lines => exact (Option.some.inj first).symm

theorem feed_cons (line : List Char) (lines : List (List Char)) :
    feed (line :: lines) = '\n' :: (line ++ feed lines) := rfl

/-- Carriage returns before the end of a line go. -/
theorem relined_append {line returns left right : List Char} (only : ∀ c ∈ returns, c = '\r')
    (ends : EndsLine right) (later : Relined left right) :
    Relined (line ++ returns ++ left) (line ++ right) := by
  induction line with
  | nil =>
      induction returns with
      | nil => exact later
      | cons c returns inductionHypothesis =>
          obtain rfl := only c (List.mem_cons_self ..)
          exact .carriage ends (inductionHypothesis fun d member =>
            only d (List.mem_cons_of_mem _ member))
  | cons c line inductionHypothesis => exact inductionHypothesis.same c

/-- The lines that are kept are the old lines otherwise, also with a last line break behind these. -/
theorem Kept.relined {lines others : List (List Char)} (kept : Kept lines others)
    {last : List Char} (ends : Relined last []) : Relined (feed lines ++ last) (feed others) := by
  induction kept with
  | nil => exact ends
  | @line line returns only lines others later inductionHypothesis =>
      rw [feed_cons, feed_cons, List.cons_append, List.append_assoc]
      exact (relined_append only (endsLine_feed others) inductionHypothesis).same '\n'
  | @comment comment isComment lines others later =>
      rw [feed_cons, List.cons_append, List.append_assoc]
      exact .stray (endsLine_feed others) (strays_of_isComment isComment _)

/-- Lines may be given back the carriage returns that ended them. -/
theorem Kept.of_dropReturn {before tail others : List (List Char)}
    (kept : Kept (before.map Text.dropReturn ++ tail) others) : Kept (before ++ tail) others := by
  induction before generalizing others with
  | nil => exact kept
  | cons piece before inductionHypothesis =>
      obtain ⟨returns, whole, only⟩ := exists_dropReturn piece
      rw [List.map_cons, List.cons_append] at kept
      generalize Text.dropReturn piece = bare at kept whole
      cases kept with
      | line line more onlyMore later =>
          have piece : piece = line ++ (more ++ returns) := by rw [whole, List.append_assoc]
          rw [piece]
          refine (inductionHypothesis later).line line (more ++ returns) fun c member => ?_
          exact (List.mem_append.mp member).elim (onlyMore c) (only c)
      | comment isComment later =>
          refine .comment ?_ (inductionHypothesis later)
          rw [whole, isComment_append only, isComment]

/-- The pieces of a text, and its lines among them. -/
theorem exists_pieces (text : List Char) :
    ∃ before last, '\n' :: text = feed (before ++ [last]) ∧
      Text.lines text = before.map Text.dropReturn ++ if last = [] then [] else [last] := by
  obtain ⟨before, last, parts⟩ : ∃ before last, text.splitOn '\n' = before ++ [last] :=
    ⟨_, _, (List.dropLast_concat_getLast (List.splitOn_ne_nil '\n' text)).symm⟩
  refine ⟨before, last, ?_, ?_⟩
  · rw [feed, ← Text.cons_join (by simp), ← parts, Text.join_splitOn]
  · cases last <;> simp [Text.lines, parts]

/-- A text is the lines in which it stands, whatever was put between them and taken out again. -/
theorem Commented.relined {contents commented : List Char}
    (lines : Commented (Text.lines contents) (Text.lines commented)) :
    Relined ('\n' :: contents)
      (feed ((Text.lines commented).filter fun line => !isComment line)) := by
  obtain ⟨before, last, whole, pieces⟩ := exists_pieces contents
  have kept := lines.kept
  rw [pieces] at kept
  rw [whole]
  by_cases ended : last = []
  · -- The text ends with a line break.
    rw [if_pos ended] at kept
    rw [ended, feed, List.flatMap_append]
    have old := kept.of_dropReturn
    rw [List.append_nil] at old
    exact old.relined .lastBreak
  · rw [if_neg ended] at kept
    have old := kept.of_dropReturn.relined .nil
    rwa [List.append_nil] at old

/-- Reading does not mind a line break in front. -/
theorem readDocument_feed (lines : List (List Char)) :
    readDocument (feed lines) = readDocument (Text.join '\n' lines) := by
  cases lines with
  | nil => rfl
  | cons line lines =>
      rw [feed, ← Text.cons_join (List.cons_ne_nil line lines)]
      rfl

/-- Settings that can be read as they stand are read the same by the reader that knows comments, and
they still are when lines that are comments, of whatever content and with whatever line ends, are put
before, between and behind their lines. -/
theorem parse_commented {contents : String} {settings : Settings}
    (plain : readDocument contents.toList = .ok settings) :
    parse contents = .ok settings ∧
      ∀ commented : String,
        Commented (Text.lines contents.toList) (Text.lines commented.toList) →
        parse commented = .ok settings := by
  have read : readDocument ('\n' :: contents.toList) = .ok settings := plain
  have commented (text : String)
      (lines : Commented (Text.lines contents.toList) (Text.lines text.toList)) :
      parse text = .ok settings := by
    rw [parse, dropComments, ← readDocument_feed]
    exact readDocument_relined lines.relined read
  refine ⟨commented contents ?_, commented⟩
  induction Text.lines contents.toList with
  | nil => exact .nil
  | cons line lines inductionHypothesis => exact inductionHypothesis.line line

/-- Comments stand before, between and behind the lines of settings, one of them behind a blank that
JSON does not know, and the last line loses its carriage return. -/
theorem parse_commented_everywhere :
    let contents := "\x7b\r\n\"http://a\": [-0, \x7b\x7d],\n\"recent.capacity\": 4\x7d\r"
    let commented := "// top\r\n\x7b\n\u00a0//, \"recent.capacity\": 5\r\n\"http://a\": [-0, " ++
      "\x7b\x7d],\n\"recent.capacity\": 4\x7d\r\n  //"
    ∃ settings, readDocument contents.toList = .ok settings ∧ parse contents = .ok settings ∧
      parse commented = .ok settings ∧ settings.recentCapacity = 4 := by
  intro contents commented
  have lines : Text.lines contents.toList = ["\x7b".toList, "\"http://a\": [-0, \x7b\x7d],".toList,
      "\"recent.capacity\": 4\x7d\r".toList] := by decide +kernel
  have more : Text.lines commented.toList = ["// top".toList, "\x7b".toList,
      "\u00a0//, \"recent.capacity\": 5".toList, "\"http://a\": [-0, \x7b\x7d],".toList,
      Text.dropReturn "\"recent.capacity\": 4\x7d\r".toList, "  //".toList] := by decide +kernel
  have between : Commented (Text.lines contents.toList) (Text.lines commented.toList) := by
    rw [lines, more]
    exact .comment (by decide +kernel) <| .line _ <| .comment (by decide +kernel) <| .line _ <|
      .ended _ <| .comment (by decide +kernel) .nil
  have capacity : (readDocument contents.toList).toOption.map recentCapacity = some 4 := by
    decide +kernel
  cases plain : readDocument contents.toList with
  | error fault => simp [plain, Except.toOption] at capacity
  | ok settings =>
      obtain ⟨same, others⟩ := parse_commented plain
      refine ⟨settings, rfl, same, others commented between, ?_⟩
      simpa [plain, Except.toOption] using capacity

end QueryNotebook.Settings
