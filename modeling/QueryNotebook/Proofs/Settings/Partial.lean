import QueryNotebook.Proofs.Settings.Commented
import QueryNotebook.Proofs.Settings.Fields

/-!
# Settings files that give some of the settings

A settings file is an object whose members may stand in any order and may hold members of other names,
with values of any kind.  What it gives overrides the defaults, field by field, and nothing else
counts.  A setting that is given twice makes the file unreadable, and so does a name that spells half
of a surrogate pair, even when it is the name of no setting.

The reader goes over the members once, from front to back.  That the order does not count rests on two
things: a field is set to what its text stands for, whatever was read before, and every value is left
behind at its end, whether it was wanted or not.
-/

namespace QueryNotebook.Settings

open Json (Blanks EndsNumber Member ObjectText Takes Passes Derives Relined)

/-! ## Members that give fields -/

/-- The member is the one of the field. -/
def Gives (member : Member) (field : Field) : Prop :=
  member.Named field.key

/-- Two of the members give the same field. -/
def GivenTwice (members : List Member) (field : Field) : Prop :=
  ∃ first second, List.Sublist [first, second] members ∧ Gives first field ∧ Gives second field

/-- The defaults with exactly the given fields replaced by the values that are written. -/
structure Overridden (settings : Settings) (members : List Member) : Prop where
  given : ∀ member ∈ members, ∀ field, Gives member field → settings.Written member.value field
  others : ∀ field, (∀ member ∈ members, ¬ Gives member field) →
    settings.fieldDatum field = default.fieldDatum field

theorem Field.key_of_ofKey? {name : String} {field : Field}
    (known : Field.ofKey? name = some field) : field.key = name := by
  rw [Field.ofKey?] at known
  simpa using List.find?_some known

/-- Which field a member gives is seen from its name. -/
theorem gives_iff {member : Member} {name : String} (named : member.Named name) {field : Field} :
    Gives member field ↔ Field.ofKey? name = some field := by
  constructor
  · intro gives
    rw [named.unique gives, Field.ofKey?_key]
  · intro known
    rw [Gives, Field.key_of_ofKey? known]
    exact named

/-- No field is given twice. -/
theorem not_givenTwice_iff {members : List Member} :
    (∀ field, ¬ GivenTwice members field) ↔
      members.Pairwise fun first second => ∀ field, Gives first field → ¬ Gives second field := by
  rw [List.pairwise_iff_forall_sublist]
  constructor
  · intro once first second inside field gives again
    exact once field ⟨first, second, inside, gives, again⟩
  · rintro apart field ⟨first, second, inside, gives, again⟩
    exact apart inside field gives again

theorem not_givenTwice_of_perm {members others : List Member} (order : others.Perm members)
    (once : ∀ field, ¬ GivenTwice members field) (field : Field) : ¬ GivenTwice others field := by
  refine not_givenTwice_iff.mpr (order.symm.pairwise (not_givenTwice_iff.mp once) ?_) field
  exact fun apart field gives again => apart field again gives

/-! ## What is given overrides the defaults -/

theorem Overridden.perm {settings : Settings} {members others : List Member}
    (overridden : settings.Overridden members) (order : others.Perm members) :
    settings.Overridden others where
  given member inside := overridden.given member (order.mem_iff.mp inside)
  others field none := overridden.others field fun member inside =>
    none member (order.mem_iff.mpr inside)

/-- The given fields determine the settings. -/
theorem Overridden.unique {settings other : Settings} {members : List Member}
    (overridden : settings.Overridden members) (again : other.Overridden members) :
    settings = other := by
  apply eq_of_fieldDatum
  intro field
  by_cases given : ∃ member ∈ members, Gives member field
  · obtain ⟨member, inside, gives⟩ := given
    exact (overridden.given member inside field gives).unique (again.given member inside field gives)
  · have none : ∀ member ∈ members, ¬ Gives member field := fun member inside gives =>
      given ⟨member, inside, gives⟩
    rw [overridden.others field none, again.others field none]

variable {members : List Member}

/-- Members of different fields are taken one after another, and every value goes to its field. -/
theorem exists_takes (named : ∀ member ∈ members, ∃ name, member.Named name)
    (values : ∀ member ∈ members, Derives .value member.value)
    (once : members.Pairwise fun first second =>
      ∀ field, Gives first field → ¬ Gives second field)
    (written : ∀ member ∈ members, ∀ field, Gives member field →
      ∃ source : Settings, source.Written member.value field)
    (progress : Progress)
    (fresh : ∀ member ∈ members, ∀ field, Gives member field → field ∉ progress.2) :
    ∃ final, Takes readMember progress members final ∧
      (∀ member ∈ members, ∀ field, Gives member field → final.1.Written member.value field) ∧
      ∀ field, (∀ member ∈ members, ¬ Gives member field) →
        final.1.fieldDatum field = progress.1.fieldDatum field := by
  induction members generalizing progress with
  | nil => exact ⟨progress, .nil progress, by simp, fun _ _ => rfl⟩
  | cons member others inductionHypothesis =>
      obtain ⟨⟨name, known⟩, named⟩ := List.forall_mem_cons.mp named
      obtain ⟨value, values⟩ := List.forall_mem_cons.mp values
      obtain ⟨apart, once⟩ := List.pairwise_cons.mp once
      obtain ⟨writtenHere, written⟩ := List.forall_mem_cons.mp written
      obtain ⟨freshHere, fresh⟩ := List.forall_mem_cons.mp fresh
      have later := inductionHypothesis named values once written
      cases setting : Field.ofKey? name with
      | none =>
          have givesNone : ∀ field, ¬ Gives member field := fun field gives => by
            simp [(gives_iff known).mp gives] at setting
          obtain ⟨final, takes, given, kept⟩ := later progress fresh
          exact ⟨final, .cons known (fun _ => readMember_of_ofKey?_none setting value progress) takes,
            List.forall_mem_cons.mpr ⟨fun field gives => absurd gives (givesNone field), given⟩,
            fun field none => kept field (List.forall_mem_cons.mp none).2⟩
      | some field =>
          have gives : Gives member field := (gives_iff known).mpr setting
          obtain ⟨source, sourced⟩ := writtenHere field gives
          obtain ⟨final, takes, given, kept⟩ :=
            later (takeOver source progress.1 field, field :: progress.2) (by
              intro other inside found givesFound seen
              rcases List.mem_cons.mp seen with rfl | before
              · exact apart other inside _ gives givesFound
              · exact fresh other inside found givesFound before)
          refine ⟨final,
            .cons known (fun _ => sourced.readMember setting (freshHere field gives)) takes,
            List.forall_mem_cons.mpr ⟨fun found givesFound => ?_, given⟩, fun other none => ?_⟩
          · obtain rfl := Option.some.inj (setting.symm.trans ((gives_iff known).mp givesFound))
            refine sourced.congr ?_
            rw [kept field fun other inside => apart other inside field gives]
            exact fieldDatum_takeOver_self source progress.1 field
          · obtain ⟨noneHere, none⟩ := List.forall_mem_cons.mp none
            have different : other ≠ field := by
              rintro rfl
              exact noneHere gives
            rw [kept other none]
            exact fieldDatum_takeOver_of_ne source progress.1 different

/-- An object whose members are taken is read. -/
theorem readDocument_object {contents : List Char} (object : ObjectText contents members)
    {final : Progress} (takes : Takes readMember (default, []) members final) :
    readDocument contents = .ok final.1 := by
  obtain ⟨before, text, after, rfl, blank, derived, blankAfter⟩ := object
  obtain ⟨body, there, read⟩ := takes.readMembers_object derived after
  have empty : Json.skipSpace after = [] := by
    have skipped := Json.skipSpace_append blankAfter []
    rwa [List.append_nil] at skipped
  have value : readValue (before ++ (text ++ after)) = .ok (final.1, after) := by
    rw [readValue, Json.skipSpace_append blank, there, Json.skipSpace_cons rfl]
    simp only [read]
    rfl
  simp only [readDocument, value, Json.endDocument, empty, bind, Except.bind]
  rfl

/-- A text stands in its own lines. -/
theorem commented_self (lines : List (List Char)) : Commented lines lines := by
  induction lines with
  | nil => exact .nil
  | cons line lines inductionHypothesis => exact inductionHypothesis.line line

/-- What is left of a text without its comments, with a line break in front of every line, is the text
in other lines. -/
theorem relined_feed (contents : List Char) :
    Relined ('\n' :: contents)
      (feed ((Text.lines contents).filter fun line => !isComment line)) :=
  (commented_self _).relined

theorem parse_eq (contents : String) :
    parse contents =
      readDocument (feed ((Text.lines contents.toList).filter fun line => !isComment line)) :=
  (readDocument_feed _).symm

/-- An object whose members are taken is parsed. -/
theorem parse_object {contents : String} (object : ObjectText contents.toList members)
    {final : Progress} (takes : Takes readMember (default, []) members final) :
    parse contents = .ok final.1 := by
  have plain : readDocument ('\n' :: contents.toList) = .ok final.1 :=
    readDocument_object object takes
  rw [parse_eq]
  exact readDocument_relined (relined_feed _) plain

/-! ## What cannot be parsed -/

/-- A member that is read has its colon, and behind it either a value that is skipped, if the member is
of another name, or the value of a field that was not marked before and is marked now. -/
theorem readMember_cases {progress next : Progress} {name : String} {text rest : List Char}
    (read : readMember progress name text = .ok (next, rest)) :
    ∃ value, Json.afterColon text = .ok value ∧
      ((Field.ofKey? name = none ∧ Json.skipAny value = .ok rest ∧ next = progress) ∨
        ∃ field settings, Field.ofKey? name = some field ∧ field ∉ progress.2 ∧
          readField progress.1 value field = .ok (settings, rest) ∧
            next = (settings, field :: progress.2)) := by
  rw [readMember] at read
  split at read
  · next unknown =>
    obtain ⟨value, colon, read⟩ := Json.bind_eq_ok_iff.mp read
    obtain ⟨after, skipped, same⟩ := Json.bind_eq_ok_iff.mp read
    obtain ⟨rfl, rfl⟩ := Prod.mk.inj (Except.ok.inj same)
    exact ⟨value, colon, .inl ⟨unknown, skipped, rfl⟩⟩
  · next field known =>
    split at read
    · contradiction
    · next new =>
      obtain ⟨value, colon, read⟩ := Json.bind_eq_ok_iff.mp read
      obtain ⟨⟨settings, after⟩, written, same⟩ := Json.bind_eq_ok_iff.mp read
      obtain ⟨rfl, rfl⟩ := Prod.mk.inj (Except.ok.inj same)
      exact ⟨value, colon, .inr ⟨field, settings, known, new, written, rfl⟩⟩

/-- A member is read from end to end. -/
theorem follows_readMember : Json.Follows readMember := by
  intro progress name text next rest read
  obtain ⟨value, colon, ⟨-, skipped, -⟩ | ⟨field, settings, -, -, written, -⟩⟩ :=
    readMember_cases read
  · exact ⟨value, colon, skipped⟩
  · exact ⟨value, colon, skipAny_of_readField written⟩

/-- A member marks the field that it gives, and it must not be marked before. -/
theorem marked_of_readMember {progress next : Progress} {name : String} {text rest : List Char}
    (read : readMember progress name text = .ok (next, rest)) :
    next.2 = (Field.ofKey? name).toList ++ progress.2 ∧
      ∀ field, Field.ofKey? name = some field → field ∉ progress.2 := by
  obtain ⟨-, -, ⟨unknown, -, rfl⟩ | ⟨field, settings, known, new, -, rfl⟩⟩ := readMember_cases read
  · simp [unknown]
  · simp [known, new]

/-- Members that were taken have names and give different fields, none of them a marked one. -/
theorem apart_of_passes {progress final : Progress}
    (passes : Passes readMember progress members final) :
    (∀ member ∈ members, ∃ name, member.Named name) ∧
      (members.Pairwise fun first second => ∀ field, Gives first field → ¬ Gives second field) ∧
      ∀ member ∈ members, ∀ field, Gives member field → field ∉ progress.2 := by
  induction passes with
  | nil => simp
  | @cons progress next final member name others text rest known stepped _ inductionHypothesis =>
      obtain ⟨named, once, fresh⟩ := inductionHypothesis
      obtain ⟨marked, new⟩ := marked_of_readMember stepped
      have freshHere (field : Field) (gives : Gives member field) : field ∉ progress.2 :=
        new field ((gives_iff known).mp gives)
      refine ⟨List.forall_mem_cons.mpr ⟨⟨name, known⟩, named⟩, List.pairwise_cons.mpr ⟨?_, once⟩,
        List.forall_mem_cons.mpr ⟨freshHere, ?_⟩⟩
      · intro other inside field gives again
        refine fresh other inside field again ?_
        simp [marked, (gives_iff known).mp gives]
      · intro other inside field gives before
        refine fresh other inside field gives ?_
        rw [marked]
        exact List.mem_append_right _ before

/-- Where an object is parsed, its members were taken. -/
theorem passes_of_parse {contents : String} (object : ObjectText contents.toList members)
    {settings : Settings} (parsed : parse contents = .ok settings) :
    ∃ final, Passes readMember (default, []) members final := by
  obtain ⟨before, text, after, whole, blank, derived, -⟩ := object
  have lined := relined_feed contents.toList
  rw [parse_eq] at parsed
  generalize feed _ = right at lined parsed
  obtain ⟨⟨found, rest⟩, value, -⟩ := Json.bind_eq_ok_iff.mp parsed
  have blankLine : Blanks ('\n' :: before) := List.forall_mem_cons.mpr ⟨rfl, blank⟩
  have brace : ∃ inner, Json.skipSpace ('\n' :: contents.toList) = '\x7b' :: inner := by
    rw [whole, ← List.cons_append, Json.skipSpace_append blankLine]
    cases derived <;> exact ⟨_, Json.skipSpace_cons rfl _⟩
  obtain ⟨inner, brace⟩ := brace
  obtain ⟨body, there, -⟩ := lined.skipSpace_eq_cons brace (by decide)
  rw [readValue, there] at value
  obtain ⟨⟨final, last⟩, read, -⟩ := Json.map_eq_ok_iff.mp value
  rw [whole] at lined
  exact ⟨final, derived.passes follows_readMember blankLine lined there read⟩

/-- What an object gives overrides the defaults, and nothing else counts.  An object whose names are
texts, that gives no field twice and whose given values each stand for a value of their field is parsed
to the defaults with exactly the given fields replaced.  Every object with the same members in another
order or layout is parsed to the same settings; members of other names may hold values of any kind.  An
object that gives a field twice is never parsed, nor is one with a name that is no text. -/
theorem given_fields_override {contents : String}
    (object : ObjectText contents.toList members) :
    ((∀ member ∈ members, ∃ name, member.Named name) → (∀ field, ¬ GivenTwice members field) →
      (∀ member ∈ members, ∀ field, Gives member field →
        ∃ source : Settings, source.Written member.value field) →
      ∃ settings, parse contents = .ok settings ∧ settings.Overridden members ∧
        ∀ (text : String) (others : List Member), ObjectText text.toList others →
          others.Perm members → parse text = .ok settings) ∧
    (∀ field, GivenTwice members field → ∃ fault, parse contents = .error fault) ∧
    (∀ member ∈ members, (∀ name, ¬ member.Named name) →
      ∃ fault, parse contents = .error fault) := by
  have refused (unparsed : ∀ settings, parse contents ≠ .ok settings) :
      ∃ fault, parse contents = .error fault := by
    cases result : parse contents with
    | error fault => exact ⟨fault, rfl⟩
    | ok settings => exact absurd result (unparsed settings)
  refine ⟨fun named once written => ?_, fun field twice => ?_, fun member inside nameless => ?_⟩
  · have parsed {text : String} {others : List Member} (object : ObjectText text.toList others)
        (order : others.Perm members) :
        ∃ settings, parse text = .ok settings ∧ settings.Overridden members := by
      obtain ⟨final, takes, given, kept⟩ := exists_takes
        (fun member inside => named member (order.mem_iff.mp inside)) object.value_of_mem
        (not_givenTwice_iff.mp (not_givenTwice_of_perm order once))
        (fun member inside => written member (order.mem_iff.mp inside)) (default, []) (by simp)
      have overridden : final.1.Overridden others := ⟨given, kept⟩
      exact ⟨final.1, parse_object object takes, overridden.perm order.symm⟩
    obtain ⟨settings, whole, overridden⟩ := parsed object (List.Perm.refl members)
    refine ⟨settings, whole, overridden, fun text others other order => ?_⟩
    obtain ⟨found, reordered, again⟩ := parsed other order
    rw [reordered, again.unique overridden]
  · refine refused fun settings whole => ?_
    obtain ⟨final, passes⟩ := passes_of_parse object whole
    exact not_givenTwice_iff.mpr (apart_of_passes passes).2.1 field twice
  · refine refused fun settings whole => ?_
    obtain ⟨final, passes⟩ := passes_of_parse object whole
    obtain ⟨name, named⟩ := (apart_of_passes passes).1 member inside
    exact nameless name named

/-- A member of another name is passed over, although it holds a number that is too large, the name of a
setting and half of a surrogate pair.  The name of a setting may be spelled with a code, and stays the
same name. -/
theorem given_fields_override_nested :
    let contents := "\x7b\"x\":[1e999,\x7b\"recent.capacity\":\"\\ud800\"\x7d]," ++
      "\"recent\\u002ecapacity\":4\x7d"
    let reordered := "\x7b\"recent\\u002ecapacity\" : 4,\r\n" ++
      "\"x\":[1e999,\x7b\"recent.capacity\":\"\\ud800\"\x7d]\x7d"
    let twice := "\x7b\"recent.capacity\":4,\"recent\\u002ecapacity\":[]\x7d"
    ∃ settings, parse contents = .ok settings ∧ parse reordered = .ok settings ∧
      settings.recentCapacity = 4 ∧ settings.completionEnabled = true ∧
      ∃ fault, parse twice = .error fault := by
  intro contents reordered twice
  have blank : Blanks [] := by decide
  have letter : Json.Quotable "x".toList := .of_plain (by decide)
  have bare : Json.Quotable "recent.capacity".toList := .of_plain (by decide)
  have coded : Json.Quotable "recent\\u002ecapacity".toList :=
    @Json.Quotable.plain_append "recent".toList _ (by decide)
      (.code (by decide) (.of_plain (by decide)))
  have half : Json.Quotable "\\ud800".toList := .code (by decide) .nil
  have four : Derives .value "4".toList :=
    .number (@Json.Number.parts [] ['4'] [] [] (by decide) ⟨by decide, by decide⟩
      .absent .absent)
  have huge : Derives .value "1e999".toList :=
    .number (@Json.Number.parts [] ['1'] [] "e999".toList (by decide)
      ⟨by decide, by decide⟩ .absent
      (@Json.ExponentPart.present 'e' [] "999".toList (.inl rfl) (by decide) (by decide)))
  have nested : Derives .value "[1e999,\x7b\"recent.capacity\":\"\\ud800\"\x7d]".toList :=
    .array (.nextElement huge.bareElement (.lastElement
      (Derives.bareElement (.value (.object (.lastMember (.bareMember bare (.text half))))))))
  let unknown : Member := ⟨"x".toList, "[1e999,\x7b\"recent.capacity\":\"\\ud800\"\x7d]".toList⟩
  let capacity : Member := ⟨"recent\\u002ecapacity".toList, "4".toList⟩
  have object : ObjectText contents.toList [unknown, capacity] :=
    .of_object (.object (.nextMember (.bareMember letter nested)
      (.lastMember (.bareMember coded four)))) (by decide +kernel)
  have other : ObjectText reordered.toList [capacity, unknown] :=
    .of_object (.object (.nextMember
      (@Derives.member capacity [] [' '] [' '] [] blank coded (by decide) (by decide) four blank)
      (.lastMember (@Derives.member unknown ['\r', '\n'] [] [] [] (by decide) letter blank blank nested
        blank)))) (by decide +kernel)
  have repeated : ObjectText twice.toList
      [⟨"recent.capacity".toList, "4".toList⟩, ⟨"recent\\u002ecapacity".toList, ['[', ']']⟩] :=
    .of_object (.object (.nextMember (.bareMember bare four)
      (.lastMember (.bareMember coded (.emptyArray blank))))) (by decide +kernel)
  have unknownNamed : unknown.Named "x" :=
    (letter.spelledAs_of_scanString
      (by decide +kernel : Json.scanString ("x".toList ++ ['\x22']) = .ok ("x".toList, []))).1
  have codedNamed : capacity.Named "recent.capacity" :=
    (coded.spelledAs_of_scanString
      (by decide +kernel : Json.scanString ("recent\\u002ecapacity".toList ++ ['\x22']) =
        .ok ("recent.capacity".toList, []))).1
  have unknownGives (field : Field) : ¬ Gives unknown field := by
    rw [gives_iff unknownNamed]
    cases field <;> decide
  have capacityGives (field : Field) : Gives capacity field ↔ field = .recentCapacity := by
    rw [gives_iff codedNamed]
    cases field <;> decide
  have written : ({ default with recentCapacity := 4 } : Settings).Written capacity.value
      .recentCapacity := ⟨by decide, by decide⟩
  obtain ⟨settings, parsed, overridden, reorder⟩ := (given_fields_override object).1
    (by simpa using ⟨⟨_, unknownNamed⟩, ⟨_, codedNamed⟩⟩)
    (not_givenTwice_iff.mpr (by simp [unknownGives])) (by
      intro member inside field gives
      simp only [List.mem_cons, List.not_mem_nil, or_false] at inside
      rcases inside with rfl | rfl
      · exact absurd gives (unknownGives field)
      · exact (capacityGives field).mp gives ▸ ⟨_, written⟩)
  have four := (overridden.given capacity (by simp) _ ((capacityGives _).mpr rfl)).unique written
  have kept := overridden.others .completionEnabled (by simp [unknownGives, capacityGives])
  refine ⟨settings, parsed, reorder reordered _ other (List.Perm.swap ..), ofNat_inj.mp four,
    by simpa [fieldDatum, default] using kept, ?_⟩
  refine (given_fields_override repeated).2.1 .recentCapacity ⟨_, _, List.Sublist.refl _, ?_, ?_⟩
  · exact (bare.spelledAs_of_scanString
      (by decide +kernel : Json.scanString ("recent.capacity".toList ++ ['\x22']) =
        .ok ("recent.capacity".toList, []))).1
  · exact codedNamed

/-- A name that spells half of a surrogate pair is no text, and an object with such a name cannot be
parsed, although it gives nothing. -/
theorem half_pair_name_refused :
    let contents := "\x7b\"\\ud800\": 1\x7d"
    let member : Member := ⟨"\\ud800".toList, "1".toList⟩
    ObjectText contents.toList [member] ∧ (∀ field, ¬ Gives member field) ∧
      ∀ settings, parse contents ≠ .ok settings := by
  intro contents member
  have blank : Blanks [] := by decide
  have half : Json.Quotable member.name := .code (by decide) .nil
  have one : Derives .value member.value :=
    .number (@Json.Number.parts [] ['1'] [] [] (by decide) ⟨by decide, by decide⟩
      .absent .absent)
  have object : ObjectText contents.toList [member] :=
    .of_object (.object (.lastMember (.member blank half blank (by decide : Blanks [' ']) one blank)))
      (by decide +kernel)
  have nameless (name : String) : ¬ member.Named name := by
    intro named
    have scanned := Json.scanString_eq_ok_iff.mpr ⟨_, named, (rfl : member.name ++ ['\x22'] = _)⟩
    have broken : (Json.scanString (member.name ++ ['\x22'])).toOption = none := by decide +kernel
    simp [scanned, Except.toOption] at broken
  refine ⟨object, fun field => nameless _, ?_⟩
  intro settings parsed
  have refused : (parse contents).toOption.isNone = true := by decide +kernel
  simp [parsed, Except.toOption] at refused

end QueryNotebook.Settings
