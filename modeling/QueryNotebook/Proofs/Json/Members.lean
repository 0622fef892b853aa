import QueryNotebook.Proofs.Json.Wanted

/-!
# The members of an object in any layout

An object whose members a reader takes one after another is read, wherever its blanks stand.  Conversely
a reader that succeeds on an object, or on the same object in other lines, has taken every one of its
members, provided that it reads each value from end to end.
-/

namespace QueryNotebook.Json

/-- The text that the name of a member spells.  A name that spells half of a surrogate pair is none. -/
def Member.Named (member : Member) (name : String) : Prop :=
  SpelledAs member.name name.toList

/-- A name spells one text at most. -/
theorem Member.Named.unique {member : Member} {name other : String} (named : member.Named name)
    (again : member.Named other) : name = other := by
  have scanned := scanString_eq_ok_iff.mpr ⟨_, named, (rfl : member.name ++ ['\x22'] = _)⟩
  rw [scanString_eq_ok_iff.mpr ⟨_, again, rfl⟩] at scanned
  exact String.toList_inj.mp (Prod.mk.inj (Except.ok.inj scanned)).1.symm

section Members

variable {σ : Type} {step : σ → String → List Char → Scan σ}

/-! ## Members that are taken -/

/-- A reader takes some members one after another: of every name, and of every value where a number
can end, it makes the next state, whatever blanks stand around the colon. -/
inductive Takes (step : σ → String → List Char → Scan σ) : σ → List Member → σ → Prop where
  | nil (state : σ) : Takes step state [] state
  | cons {state next final : σ} {member : Member} {name : String} {others : List Member}
      (named : member.Named name)
      (reads : ∀ {between lead : List Char} (rest : List Char), Blanks between → Blanks lead →
        EndsNumber rest →
        step state name (between ++ ':' :: (lead ++ (member.value ++ rest))) = .ok (next, rest))
      (later : Takes step next others final) : Takes step state (member :: others) final

/-- A colon is read behind its blanks. -/
theorem afterColon_blanks {blanks : List Char} (blank : Blanks blanks) (rest : List Char) :
    afterColon (blanks ++ ':' :: rest) = .ok rest := by
  rw [afterColon, skipSpace_append blank, skipSpace_cons rfl]
  rfl

/-- Members are read behind their blanks. -/
theorem foldMembers_blanks {blanks : List Char} (blank : Blanks blanks) (fuel : Nat) (first : Bool)
    (state : σ) (rest : List Char) :
    foldMembers step fuel first state (blanks ++ rest) = foldMembers step fuel first state rest := by
  cases fuel with
  | zero => rfl
  | succ fuel => rw [foldMembers_succ, foldMembers_succ, skipSpace_append blank]

/-- A member that is taken is read from the quote of its name on. -/
theorem Derives.membersFrom_member {member : Member} {text rest : List Char} {state next : σ}
    {name : String} (derived : Derives (.member member) text) (named : member.Named name)
    (reads : ∀ {between lead : List Char} (rest : List Char), Blanks between → Blanks lead →
      EndsNumber rest →
      step state name (between ++ ':' :: (lead ++ (member.value ++ rest))) = .ok (next, rest))
    (ends : EndsNumber rest) :
    ∃ nameText, skipSpace (text ++ rest) = '\x22' :: nameText ∧
      ∀ fuel, membersFrom step fuel state nameText = foldMembers step fuel false next rest := by
  cases derived with
  | @member _ before between lead after blank _ blankBetween blankLead _ blankAfter =>
      refine ⟨member.name ++ '\x22' :: (between ++ ':' :: (lead ++ (member.value ++
        (after ++ rest)))), ?_, fun fuel => ?_⟩
      · simp [quoted, skipSpace_append blank, skipSpace_cons (rfl : isSpace '\x22' = false)]
      · have read := reads (after ++ rest) blankBetween blankLead (ends.blanks_append blankAfter)
        simp only [membersFrom, scanString_eq_ok_iff.mpr ⟨_, named, rfl⟩, String.ofList_toList, read,
          foldMembers_blanks blankAfter]

/-- Members that are taken are read up to the closing brace. -/
theorem Takes.membersFrom_members {state final : σ} {members : List Member}
    (takes : Takes step state members final) {text : List Char}
    (derived : Derives (.members members) text) (rest : List Char) :
    ∃ nameText, skipSpace (text ++ '\x7d' :: rest) = '\x22' :: nameText ∧
      ∀ fuel, members.length ≤ fuel →
        membersFrom step fuel state nameText = .ok (final, rest) := by
  induction takes generalizing text with
  | nil => cases derived
  | cons named reads later inductionHypothesis =>
      cases derived with
      | lastMember derived =>
          cases later
          have ends : EndsNumber ('\x7d' :: rest) := endsNumber_mark (by decide) rest
          obtain ⟨nameText, there, read⟩ := derived.membersFrom_member named reads ends
          refine ⟨nameText, there, fun fuel enough => ?_⟩
          obtain ⟨less, rfl⟩ : ∃ less, fuel = less + 1 := ⟨fuel - 1, by simp at enough; omega⟩
          exact read (less + 1)
      | @nextMember _ _ text others derived derivedLater =>
          obtain ⟨otherText, otherThere, readOthers⟩ := inductionHypothesis derivedLater
          have ends : EndsNumber (',' :: (others ++ '\x7d' :: rest)) := endsNumber_mark (by decide) _
          obtain ⟨nameText, there, read⟩ := derived.membersFrom_member named reads ends
          refine ⟨nameText, by simpa using there, fun fuel enough => ?_⟩
          obtain ⟨less, rfl⟩ : ∃ less, fuel = less + 1 := ⟨fuel - 1, by simp at enough; omega⟩
          have comma (text : List Char) := skipSpace_cons (c := ',') rfl text
          rw [read, foldMembers_succ]
          simp only [comma, otherThere, Bool.false_eq_true, if_false]
          exact readOthers less (by simpa using enough)

/-- Every member takes up some of the text. -/
theorem Derives.length_le {members : List Member} {text : List Char}
    (derived : Derives (.members members) text) : members.length ≤ text.length := by
  induction members generalizing text with
  | nil => exact Nat.zero_le _
  | cons member others inductionHypothesis =>
      cases derived with
      | lastMember derived =>
          cases derived with
          | member => simp [quoted]; omega
      | nextMember _ later =>
          have bound := inductionHypothesis later
          simp only [List.length_cons, List.length_append]
          omega

/-- The values of derived members are values. -/
theorem Derives.value_of_mem {members : List Member} {text : List Char}
    (derived : Derives (.members members) text) :
    ∀ member ∈ members, Derives .value member.value := by
  have value {member : Member} {text : List Char} (derived : Derives (.member member) text) :
      Derives .value member.value := by
    cases derived with
    | member _ _ _ _ derived => exact derived
  induction members generalizing text with
  | nil => cases derived
  | cons member others inductionHypothesis =>
      cases derived with
      | lastMember derived => exact List.forall_mem_singleton.mpr (value derived)
      | nextMember derived later =>
          exact List.forall_mem_cons.mpr ⟨value derived, inductionHypothesis later⟩

theorem Derives.value_of_mem_object {members : List Member} {text : List Char}
    (derived : Derives (.object members) text) :
    ∀ member ∈ members, Derives .value member.value := by
  cases derived with
  | emptyObject => simp
  | object derived => exact derived.value_of_mem

theorem ObjectText.value_of_mem {contents : List Char} {members : List Member}
    (object : ObjectText contents members) : ∀ member ∈ members, Derives .value member.value := by
  obtain ⟨_, _, _, -, -, derived, -⟩ := object
  exact derived.value_of_mem_object

/-- An object whose members are taken is read from its opening brace to its closing one. -/
theorem Takes.readMembers_object {state final : σ} {members : List Member}
    (takes : Takes step state members final) {text : List Char}
    (derived : Derives (.object members) text) (rest : List Char) :
    ∃ body, text ++ rest = '\x7b' :: body ∧ readMembers step state body = .ok (final, rest) := by
  cases derived with
  | @emptyObject blanks blank =>
      cases takes
      refine ⟨blanks ++ '\x7d' :: rest, by simp, ?_⟩
      rw [readMembers, foldMembers_succ, skipSpace_append blank, skipSpace_cons rfl]
      rfl
  | @object _ text derived =>
      obtain ⟨nameText, there, read⟩ := takes.membersFrom_members derived rest
      refine ⟨text ++ '\x7d' :: rest, by simp, ?_⟩
      rw [readMembers, foldMembers_succ, there]
      refine read _ ?_
      have bound := derived.length_le
      simp only [List.length_append]
      omega

/-! ## Members that were taken -/

/-- The step reads the colon and then the value from end to end. -/
def Follows (step : σ → String → List Char → Scan σ) : Prop :=
  ∀ ⦃state : σ⦄ ⦃name : String⦄ ⦃text : List Char⦄ ⦃next : σ⦄ ⦃rest : List Char⦄,
    step state name text = .ok (next, rest) →
    ∃ value, afterColon text = .ok value ∧ skipAny value = .ok rest

/-- The steps by which some members were taken one after another. -/
inductive Passes (step : σ → String → List Char → Scan σ) : σ → List Member → σ → Prop where
  | nil (state : σ) : Passes step state [] state
  | cons {state next final : σ} {member : Member} {name : String} {others : List Member}
      {text rest : List Char} (named : member.Named name)
      (stepped : step state name text = .ok (next, rest)) (later : Passes step next others final) :
      Passes step state (member :: others) final

/-- Reading that meets a closing brace is over. -/
theorem eq_of_foldMembers_close {fuel : Nat} {first : Bool} {state final : σ}
    {text after rest : List Char} (close : skipSpace text = '\x7d' :: after)
    (read : foldMembers step fuel first state text = .ok (final, rest)) : state = final := by
  cases fuel with
  | zero => simp [foldMembers] at read
  | succ fuel =>
      rw [foldMembers_succ] at read
      simp only [close] at read
      exact (Prod.mk.inj (Except.ok.inj read)).1

/-- Reading that meets a comma goes on with a name. -/
theorem membersFrom_of_foldMembers_comma {fuel : Nat} {state final : σ}
    {text after rest : List Char} (comma : skipSpace text = ',' :: after)
    (read : foldMembers step fuel false state text = .ok (final, rest)) :
    ∃ less nameText, skipSpace after = '\x22' :: nameText ∧
      membersFrom step less state nameText = .ok (final, rest) := by
  cases fuel with
  | zero => simp [foldMembers] at read
  | succ less =>
      rw [foldMembers_succ] at read
      simp only [comma, Bool.false_eq_true, if_false] at read
      split at read
      · next nameText quote => exact ⟨less, nameText, quote, read⟩
      · contradiction

variable (follows : Follows step)
include follows

/-- A member of a text was taken by a step where the text in other lines was read, and what follows it
is left in both. -/
theorem Derives.exists_step {member : Member} {text rest right nameText last : List Char}
    {fuel : Nat} {state final : σ} (derived : Derives (.member member) text)
    (ends : EndsNumber rest) (lined : Relined (text ++ rest) right)
    (there : skipSpace right = '\x22' :: nameText)
    (read : membersFrom step fuel state nameText = .ok (final, last)) :
    ∃ name next after left more, member.Named name ∧ step state name after = .ok (next, more) ∧
      Relined left more ∧ skipSpace left = skipSpace rest ∧
      foldMembers step fuel false next more = .ok (final, last) := by
  cases derived with
  | @member _ before between lead after blank quotable blankBetween blankLead derived blankAfter =>
      have name : skipSpace (before ++ (quoted member.name ++ (between ++ ':' :: (lead ++
          (member.value ++ after)))) ++ rest) = '\x22' :: (member.name ++ '\x22' :: (between ++
            ':' :: (lead ++ (member.value ++ (after ++ rest))))) := by
        simp [quoted, skipSpace_append blank, skipSpace_cons (rfl : isSpace '\x22' = false)]
      obtain ⟨_, thereRight, nameLined, -⟩ := lined.skipSpace_eq_cons name (by decide)
      obtain ⟨-, rfl⟩ := List.cons.inj (thereRight.symm.trans there)
      obtain ⟨_, rfl, quoteLined⟩ := nameLined.append_left quotable.printable
      obtain ⟨tail, rfl, tailLined⟩ := quoteLined.cons_left (by decide)
      unfold membersFrom at read
      split at read
      · contradiction
      · next key behind scanned =>
        obtain ⟨spelled, rfl⟩ := quotable.spelledAs_of_scanString scanned
        split at read
        · contradiction
        · next next more stepped =>
          obtain ⟨value, colon, skipped⟩ := follows stepped
          obtain ⟨_, colonRight, valueLined, -⟩ :=
            skips_afterColon tailLined (afterColon_blanks blankBetween _)
          obtain rfl := Except.ok.inj (colon.symm.trans colonRight)
          have skippedLeft := derived.skipAny_append blankLead (ends.blanks_append blankAfter)
          obtain ⟨_, skippedRight, moreLined, -⟩ := skips_skipAny valueLined skippedLeft
          obtain rfl := Except.ok.inj (skipped.symm.trans skippedRight)
          exact ⟨String.ofList key, next, _, _, _, by rwa [Member.Named, String.toList_ofList],
            stepped, moreLined, skipSpace_append blankAfter rest, read⟩

omit follows in
/-- Members begin with the quote of a name. -/
theorem Derives.exists_name {members : List Member} {text : List Char}
    (derived : Derives (.members members) text) (rest : List Char) :
    ∃ nameText, skipSpace (text ++ rest) = '\x22' :: nameText := by
  have member {member : Member} {text : List Char} (derived : Derives (.member member) text)
      (rest : List Char) : ∃ nameText, skipSpace (text ++ rest) = '\x22' :: nameText := by
    cases derived with
    | member blank =>
        rw [List.append_assoc, skipSpace_append blank, quoted, List.cons_append, List.cons_append,
          skipSpace_cons rfl]
        exact ⟨_, rfl⟩
  cases derived with
  | lastMember derived => exact member derived rest
  | nextMember derived =>
      rw [List.append_assoc]
      exact member derived _

theorem Derives.passes_members {members : List Member} {text rest right nameText last : List Char}
    {fuel : Nat} {state final : σ} (derived : Derives (.members members) text)
    (lined : Relined (text ++ '\x7d' :: rest) right) (there : skipSpace right = '\x22' :: nameText)
    (read : membersFrom step fuel state nameText = .ok (final, last)) :
    Passes step state members final := by
  induction members generalizing text right nameText fuel state with
  | nil => cases derived
  | cons member members inductionHypothesis =>
      cases derived with
      | lastMember derived =>
          obtain ⟨name, next, after, left, more, named, stepped, lined, same, read⟩ :=
            derived.exists_step follows (endsNumber_mark (by decide) rest) lined there read
          rw [skipSpace_cons rfl] at same
          obtain ⟨other, close, -⟩ := lined.skipSpace_eq_cons same (by decide)
          obtain rfl := eq_of_foldMembers_close close read
          exact .cons named stepped (.nil next)
      | @nextMember _ _ text others derived later =>
          rw [List.append_assoc, List.cons_append] at lined
          obtain ⟨name, next, after, left, more, named, stepped, lined, same, read⟩ :=
            derived.exists_step follows (endsNumber_mark (by decide) _) lined there read
          rw [skipSpace_cons rfl] at same
          obtain ⟨other, comma, lined, -⟩ := lined.skipSpace_eq_cons same (by decide)
          obtain ⟨less, nextName, quote, read⟩ := membersFrom_of_foldMembers_comma comma read
          exact .cons named stepped (inductionHypothesis later lined quote read)

/-- Where an object was read, its members were taken, also when it was read in other lines. -/
theorem Derives.passes {members : List Member} {before text rest right body last : List Char}
    {state final : σ} (derived : Derives (.object members) text) (blank : Blanks before)
    (lined : Relined (before ++ (text ++ rest)) right) (there : skipSpace right = '\x7b' :: body)
    (read : readMembers step state body = .ok (final, last)) :
    Passes step state members final := by
  have brace (inner : List Char) : skipSpace (before ++ '\x7b' :: inner) = '\x7b' :: inner := by
    rw [skipSpace_append blank, skipSpace_cons rfl]
  cases derived with
  | @emptyObject blanks blank =>
      rw [List.cons_append, List.append_assoc] at lined
      obtain ⟨_, thereRight, lined, -⟩ := lined.skipSpace_eq_cons (brace _) (by decide)
      obtain ⟨-, rfl⟩ := List.cons.inj (thereRight.symm.trans there)
      have close : skipSpace (blanks ++ (['\x7d'] ++ rest)) = '\x7d' :: rest := by
        rw [skipSpace_append blank]
        exact skipSpace_cons rfl rest
      obtain ⟨other, closeRight, -⟩ := lined.skipSpace_eq_cons close (by decide)
      obtain rfl := eq_of_foldMembers_close closeRight read
      exact .nil state
  | @object _ text derived =>
      rw [List.cons_append, List.append_assoc] at lined
      obtain ⟨_, thereRight, lined, -⟩ := lined.skipSpace_eq_cons (brace _) (by decide)
      obtain ⟨-, rfl⟩ := List.cons.inj (thereRight.symm.trans there)
      obtain ⟨nameText, quote⟩ := derived.exists_name ('\x7d' :: rest)
      obtain ⟨other, quoteRight, -⟩ := lined.skipSpace_eq_cons quote (by decide)
      rw [readMembers, foldMembers_succ, quoteRight] at read
      exact derived.passes_members follows lined quoteRight read

end Members

end QueryNotebook.Json
