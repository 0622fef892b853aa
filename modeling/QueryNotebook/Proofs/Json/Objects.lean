import QueryNotebook.Proofs.Dictionary
import QueryNotebook.Proofs.Json.Scalars

/-!
# Objects read back

The members that are printed of an object are read one after another, each by the step of its
reader.  What a reader makes of a single member is left to it: it need only read a printed value up
to where the value ends.  A reader that keeps every member as an entry keeps those of an object in
order as they are.  Nothing is said of objects that were printed otherwise.
-/

namespace QueryNotebook.Json

/-! ## Members -/

section Members

variable {σ : Type} {step : σ → String → List Char → Scan σ}

/-- A reader takes some members one after another: of every name, and of every printed value where
the value can end, it makes the next state. -/
inductive ReadsMembers (step : σ → String → List Char → Scan σ) (level : Nat) :
    σ → List (String × Datum) → σ → Prop where
  | nil (state : σ) : ReadsMembers step level state [] state
  | cons {state next final : σ} {name : String} {value : Datum} {others : List (String × Datum)}
      (reads : ∀ rest, EndsNumber rest →
        step state name (':' :: ' ' :: (indented level value ++ rest)) = .ok (next, rest))
      (later : ReadsMembers step level next others final) :
      ReadsMembers step level state ((name, value) :: others) final

/-- A brace ends the members, the first member or a later one. -/
theorem foldMembers_brace (fuel : Nat) (first : Bool) (state : σ) (level : Nat)
    (rest : List Char) :
    foldMembers step (fuel + 1) first state (newLine level ++ '\x7d' :: rest) =
      .ok (state, rest) := by
  rw [foldMembers]
  simp only [skipSpace_newLine]
  rfl

/-- The first member is read by the step. -/
theorem foldMembers_first {fuel level : Nat} {state next : σ} {name : String}
    {after rest : List Char} (reads : step state name after = .ok (next, rest)) :
    foldMembers step (fuel + 1) true state (newLine level ++ (stringText name.toList ++ after)) =
      foldMembers step fuel false next rest := by
  have quote (text : List Char) := skipSpace_cons (c := '\x22') rfl text
  rw [foldMembers]
  simp only [skipSpace_newLine, stringText_append, quote]
  simp [scanString_flatMap, reads]

/-- A later member is read by the step, after its comma. -/
theorem foldMembers_next {fuel level : Nat} {state next : σ} {name : String}
    {after rest : List Char} (reads : step state name after = .ok (next, rest)) :
    foldMembers step (fuel + 1) false state
        (',' :: (newLine level ++ (stringText name.toList ++ after))) =
      foldMembers step fuel false next rest := by
  have comma (text : List Char) := skipSpace_cons (c := ',') rfl text
  have quote (text : List Char) := skipSpace_cons (c := '\x22') rfl text
  rw [foldMembers]
  simp only [comma, skipSpace_newLine, stringText_append, quote]
  simp [scanString_flatMap, reads]

/-- What reading the members comes to: either there are no more, or the step reads the next one and
reading goes on behind it. -/
theorem eq_or_step_of_foldMembers {fuel : Nat} {first : Bool} {state final : σ}
    {text rest : List Char} (read : foldMembers step fuel first state text = .ok (final, rest)) :
    state = final ∨ ∃ less name after next more, fuel = less + 1 ∧
      step state name after = .ok (next, more) ∧
      foldMembers step less false next more = .ok (final, rest) := by
  cases fuel with
  | zero => simp [foldMembers] at read
  | succ less =>
      rw [foldMembers] at read
      dsimp only at read
      split at read
      · contradiction
      · exact .inl (Prod.mk.inj (Except.ok.inj read)).1
      · split at read
        · split at read
          · contradiction
          · split at read
            · contradiction
            · next stepped => exact .inr ⟨less, _, _, _, _, rfl, stepped, read⟩
        · contradiction
      · split at read
        · contradiction
        · split at read
          · split at read
            · contradiction
            · split at read
              · contradiction
              · next stepped => exact .inr ⟨less, _, _, _, _, rfl, stepped, read⟩
          · contradiction
      · contradiction

/-- What every member keeps, all members of an object keep. -/
theorem readMembers_keeps {kept : σ → Prop}
    (keeps : ∀ {state name text next rest}, kept state →
      step state name text = .ok (next, rest) → kept next)
    {start final : σ} {text rest : List Char} (before : kept start)
    (read : readMembers step start text = .ok (final, rest)) : kept final := by
  rw [readMembers] at read
  generalize text.length + 1 = fuel at read
  generalize true = first at read
  induction fuel generalizing first start text with
  | zero => simp [foldMembers] at read
  | succ less inductionHypothesis =>
      rcases eq_or_step_of_foldMembers read with rfl | ⟨_, _, _, _, _, same, stepped, later⟩
      · exact before
      · obtain rfl := Nat.succ.inj same
        exact inductionHypothesis (keeps before stepped) false later

theorem endsNumber_indentedMembers (level below : Nat) (members : List (String × Datum))
    (rest : List Char) : EndsNumber (indentedMembers level members ++ newLine below ++ rest) := by
  cases members with
  | nil => exact endsNumber_mark (by decide) _
  | cons member others => exact endsNumber_mark (by decide) _

/-- The members after the first are read up to the closing brace. -/
theorem foldMembers_indentedMembers {level below fuel : Nat} {state final : σ}
    {members : List (String × Datum)} (reads : ReadsMembers step level state members final)
    (enough : members.length < fuel) (rest : List Char) :
    foldMembers step fuel false state
        (indentedMembers level members ++ newLine below ++ '\x7d' :: rest) =
      .ok (final, rest) := by
  -- Every member takes one unit of the fuel, and one is left for the brace.
  induction reads generalizing fuel with
  | nil state =>
      obtain ⟨fuel, rfl⟩ := Nat.exists_eq_add_of_lt enough
      exact foldMembers_brace _ false state below rest
  | @cons state next final name value others reads _ inductionHypothesis =>
      obtain ⟨fuel, rfl⟩ : ∃ less, fuel = less + 1 := ⟨fuel - 1, by simp at enough; omega⟩
      have read := reads _ (endsNumber_indentedMembers level below others ('\x7d' :: rest))
      simp only [indentedMembers, List.cons_append, List.append_assoc] at read ⊢
      rw [foldMembers_next read]
      simpa using inductionHypothesis (by simpa using enough)

theorem length_le_indentedMembers (level : Nat) (members : List (String × Datum)) :
    members.length ≤ (indentedMembers level members).length := by
  induction members with
  | nil => exact Nat.zero_le _
  | cons member others inductionHypothesis =>
      simp only [indentedMembers, List.length_cons, List.length_append]
      omega

/-- A printed object is read member by member, from the text after its opening brace. -/
theorem readMembers_indented {level : Nat} {start final : σ} {members : List (String × Datum)}
    (reads : ReadsMembers step (level + 1) start members final) (rest : List Char) :
    ∃ body, indented level (.object members) ++ rest = '\x7b' :: body ∧
      readMembers step start body = .ok (final, rest) := by
  cases reads with
  | nil => exact ⟨'\x7d' :: rest, rfl, rfl⟩
  | @cons _ next _ name value others reads later =>
      have read := reads _ (endsNumber_indentedMembers (level + 1) level others ('\x7d' :: rest))
      refine ⟨newLine (level + 1) ++ (stringText name.toList ++ ':' :: ' ' ::
        (indented (level + 1) value ++ (indentedMembers (level + 1) others ++ newLine level ++
          '\x7d' :: rest))), by simp [indented], ?_⟩
      rw [readMembers, foldMembers_first read]
      apply foldMembers_indentedMembers later
      have bound := length_le_indentedMembers (level + 1) others
      simp only [List.length_append, List.length_cons]
      omega

end Members

/-! ## Members in order -/

section Entries

variable {α : Type} {step : Dictionary α → String → List Char → Scan (Dictionary α)}
  {level : Nat}

/-- Entries in order are read one after another by a step that inserts each of them. -/
theorem readsMembers_entries (datum : α → Datum) {before entries : List (String × α)}
    (sorted : Dictionary.Sorted ⟨before ++ entries⟩)
    (inserts : ∀ entry ∈ entries, ∀ known rest, EndsNumber rest →
      step known entry.1 (':' :: ' ' :: (indented level (datum entry.2) ++ rest)) =
        .ok (known.insert entry.1 entry.2, rest)) :
    ReadsMembers step level ⟨before⟩ (entries.map fun entry => (entry.1, datum entry.2))
      ⟨before ++ entries⟩ := by
  induction entries generalizing before with
  | nil =>
      rw [List.append_nil]
      exact .nil _
  | cons entry others inductionHypothesis =>
      have behind : ∀ known ∈ before, known.1 < entry.1 := fun known member =>
        (List.pairwise_append.mp sorted).2.2 known member entry (List.mem_cons_self ..)
      have parts : before ++ entry :: others = (before ++ [entry]) ++ others := by simp
      rw [parts] at sorted ⊢
      obtain ⟨first, later⟩ := List.forall_mem_cons.mp inserts
      refine .cons (fun rest ends => ?_) (inductionHypothesis sorted later)
      rw [first ⟨before⟩ rest ends, Dictionary.insert, Dictionary.put_of_forall_lt _ behind]

end Entries

end QueryNotebook.Json
