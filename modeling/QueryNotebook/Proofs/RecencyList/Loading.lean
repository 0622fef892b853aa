import QueryNotebook.Proofs.RecencyList.History

/-!
# Loaded and recorded lists

A recency list comes about in two ways.  It is loaded from an ordered collection, which is walked
until the list is full, or its entries are recorded one by one, the oldest first, and move to the
front or drive each other out.  Both ways give the first distinct entries of the collection, as many
as fit.

Loading keeps the spelling in which an entry comes first in the collection.  Recording goes through
the collection from its end, so of equal entries it may keep another spelling, and the two lists are
then equal without being the same.
-/

namespace QueryNotebook.RecencyList

variable {α : Type} [BEq α]

/-! ## Loading -/

/-- Behind the entries that are kept already come the first ones that differ from them and from each
other, as many as still fit. -/
theorem keepFirst_eq (capacity : Nat) (kept entries : List α) :
    keepFirst capacity kept entries =
      kept ++ (entries.removeAll kept).eraseDups.take (capacity - kept.length) := by
  induction entries generalizing kept with
  | nil => simp [keepFirst]
  | cons entry rest inductionHypothesis =>
      rw [keepFirst]
      split
      · next full => rw [Nat.sub_eq_zero_of_le full, List.take_zero, List.append_nil]
      · next room =>
        split
        · next known =>
          have passed : (entry :: rest).removeAll kept = rest.removeAll kept :=
            List.filter_cons_of_neg (by simpa using known)
          rw [inductionHypothesis, passed]
        · next fresh =>
          -- The entry takes one of the places, and those behind it must differ from it as well.
          obtain ⟨places, free⟩ : ∃ places, capacity - kept.length = places + 1 :=
            ⟨capacity - kept.length - 1, by omega⟩
          have freeBehind : capacity - (kept ++ [entry]).length = places := by
            rw [List.length_append, List.length_singleton]
            omega
          have found : (entry :: rest).removeAll kept = entry :: rest.removeAll kept :=
            List.filter_cons_of_pos (by simpa using fresh)
          have behind : rest.removeAll (kept ++ [entry]) =
              (rest.removeAll kept).filter fun other => !(other == entry) := by
            simp [List.removeAll, List.filter_filter, Bool.and_comm]
          rw [inductionHypothesis, freeBehind, behind, found, free, List.eraseDups_cons,
            List.take_succ_cons, List.append_assoc, List.singleton_append]

/-- A loaded list holds the first distinct entries of the collection, as many as fit, spelled as they
are when they come first. -/
theorem entries_ofList (capacity : Nat) (entries : List α) :
    (ofList capacity entries).entries = entries.eraseDups.take capacity := by
  have all : entries.removeAll [] = entries := List.filter_eq_self.mpr fun _ _ => rfl
  rw [ofList, keepFirst_eq, all]
  rfl

/-- Entries that differ hold no repetitions. -/
theorem Distinct.eraseDups_eq [PartialEquivBEq α] {entries : List α} (distinct : Distinct entries) :
    entries.eraseDups = entries := by
  induction entries with
  | nil => rfl
  | cons entry rest inductionHypothesis =>
      obtain ⟨differ, remaining⟩ := List.pairwise_cons.mp distinct
      have kept : (rest.filter fun other => !(other == entry)) = rest :=
        others_eq_self fun other member => by rw [BEq.comm, differ other member]
      rw [List.eraseDups_cons, kept, inductionHypothesis remaining]

/-- Loading what was loaded is loading once, with the smaller capacity. -/
theorem entries_ofList_ofList [EquivBEq α] (first second : Nat) (items : List α) :
    (ofList second (ofList first items).entries).entries =
      (ofList (min first second) items).entries := by
  have distinct : Distinct (items.eraseDups.take first) :=
    (distinct_eraseDups items).sublist (List.take_sublist ..)
  calc (ofList second (ofList first items).entries).entries
      = (items.eraseDups.take first).eraseDups.take second := by
        rw [entries_ofList, entries_ofList]
    _ = (items.eraseDups.take first).take second := by rw [distinct.eraseDups_eq]
    _ = items.eraseDups.take (min first second) := by rw [List.take_take, Nat.min_comm]
    _ = (ofList (min first second) items).entries := (entries_ofList ..).symm

/-! ## Recording -/

/-- Recording the collection from its end gives the same entries as loading it. -/
theorem recorded_beq_loaded [EquivBEq α] (capacity : Nat) (items : List α) :
    (((empty capacity : RecencyList α).afterAll (items.reverse.map .added)).entries ==
      (ofList capacity items).entries) = true := by
  have recorded := beq_of_forall₂ (forall₂_afterAll_added capacity items.reverse)
  rwa [List.reverse_reverse, ← entries_ofList] at recorded

/-- Where equal entries are the same, the recorded list is the loaded one. -/
theorem recorded_eq_loaded [LawfulBEq α] (capacity : Nat) (items : List α) :
    (empty capacity : RecencyList α).afterAll (items.reverse.map .added) =
      ofList capacity items := by
  have entries := eq_of_beq (recorded_beq_loaded capacity items)
  have room := capacity_afterAll (empty capacity) (items.reverse.map RecencyUse.added)
  generalize (empty capacity : RecencyList α).afterAll (items.reverse.map .added) = list at *
  obtain ⟨listed, bound⟩ := list
  obtain rfl : bound = capacity := room
  exact congrArg (RecencyList.mk · bound) entries

/-- Loading and recording give the same list.  What is loaded are the first distinct entries of a
collection, as many as fit; recording the collection from its end gives equal entries in the same
order, and the same list where equal entries are the same.  So a list is what is loaded from its own
entries, whatever was done with it after it was new or loaded, and a collection that is loaded twice
might have been loaded once, with the smaller of the two capacities. -/
theorem loaded_as_recorded [EquivBEq α] (capacity : Nat) (items : List α) :
    (ofList capacity items).entries = items.eraseDups.take capacity ∧
    (((empty capacity : RecencyList α).afterAll (items.reverse.map .added)).entries ==
      (ofList capacity items).entries) = true ∧
    (LawfulBEq α →
      (empty capacity : RecencyList α).afterAll (items.reverse.map .added) =
        ofList capacity items) ∧
    (∀ (start : RecencyList α) (uses : List (RecencyUse α)),
      start = empty capacity ∨ start = ofList capacity items →
        ofList capacity (start.afterAll uses).entries = start.afterAll uses) ∧
    ∀ other, (ofList other (ofList capacity items).entries).entries =
      (ofList (min capacity other) items).entries := by
  refine ⟨entries_ofList capacity items, recorded_beq_loaded capacity items,
    fun lawful => recorded_eq_loaded capacity items, ?again,
    fun other => entries_ofList_ofList capacity other items⟩
  case again =>
    intro start uses begun
    have wellFormed : start.WellFormed ∧ start.capacity = capacity := by
      rcases begun with rfl | rfl
      · exact ⟨wellFormed_empty capacity, rfl⟩
      · exact ⟨wellFormed_ofList capacity items, rfl⟩
    have loaded := (wellFormed.1.afterAll uses).ofList_entries
    rwa [capacity_afterAll, wellFormed.2] at loaded

/-- Entries that come again in other spellings, one of them after it was driven out.  Of paths the
loaded list has the first spellings and the recorded one those that came back; of plain texts the two
are the same list. -/
theorem loaded_as_recorded_respelled :
    let texts := ["/a", "/b", "/a", "/c", "/b", "/a"]
    let items : List Path := [⟨"/a"⟩, ⟨"/b"⟩, ⟨"//a"⟩, ⟨"/c"⟩, ⟨"/b/"⟩, ⟨"/a/"⟩]
    let recorded := (empty 2 : RecencyList Path).afterAll (items.reverse.map .added)
    (ofList 2 items).entries.map Path.text = ["/a", "/b"] ∧
      recorded.entries.map Path.text = ["//a", "/b"] ∧
      (recorded.entries == (ofList 2 items).entries) = true ∧
      ofList 2 recorded.entries = recorded ∧
      (empty 2 : RecencyList String).afterAll (texts.reverse.map .added) = ofList 2 texts := by
  intro texts items recorded
  obtain ⟨-, equal, -, again, -⟩ := loaded_as_recorded 2 items
  obtain ⟨-, -, same, -⟩ := loaded_as_recorded 2 texts
  exact ⟨by decide +kernel, by decide +kernel, equal, again _ _ (.inl rfl), same inferInstance⟩

end QueryNotebook.RecencyList
