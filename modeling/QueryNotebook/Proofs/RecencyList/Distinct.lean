import Mathlib.Data.List.Perm.Basic
import QueryNotebook.RecencyList

/-!
# Entries that differ and fit

A recency list never holds two equal entries nor more entries than its capacity, however it comes
about: without entries, from an ordered collection, or by adding and removing.  What adding does is
said once, as three cases; everything else about it is read off them.

Equality is only an equivalence here.  Equal entries may be spelled differently, so the cases say
which of the two spellings stays.
-/

namespace QueryNotebook.RecencyList

variable {α : Type} [BEq α]

/-- No two entries are equal. -/
def Distinct (entries : List α) : Prop :=
  entries.Pairwise fun newer older => (newer == older) = false

/-- The entries differ, and there are no more than the capacity allows. -/
structure WellFormed (list : RecencyList α) : Prop where
  distinct : Distinct list.entries
  bounded : list.entries.length ≤ list.capacity

/-- An entry is missing when none of the entries equals it. -/
theorem contains_eq_false_iff [PartialEquivBEq α] {entries : List α} {entry : α} :
    entries.contains entry = false ↔ ∀ known ∈ entries, (known == entry) = false := by
  simp [List.contains_eq_any_beq, BEq.comm (a := entry)]

/-! ## Adding -/

/-- The three things that adding an entry can do: an equal entry moves to the front as it is
spelled, a new one finds room, or a new one drives out the last of all. -/
inductive Adds (list : RecencyList α) (entry : α) : RecencyList α → Option α → Prop where
  | moved {before : List α} {known : α} {behind : List α}
      (parts : list.entries = before ++ known :: behind) (equal : (known == entry) = true)
      (first : ∀ other ∈ before, (other == entry) = false) :
      Adds list entry { list with entries := known :: (before ++ behind) } none
  | grown (absent : ∀ known ∈ list.entries, (known == entry) = false)
      (room : list.entries.length < list.capacity) :
      Adds list entry { list with entries := entry :: list.entries } none
  | evicted {kept : List α} {oldest : α}
      (absent : ∀ known ∈ list.entries, (known == entry) = false)
      (full : list.capacity ≤ list.entries.length)
      (parts : entry :: list.entries = kept ++ [oldest]) :
      Adds list entry { list with entries := kept } (some oldest)

/-- Adding does one of the three. -/
theorem adds_add (list : RecencyList α) (entry : α) :
    Adds list entry (list.add entry).1 (list.add entry).2 := by
  unfold add
  cases found : list.entries.find? fun known => known == entry with
  | some known =>
      obtain ⟨equal, before, behind, parts, others⟩ := List.find?_eq_some_iff_append.mp found
      have first : ∀ other ∈ before, (other == entry) = false := by simpa using others
      have erased : (list.entries.eraseP fun other => other == entry) = before ++ behind := by
        rw [parts, List.eraseP_append_right _ (by simpa using first)]
        simp [equal]
      dsimp only
      rw [erased]
      exact .moved parts equal first
  | none =>
      have absent : ∀ known ∈ list.entries, (known == entry) = false := by simpa using found
      dsimp only
      split
      · next tooMany =>
        obtain ⟨kept, oldest, parts⟩ : ∃ kept oldest, entry :: list.entries = kept ++ [oldest] :=
          ⟨_, _, (List.dropLast_concat_getLast (List.cons_ne_nil entry list.entries)).symm⟩
        rw [parts, List.dropLast_concat, List.getLast?_concat]
        exact .evicted absent (by simpa [Nat.lt_succ_iff] using tooMany) parts
      · next within =>
        exact .grown absent (by simpa [Nat.lt_succ_iff] using within)

/-- Nothing is lost and nothing comes in but the entry: what is in the list afterwards and what left
it are the entries from before and the new one, which counts once. -/
theorem Adds.perm {list after : RecencyList α} {entry : α} {left? : Option α}
    [PartialEquivBEq α] (adds : Adds list entry after left?) :
    (after.entries ++ left?.toList).Perm (list.entries.insert entry) := by
  cases adds with
  | @moved before known behind parts equal first =>
      have present : list.entries.contains entry = true := by
        simp [parts, List.contains_eq_any_beq, BEq.symm equal]
      rw [List.insert, if_pos present, parts]
      simpa using List.perm_middle.symm
  | grown absent room =>
      have fresh : list.entries.contains entry = false := contains_eq_false_iff.mpr absent
      rw [List.insert, if_neg (by simp [fresh])]
      simp
  | @evicted kept oldest absent full parts =>
      have fresh : list.entries.contains entry = false := contains_eq_false_iff.mpr absent
      rw [List.insert, if_neg (by simp [fresh]), parts]
      simp

/-- The new entry differs from the entries that it is put before. -/
theorem Distinct.insert [PartialEquivBEq α] {entries : List α} (distinct : Distinct entries)
    (entry : α) : Distinct (entries.insert entry) := by
  unfold List.insert
  split
  · exact distinct
  · next fresh =>
    have differs : ∀ known ∈ entries, (entry == known) = false := by
      simpa [List.contains_eq_any_beq] using fresh
    exact List.pairwise_cons.mpr ⟨differs, distinct⟩

/-- Entries differ in whatever order they stand. -/
theorem Distinct.perm [PartialEquivBEq α] {entries others : List α} (distinct : Distinct entries)
    (perm : entries.Perm others) : Distinct others :=
  perm.pairwise distinct fun differ => by rwa [BEq.comm]

/-- Adding keeps the entries different and within the capacity. -/
theorem WellFormed.adds [PartialEquivBEq α] {list after : RecencyList α} {entry : α}
    {left? : Option α} (wellFormed : list.WellFormed) (adds : Adds list entry after left?) :
    after.WellFormed where
  distinct := by
    have together : Distinct (after.entries ++ left?.toList) :=
      (wellFormed.distinct.insert entry).perm adds.perm.symm
    exact (List.pairwise_append.mp together).1
  bounded := by
    have within := wellFormed.bounded
    cases adds with
    | moved parts equal first =>
        have size := congrArg List.length parts
        simp at size ⊢
        omega
    | grown absent room => exact room
    | evicted absent full parts =>
        have size := congrArg List.length parts
        simp at size ⊢
        omega

/-- What is in a list after adding was in it before or is the new entry. -/
theorem Adds.mem {list after : RecencyList α} {entry : α} {left? : Option α} [PartialEquivBEq α]
    (adds : Adds list entry after left?) {known : α} (member : known ∈ after.entries) :
    known = entry ∨ known ∈ list.entries := by
  have inserted : known ∈ list.entries.insert entry :=
    adds.perm.mem_iff.mp (List.mem_append_left _ member)
  unfold List.insert at inserted
  split at inserted
  · exact .inr inserted
  · exact List.mem_cons.mp inserted

/-! ## The other ways to a list -/

/-- A list without entries has none that are equal. -/
theorem wellFormed_empty (capacity : Nat) : (empty capacity : RecencyList α).WellFormed where
  distinct := .nil
  bounded := Nat.zero_le _

/-- Taking entries out keeps the others different and within the capacity. -/
theorem WellFormed.remove {list : RecencyList α} (wellFormed : list.WellFormed) (entry : α) :
    (list.remove entry).1.WellFormed where
  distinct := wellFormed.distinct.filter _
  bounded := Nat.le_trans (List.length_filter_le _ _) wellFormed.bounded

/-- An emptied list has no entries that are equal. -/
theorem wellFormed_clear (list : RecencyList α) : list.clear.WellFormed where
  distinct := .nil
  bounded := Nat.zero_le _

/-- The entries kept of an ordered collection differ, if those kept before do. -/
theorem distinct_keepFirst [PartialEquivBEq α] {capacity : Nat} {kept : List α}
    (distinct : Distinct kept) (entries : List α) :
    Distinct (keepFirst capacity kept entries) := by
  induction entries generalizing kept with
  | nil => exact distinct
  | cons entry rest inductionHypothesis =>
      unfold keepFirst
      split
      · exact distinct
      · split
        · exact inductionHypothesis distinct
        · next fresh =>
          have grown : Distinct (entry :: kept) := by
            simpa [List.insert, fresh] using distinct.insert entry
          exact inductionHypothesis (grown.perm (List.perm_append_singleton entry kept).symm)

/-- The entries kept of an ordered collection fit, if those kept before do. -/
theorem length_keepFirst_le {capacity : Nat} {kept : List α} (within : kept.length ≤ capacity)
    (entries : List α) : (keepFirst capacity kept entries).length ≤ capacity := by
  induction entries generalizing kept with
  | nil => exact within
  | cons entry rest inductionHypothesis =>
      unfold keepFirst
      split
      · exact within
      · next room =>
        split
        · exact inductionHypothesis within
        · apply inductionHypothesis
          simp
          omega

/-- The entries kept of an ordered collection are those kept before and some of the collection. -/
theorem mem_keepFirst {capacity : Nat} {kept entries : List α} {entry : α}
    (member : entry ∈ keepFirst capacity kept entries) : entry ∈ kept ∨ entry ∈ entries := by
  induction entries generalizing kept with
  | nil => exact .inl member
  | cons other rest inductionHypothesis =>
      unfold keepFirst at member
      split at member
      · exact .inl member
      · split at member
        · rcases inductionHypothesis member with early | late
          · exact .inl early
          · exact .inr (List.mem_cons_of_mem other late)
        · rcases inductionHypothesis member with early | late
          · rcases List.mem_append.mp early with early | here
            · exact .inl early
            · exact .inr (List.mem_cons.mpr (.inl (List.mem_singleton.mp here)))
          · exact .inr (List.mem_cons_of_mem other late)

/-- Of entries that differ and fit, all are kept. -/
theorem keepFirst_of_distinct [PartialEquivBEq α] {capacity : Nat} {kept entries : List α}
    (distinct : Distinct (kept ++ entries)) (within : (kept ++ entries).length ≤ capacity) :
    keepFirst capacity kept entries = kept ++ entries := by
  induction entries generalizing kept with
  | nil => simp [keepFirst]
  | cons entry rest inductionHypothesis =>
      have room : ¬ capacity ≤ kept.length := by
        simp at within
        omega
      have fresh : kept.contains entry = false := by
        have differ := (List.pairwise_append.mp distinct).2.2
        have absent : ∀ known ∈ kept, (known == entry) = false := fun known member =>
          differ known member entry (List.mem_cons_self ..)
        exact contains_eq_false_iff.mpr absent
      rw [keepFirst, if_neg room, if_neg (by simp [fresh])]
      rw [List.append_cons] at distinct within
      exact (inductionHypothesis distinct within).trans (List.append_cons ..).symm

/-- A list that comes of an ordered collection has no entries that are equal, nor too many. -/
theorem wellFormed_ofList [PartialEquivBEq α] (capacity : Nat) (entries : List α) :
    (ofList capacity entries).WellFormed where
  distinct := distinct_keepFirst .nil entries
  bounded := length_keepFirst_le (Nat.zero_le _) entries

/-- A list is what comes of its own entries. -/
theorem WellFormed.ofList_entries [PartialEquivBEq α] {list : RecencyList α}
    (wellFormed : list.WellFormed) : ofList list.capacity list.entries = list := by
  have all : keepFirst list.capacity [] list.entries = [] ++ list.entries :=
    keepFirst_of_distinct wellFormed.distinct wellFormed.bounded
  rw [ofList, all, List.nil_append]

end QueryNotebook.RecencyList
