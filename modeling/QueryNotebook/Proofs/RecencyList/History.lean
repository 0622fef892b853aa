import Mathlib.Data.List.Forall2
import Mathlib.Data.List.Induction
import QueryNotebook.Path
import QueryNotebook.Proofs.RecencyList.Distinct

/-!
# Recency lists and their history

A recency list says about the past which entries were added last, and in which order.  The past
itself is a list of uses, oldest first, and the time of a use is its place in that list; an entry
that was added again counts at the later time, and removing it does not change when it was added.

As long as entries are only added, the list can be read off what was added without following the
uses: an entry that was driven out and comes back stands where it would stand in a list without a
capacity.
-/

namespace QueryNotebook

/-- One use of a recency list. -/
inductive RecencyUse (α : Type) where
  | added (entry : α)
  | removed (entry : α)
  | cleared

namespace RecencyUse

variable {α : Type} [BEq α]

/-- The use adds an entry that equals the given one. -/
def adds (use : RecencyUse α) (entry : α) : Bool :=
  match use with
  | .added other => other == entry
  | .removed _ => false
  | .cleared => false

/-- The time at which an entry was added last. -/
def lastAdded? (entry : α) : List (RecencyUse α) → Option Nat
  | [] => none
  | use :: later =>
      match lastAdded? entry later with
      | some time => some (time + 1)
      | none => if use.adds entry then some 0 else none

/-- One entry was added later than another. -/
def AddedLater (uses : List (RecencyUse α)) (newer older : α) : Prop :=
  ∃ late early, lastAdded? newer uses = some late ∧ lastAdded? older uses = some early ∧
    early < late

/-- A use that adds an entry is the last that does. -/
theorem lastAdded?_concat_of_adds {use : RecencyUse α} {entry : α} (adds : use.adds entry = true)
    (uses : List (RecencyUse α)) : lastAdded? entry (uses ++ [use]) = some uses.length := by
  induction uses with
  | nil => simp [lastAdded?, adds]
  | cons first later inductionHypothesis => simp [lastAdded?, inductionHypothesis]

/-- A use that does not add an entry leaves the time at which it was added. -/
theorem lastAdded?_concat_of_not_adds {use : RecencyUse α} {entry : α}
    (passes : use.adds entry = false) (uses : List (RecencyUse α)) :
    lastAdded? entry (uses ++ [use]) = lastAdded? entry uses := by
  induction uses with
  | nil => simp [lastAdded?, passes]
  | cons first later inductionHypothesis => simp [lastAdded?, inductionHypothesis]

/-- Whatever was added was added by one of the uses. -/
theorem lastAdded?_lt {uses : List (RecencyUse α)} {entry : α} {time : Nat}
    (added : lastAdded? entry uses = some time) : time < uses.length := by
  induction uses generalizing time with
  | nil => simp [lastAdded?] at added
  | cons use later inductionHypothesis =>
      rw [lastAdded?] at added
      cases again : lastAdded? entry later with
      | some late =>
          obtain rfl : late + 1 = time := by simpa [again] using added
          exact Nat.succ_lt_succ (inductionHypothesis again)
      | none =>
          obtain ⟨-, rfl⟩ : use.adds entry = true ∧ 0 = time := by simpa [again] using added
          exact Nat.succ_pos _

end RecencyUse

namespace RecencyList

open RecencyUse

variable {α : Type} [BEq α]

/-- The list after a use. -/
def after (list : RecencyList α) : RecencyUse α → RecencyList α
  | .added entry => (list.add entry).1
  | .removed entry => (list.remove entry).1
  | .cleared => list.clear

/-- The list after several uses, the oldest of them first. -/
def afterAll (list : RecencyList α) (uses : List (RecencyUse α)) : RecencyList α :=
  uses.foldl after list

@[simp] theorem afterAll_concat (list : RecencyList α) (uses : List (RecencyUse α))
    (use : RecencyUse α) : list.afterAll (uses ++ [use]) = (list.afterAll uses).after use := by
  simp [afterAll]

/-- No use changes the capacity. -/
@[simp] theorem capacity_after (list : RecencyList α) (use : RecencyUse α) :
    (list.after use).capacity = list.capacity := by
  cases use with
  | added entry => exact capacity_add list entry
  | removed entry => rfl
  | cleared => rfl

@[simp] theorem capacity_afterAll (list : RecencyList α) (uses : List (RecencyUse α)) :
    (list.afterAll uses).capacity = list.capacity := by
  induction uses using List.reverseRecOn with
  | nil => rfl
  | append_singleton uses use inductionHypothesis => simp [inductionHypothesis]

/-- Every use keeps the entries different and within the capacity. -/
theorem WellFormed.after [PartialEquivBEq α] {list : RecencyList α} (wellFormed : list.WellFormed)
    (use : RecencyUse α) : (list.after use).WellFormed := by
  cases use with
  | added entry => exact wellFormed.adds (adds_add list entry)
  | removed entry => exact wellFormed.remove entry
  | cleared => exact wellFormed_clear list

/-- After any uses the entries differ and are within the capacity. -/
theorem WellFormed.afterAll [PartialEquivBEq α] {list : RecencyList α}
    (wellFormed : list.WellFormed) (uses : List (RecencyUse α)) :
    (list.afterAll uses).WellFormed := by
  induction uses using List.reverseRecOn with
  | nil => exact wellFormed
  | append_singleton uses use inductionHypothesis =>
      rw [afterAll_concat]
      exact inductionHypothesis.after use

/-! ## The entries after adding -/

/-- The entries that differ from a given one. -/
def others (entry : α) (entries : List α) : List α :=
  entries.filter fun other => !(other == entry)

/-- Entries that all differ from a given one are left as they are. -/
theorem others_eq_self {entry : α} {entries : List α}
    (differ : ∀ other ∈ entries, (other == entry) = false) : others entry entries = entries := by
  apply List.filter_eq_self.mpr
  intro other member
  simp [differ other member]

/-- The others are the entries that differ. -/
theorem mem_others_iff {entry other : α} {entries : List α} :
    other ∈ others entry entries ↔ other ∈ entries ∧ (other == entry) = false := by
  simp [others]

/-- Of entries that differ, those behind an equal one are the others. -/
theorem Distinct.others_cons [PartialEquivBEq α] {first entry : α} {rest : List α}
    (distinct : Distinct (first :: rest)) (equal : (first == entry) = true) :
    others entry (first :: rest) = rest := by
  have differ : ∀ other ∈ rest, (other == entry) = false := by
    intro other member
    rw [BEq.comm, ← BEq.congr_left equal]
    exact (List.pairwise_cons.mp distinct).1 other member
  rw [others, List.filter_cons_of_neg (by simp [equal])]
  exact others_eq_self differ

/-- Adding puts an entry, or the equal one that is there, before the others, and what does not fit
leaves. -/
theorem WellFormed.exists_front [EquivBEq α] {list after : RecencyList α} {entry : α}
    {left? : Option α} (wellFormed : list.WellFormed) (adds : Adds list entry after left?) :
    ∃ front, (front == entry) = true ∧
      after.entries ++ left?.toList = front :: others entry list.entries ∧
      after.entries = (front :: others entry list.entries).take list.capacity := by
  have within := wellFormed.bounded
  cases adds with
  | @moved before known behind parts equal first =>
      have apart : Distinct (before ++ known :: behind) := parts ▸ wellFormed.distinct
      have last : Distinct (known :: behind) := (List.pairwise_append.mp apart).2.1
      have remaining : others entry list.entries = before ++ behind := by
        rw [parts, others, List.filter_append]
        exact congrArg₂ _ (others_eq_self first) (last.others_cons equal)
      refine ⟨known, equal, by simp [remaining], ?_⟩
      rw [remaining, List.take_of_length_le]
      simpa [parts, Nat.add_assoc, Nat.add_comm] using within
  | grown absent room =>
      refine ⟨entry, BEq.rfl, by simp [others_eq_self absent], ?_⟩
      rw [others_eq_self absent, List.take_of_length_le room]
  | @evicted kept oldest absent full parts =>
      have size := congrArg List.length parts
      refine ⟨entry, BEq.rfl, by simp [others_eq_self absent, parts], ?_⟩
      rw [others_eq_self absent, parts, List.take_left']
      simp at size
      omega

/-! ## The order of the entries -/

/-- The entries were all added, each of them later than those behind it. -/
structure InOrder (uses : List (RecencyUse α)) (entries : List α) : Prop where
  added : ∀ entry ∈ entries, ∃ time, lastAdded? entry uses = some time
  ordered : entries.Pairwise (AddedLater uses)

/-- Some of the entries stand in the order of all. -/
theorem InOrder.sublist {uses : List (RecencyUse α)} {entries fewer : List α}
    (inOrder : InOrder uses entries) (sublist : fewer.Sublist entries) : InOrder uses fewer where
  added entry member := inOrder.added entry (sublist.subset member)
  ordered := inOrder.ordered.sublist sublist

/-- A use that adds none of the entries leaves their order. -/
theorem InOrder.concat {uses : List (RecencyUse α)} {use : RecencyUse α} {entries : List α}
    (inOrder : InOrder uses entries) (passes : ∀ entry ∈ entries, use.adds entry = false) :
    InOrder (uses ++ [use]) entries where
  added entry member := by
    rw [lastAdded?_concat_of_not_adds (passes entry member)]
    exact inOrder.added entry member
  ordered := by
    refine inOrder.ordered.imp_of_mem ?_
    intro newer older newerMember olderMember later
    rw [AddedLater, lastAdded?_concat_of_not_adds (passes newer newerMember),
      lastAdded?_concat_of_not_adds (passes older olderMember)]
    exact later

/-- An entry that was just added stands before all that were not. -/
theorem InOrder.cons {uses : List (RecencyUse α)} {use : RecencyUse α} {front : α}
    {entries : List α} (inOrder : InOrder uses entries) (adds : use.adds front = true)
    (passes : ∀ entry ∈ entries, use.adds entry = false) :
    InOrder (uses ++ [use]) (front :: entries) := by
  have now := lastAdded?_concat_of_adds adds uses
  have remaining := inOrder.concat passes
  refine ⟨List.forall_mem_cons.mpr ⟨⟨_, now⟩, remaining.added⟩,
    List.pairwise_cons.mpr ⟨?_, remaining.ordered⟩⟩
  intro older member
  obtain ⟨time, before⟩ := inOrder.added older member
  refine ⟨uses.length, time, now, ?_, lastAdded?_lt before⟩
  rw [lastAdded?_concat_of_not_adds (passes older member)]
  exact before

/-- Adding keeps the entries in the order in which they were added last, and one that leaves was
added before all that stay. -/
theorem InOrder.adds [EquivBEq α] {uses : List (RecencyUse α)} {list after : RecencyList α}
    {entry : α} {left? : Option α} (inOrder : InOrder uses list.entries)
    (wellFormed : list.WellFormed) (adds : Adds list entry after left?) :
    InOrder (uses ++ [.added entry]) (after.entries ++ left?.toList) := by
  obtain ⟨front, equal, together, -⟩ := wellFormed.exists_front adds
  have addsFront : (RecencyUse.added entry).adds front = true := BEq.symm equal
  have passes : ∀ other ∈ others entry list.entries,
      (RecencyUse.added entry).adds other = false := by
    intro other member
    have differs : (other == entry) = false := (mem_others_iff.mp member).2
    rwa [BEq.comm] at differs
  have remaining : InOrder uses (others entry list.entries) :=
    inOrder.sublist List.filter_sublist
  rw [together]
  exact remaining.cons addsFront passes

/-- Every use keeps the entries in the order in which they were added last. -/
theorem InOrder.after [EquivBEq α] {uses : List (RecencyUse α)} {list : RecencyList α}
    (inOrder : InOrder uses list.entries) (wellFormed : list.WellFormed) (use : RecencyUse α) :
    InOrder (uses ++ [use]) (list.after use).entries := by
  cases use with
  | added entry =>
      exact (inOrder.adds wellFormed (adds_add list entry)).sublist (List.sublist_append_left _ _)
  | removed entry =>
      have remaining : InOrder uses (list.remove entry).1.entries :=
        inOrder.sublist List.filter_sublist
      exact remaining.concat fun _ _ => rfl
  | cleared => exact ⟨by simp [RecencyList.after], .nil⟩

/-- After any uses of a list without entries, the entries stand in the order in which they were
added last. -/
theorem inOrder_afterAll [EquivBEq α] (capacity : Nat) (uses : List (RecencyUse α)) :
    InOrder uses ((empty capacity : RecencyList α).afterAll uses).entries := by
  induction uses using List.reverseRecOn with
  | nil => exact ⟨by simp [afterAll], .nil⟩
  | append_singleton uses use inductionHypothesis =>
      rw [afterAll_concat]
      exact inductionHypothesis.after ((wellFormed_empty capacity).afterAll uses) use

/-! ## Adding only -/

/-- Leaving out an entry and leaving out repetitions do not get in each other's way. -/
theorem others_eraseDups [EquivBEq α] (entry : α) :
    ∀ entries : List α, (others entry entries).eraseDups = others entry entries.eraseDups
  | [] => rfl
  | first :: rest => by
      have shorter : (others first rest).length ≤ rest.length := List.length_filter_le _ _
      by_cases same : (first == entry) = true
      · have alike : others entry rest = others entry (others first rest) := by
          unfold others
          rw [List.filter_filter]
          refine List.filter_congr fun other _ => ?_
          simp [BEq.congr_right same]
        calc (others entry (first :: rest)).eraseDups
            = (others entry rest).eraseDups := by simp [others, same]
          _ = (others entry (others first rest)).eraseDups := by rw [alike]
          _ = others entry (others first rest).eraseDups :=
              others_eraseDups entry (others first rest)
          _ = others entry (first :: rest).eraseDups := by
              simp [others, List.eraseDups_cons, same]
      · have swapped : others first (others entry rest) = others entry (others first rest) := by
          simp only [others, List.filter_filter, Bool.and_comm]
        calc (others entry (first :: rest)).eraseDups
            = first :: (others first (others entry rest)).eraseDups := by
              simp [others, same, List.eraseDups_cons]
          _ = first :: (others entry (others first rest)).eraseDups := by rw [swapped]
          _ = first :: others entry (others first rest).eraseDups := by
              rw [others_eraseDups entry (others first rest)]
          _ = others entry (first :: rest).eraseDups := by
              simp [others, List.eraseDups_cons, same]
termination_by entries => entries.length

/-- Without repetitions no two entries are equal. -/
theorem distinct_eraseDups [EquivBEq α] : ∀ entries : List α, Distinct entries.eraseDups
  | [] => .nil
  | first :: rest => by
      have shorter : (others first rest).length ≤ rest.length := List.length_filter_le _ _
      have split : (first :: rest).eraseDups = first :: (others first rest).eraseDups :=
        List.eraseDups_cons
      rw [split]
      refine List.pairwise_cons.mpr ⟨?_, distinct_eraseDups (others first rest)⟩
      intro other member
      rw [others_eraseDups, mem_others_iff] at member
      rw [BEq.comm]
      exact member.2
termination_by entries => entries.length

/-- Of entries that differ at most one is left out, so one more than are wanted is enough to take
from. -/
theorem take_others_take [PartialEquivBEq α] {entries : List α} (distinct : Distinct entries)
    (entry : α) (count : Nat) :
    (others entry (entries.take (count + 1))).take count = (others entry entries).take count := by
  induction entries generalizing count with
  | nil => rfl
  | cons first rest inductionHypothesis =>
      by_cases same : (first == entry) = true
      · -- The one that is left out makes room for nothing: the others differ from it.
        have taken : Distinct (first :: rest.take count) :=
          distinct.sublist (List.Sublist.cons_cons first (List.take_sublist count rest))
        rw [List.take_succ_cons, taken.others_cons same, distinct.others_cons same, List.take_take,
          Nat.min_self]
      · cases count with
        | zero => rfl
        | succ count =>
            have step := inductionHypothesis (List.pairwise_cons.mp distinct).2 count
            simpa [others, same] using step

/-- Lists that are equal entry by entry stay so when an entry is left out. -/
theorem forall₂_others [PartialEquivBEq α] {left right : List α}
    (equal : List.Forall₂ (fun first second => (first == second) = true) left right) (entry : α) :
    List.Forall₂ (fun first second => (first == second) = true) (others entry left)
      (others entry right) := by
  induction equal with
  | nil => exact .nil
  | @cons first second left right same _ inductionHypothesis =>
      have both : (first == entry) = (second == entry) := BEq.congr_left same
      by_cases out : (second == entry) = true
      · simpa [others, both, out] using inductionHypothesis
      · simpa [others, both, out] using ⟨same, inductionHypothesis⟩

/-- Lists are equal when they are equal entry by entry. -/
theorem beq_of_forall₂ {left right : List α}
    (equal : List.Forall₂ (fun first second => (first == second) = true) left right) :
    (left == right) = true := by
  induction equal with
  | nil => rfl
  | cons same _ inductionHypothesis =>
      rw [List.cons_beq_cons, same, inductionHypothesis]
      rfl

/-- When entries are only added, the list holds the entries added last, the newest first and each
of them once. -/
theorem forall₂_afterAll_added [EquivBEq α] (capacity : Nat) (items : List α) :
    List.Forall₂ (fun first second => (first == second) = true)
      ((empty capacity : RecencyList α).afterAll (items.map .added)).entries
      (items.reverse.eraseDups.take capacity) := by
  induction items using List.reverseRecOn with
  | nil => simp [afterAll]
  | append_singleton items item inductionHypothesis =>
      rw [List.map_append, List.map_singleton, afterAll_concat]
      generalize reached : (empty capacity : RecencyList α).afterAll (items.map .added) = list at *
      have wellFormed : list.WellFormed := reached ▸ (wellFormed_empty capacity).afterAll _
      have room : list.capacity = capacity := by rw [← reached, capacity_afterAll]; rfl
      obtain ⟨front, equal, -, entries⟩ := wellFormed.exists_front (adds_add list item)
      have shown : (items ++ [item]).reverse.eraseDups.take capacity =
          (item :: others item (items.reverse.eraseDups.take capacity)).take capacity := by
        have split : (item :: items.reverse).eraseDups =
            item :: (others item items.reverse).eraseDups := List.eraseDups_cons
        rw [List.reverse_concat, split, others_eraseDups]
        cases capacity with
        | zero => rfl
        | succ count =>
            rw [List.take_succ_cons, List.take_succ_cons,
              take_others_take (distinct_eraseDups items.reverse)]
      rw [RecencyList.after, entries, room, shown]
      exact List.forall₂_take capacity (.cons equal (forall₂_others inductionHypothesis item))

/-! ## What a recency list says about its history -/

/-- An entry leaves exactly when a new one comes to a full list. -/
theorem Adds.isSome_iff [PartialEquivBEq α] {list after : RecencyList α} {entry : α}
    {left? : Option α} (wellFormed : list.WellFormed) (adds : Adds list entry after left?) :
    left?.isSome = true ↔ list.contains entry = false ∧ list.size = list.capacity := by
  have within := wellFormed.bounded
  cases adds with
  | @moved before known behind parts equal first =>
      have present : list.contains entry = true := by
        simp [RecencyList.contains, parts, List.contains_eq_any_beq, BEq.symm equal]
      simp [present]
  | grown absent room =>
      simp only [size, Option.isSome_none, Bool.false_eq_true, false_iff, not_and]
      omega
  | evicted absent full parts =>
      have fresh : list.contains entry = false := contains_eq_false_iff.mpr absent
      simp only [size, Option.isSome_some, true_iff]
      exact ⟨fresh, Nat.le_antisymm within full⟩

/-- The entry that leaves is the last one, or the new one itself if there is no room at all. -/
theorem Adds.oldest {list after : RecencyList α} {entry oldest : α} (wellFormed : list.WellFormed)
    (adds : Adds list entry after (some oldest)) :
    if list.capacity = 0 then oldest = entry else list.entries.getLast? = some oldest := by
  have within := wellFormed.bounded
  cases adds with
  | @evicted kept _ absent full parts =>
      have last : (entry :: list.entries).getLast? = some oldest := by
        rw [parts, List.getLast?_concat]
      rw [List.getLast?_cons] at last
      split
      · next none =>
        have nothing : list.entries = [] := List.eq_nil_of_length_eq_zero (by omega)
        simpa [nothing, eq_comm] using last
      · next some =>
        have something : list.entries ≠ [] := List.ne_nil_of_length_pos (by omega)
        rw [List.getLast?_eq_some_getLast something] at last ⊢
        simpa using last

/-- What a recency list says about its history, after any uses of a list without entries.  Its
entries differ and fit, and each was added later than those behind it.  Adding one more loses
nothing: what is there afterwards and what left are what was there before and the new entry.
Something leaves exactly when a new entry comes to a full list, and it is the oldest of all.  If
entries were only ever added, those listed are the ones added last, the newest first.

Equality is taken to be an equivalence; where it is identity, so is the equality of the lists in the
last part. -/
theorem afterAll_empty_recalls [EquivBEq α] (capacity : Nat) (uses : List (RecencyUse α)) :
    let list := (empty capacity : RecencyList α).afterAll uses
    Distinct list.entries ∧ list.entries.length ≤ capacity ∧ InOrder uses list.entries ∧
    (∀ entry,
      let (after, left?) := list.add entry
      (after.entries ++ left?.toList).Perm (list.entries.insert entry) ∧
      (left?.isSome = true ↔ list.contains entry = false ∧ list.size = capacity) ∧
      InOrder (uses ++ [.added entry]) (after.entries ++ left?.toList) ∧
      ∀ oldest, left? = some oldest →
        if capacity = 0 then oldest = entry else list.entries.getLast? = some oldest) ∧
    ∀ items : List α,
      (((empty capacity : RecencyList α).afterAll (items.map .added)).entries ==
        items.reverse.eraseDups.take capacity) = true := by
  intro list
  have wellFormed : list.WellFormed := (wellFormed_empty capacity).afterAll uses
  have room : list.capacity = capacity := capacity_afterAll _ uses
  have inOrder : InOrder uses list.entries := inOrder_afterAll capacity uses
  refine ⟨wellFormed.distinct, room ▸ wellFormed.bounded, inOrder, ?_, ?_⟩
  · intro entry
    have adds := adds_add list entry
    generalize list.add entry = added at adds ⊢
    obtain ⟨after, left?⟩ := added
    have leaves := adds.isSome_iff wellFormed
    rw [room] at leaves
    refine ⟨adds.perm, leaves, inOrder.adds wellFormed adds, ?_⟩
    rintro oldest rfl
    have last := adds.oldest wellFormed
    rwa [room] at last
  · intro items
    exact beq_of_forall₂ (forall₂_afterAll_added capacity items)

/-- A path that is added again in another spelling moves to the front as it was spelled first, and
a third one drives out the oldest. -/
theorem afterAll_empty_recalls_paths :
    let uses : List (RecencyUse Path) :=
      [.added ⟨"/b"⟩, .removed ⟨"/b"⟩, .added ⟨"/a"⟩, .added ⟨"/b"⟩, .added ⟨"//a/."⟩]
    let list := (empty 2 : RecencyList Path).afterAll uses
    list.entries.map Path.text = ["/a", "/b"] ∧ InOrder uses list.entries ∧
      (list.add ⟨"/c"⟩).2.map Path.text = some "/b" ∧ list.size = 2 := by
  intro uses list
  obtain ⟨-, -, inOrder, adding, -⟩ := afterAll_empty_recalls 2 uses
  have leaves : (list.add ⟨"/c"⟩).2.map Path.text = some "/b" := by decide +kernel
  have some : (list.add ⟨"/c"⟩).2.isSome = true := by
    rw [← Option.isSome_map, leaves]
    rfl
  exact ⟨by decide +kernel, inOrder, leaves, ((adding ⟨"/c"⟩).2.1.mp some).2⟩

end RecencyList

end QueryNotebook
