import QueryNotebook.CommandLine.Program
import QueryNotebook.Proofs.Json.Trees

/-!
# Reports that read back

What the program prints of a request that it met is read as the data that it reports: the names in
the reports on commands and on recent documents stand in order, so nothing is lost in print.
-/

namespace QueryNotebook.CommandLine

open Json (Ordered)

/-- The program prints some data and nothing else: the request was met, and the data stand on lines
of their own, from which they are read again. -/
def Reply.Prints (reply : Reply) (datum : Datum) : Prop :=
  reply = .report ⟨0, Json.indentedString datum ++ "\n", none, none⟩ ∧
    Json.parse (Json.indentedString datum ++ "\n") = .ok datum

/-- Ordered data are printed. -/
theorem prints_ofResult {datum : Datum} (ordered : Ordered datum) :
    (Reply.report (.ofResult (.ok datum))).Prints datum :=
  ⟨rfl, ordered.parse_indentedString⟩

/-- A result is data, and reporting it prints them. -/
def Printed (result : Result) : Prop :=
  ∃ datum, result = .ok datum ∧ (Reply.report (.ofResult result)).Prints datum

theorem ordered_ofText? (value? : Option String) : Ordered (.ofText? value?) := by
  cases value? with
  | none => exact .null
  | some value => exact .text value

/-- An object is ordered when its names stand in order and its values are ordered. -/
theorem ordered_object {members : List (String × Datum)}
    (names : (members.map Prod.fst).Pairwise (· < ·))
    (values : ∀ member ∈ members, Ordered member.2) : Ordered (.object members) :=
  .object (List.pairwise_map.mp names) values

theorem ordered_commandDatum (platform : Platform) (command : Command) :
    Ordered (commandDatum platform command) := by
  have names : ["detail", "icon", "keystroke", "title"].Pairwise (· < ·) := by decide
  refine ordered_object names ?_
  simp [iconDatum, ordered_ofText?, Ordered.text]

theorem ordered_runReport (command : Command) (effects : SideEffects) :
    Ordered (runReport command effects) := by
  have names : ["inserted", "opened", "ran"].Pairwise (· < ·) := by decide
  refine ordered_object names ?_
  simp [ordered_ofText?, Ordered.text]

theorem ordered_recentReport (recent : RecentDocuments) (store : FileStore) :
    Ordered (recentReport recent store) := by
  have names : ["documents", "lastFolder"].Pairwise (· < ·) := by decide
  have documents : Ordered (.array (recent.paths.map fun path => .text path.text)) :=
    .array (List.forall_mem_map.mpr fun path _ => .text path.text)
  refine ordered_object names ?_
  simp [documents, ordered_ofText?]

theorem printed_recentReport (recent : RecentDocuments) (store : FileStore) :
    Printed (.ok (recentReport recent store)) :=
  ⟨_, rfl, prints_ofResult (ordered_recentReport recent store)⟩

end QueryNotebook.CommandLine
