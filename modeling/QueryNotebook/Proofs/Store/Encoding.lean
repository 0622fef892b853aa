import QueryNotebook.Proofs.Json.Objects
import QueryNotebook.Store.File

/-!
# Stores read back from their files

The texts that are written to the file of a store are read from it again, under the same names and
whatever characters they hold.  Whatever else a file holds, what is read from it stands in order.
-/

namespace QueryNotebook

namespace FileStore

/-- The step of a store's reader takes a printed text as it is. -/
theorem readMember_indented (values : Dictionary String) (name value : String) (level : Nat)
    (rest : List Char) :
    readMember values name (':' :: ' ' :: (Json.indented level (.text value) ++ rest)) =
      .ok (values.insert name value, rest) := by
  have colon (text : List Char) : Json.afterColon (':' :: text) = .ok text := rfl
  have blank (text : List Char) : Json.readText .text (' ' :: text) = Json.readText .text text :=
    rfl
  have text : Json.readText .text (Json.indented level (.text value) ++ rest) = .ok (value, rest) :=
    Json.readText_stringText .text value rest
  simp only [readMember, colon, blank, text, bind, Except.bind]

/-- What is written to the file of a store is read from it. -/
theorem parse_render {values : Dictionary String} (sorted : values.Sorted) :
    parse (render values) = .ok values := by
  have reads : Json.ReadsMembers readMember 1 .empty
      (values.entries.map fun entry => (entry.1, .text entry.2)) values :=
    Json.readsMembers_entries .text sorted fun entry _ known rest _ =>
      readMember_indented known entry.1 entry.2 1 rest
  obtain ⟨body, printed, read⟩ := Json.readMembers_indented reads []
  rw [List.append_nil] at printed
  rw [render, datum, parse, Json.indentedString, String.toList_ofList, printed,
    Json.skipSpace_cons rfl]
  simp only [read, bind, Except.bind]
  rfl

/-- A member comes to its place. -/
theorem sorted_readMember {values next : Dictionary String} {name : String}
    {text rest : List Char} (sorted : values.Sorted)
    (read : readMember values name text = .ok (next, rest)) : next.Sorted := by
  simp only [readMember, bind, Except.bind] at read
  split at read
  · contradiction
  · split at read
    · contradiction
    · obtain ⟨rfl, -⟩ := Prod.mk.inj (Except.ok.inj read)
      exact sorted.insert _ _

/-- What is read from a file stands in order. -/
theorem sorted_of_parse {contents : String} {values : Dictionary String}
    (read : parse contents = .ok values) : values.Sorted := by
  unfold parse at read
  split at read
  · contradiction
  · next members _ =>
    simp only [bind, Except.bind] at read
    split at read
    · contradiction
    · next listed =>
      split at read
      · contradiction
      · obtain rfl := Except.ok.inj read
        exact Json.readMembers_keeps sorted_readMember Dictionary.sorted_empty listed
  · contradiction

end FileStore

end QueryNotebook
