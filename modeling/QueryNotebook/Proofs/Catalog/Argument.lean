import Mathlib.Tactic.SplitIfs
import QueryNotebook.Catalog.Argument
import QueryNotebook.Proofs.Text.Names
import QueryNotebook.Proofs.Text.Piece

/-!
# Arguments that describe catalog entries

Which entry an argument describes, which arguments are refused, and which entries can be described
at all.  The name of a server may hold colons, so a server is always written with its driver; a
table is written with its example if it has one.  An entry that was read is read again from what is
written for it.
-/

namespace QueryNotebook

open Text

/-! ## Names of drivers -/

namespace ServerDriver

/-- The names of a driver, in small letters. -/
def aliases : ServerDriver → List String
  | .kdb => ["kdb", "kdb+", "q"]
  | .postgres => ["postgres", "postgresql", "pg"]
  | .mysql => ["mysql", "mariadb"]
  | .sqlite => ["sqlite"]
  | .duckdb => ["duckdb"]
  | .clickhouse => ["clickhouse"]
  | .mssql => ["mssql", "sqlserver"]
  | .other => ["other"]

/-- The vocabulary of drivers. -/
def nameTable : NameTable ServerDriver where
  names := aliases
  small driver := by cases driver <;> decide

/-- A piece of text is a name of the driver, in ASCII letters of any case. -/
abbrev NamedBy (driver : ServerDriver) (piece : List Char) : Prop :=
  nameTable.Calls driver piece

/-- A driver has the name that is shown for it. -/
theorem namedBy_name (driver : ServerDriver) : driver.NamedBy driver.name.toList := by
  cases driver <;> decide

/-- A piece that names a driver is read as that driver. -/
theorem ofName_of_namedBy {driver : ServerDriver} {piece : List Char}
    (named : driver.NamedBy piece) : ofName piece = driver := by
  obtain ⟨name, member, same⟩ := named
  have alike : ofName piece = ofName name.toList := by
    simp only [ofName, beq_iff_eq.mp same]
  have known : ∀ name ∈ driver.aliases, ofName name.toList = driver := by
    cases driver <;> decide
  exact alike.trans (known name member)

/-- A piece is read as a driver that it names, or as no particular one. -/
theorem namedBy_ofName_or (piece : List Char) :
    (ofName piece).NamedBy piece ∨ ofName piece = .other := by
  refine Or.imp_left NameTable.calls_iff.mpr ?_
  unfold ofName
  dsimp only
  split_ifs with named named named named named named named
  case neg => exact .inr rfl
  all_goals exact .inl (by simpa [nameTable, aliases] using named)

/-- A piece counts as a driver when it names one, the driver of other databases included. -/
theorem readBy_named? : nameTable.ReadBy named? := by
  intro piece driver
  constructor
  · intro found
    unfold named? at found
    split at found
    · split at found
      · next isOther =>
        obtain rfl := Option.some.inj found
        exact ⟨"other", by simp [nameTable, aliases], isOther⟩
      · contradiction
    · next own =>
      obtain rfl := Option.some.inj found
      exact (namedBy_ofName_or piece).resolve_right own
  · intro named
    have found := ofName_of_namedBy named
    unfold named?
    rw [found]
    cases driver with
    | other =>
        obtain ⟨name, member, same⟩ := named
        obtain rfl : name = "other" := by simpa [nameTable, aliases] using member
        exact if_pos same
    | _ => rfl

/-- No piece with a colon names a driver. -/
theorem noColon_of_namedBy {driver : ServerDriver} {piece : List Char}
    (named : driver.NamedBy piece) : ':' ∉ piece :=
  named.notMem (by decide) (by cases driver <;> decide)

/-- The name that is shown for a driver ends in a solid character. -/
theorem endsSolid_name (driver : ServerDriver) : EndsSolid driver.name.toList := by
  have kept : trim driver.name.toList = driver.name.toList := by cases driver <;> decide
  have nonempty : driver.name.toList ≠ [] := by cases driver <;> decide
  rw [← kept]
  exact endsSolid_trim (kept.symm ▸ nonempty)

end ServerDriver

/-! ## Servers -/

namespace Server

/-- What a text without blanks around it describes.  The part behind its last colon counts only if
it names a driver, and then something must stand before it. -/
inductive Denotes : List Char → Except ArgumentFault Server → Prop where
  | nothing : Denotes [] (.error .emptyServer)
  | nameless {driver : ServerDriver} {last : List Char} (named : driver.NamedBy last) :
      Denotes (':' :: last) (.error (.emptyServerName (String.ofList (':' :: last))))
  | driven {name last : List Char} {driver : ServerDriver} (nonempty : name ≠ [])
      (named : driver.NamedBy last) :
      Denotes (name ++ ':' :: last) (.ok ⟨String.ofList name, driver⟩)
  | plain {text : List Char} (nonempty : text ≠ [])
      (unnamed : ∀ name last, text = name ++ ':' :: last →
        ∀ driver : ServerDriver, ¬ driver.NamedBy last) :
      Denotes text (.ok ⟨String.ofList text, .other⟩)

/-- What is read of an argument is denoted by its text, without the blanks around it. -/
theorem denotes_ofArgument (source : String) :
    Denotes (trim source.toList) (ofArgument source) := by
  unfold ofArgument
  generalize trim source.toList = text
  dsimp only
  split
  · next empty =>
    obtain rfl := List.isEmpty_iff.mp empty
    exact .nothing
  · next something =>
    have nonempty : text ≠ [] := by simpa using something
    split
    · next none =>
      refine .plain nonempty fun name last parts => ?_
      simp [splitLast?_eq_none_iff, parts] at none
    · next name last cut =>
      obtain ⟨rfl, noColon⟩ := splitLast?_eq_some cut
      split
      · next none =>
        refine .plain nonempty fun other again parts driver named => ?_
        rw [parts, splitLast?_append (ServerDriver.noColon_of_namedBy named)] at cut
        obtain ⟨-, rfl⟩ := Prod.mk.inj (Option.some.inj cut)
        exact ServerDriver.readBy_named?.eq_none_iff.mp none driver named
      · next driver found =>
        have named := (ServerDriver.readBy_named? _ _).mp found
        split
        · next empty =>
          obtain rfl := List.isEmpty_iff.mp empty
          exact .nameless named
        · next given => exact .driven (by simpa using given) named

/-- What the text of an argument denotes is read of it. -/
theorem Denotes.ofArgument_eq {source : String} {result : Except ArgumentFault Server}
    (denotes : Denotes (trim source.toList) result) : ofArgument source = result := by
  unfold ofArgument
  generalize trim source.toList = text at denotes ⊢
  cases denotes with
  | nothing => rfl
  | nameless named =>
      have cut : splitLast? ':' (':' :: _) = some ([], _) := splitLast?_append (ServerDriver.noColon_of_namedBy named) []
      simp [cut, (ServerDriver.readBy_named? _ _).mpr named]
  | driven nonempty named =>
      have found := (ServerDriver.readBy_named? _ _).mpr named
      simp [splitLast?_append (ServerDriver.noColon_of_namedBy named), found, nonempty]
  | plain nonempty unnamed =>
      cases cut : splitLast? ':' text with
      | none => simp [cut, nonempty]
      | some parts =>
          obtain ⟨whole, -⟩ := splitLast?_eq_some cut
          have none := ServerDriver.readBy_named?.eq_none_iff.mpr (unnamed _ _ whole)
          simp [cut, nonempty, none]

/-- An argument is read as what its text denotes. -/
theorem ofArgument_eq_iff {source : String} {result : Except ArgumentFault Server} :
    ofArgument source = result ↔ Denotes (trim source.toList) result :=
  ⟨fun read => read ▸ denotes_ofArgument source, Denotes.ofArgument_eq⟩

/-- An argument is refused when there is nothing but blanks, and when nothing stands before a name of
a driver. -/
theorem ofArgument_eq_error_iff {source : String} {fault : ArgumentFault} :
    ofArgument source = .error fault ↔
      (trim source.toList = [] ∧ fault = .emptyServer) ∨
        ∃ (driver : ServerDriver) (last : List Char), driver.NamedBy last ∧
          trim source.toList = ':' :: last ∧
            fault = .emptyServerName (String.ofList (trim source.toList)) := by
  rw [ofArgument_eq_iff]
  constructor
  · generalize trim source.toList = text
    intro denotes
    cases denotes with
    | nothing => exact .inl ⟨rfl, rfl⟩
    | nameless named => exact .inr ⟨_, _, named, rfl, rfl⟩
  · rintro (⟨nothing, rfl⟩ | ⟨driver, last, named, text, rfl⟩)
    · rw [nothing]
      exact .nothing
    · rw [text]
      exact .nameless named

/-- What is written for a server: its name and its driver, also where the driver is no particular
one. -/
def toArgument (server : Server) : String :=
  server.name ++ ":" ++ server.driver.name

/-- A server that an argument can describe: it has a name, without blanks in front. -/
structure Expressible (server : Server) : Prop where
  named : server.name ≠ ""
  solid : trimStart server.name.toList = server.name.toList

/-- The servers that are read can be described. -/
theorem expressible_of_ofArgument {source : String} {server : Server}
    (read : ofArgument source = .ok server) : server.Expressible := by
  have denotes := ofArgument_eq_iff.mp read
  have kept := trimStart_trim source.toList
  generalize trim source.toList = text at denotes kept
  cases denotes with
  | driven nonempty named =>
      refine ⟨by simpa using nonempty, ?_⟩
      rw [String.toList_ofList]
      exact trimStart_of_append kept
  | plain nonempty unnamed =>
      refine ⟨by simpa using nonempty, ?_⟩
      rwa [String.toList_ofList]

/-- A server that can be described is read from what is written for it. -/
theorem Expressible.ofArgument_toArgument {server : Server} (expressible : server.Expressible) :
    ofArgument server.toArgument = .ok server := by
  have nonempty : server.name.toList ≠ [] := by simpa using expressible.named
  have written : server.toArgument.toList =
      server.name.toList ++ ':' :: server.driver.name.toList := by simp [toArgument]
  have ends : EndsSolid server.toArgument.toList := by
    rw [written, List.append_cons]
    exact server.driver.endsSolid_name.append_left _
  have kept : trim server.toArgument.toList = server.toArgument.toList := by
    rw [ends.trim_eq, written, trimStart_append (by rwa [expressible.solid]), expressible.solid]
  rw [ofArgument_eq_iff, kept, written]
  simpa using Denotes.driven nonempty server.driver.namedBy_name

end Server

/-! ## Tables -/

namespace Table

/-- The name of a table is read before the first `=` of an argument, its example behind it. -/
theorem ofArgument_eq (source : String) :
    ofArgument source =
      let name := trim (source.toList.takeWhile (· != '='))
      let query := trim (source.toList.dropWhile (· != '=')).tail
      if name = [] then .error (.emptyTableName source)
      else .ok ⟨String.ofList name, if query = [] then [] else [String.ofList query]⟩ := by
  simp only [ofArgument, splitFirst?_getD, List.isEmpty_iff]

/-- An argument is refused when nothing but blanks stands before its first `=`. -/
theorem ofArgument_eq_error_iff {source : String} {fault : ArgumentFault} :
    ofArgument source = .error fault ↔
      allBlank (source.toList.takeWhile (· != '=')) = true ∧ fault = .emptyTableName source := by
  rw [ofArgument_eq, ← trim_eq_nil_iff]
  dsimp only
  split
  · next nothing => simp [nothing, eq_comm]
  · next something => simp [something]

/-- What is written for a table: its name, and its first example if it has one. -/
def toArgument (table : Table) : String :=
  match table.leadExample? with
  | none => table.name
  | some query => table.name ++ "=" ++ query

/-- A text that trimming leaves as it is, and not the empty one. -/
structure Trimmed (text : String) : Prop where
  nonempty : text ≠ ""
  kept : trim text.toList = text.toList

/-- A table that an argument can describe: its name is trimmed and holds no `=`, and it has one
example at most, which is trimmed as well. -/
structure Expressible (table : Table) : Prop where
  named : Trimmed table.name
  clean : '=' ∉ table.name.toList
  single : table.examples = [] ∨ ∃ query, Trimmed query ∧ table.examples = [query]

/-- What trimming leaves of a text is trimmed, unless nothing is left. -/
theorem trimmed_ofList {text : List Char} (nonempty : trim text ≠ []) :
    Trimmed (String.ofList (trim text)) where
  nonempty := by simpa using nonempty
  kept := by rw [String.toList_ofList, trim_trim]

/-- The tables that are read can be described. -/
theorem expressible_of_ofArgument {source : String} {table : Table}
    (read : ofArgument source = .ok table) : table.Expressible := by
  rw [ofArgument_eq] at read
  dsimp only at read
  split at read
  · contradiction
  · next something =>
    obtain rfl := Except.ok.inj read
    refine ⟨trimmed_ofList something, ?clean, ?query⟩
    case clean =>
      rw [String.toList_ofList]
      intro member
      have other := List.mem_takeWhile_imp (mem_of_mem_trim member)
      simp at other
    case query =>
      dsimp only
      split
      · exact .inl rfl
      · next given => exact .inr ⟨_, trimmed_ofList given, rfl⟩

/-- A table that can be described is read from what is written for it. -/
theorem Expressible.ofArgument_toArgument {table : Table} (expressible : table.Expressible) :
    ofArgument table.toArgument = .ok table := by
  obtain ⟨name, examples⟩ := table
  obtain ⟨⟨named, kept⟩, clean, single⟩ := expressible
  dsimp only at named kept clean single
  have other := bne_of_notMem clean
  have solid : name.toList ≠ [] := by simpa using named
  rw [ofArgument_eq]
  rcases single with none | ⟨query, trimmed, one⟩
  · obtain rfl : examples = [] := none
    have alone := List.takeWhile_eq_self_iff.mpr other
    have nothing := List.dropWhile_eq_nil_iff.mpr other
    simp [toArgument, leadExample?, alone, nothing, kept, solid]
  · obtain rfl : examples = [query] := one
    have given : query.toList ≠ [] := by simpa using trimmed.nonempty
    have written : (toArgument ⟨name, [query]⟩).toList = name.toList ++ '=' :: query.toList := by
      simp [toArgument, leadExample?]
    rw [written, List.takeWhile_append_of_pos other, List.dropWhile_append_of_pos other]
    simp [kept, solid, trimmed.kept, given]

end Table

/-- Arguments are read as what they denote, and what is written for the entries that were read is
read as the same entries.  Every name without blanks in front is read with every driver behind it,
whatever colons it holds.  No server is read exactly when nothing but blanks is there or only a colon
and a name of a driver; no table is read exactly when nothing but blanks stands before the first
`=`.  Every trimmed name without `=` is read with every trimmed example behind it. -/
theorem catalog_arguments_read_again :
    (∀ (name : String) (driver : ServerDriver), name ≠ "" →
      trimStart name.toList = name.toList →
        Server.ofArgument (name ++ ":" ++ driver.name) = .ok ⟨name, driver⟩) ∧
    (∀ source fault, Server.ofArgument source = .error fault ↔
      (trim source.toList = [] ∧ fault = .emptyServer) ∨
        ∃ (driver : ServerDriver) (last : List Char), driver.NamedBy last ∧
          trim source.toList = ':' :: last ∧
            fault = .emptyServerName (String.ofList (trim source.toList))) ∧
    (∀ source server, Server.ofArgument source = .ok server →
      Server.ofArgument (server.name ++ ":" ++ server.driver.name) = .ok server) ∧
    (∀ source fault, Table.ofArgument source = .error fault ↔
      allBlank (source.toList.takeWhile (· != '=')) = true ∧ fault = .emptyTableName source) ∧
    (∀ name query : String, name ≠ "" → trim name.toList = name.toList → '=' ∉ name.toList →
      query ≠ "" → trim query.toList = query.toList →
        Table.ofArgument (name ++ "=" ++ query) = .ok ⟨name, [query]⟩) ∧
    ∀ source table, Table.ofArgument source = .ok table →
      Table.ofArgument table.toArgument = .ok table := by
  refine ⟨?_, fun _ _ => Server.ofArgument_eq_error_iff,
    fun _ _ read => (Server.expressible_of_ofArgument read).ofArgument_toArgument,
    fun _ _ => Table.ofArgument_eq_error_iff, ?_,
    fun _ _ read => (Table.expressible_of_ofArgument read).ofArgument_toArgument⟩
  · intro name driver nonempty solid
    have expressible : Server.Expressible ⟨name, driver⟩ := ⟨nonempty, solid⟩
    exact expressible.ofArgument_toArgument
  · intro name query nonempty kept clean given trimmed
    have expressible : Table.Expressible ⟨name, [query]⟩ :=
      ⟨⟨nonempty, kept⟩, clean, .inr ⟨query, ⟨given, trimmed⟩, rfl⟩⟩
    exact expressible.ofArgument_toArgument

/-- A host with its port, with a driver in other letters and with none in particular; a table whose
example holds the sign that divides the two, and one without an example. -/
theorem catalog_arguments_read_again_ports :
    Server.ofArgument " db:5000:PG\t" = .ok ⟨"db:5000", .postgres⟩ ∧
      Server.ofArgument "db:5000:postgres" = .ok ⟨"db:5000", .postgres⟩ ∧
      Server.ofArgument "db:5000:other" = .ok ⟨"db:5000", .other⟩ ∧
      Server.ofArgument " :KDB+" = .error (.emptyServerName ":KDB+") ∧
      Table.ofArgument "trades=a=b" = .ok ⟨"trades", ["a=b"]⟩ ∧
      Table.ofArgument "\n quotes = " = .ok ⟨"quotes", []⟩ ∧
      Table.ofArgument "quotes" = .ok ⟨"quotes", []⟩ := by
  obtain ⟨driven, refused, readServer, -, queried, readTable⟩ := catalog_arguments_read_again
  have server : Server.ofArgument " db:5000:PG\t" = .ok ⟨"db:5000", .postgres⟩ := by decide +kernel
  have table : Table.ofArgument "\n quotes = " = .ok ⟨"quotes", []⟩ := by decide +kernel
  have shown : trim " :KDB+".toList = ':' :: "KDB+".toList := by decide
  have nameless := (refused " :KDB+" (.emptyServerName ":KDB+")).mpr
    (.inr ⟨.kdb, "KDB+".toList, by decide, shown, by rw [shown]; rfl⟩)
  have divided := queried "trades" "a=b" (by decide) (by decide) (by decide) (by decide) (by decide)
  exact ⟨server, readServer " db:5000:PG\t" ⟨"db:5000", .postgres⟩ server,
    driven "db:5000" .other (by decide) (by decide), nameless, divided, table,
    readTable "\n quotes = " ⟨"quotes", []⟩ table⟩

end QueryNotebook
