import QueryNotebook.Icon
import QueryNotebook.Text.Case

/-!
# The catalog

What completion can offer: the tables and servers that the host knows, and the chart kinds that a
code block may ask for.  The host builds a snapshot of them; nothing here refreshes it.
-/

namespace QueryNotebook

/-- A way to draw the result of a query. -/
structure ChartKind where
  token : String
  icon? : Option Icon
deriving DecidableEq, Repr

/-- A chart kind with an icon of the given key. -/
def ChartKind.withIcon (token key : String) : ChartKind :=
  ⟨token, some ⟨key⟩⟩

/-- The chart kinds that every code block may ask for. -/
def ChartKind.all : List ChartKind :=
  [ .withIcon "grid" "table",
    .withIcon "timeseries" "chart-timeseries",
    .withIcon "line" "chart-line",
    .withIcon "area" "chart-area",
    .withIcon "bar" "chart-bar",
    .withIcon "stack" "chart-stack",
    .withIcon "bar_horizontal" "chart-bar-horizontal",
    .withIcon "stack_horizontal" "chart-stack-horizontal",
    .withIcon "pie" "chart-pie",
    .withIcon "scatter" "chart-scatter",
    .withIcon "bubble" "chart-bubble",
    .withIcon "candle" "chart-candle",
    .withIcon "heatmap" "chart-heatmap",
    .withIcon "radar" "chart-radar",
    .withIcon "sankey" "chart-sankey",
    .withIcon "sunburst" "chart-sunburst",
    .withIcon "treemap" "chart-treemap",
    .withIcon "boxplot" "chart-boxplot",
    .withIcon "calendar" "chart-calendar",
    .withIcon "funnel" "chart-funnel",
    ⟨"metrics", none⟩,
    .withIcon "3dbar" "chart-3d",
    .withIcon "3dsurface" "chart-3d",
    ⟨"empty", none⟩ ]

/-- The kind of database that a server runs. -/
inductive ServerDriver where
  | kdb
  | postgres
  | mysql
  | sqlite
  | duckdb
  | clickhouse
  | mssql
  | other
deriving DecidableEq, Repr

namespace ServerDriver

/-- The name of a driver. -/
def name : ServerDriver → String
  | .kdb => "kdb"
  | .postgres => "postgres"
  | .mysql => "mysql"
  | .sqlite => "sqlite"
  | .duckdb => "duckdb"
  | .clickhouse => "clickhouse"
  | .mssql => "mssql"
  | .other => "other"

/-- The icon of servers with a driver. -/
def icon : ServerDriver → Icon
  | .other => ⟨"server"⟩
  | driver => ⟨"server-" ++ driver.name⟩

/-- The driver of the given name in any ASCII case; an unknown name is some other driver's. -/
def ofName (text : List Char) : ServerDriver :=
  let name := String.ofList (Text.asciiLower text)
  if name = "kdb" ∨ name = "kdb+" ∨ name = "q" then .kdb
  else if name = "postgres" ∨ name = "postgresql" ∨ name = "pg" then .postgres
  else if name = "mysql" ∨ name = "mariadb" then .mysql
  else if name = "sqlite" then .sqlite
  else if name = "duckdb" then .duckdb
  else if name = "clickhouse" then .clickhouse
  else if name = "mssql" ∨ name = "sqlserver" then .mssql
  else .other

/-- Every driver is read back from its name. -/
@[simp] theorem ofName_name (driver : ServerDriver) : ofName driver.name.toList = driver := by
  cases driver <;> decide +kernel

end ServerDriver

/-- A server that queries can run on. -/
structure Server where
  name : String
  driver : ServerDriver
deriving DecidableEq, Repr

/-- A table that queries can read, with examples of queries on it. -/
structure Table where
  name : String
  examples : List String
deriving DecidableEq, Repr

/-- The query that stands for a table in a code block. -/
def Table.leadExample? (table : Table) : Option String :=
  table.examples.head?

/-- What the host knows at a moment. -/
structure Snapshot where
  tables : List Table
  servers : List Server
  chartKinds : List ChartKind
  selectedServer? : Option String
deriving DecidableEq, Repr

/-- A host that knows the chart kinds and nothing else. -/
def Snapshot.initial : Snapshot :=
  ⟨[], [], ChartKind.all, none⟩

/-- A host that knows nothing at all. -/
def Snapshot.empty : Snapshot :=
  ⟨[], [], [], none⟩

end QueryNotebook
