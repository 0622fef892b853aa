import QueryNotebook.Command.Source
import QueryNotebook.Selection
import QueryNotebook.Settings

/-!
# The command palette

A list of all commands that narrows down while a query is typed.  The sources are asked once, when
the palette is opened; typing filters what they gave.  Settling on a command defers it, and closes
the palette; while it is closed nothing but opening it has an effect.
-/

namespace QueryNotebook

/-- The command palette. -/
structure Palette where
  registry : CommandRegistry
  /-- The commands that are shown, with the highlight. -/
  selection : Selection Command
  /-- The commands that the latest opening collected. -/
  all : List Command
  query : String
  /-- The number of commands that match the query, shown or not. -/
  matchCount : Nat
  /-- The number of commands that are shown at most. -/
  maxResults : Nat
  isOpen : Bool

namespace Palette

/-- The number of commands that are shown when nothing else is chosen. -/
def defaultMaxResults : Nat := 50

/-- A closed palette. -/
def ofRegistry (registry : CommandRegistry) (maxResults : Nat) : Palette where
  registry := registry
  selection := .empty
  all := []
  query := ""
  matchCount := 0
  maxResults := maxResults
  isOpen := false

/-- A closed palette that shows as many commands as the settings say. -/
def ofSettings (registry : CommandRegistry) (settings : Settings) : Palette :=
  ofRegistry registry settings.paletteMaxResults

/-- The palette with one more source. -/
def register (palette : Palette) (source : CommandSource) : Palette :=
  { palette with registry := palette.registry.register source }

/-- The palette with a listener for the highlighted command. -/
def listen (palette : Palette) : Palette :=
  { palette with selection := palette.selection.listen }

/-- The commands that are shown. -/
def results (palette : Palette) : List Command :=
  palette.selection.items

/-- The highlighted command. -/
def highlighted? (palette : Palette) : Option Command :=
  palette.selection.highlighted?

/-- The palette with a query, showing the commands that match it. -/
def search (palette : Palette) (query : String) : Palette :=
  let found := Command.matching palette.all query
  { palette with
    query := query
    matchCount := found.length
    selection := palette.selection.withItems (found.take palette.maxResults) }

/-- The palette opened with all commands, and the warnings. -/
def openWith (palette : Palette) (context : PollContext) : Palette × List Warning :=
  let collected := palette.registry.collect context
  let opened :=
    { palette with registry := collected.registry, all := collected.commands, isOpen := true }
  (opened.search "", collected.warnings)

/-- The palette with another query. -/
def setQuery (palette : Palette) (query : String) : Palette :=
  if palette.isOpen then palette.search query else palette

/-- The palette with one more character of the query. -/
def typeChar (palette : Palette) (c : Char) : Palette :=
  if palette.isOpen then palette.search (palette.query.push c) else palette

/-- The palette without the last character of the query; without any, nothing changes. -/
def backspace (palette : Palette) : Palette :=
  if palette.isOpen && palette.query != "" then
    palette.search (String.ofList palette.query.toList.dropLast)
  else palette

/-- The highlight moved by a distance. -/
def moveBy (palette : Palette) (distance : Int) : Palette :=
  if palette.isOpen then { palette with selection := palette.selection.moveBy distance }
  else palette

/-- The palette without commands and query. -/
def reset (palette : Palette) : Palette :=
  { palette with isOpen := false, all := [], query := "", matchCount := 0 }

/-- The palette closed. -/
def close (palette : Palette) : Palette :=
  { palette with selection := palette.selection.withItems [] }.reset

/-- The user settles on the highlighted command: the command if there is one, the palette and the
queue.  The command is deferred, and the palette closes in any case. -/
def commit (palette : Palette) (queue : JobQueue Work) :
    Option Command × Palette × JobQueue Work :=
  if palette.isOpen then
    match palette.selection.commit with
    | none => (none, palette.close, queue)
    | some command =>
        (some command, palette.close, queue.defer (.simple (.perform command.handler)))
  else (none, palette, queue)

/-- The user turns away from the palette. -/
def cancel (palette : Palette) : Palette :=
  if palette.isOpen then { palette with selection := palette.selection.cancel }.reset else palette

end Palette

end QueryNotebook
