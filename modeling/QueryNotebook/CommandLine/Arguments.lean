import QueryNotebook.Catalog.Argument
import QueryNotebook.Document
import QueryNotebook.Path

/-!
# Command line arguments

What the arguments of the program ask for.  The program has commands, one of them with commands of
its own, and every level has options.  An option may be given once at its level, unless it collects
values; an option that several levels have counts at the innermost one.

An argument is looked at once, from left to right, and the first one that does not fit ends the
scan.  Two options end it too: the ones that ask for help and for the version.

There is one exception.  A value that is an argument of its own is judged with the next argument of
its level, or at the end.  So a command may still follow a value that is refused, and may ask for
help before the refusal counts.
-/

namespace QueryNotebook.CommandLine

/-- An option of the program or of a command. -/
inductive OptionKey where
  | help
  | version
  | verbose
  | config
  | offset
  | mode
  | table
  | server
  | selectedServer
  | query
  | snippets
  | store
  | run
deriving DecidableEq, Repr

namespace OptionKey

/-- The name of an option after two dashes. -/
def long : OptionKey → String
  | .help => "help"
  | .version => "version"
  | .verbose => "verbose"
  | .config => "config"
  | .offset => "offset"
  | .mode => "mode"
  | .table => "table"
  | .server => "server"
  | .selectedServer => "selected-server"
  | .query => "query"
  | .snippets => "snippets"
  | .store => "store"
  | .run => "run"

/-- The letter of an option after one dash. -/
def short? : OptionKey → Option Char
  | .help => some 'h'
  | .version => some 'V'
  | .verbose => some 'v'
  | .query => some 'q'
  | _ => none

/-- The option has a value. -/
def takesValue : OptionKey → Bool
  | .help => false
  | .version => false
  | .verbose => false
  | .run => false
  | _ => true

/-- The option collects the values of all its occurrences. -/
def collects : OptionKey → Bool
  | .table => true
  | .server => true
  | _ => false

end OptionKey

/-- The bound of counts: they have 64 bits. -/
def countBound : Nat := Nat.pow 2 64

/-- A count in decimal digits, with or without a plus sign. -/
def parseCount? (text : String) : Option Nat :=
  let digits := (Text.dropStart? ['+'] text.toList).getD text.toList
  let value := digits.foldl (fun value digit => value * 10 + (digit.toNat - 48)) 0
  if digits.isEmpty || !digits.all (fun c => '0' ≤ c && c ≤ '9') || countBound ≤ value then none
  else some value

/-- The value is one that the option can have. -/
def OptionKey.accepts (key : OptionKey) (value : String) : Bool :=
  match key with
  | .config => value != ""
  | .snippets => value != ""
  | .store => value != ""
  | .offset => (parseCount? value).isSome
  | .mode => (DocumentMode.ofName value).toOption.isSome
  | .table => (Table.ofArgument value).toOption.isSome
  | .server => (Server.ofArgument value).toOption.isSome
  | _ => true

/-- How far the commands have been named. -/
inductive Level where
  | top
  | classify
  | complete
  | commands
  | recent
  | recentList
  | recentAdd
  | recentClear
  /-- The command that explains the others. -/
  | help
deriving DecidableEq, Repr

namespace Level

/-- The options of a level.  Those for help, for more notes and for the settings file are options of
every level, and the store is an option of every level that concerns recent documents. -/
def options : Level → List OptionKey
  | .top => [.help, .version, .verbose, .config]
  | .classify => [.help, .verbose, .config, .offset, .mode]
  | .complete =>
      [.help, .verbose, .config, .offset, .mode, .table, .server, .selectedServer]
  | .commands => [.help, .verbose, .config, .query, .snippets, .store, .run]
  | .recent => [.help, .verbose, .config, .store]
  | .recentList => [.help, .verbose, .config, .store]
  | .recentAdd => [.help, .verbose, .config, .store]
  | .recentClear => [.help, .verbose, .config, .store]
  | .help => []

/-- The commands that may follow, with the levels that they lead to. -/
def inner : Level → List (String × Level)
  | .top =>
      [("classify", .classify), ("complete", .complete), ("commands", .commands),
        ("recent", .recent)]
  | .recent => [("list", .recentList), ("add", .recentAdd), ("clear", .recentClear)]
  | _ => []

/-- The level that a command leads to. -/
def enter? (level : Level) (name : String) : Option Level :=
  (level.inner.find? fun entry => entry.1 == name).map Prod.snd

/-- The level that help is wanted about.  Where commands may follow, the one that explains them is
one of them, and no command follows that one. -/
def topic? (level : Level) (name : String) : Option Level :=
  if name = "help" ∧ !level.inner.isEmpty then some .help else level.enter? name

/-- The number of paths that a level wants. -/
def operands : Level → Nat
  | .classify => 1
  | .complete => 1
  | .recentAdd => 1
  | _ => 0

/-- The option of the given name. -/
def ofLong? (level : Level) (name : List Char) : Option OptionKey :=
  level.options.find? fun key => key.long.toList == name

/-- The option of the given letter. -/
def ofShort? (level : Level) (letter : Char) : Option OptionKey :=
  level.options.find? fun key => key.short? == some letter

end Level

/-- Why the arguments ask for no command. -/
inductive Stop where
  | help
  | version
  /-- The arguments are not understood. -/
  | usage
deriving DecidableEq, Repr

/-- An option with its value; the value of an option without one is empty. -/
abbrev Occurrence := OptionKey × String

/-- The arguments scanned so far. -/
structure Scan where
  level : Level
  /-- The options given at this level. -/
  given : List Occurrence
  /-- The options given at the outer levels, the nearest first. -/
  outer : List (List Occurrence)
  operands : List String
  /-- The option that the next argument is the value of. -/
  awaiting? : Option OptionKey
  /-- The last level at which a value that was an argument of its own was refused. -/
  refusing? : Option Level
  /-- Two dashes have stood alone, so no more options follow. -/
  literal : Bool
  /-- Help was asked for, and the commands that it is about follow. -/
  helping : Bool

namespace Scan

/-- No argument has been looked at. -/
def start : Scan where
  level := .top
  given := []
  outer := []
  operands := []
  awaiting? := none
  refusing? := none
  literal := false
  helping := false

/-- An option given with a value. -/
def give (scan : Scan) (key : OptionKey) (value : String) : Except Stop Scan :=
  if !key.collects && scan.given.any (fun occurrence => occurrence.1 == key) then .error .usage
  else if !key.accepts value then .error .usage
  else .ok { scan with given := scan.given ++ [(key, value)], awaiting? := none }

/-- An option without a value. -/
def flag (scan : Scan) : OptionKey → Except Stop Scan
  | .help => .error .help
  | .version => .error .version
  | key => scan.give key ""

/-- An option by its name, with the value that is attached to it. -/
def longOption (scan : Scan) (name : List Char) (attached? : Option (List Char)) :
    Except Stop Scan :=
  match scan.level.ofLong? name with
  | none => .error .usage
  | some key =>
      match attached?, key.takesValue with
      | some value, true => scan.give key (String.ofList value)
      | none, true => .ok { scan with awaiting? := some key }
      | some _, false => .error .usage
      | none, false => scan.flag key

/-- Options by their letters.  What follows the letter of an option with a value is the value. -/
def shortOptions (scan : Scan) : List Char → Except Stop Scan
  | [] => .ok scan
  | letter :: rest =>
      match scan.level.ofShort? letter with
      | none => .error .usage
      | some key =>
          if key.takesValue then
            match rest with
            | [] => .ok { scan with awaiting? := some key }
            | '=' :: value => scan.give key (String.ofList value)
            | value => scan.give key (String.ofList value)
          else
            match scan.flag key with
            | .error stop => .error stop
            | .ok next => next.shortOptions rest

/-- An argument that is no option: a path. -/
def operand (scan : Scan) (argument : String) : Except Stop Scan :=
  if scan.operands.length < scan.level.operands ∧ argument ≠ "" then
    .ok { scan with operands := scan.operands ++ [argument] }
  else .error .usage

/-- A command that leads to an inner level. -/
def enter (scan : Scan) (level : Level) : Scan :=
  { scan with level := level, given := [], outer := scan.given :: scan.outer }

/-- An argument that is neither the value of an option nor a command. -/
def other (scan : Scan) (argument : String) : Except Stop Scan :=
  match argument.toList with
  | ['-', '-'] => .ok { scan with literal := true }
  | '-' :: '-' :: body =>
      match Text.splitFirst? '=' body with
      | some (name, value) => scan.longOption name (some value)
      | none => scan.longOption body none
  | '-' :: letter :: letters => scan.shortOptions (letter :: letters)
  | _ => scan.operand argument

/-- An argument that is not the value of an option. -/
def plain (scan : Scan) (argument : String) : Except Stop Scan :=
  if scan.literal then scan.operand argument
  else
    match scan.level.topic? argument with
    | some .help => .ok { scan with helping := true }
    | some level => .ok (scan.enter level)
    | none => if scan.refusing? = some scan.level then .error .usage else scan.other argument

/-- An argument that is the value of the option before it. -/
def takeValue (scan : Scan) (key : OptionKey) (argument : String) : Scan :=
  match scan.give key argument with
  | .ok next => next
  | .error _ => { scan with awaiting? := none, refusing? := some scan.level }

/-- An argument that looks like an option. -/
def isDashed (argument : String) : Bool :=
  match argument.toList with
  | '-' :: _ :: _ => true
  | _ => false

/-- One more argument. -/
def step (scan : Scan) (argument : String) : Except Stop Scan :=
  if scan.helping then
    match scan.level.topic? argument with
    | some level => .ok (scan.enter level)
    | none => .error .usage
  else
    match scan.awaiting? with
    | some key => if isDashed argument then .error .usage else .ok (scan.takeValue key argument)
    | none => scan.plain argument

/-- The options of all levels, the innermost level first. -/
def levels (scan : Scan) : List (List Occurrence) :=
  scan.given :: scan.outer

/-- The value of an option at the innermost level that gives it. -/
def value? (scan : Scan) (key : OptionKey) : Option String :=
  scan.levels.findSome? fun given =>
    (given.find? fun occurrence => occurrence.1 == key).map Prod.snd

/-- The values of an option that collects them. -/
def values (scan : Scan) (key : OptionKey) : List String :=
  (scan.given.filter fun occurrence => occurrence.1 == key).map Prod.snd

/-- An option is given. -/
def has (scan : Scan) (key : OptionKey) : Bool :=
  (scan.value? key).isSome

/-- The path that an option names. -/
def path? (scan : Scan) (key : OptionKey) : Option Path :=
  (scan.value? key).map Path.mk

end Scan

/-! ## What is asked for -/

/-- A document, where in it, and what kind it is. -/
structure Place where
  file : Path
  offset? : Option Nat
  mode? : Option DocumentMode

/-- What to do with the recent documents. -/
inductive RecentRequest where
  | list
  | add (path : Path)
  | clear

/-- What the program is asked to do. -/
inductive Request where
  /-- Report the trigger at a caret. -/
  | classify (place : Place)
  /-- List the candidates at a caret. -/
  | complete (place : Place) (tables : List Table) (servers : List Server)
      (selectedServer? : Option String)
  /-- List the palette's commands, or run the first one. -/
  | commands (query? : Option String) (snippets? store? : Option Path) (run : Bool)
  /-- Show or change the recent documents. -/
  | recent (request : RecentRequest) (store? : Option Path)

/-- A request, with the settings that every request has. -/
structure Invocation where
  verbose : Bool
  settingsFile? : Option Path
  request : Request

namespace Scan

/-- The document that the arguments name. -/
def place (scan : Scan) (file : String) : Place where
  file := ⟨file⟩
  offset? := (scan.value? .offset).bind parseCount?
  mode? := (scan.value? .mode).bind fun name => (DocumentMode.ofName name).toOption

/-- What the arguments ask for, unless something is missing. -/
def request? (scan : Scan) : Option Request :=
  match scan.level, scan.operands with
  | .classify, [file] => some (.classify (scan.place file))
  | .complete, [file] =>
      some (.complete (scan.place file)
        ((scan.values .table).filterMap fun value => (Table.ofArgument value).toOption)
        ((scan.values .server).filterMap fun value => (Server.ofArgument value).toOption)
        (scan.value? .selectedServer))
  | .commands, [] =>
      some (.commands (scan.value? .query) (scan.path? .snippets) (scan.path? .store)
        (scan.has .run))
  | .recentList, [] => some (.recent .list (scan.path? .store))
  | .recentAdd, [path] => some (.recent (.add ⟨path⟩) (scan.path? .store))
  | .recentClear, [] => some (.recent .clear (scan.path? .store))
  | _, _ => none

/-- A settings file in the surroundings stands for the option at every level that does not give it,
so it must be one that the option accepts. -/
def refusesSurroundings (scan : Scan) : Option String → Bool
  | none => false
  | some file =>
      !OptionKey.config.accepts file &&
        scan.levels.any fun given => !given.any fun occurrence => occurrence.1 == .config

/-- What the arguments ask for, once all of them have been looked at. -/
def finish (scan : Scan) (settingsFile? : Option String) : Except Stop Invocation :=
  if scan.helping then .error .help
  else if scan.awaiting?.isSome || scan.refusing?.isSome ||
      scan.refusesSurroundings settingsFile? then .error .usage
  else
    match scan.request? with
    | none => .error .usage
    | some request =>
        .ok
          { verbose := scan.has .verbose
            settingsFile? := ((scan.value? .config).or settingsFile?).map Path.mk
            request := request }

end Scan

/-- What the arguments ask for, in surroundings that may name a settings file. -/
def parseArguments (settingsFile? : Option String) (arguments : List String) :
    Except Stop Invocation :=
  match arguments.foldlM Scan.step .start with
  | .error stop => .error stop
  | .ok scan => scan.finish settingsFile?

end QueryNotebook.CommandLine
