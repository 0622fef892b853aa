import QueryNotebook.CommandLine.Program

/-!
# The command line

The only part of the program that touches the system: it answers the requests of a program on files
from the files that are there, and prints what the program reports.
-/

namespace QueryNotebook.CommandLine

/-- The number that comes with an error, where there is one. -/
def errorNumber? : IO.Error → Option UInt32
  | .alreadyExists _ code _ => some code
  | .inappropriateType _ code _ => some code
  | .invalidArgument _ code _ => some code
  | .noFileOrDirectory _ code _ => some code
  | .noSuchThing _ code _ => some code
  | .otherError code _ => some code
  | .permissionDenied _ code _ => some code
  | .resourceExhausted _ code _ => some code
  | _ => none

/-- The system's number of an error.  Some operations hand on the number and some its negative. -/
def systemCode? (error : IO.Error) : Option UInt32 :=
  (errorNumber? error).map fun number => if number < 0x80000000 then number else 0 - number

/-- An error of the system as a fault. -/
def faultOfSystem (error : IO.Error) : FileFault :=
  match systemCode? error with
  | some 2 => .missing
  | some 13 => .other "Permission denied (os error 13)"
  | some 17 => .taken
  | some 20 => .notFolder
  | some 21 => .isFolder
  | some 30 => .other "Read-only file system (os error 30)"
  | some 36 => .nameTooLong
  | _ => .other (toString error)

/-- The result of an action, or the fault that it ran into. -/
def attempt {α : Type} (action : IO α) : IO (Except FileFault α) := do
  try
    let result ← action
    pure (.ok result)
  catch error => pure (.error (faultOfSystem error))

/-- The text of a file. -/
def readSystemText (path : Path) : IO (Except FileFault String) := do
  match ← attempt (IO.FS.readBinFile path.text) with
  | .error fault => pure (.error fault)
  | .ok contents =>
      match String.fromUTF8? contents with
      | some text => pure (.ok text)
      | none => pure (.error .notText)

/-- Whether a path names anything. -/
def isPresentInSystem (path : Path) : IO Bool := do
  match ← attempt (IO.FS.realPath path.text) with
  | .error _ => pure false
  | .ok real => real.pathExists

/-- Whether a path names a folder. -/
def isFolderInSystem (path : Path) : IO Bool := do
  match ← attempt (IO.FS.realPath path.text) with
  | .error _ => pure false
  | .ok real => real.isDir

/-- A program run on the files of the system.  Its warnings go to the error output at once. -/
def runOnSystem {α : Type} : Disk α → IO α
  | .done result => pure result
  | .readText path next => do
      let answer ← readSystemText path
      runOnSystem (next answer)
  | .writeText path contents next => do
      let answer ← attempt (IO.FS.writeBinFile path.text contents.toUTF8)
      runOnSystem (next answer)
  | .makeFolder path next => do
      let answer ← attempt (IO.FS.createDir path.text)
      runOnSystem (next answer)
  | .isFolder path next => do
      let answer ← isFolderInSystem path
      runOnSystem (next answer)
  | .isPresent path next => do
      let answer ← isPresentInSystem path
      runOnSystem (next answer)
  | .warn warning next => do
      IO.eprintln ("[WARN] " ++ warning.message)
      runOnSystem next

/-- What the surroundings say about where the configuration is. -/
def readSurroundings : IO Surroundings := do
  let configHome ← IO.getEnv "XDG_CONFIG_HOME"
  let home ← IO.getEnv "HOME"
  let settingsFile ← IO.getEnv "QPAD_CONFIG"
  pure
    { configHome := configHome.map Path.mk
      home := (home.filter fun folder => folder != "").map Path.mk
      settingsFile := settingsFile }

/-- How the program is used, in short. -/
def helpText : String :=
  String.intercalate "\n" [
    "Usage: qpad [OPTIONS] <COMMAND>",
    "",
    "Commands:",
    "  classify FILE [--offset N] [--mode MODE]",
    "  complete FILE [--offset N] [--mode MODE] [--table NAME[=QUERY]]... [--server NAME[:DRIVER]]...",
    "           [--selected-server NAME]",
    "  commands [-q QUERY] [--snippets FILE] [--store FILE] [--run]",
    "  recent list|add PATH|clear [--store FILE]",
    "",
    "Options:",
    "  -v, --verbose      Log at debug level",
    "      --config FILE  Settings file",
    "  -h, --help         Print help",
    "  -V, --version      Print version",
    ""]

/-- Prints a report and gives its exit code. -/
def printReport (report : Report) : IO UInt32 := do
  IO.print report.output
  match report.error? with
  | none => pure ()
  | some error => IO.eprintln ("error: " ++ error)
  match report.hint? with
  | none => pure ()
  | some hint => IO.eprintln ("hint:  " ++ hint)
  pure (UInt32.ofNat report.code)

/-- Prints a reply and gives the exit code of the program. -/
def printReply : Reply → IO UInt32
  | .report report => printReport report
  | .help => printReport (.ofText helpText)
  | .usage => do
      IO.eprint helpText
      pure (UInt32.ofNat codeUsage)

end QueryNotebook.CommandLine

/-- The command line program. -/
def main (arguments : List String) : IO UInt32 := do
  let surroundings ← QueryNotebook.CommandLine.readSurroundings
  let reply ←
    QueryNotebook.CommandLine.runOnSystem (QueryNotebook.CommandLine.run surroundings arguments)
  QueryNotebook.CommandLine.printReply reply
