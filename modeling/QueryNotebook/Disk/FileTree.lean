import QueryNotebook.Disk
import QueryNotebook.Text.Utf8

/-!
# Files in memory

A tree of folders and files, and programs on files run on it.  Names are followed the way the
system follows them: step by step from the root or the working folder, each step but the last
through a folder that is there.
-/

namespace QueryNotebook

/-- What has a name. -/
inductive FileNode where
  | file (contents : ByteArray)
  | folder

/-- Folders and files by the names that lead to them from the root, and the working folder.  The
root itself is not listed. -/
structure FileTree where
  current : List String
  entries : List (List String × FileNode)

namespace FileTree

/-- What stands at a place. -/
def node? (tree : FileTree) (place : List String) : Option FileNode :=
  if place = [] then some .folder
  else (tree.entries.find? fun entry => entry.1 == place).map Prod.snd

/-- The tree with something else at a place. -/
def set (tree : FileTree) (place : List String) (node : FileNode) : FileTree :=
  { tree with
    entries := (place, node) :: tree.entries.filter fun entry => entry.1 != place }

/-- The greatest size of one name in bytes. -/
def nameBound : Nat := 255

/-- What stands at a place, by looking its last name up in its folder.  A name that is too long is
refused there, and so only where it is looked up. -/
def find (tree : FileTree) (place : List String) : Except FileFault (Option FileNode) :=
  if (place.getLast?.any fun name => nameBound < name.utf8ByteSize) then .error .nameTooLong
  else .ok (tree.node? place)

/-- The least size of a path in bytes that is too long. -/
def pathBound : Nat := 4096

/-- Where a path leads.  Its last name need not be taken; `asFolder` when the path is written like
that of a folder, ending in a separator or in dots. -/
structure Target where
  place : List String
  asFolder : Bool
deriving Repr

/-- Following names from a folder.  The last name is not looked up; separators after it say that it
is a folder's, however many there are. -/
def walk (tree : FileTree) : List String → List (List Char) → Except FileFault Target
  | place, [] => .ok ⟨place, true⟩
  | place, piece :: rest =>
      if piece = [] ∨ piece = ['.'] then walk tree place rest
      else if piece = ['.', '.'] then walk tree place.dropLast rest
      else
        let next := place ++ [String.ofList piece]
        if rest.all List.isEmpty then .ok ⟨next, !rest.isEmpty⟩
        else
          match tree.find next with
          | .error fault => .error fault
          | .ok none => .error .missing
          | .ok (some (.file _)) => .error .notFolder
          | .ok (some .folder) => walk tree next rest

/-- Where a path leads. -/
def target (tree : FileTree) (path : Path) : Except FileFault Target :=
  let text := path.text.toList
  if text = [] then .error .missing
  else if '\x00' ∈ text then .error .zeroInName
  else if pathBound ≤ Text.byteSize text then .error .nameTooLong
  else
    match text with
    | '/' :: rest => walk tree [] (rest.splitOn '/')
    | _ => walk tree tree.current (text.splitOn '/')

/-- What a path names. -/
def lookup (tree : FileTree) (path : Path) : Except FileFault FileNode :=
  match tree.target path with
  | .error fault => .error fault
  | .ok target =>
      match tree.find target.place, target.asFolder with
      | .error fault, _ => .error fault
      | .ok none, _ => .error .missing
      | .ok (some (.file _)), true => .error .notFolder
      | .ok (some node), _ => .ok node

/-- The contents of a file. -/
def readBytes (tree : FileTree) (path : Path) : Except FileFault ByteArray :=
  match tree.lookup path with
  | .error fault => .error fault
  | .ok .folder => .error .isFolder
  | .ok (.file contents) => .ok contents

/-- The text of a file. -/
def readText (tree : FileTree) (path : Path) : Except FileFault String :=
  match tree.readBytes path with
  | .error fault => .error fault
  | .ok contents =>
      match String.fromUTF8? contents with
      | some text => .ok text
      | none => .error .notText

/-- The tree with the given contents in a file.  A path that is written like a folder's is refused
before its last name is looked up. -/
def writeBytes (tree : FileTree) (path : Path) (contents : ByteArray) : Except FileFault FileTree :=
  match tree.target path with
  | .error fault => .error fault
  | .ok target =>
      if target.asFolder then .error .isFolder
      else
        match tree.find target.place with
        | .error fault => .error fault
        | .ok (some .folder) => .error .isFolder
        | .ok _ => .ok (tree.set target.place (.file contents))

/-- The tree with the given text in a file. -/
def writeText (tree : FileTree) (path : Path) (contents : String) : Except FileFault FileTree :=
  tree.writeBytes path contents.toUTF8

/-- The tree with one more folder, in a folder that is there. -/
def makeFolder (tree : FileTree) (path : Path) : Except FileFault FileTree :=
  match tree.target path with
  | .error fault => .error fault
  | .ok target =>
      match tree.find target.place with
      | .error fault => .error fault
      | .ok (some _) => .error .taken
      | .ok none => .ok (tree.set target.place .folder)

/-- Whether a path names a folder. -/
def isFolder (tree : FileTree) (path : Path) : Bool :=
  match tree.lookup path with
  | .ok .folder => true
  | _ => false

/-- The tree after an operation, and the answer to who asked for it. -/
def settle (tree : FileTree) : Except FileFault FileTree → FileTree × Except FileFault Unit
  | .ok changed => (changed, .ok ())
  | .error fault => (tree, .error fault)

/-- Whether a path names anything. -/
def isPresent (tree : FileTree) (path : Path) : Bool :=
  match tree.lookup path with
  | .ok _ => true
  | .error _ => false

end FileTree

/-- What a program on files leaves: its result, the files and the warnings. -/
structure Outcome (α : Type) where
  result : α
  tree : FileTree
  warnings : List Warning

/-- A program run on files in memory. -/
def Disk.runOn {α : Type} (tree : FileTree) : Disk α → Outcome α
  | .done result => ⟨result, tree, []⟩
  | .readText path next => (next (tree.readText path)).runOn tree
  | .writeText path contents next =>
      let settled := tree.settle (tree.writeText path contents)
      (next settled.2).runOn settled.1
  | .makeFolder path next =>
      let settled := tree.settle (tree.makeFolder path)
      (next settled.2).runOn settled.1
  | .isFolder path next => (next (tree.isFolder path)).runOn tree
  | .isPresent path next => (next (tree.isPresent path)).runOn tree
  | .warn warning next =>
      let outcome := next.runOn tree
      { outcome with warnings := warning :: outcome.warnings }

end QueryNotebook
