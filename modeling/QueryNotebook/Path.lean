import QueryNotebook.Text.Split

/-!
# Paths

A path is kept as it was spelled and compared by what it names: its components.  Repeated and
trailing separators and inner `.` components do not count; a leading `.` and every `..` do.
-/

namespace QueryNotebook

/-- A path as it was spelled.  Its spelling is Unicode text; file names that are no such text, and the
signs that stand in for their bytes where they are stored or shown, are left out. -/
structure Path where
  text : String
deriving Repr

namespace Path

/-- One step of a path. -/
inductive Component where
  | root
  | current
  | parent
  | name (text : String)
deriving DecidableEq, Repr

/-- The component that a piece between separators stands for, if it counts. -/
def component? : List Char → Option Component
  | [] => none
  | ['.'] => none
  | ['.', '.'] => some .parent
  | piece => some (.name (String.ofList piece))

/-- The components of a spelled path. -/
def componentsOf (text : List Char) : List Component :=
  match text.splitOn '/' with
  | [] => []
  | [] :: [] => []
  | [] :: rest => .root :: rest.filterMap component?
  | ['.'] :: rest => .current :: rest.filterMap component?
  | pieces => pieces.filterMap component?

/-- The components of a path. -/
def components (path : Path) : List Component :=
  componentsOf path.text.toList

/-- Paths are equal when their components are. -/
instance : BEq Path where
  beq left right := left.components == right.components

/-- Path equality is an equality of components. -/
theorem beq_iff {left right : Path} : (left == right) = true ↔ left.components = right.components := by
  show (left.components == right.components) = true ↔ _
  exact beq_iff_eq

instance : EquivBEq Path where
  rfl := beq_iff.2 rfl
  symm equal := beq_iff.2 (beq_iff.1 equal).symm
  trans first second := beq_iff.2 ((beq_iff.1 first).trans (beq_iff.1 second))

/-- The path starts at the root. -/
def isAbsolute (path : Path) : Bool :=
  path.text.toList.head? == some '/'

/-- The name that the path ends in, unless it ends at the root, at `..` or nowhere. -/
def fileName? (path : Path) : Option String :=
  match path.components.getLast? with
  | some (.name text) => some text
  | _ => none

/-- A piece that does not count as a component after the first one. -/
def isIdle (piece : List Char) : Bool :=
  (component? piece).isNone

/-- The pieces up to the last one that counts. -/
def dropIdle (pieces : List (List Char)) : List (List Char) :=
  (pieces.reverse.dropWhile isIdle).reverse

/-- The spelling of the folder that holds what the path names: the last component is dropped, and
with it the separators before it.  The root and the empty path have none. -/
def parentOf? (text : List Char) : Option (List Char) :=
  match text.splitOn '/' with
  | [] => none
  | first :: rest =>
      match dropIdle rest with
      | [] => if first = [] then none else some []
      | counting =>
          match first, dropIdle counting.dropLast with
          | [], [] => some ['/']
          | _, kept => some (Text.join '/' (first :: kept))

/-- The folder that holds what the path names. -/
def parent? (path : Path) : Option Path :=
  (parentOf? path.text.toList).map fun text => ⟨String.ofList text⟩

/-- The part of the file name after its last dot.  A name that begins with its only dot has none. -/
def extension? (path : Path) : Option String :=
  match path.fileName? with
  | none => none
  | some name =>
      match Text.splitLast? '.' name.toList with
      | some (_ :: _, extension) => some (String.ofList extension)
      | _ => none

/-- A path inside a folder; an absolute path stays as it is. -/
def join (folder inner : Path) : Path :=
  if inner.isAbsolute || folder.text.isEmpty then inner
  else if folder.text.toList.getLast? == some '/' then ⟨folder.text ++ inner.text⟩
  else ⟨folder.text ++ "/" ++ inner.text⟩

end Path

end QueryNotebook
