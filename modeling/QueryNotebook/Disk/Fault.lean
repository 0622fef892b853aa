import QueryNotebook.Path

/-!
# File faults

Why a file operation did not succeed, in the words that a reader of the message sees.
-/

namespace QueryNotebook

/-- Why a file operation failed. -/
inductive FileFault where
  /-- Nothing has this name. -/
  | missing
  /-- The name is taken. -/
  | taken
  /-- A file stands where a folder must be. -/
  | notFolder
  /-- A folder stands where a file must be. -/
  | isFolder
  /-- A name is longer than names may be. -/
  | nameTooLong
  /-- A name holds the character of code zero. -/
  | zeroInName
  /-- Not even the root is there. -/
  | noRoot
  /-- The contents are not text. -/
  | notText
  /-- Any other cause, in the system's words. -/
  | other (message : String)
deriving DecidableEq, Repr

/-- The wording of a fault. -/
def FileFault.message : FileFault → String
  | .missing => "No such file or directory (os error 2)"
  | .taken => "File exists (os error 17)"
  | .notFolder => "Not a directory (os error 20)"
  | .isFolder => "Is a directory (os error 21)"
  | .nameTooLong => "File name too long (os error 36)"
  | .zeroInName => "file name contained an unexpected NUL byte"
  | .noRoot => "failed to create whole tree"
  | .notText => "stream did not contain valid UTF-8"
  | .other message => message

/-- Why a configuration file was not read or written. -/
inductive ConfigFault where
  /-- A file operation on the path failed. -/
  | file (path : Path) (fault : FileFault)
  /-- The file exists but does not parse. -/
  | notParsed (path : Path) (reason : String)
  /-- A value has no notation to be stored in. -/
  | notSerialized (reason : String)

/-- The wording of a fault. -/
def ConfigFault.message : ConfigFault → String
  | .file path fault => path.text ++ ": " ++ fault.message
  | .notParsed path reason => "cannot parse " ++ path.text ++ ": " ++ reason
  | .notSerialized reason => "serialize error: " ++ reason

end QueryNotebook
