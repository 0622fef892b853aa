/-!
# Icons

An icon is known by its key; the host that draws it decides what it looks like.
-/

namespace QueryNotebook

/-- A reference to an icon. -/
structure Icon where
  key : String
deriving DecidableEq, Repr

namespace Icon

/-- The icon of tables. -/
def table : Icon := ⟨"table"⟩

/-- The icon of text that is inserted as a whole. -/
def snippet : Icon := ⟨"snippet"⟩

/-- The icon of documents. -/
def document : Icon := ⟨"document"⟩

/-- The icon of commands without one of their own. -/
def command : Icon := ⟨"command"⟩

end Icon

end QueryNotebook
