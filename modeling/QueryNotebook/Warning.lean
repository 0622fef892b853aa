import QueryNotebook.Disk.Fault
import QueryNotebook.Poll

/-!
# Warnings

What the program notes when it goes on in spite of a fault.
-/

namespace QueryNotebook

/-- A note about a fault that did not stop the program. -/
inductive Warning where
  /-- A table of messages names an unknown message. -/
  | unknownMessage (name : String)
  /-- The messages of a file do not apply. -/
  | messagesIgnored (fault : ConfigFault)
  /-- The snippets of a file do not apply. -/
  | snippetsIgnored (fault : ConfigFault)
  /-- The settings of a file do not apply. -/
  | settingsIgnored (fault : ConfigFault)
  /-- The first settings file was not written. -/
  | settingsNotWritten (fault : ConfigFault)
  /-- The contents of a store do not apply. -/
  | storeIgnored (path : Path) (reason : String)
  /-- The recent documents were not stored. -/
  | recentNotStored (fault : ConfigFault)
  /-- The last folder was not stored. -/
  | folderNotStored (fault : ConfigFault)
  /-- A source gave no items. -/
  | sourceSkipped (fault : SourceFault)

/-- The wording of a warning. -/
def Warning.message : Warning → String
  | .unknownMessage name => "unknown string key '" ++ name ++ "'"
  | .messagesIgnored fault => fault.message ++ "; using built-in strings"
  | .snippetsIgnored fault => fault.message ++ "; using built-in snippets"
  | .settingsIgnored fault => fault.message ++ "; using default settings"
  | .settingsNotWritten fault => "could not write default settings: " ++ fault.message
  | .storeIgnored path reason => "ignoring malformed " ++ path.text ++ ": " ++ reason
  | .recentNotStored fault => "failed to persist recent documents: " ++ fault.message
  | .folderNotStored fault => "failed to persist last folder: " ++ fault.message
  | .sourceSkipped fault => fault.message ++ "; skipping its results"

end QueryNotebook
