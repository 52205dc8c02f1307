/-!
# File records

What is known about one file: how often its content changed, and what it is.
-/

namespace ScriptLoader

/-- The tracked state of a file. -/
structure FileRecord where
  path : String
  /-- Counts the changes of the content. -/
  version : Nat
  /-- The content seen last, if any was. -/
  content : Option String
  deriving DecidableEq, Repr

namespace FileRecord

/-- A record at version 0 without content. -/
def blank (path : String) : FileRecord :=
  ⟨path, 0, none⟩

/-- A record at version 0 with content. -/
def holding (path content : String) : FileRecord :=
  ⟨path, 0, some content⟩

/-- Whether the record holds exactly this content. -/
def hasContent (record : FileRecord) (content : String) : Bool :=
  record.content = some content

/-- The record after a change of its content. -/
def change (record : FileRecord) (content : String) : FileRecord :=
  { record with version := record.version + 1, content := some content }

end FileRecord

end ScriptLoader
