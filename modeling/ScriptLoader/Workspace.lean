import ScriptLoader.Disk.Basic
import ScriptLoader.Path.Raw

/-!
# Workspaces

Where the program works: the current directory, which relative paths refer to, and the disk
at the moment.
-/

namespace ScriptLoader

/-- A current directory and a disk. -/
structure Workspace where
  directory : String
  disk : Disk

namespace Workspace

/-- The normal form of a path. -/
def normalize (workspace : Workspace) (path : String) : String :=
  Path.normalize workspace.directory path

end Workspace

end ScriptLoader
