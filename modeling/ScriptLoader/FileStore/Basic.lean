import Std.Data.ExtTreeMap
import Std.Data.ExtTreeSet
import ScriptLoader.Disk.Basic
import ScriptLoader.Event
import ScriptLoader.FileStore.Record

/-!
# The file store

A ledger of the files that a build has seen. Supplied content is compared with what is
known, content after an outside change is not, and a first reading from disk counts as no
change at all. `programVersion` counts all changes, and `modified` collects the paths that
were supplied or refreshed since it was last taken.

`apply` is the store's behaviour as one function of an operation, so that a history of the
store is a list of operations.
-/

namespace ScriptLoader

/-- Why the store refused an operation. -/
inductive CacheError where
  /-- The path has no record. -/
  | notTracked (path : String)
  /-- The disk did not give the file. -/
  | disk (cause : DiskError)
  deriving DecidableEq, Repr

/-- The words for a refusal. -/
def CacheError.message : CacheError → String
  | notTracked path => "File is not tracked: " ++ path
  | disk cause => "I/O error: " ++ cause.message

/-- The records of files by path, and what changed. -/
structure FileStore where
  records : Std.ExtTreeMap String FileRecord compare
  /-- The number of changes of content, over all files. -/
  programVersion : Nat
  /-- The paths supplied or refreshed since they were last taken. -/
  modified : Std.ExtTreeSet String compare

namespace FileStore

/-- The store that has seen no file. -/
def empty : FileStore :=
  ⟨∅, 0, ∅⟩

instance : EmptyCollection FileStore := ⟨empty⟩

/-- The record of a file. -/
def get? (store : FileStore) (path : String) : Option FileRecord :=
  store.records[path]?

/-- Whether a file has a record. -/
def contains (store : FileStore) (path : String) : Bool :=
  (store.get? path).isSome

/-- The version of a file. -/
def versionOf? (store : FileStore) (path : String) : Option Nat :=
  (store.get? path).map (·.version)

/-- The content of a file. -/
def contentOf? (store : FileStore) (path : String) : Option String :=
  (store.get? path).bind (·.content)

/-- Whether a path was supplied or refreshed since the modified paths were last taken. -/
def isModified (store : FileStore) (path : String) : Bool :=
  store.modified.contains path

/-- The paths of all tracked files, in order. -/
def paths (store : FileStore) : List String :=
  store.records.keys

/-- All records, in the order of their paths. -/
def all (store : FileStore) : List FileRecord :=
  store.records.values

/-- The number of tracked files. -/
def size (store : FileStore) : Nat :=
  store.records.size

/-- The record of a file, or a new one. -/
def recordOf (store : FileStore) (path : String) : FileRecord :=
  (store.get? path).getD (.blank path)

/-- Counts a change that leaves a file with this record. -/
def change (store : FileStore) (path : String) (record : FileRecord) : FileStore :=
  { records := store.records.insert path record
    programVersion := store.programVersion + 1
    modified := store.modified.insert path }

/-- The store after content was supplied for a file. The version moves only if the content
is not what is known; the path is modified either way. -/
def update (store : FileStore) (path content : String) : FileStore :=
  let record := store.recordOf path
  if record.hasContent content then { store with modified := store.modified.insert path }
  else store.change path (record.change content)

/-- The version of a file after content was supplied for it. -/
def updatedVersion (store : FileStore) (path content : String) : Nat :=
  let record := store.recordOf path
  if record.hasContent content then record.version else record.version + 1

/-- The store after an outside change left a file with this content, and the new version of
the file. The content is not compared. -/
def refresh (store : FileStore) (path content : String) : Except CacheError (FileStore × Nat) :=
  match store.get? path with
  | none => .error (.notTracked path)
  | some record =>
    let record := record.change content
    .ok (store.change path record, record.version)

/-- The store after a file was read from disk, and its record. A record that holds content
stays as it is, and reading counts as no change. -/
def track (disk : Disk) (store : FileStore) (path : String) :
    Except CacheError (FileStore × FileRecord) :=
  let record := store.recordOf path
  if record.content.isSome then .ok (store, record)
  else
    match disk.read path with
    | .error cause => .error (.disk cause)
    | .ok content =>
      let record := { record with content := some content }
      .ok ({ store with records := store.records.insert path record }, record)

/-- The store without a file. -/
def untrack (store : FileStore) (path : String) : FileStore :=
  { store with
    records := store.records.erase path
    modified := store.modified.erase path }

/-- The modified paths in order. -/
def modifiedFiles (store : FileStore) : List String :=
  store.modified.toList

/-- The store after its modified paths were taken. -/
def drain (store : FileStore) : FileStore :=
  { store with modified := ∅ }

/-- An operation that may change the store. Reading from disk comes with the disk of its
moment. -/
inductive Op where
  | update (path content : String)
  | refresh (path content : String)
  | track (disk : Disk) (path : String)
  | untrack (path : String)
  | drain

/-- What an operation gives back. -/
inductive Answer where
  /-- The version of a file that was supplied or refreshed. -/
  | version (version : Nat)
  /-- The record of a file that was read or is no longer tracked. -/
  | record (record : Option FileRecord)
  /-- The paths that were modified. -/
  | paths (paths : List String)
  | refused (error : CacheError)
  deriving DecidableEq, Repr

/-- The store after an operation, and what the operation gives back. A refused operation
leaves the store as it is. -/
def apply (store : FileStore) : Op → FileStore × Answer
  | .update path content =>
    (store.update path content, .version (store.updatedVersion path content))
  | .refresh path content =>
    match store.refresh path content with
    | .ok (store, version) => (store, .version version)
    | .error error => (store, .refused error)
  | .track disk path =>
    match store.track disk path with
    | .ok (store, record) => (store, .record (some record))
    | .error error => (store, .refused error)
  | .untrack path => (store.untrack path, .record (store.get? path))
  | .drain => (store.drain, .paths store.modifiedFiles)

/-- The store after a history of operations. -/
def run (store : FileStore) (ops : List Op) : FileStore :=
  ops.foldl (fun store op => (store.apply op).1) store

/-- The events of an operation on a store. -/
def events (store : FileStore) : Op → List Event
  | .update path content =>
    if (store.recordOf path).hasContent content then []
    else [.debug s!"{path} is now at version {store.updatedVersion path content}"]
  | .track disk path =>
    if (store.recordOf path).content.isSome then []
    else
      match disk.read path with
      | .error _ => []
      | .ok _ => [.debug s!"Tracking {path} from disk"]
  | _ => []

end FileStore

end ScriptLoader
