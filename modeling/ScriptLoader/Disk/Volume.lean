import ScriptLoader.Disk.Basic
import ScriptLoader.Path.Raw

/-!
# Volumes

A tree of directories and files, and the disk that it is. Paths are followed name by name:
each name but the last must be a directory, `..` leads to its parent, and a relative path
starts at the working directory.
-/

namespace ScriptLoader

/-- A directory or a file with its bytes. -/
inductive Entry where
  | directory
  | file (bytes : List UInt8)
  deriving DecidableEq, Repr

/-- A place in the tree: the names that lead to it, the innermost first. -/
abbrev Place := List (List UInt8)

/-- A tree of directories and files. The root always is a directory. -/
structure Volume where
  workingDirectory : Place
  entries : List (Place × Entry)

namespace Volume

/-- The byte of `/`. -/
def slash : UInt8 := 0x2F

/-- The byte of `.`. -/
def dot : UInt8 := 0x2E

/-- The longest name in a directory, in bytes. -/
def greatestName : Nat := 255

/-- The longest path, in bytes. -/
def greatestPath : Nat := 4095

/-- The names of a path between its slashes; some may be empty. -/
def namesOf (path : List UInt8) : List (List UInt8) :=
  Text.pieces slash path

/-- What is at a place. -/
def entry? (volume : Volume) (location : Place) : Option Entry :=
  if location = [] then some .directory else volume.entries.lookup location

/-- Follows names from a place on. -/
def follow (volume : Volume) (place : Place) : List (List UInt8) → Except DiskError Place
  | [] => .ok place
  | name :: more =>
    match volume.entry? place with
    | none => .error .notFound
    | some (.file _) => .error .notDirectory
    | some .directory =>
      if name = [] || name = [dot] then follow volume place more
      else if name = [dot, dot] then follow volume place.tail more
      else if greatestName < name.length then .error .nameTooLong
      else follow volume (name :: place) more

/-- The entry that a path names. -/
def find (volume : Volume) (path : RawPath) : Except DiskError Entry := do
  if path.bytes.contains 0 then throw .nulInPath
  if path.bytes = [] then throw .notFound
  if greatestPath < path.bytes.length then throw .nameTooLong
  let start := if path.bytes.head? = some slash then [] else volume.workingDirectory
  let location ← volume.follow start (namesOf path.bytes)
  match volume.entry? location with
  | none => throw .notFound
  | some entry => return entry

/-- The text of the file that a path names. -/
def read (volume : Volume) (path : String) : Except DiskError String := do
  match ← volume.find (.ofString path) with
  | .directory => throw .isDirectory
  | .file bytes =>
    match Utf8.decode? bytes with
    | none => throw .notText
    | some text => return text

/-- Whether a path names a file. -/
def isFile (volume : Volume) (path : String) : Bool :=
  match volume.find (.ofString path) with
  | .ok (.file _) => true
  | _ => false

/-- The disk that a volume is. -/
def disk (volume : Volume) : Disk :=
  ⟨volume.read, volume.isFile⟩

/-- The place that a path means when every name on the way is taken as a directory. -/
def locationOf (volume : Volume) (path : RawPath) : Place :=
  let start := if path.bytes.head? = some slash then [] else volume.workingDirectory
  (namesOf path.bytes).foldl (fun place name =>
    if name = [] || name = [dot] then place
    else if name = [dot, dot] then place.tail
    else name :: place) start

/-- Puts an entry at a place, in the stead of what was there. -/
def put (volume : Volume) (location : Place) (entry : Entry) : Volume :=
  { volume with
    entries := (location, entry) :: volume.entries.filter (·.1 ≠ location) }

/-- Makes a place and all places that lead to it directories, where nothing is yet. -/
def makeDirectories (volume : Volume) : Place → Volume
  | [] => volume
  | name :: outer =>
    let volume := volume.makeDirectories outer
    match volume.entry? (name :: outer) with
    | none => volume.put (name :: outer) .directory
    | some _ => volume

/-- The volume with a directory at a path. -/
def makeDirectory (volume : Volume) (path : RawPath) : Volume :=
  volume.makeDirectories (volume.locationOf path)

/-- The volume with a file at a path. -/
def write (volume : Volume) (path : RawPath) (bytes : List UInt8) : Volume :=
  let location := volume.locationOf path
  (volume.makeDirectories location.tail).put location (.file bytes)

/-- The volume without what is at a path and below it. -/
def remove (volume : Volume) (path : RawPath) : Volume :=
  let location := volume.locationOf path
  { volume with entries := volume.entries.filter fun (place, _) => !location.isSuffixOf place }

/-- The volume with nothing but its working directory. -/
def empty (workingDirectory : String) : Volume :=
  let volume : Volume := ⟨[], []⟩
  let location := volume.locationOf (.ofString workingDirectory)
  { volume.makeDirectories location with workingDirectory := location }

end Volume

end ScriptLoader
