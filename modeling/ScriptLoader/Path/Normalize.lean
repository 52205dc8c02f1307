import ScriptLoader.Text.Pieces

/-!
# Normal forms of paths

A path is brought into one form before it names a file anywhere else: absolute, with `/`
between its segments, and with empty segments, `.` and `..` folded away. A path may start
with a drive, an ASCII letter and a colon; what follows the drive is folded on its own.
-/

namespace ScriptLoader.Path

/-- Whether a character is an ASCII letter. -/
def isLetter (c : Char) : Bool :=
  ('a' ≤ c && c ≤ 'z') || ('A' ≤ c && c ≤ 'Z')

/-- The drive at the front of a path, if there is one, and the rest. -/
def splitDrive : List Char → List Char × List Char
  | c :: ':' :: rest => if isLetter c then ([c, ':'], rest) else ([], c :: ':' :: rest)
  | path => ([], path)

/-- Whether a path starts with `/`. -/
def isRooted : List Char → Bool
  | '/' :: _ => true
  | _ => false

/-- Whether a path is taken as it is: it starts with `/` or with a drive. -/
def isAbsolute (path : List Char) : Bool :=
  isRooted path || (splitDrive path).1 ≠ []

/-- The pieces of a path between its slashes; the empty path has one empty piece. -/
def pieces (path : List Char) : List (List Char) :=
  Text.pieces '/' path

/-- One more piece after the segments kept so far, the innermost of which comes first. `..`
takes one segment back, and stays at the root. -/
def step (rooted : Bool) (kept : List (List Char)) (piece : List Char) : List (List Char) :=
  if piece = [] || piece = ['.'] then kept
  else if piece = ['.', '.'] then
    match kept with
    | [] => if rooted then [] else [piece]
    | last :: outer =>
      if last ≠ ['.', '.'] then outer
      else if rooted then kept
      else piece :: kept
  else piece :: kept

/-- The segments that are left of a list of pieces, the outermost first. -/
def segments (rooted : Bool) (pieces : List (List Char)) : List (List Char) :=
  (pieces.foldl (step rooted) []).reverse

/-- Segments with `/` between them. -/
def join (segments : List (List Char)) : List Char :=
  Text.join '/' segments

/-- An absolute path with its segments folded. -/
def fold (path : List Char) : List Char :=
  let (drive, rest) := splitDrive path
  let rooted := isRooted rest
  let body := join (segments rooted (pieces rest))
  if rooted then drive ++ '/' :: body else drive ++ body

/-- A path with `/` in the place of every `\`. -/
def slashed (path : List Char) : List Char :=
  path.map fun c => if c = '\\' then '/' else c

/-- The path as seen from a directory, before folding. -/
def absolute (directory path : List Char) : List Char :=
  let path := slashed path
  if isAbsolute path then path else slashed directory ++ '/' :: path

/-- The normal form of a path, relative paths being relative to `directory`. -/
def normalize (directory path : String) : String :=
  String.ofList (fold (absolute directory.toList path.toList))

/-- The last segment of a path, if it is a name: trailing slashes and `.` do not count, and
`..` is not a name. -/
def baseName? (path : String) : Option String :=
  match (pieces path.toList).reverse.dropWhile (fun piece => piece = [] || piece = ['.']) with
  | [] => none
  | piece :: _ => if piece = ['.', '.'] then none else some (String.ofList piece)

end ScriptLoader.Path
