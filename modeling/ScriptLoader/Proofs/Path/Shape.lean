import ScriptLoader.Proofs.Path.NormalForm
import ScriptLoader.Proofs.Text.Utf8

/-!
# What normal forms look like

A normal form is its own normal form, also when the path that it comes from is no text. Most
normal forms are absolute: a root, which is `/` or a drive with `/` behind it, and names. The
others come from paths that are relative to a drive, such as `C:x`. A drive alone makes a path
count as absolute, so no directory is put in front of it; but folding finds no root behind the
drive, so the normal form has none either, and it may start with `..`. Which of the two shapes a
normal form has can be read off the path.
-/

namespace ScriptLoader

namespace RawPath

/-- The path that a text spells is shown as the text. -/
theorem shown_ofString (text : String) : (ofString text).shown = text :=
  Utf8.decodeLossy_encode text

/-- A normal form is its own normal form, seen from any directory. -/
theorem normalize_normalize {directory : String} (absolute : Path.IsAbsoluteDirectory directory)
    (path : RawPath) (later : String) :
    (ofString (path.normalize directory)).normalize later = path.normalize directory := by
  rw [normalize, shown_ofString]
  exact (Path.isNormal_normalize absolute path.shown).normalize_eq later

/-- The normal form of a path that is no text and is relative to a drive. -/
theorem normalize_normalize_of_ill_formed :
    let path : RawPath := ⟨[0x43, 0x3A, 0x2E, 0x5C, 0x2E, 0x2E, 0x5C, 0xFF, 0x5C]⟩
    Path.IsAbsoluteDirectory "/work" ∧ path.normalize "/work" = "C:../\uFFFD" ∧
      (ofString "C:../\uFFFD").normalize "/work" = "C:../\uFFFD" := by
  intro path
  have absolute : Path.IsAbsoluteDirectory "/work" := by decide
  have normalEq : path.normalize "/work" = "C:../\uFFFD" := by decide +kernel
  have again := normalize_normalize absolute path "/work"
  rw [normalEq] at again
  exact ⟨absolute, normalEq, again⟩

end RawPath

namespace Path

/-- A root: `/`, or a drive with `/` behind it. -/
inductive IsRoot : List Char → Prop where
  | slash : IsRoot ['/']
  | drive {letter : Char} (isLetter : isLetter letter = true) : IsRoot [letter, ':', '/']

/-- A path starts with a root. -/
def HasRoot (path : List Char) : Prop :=
  ∃ root rest, IsRoot root ∧ path = root ++ rest

/-- A path is a root with names behind it, unless nothing is behind it, and holds no `\`. -/
structure IsAbsoluteForm (path : List Char) : Prop where
  plain : '\\' ∉ path
  parts : ∃ root rest, IsRoot root ∧ path = root ++ rest ∧
    (rest = [] ∨ ∀ segment ∈ pieces rest, IsName segment)

/-- A path is a drive with segments right behind it, unless nothing is behind it, and holds no
`\`. Any number of `..` come first, and names follow. -/
structure IsDriveForm (path : List Char) : Prop where
  plain : '\\' ∉ path
  parts : ∃ letter rest, isLetter letter = true ∧ path = letter :: ':' :: rest ∧
    isRooted rest = false ∧ (rest = [] ∨ ∃ count names,
      pieces rest = List.replicate count ['.', '.'] ++ names ∧ ∀ name ∈ names, IsName name)

/-- A path starts with a drive, but no root follows. -/
def IsDriveRelative (path : List Char) : Prop :=
  ∃ letter rest, isLetter letter = true ∧ slashed path = letter :: ':' :: rest ∧
    isRooted rest = false

section Roots

variable {path : List Char}

/-- The root of a path is found at the front or behind the drive. -/
theorem hasRoot_iff : HasRoot path ↔ isRooted (splitDrive path).2 = true := by
  constructor
  · rintro ⟨_, rest, root, rfl⟩
    cases root with
    | slash =>
      rw [List.singleton_append, splitDrive_slash]
      rfl
    | drive isLetter =>
      rw [List.cons_append, List.cons_append, splitDrive_cons isLetter]
      rfl
  · intro rooted
    obtain ⟨rest, restEq⟩ := exists_of_isRooted rooted
    rcases splitDrive_cases path with whole | ⟨letter, _, isLetter, rfl, split⟩
    · rw [whole] at restEq
      exact ⟨['/'], rest, .slash, restEq⟩
    · rw [split] at restEq
      obtain rfl := restEq
      exact ⟨[letter, ':', '/'], rest, .drive isLetter, rfl⟩

instance (path : List Char) : Decidable (HasRoot path) :=
  decidable_of_iff _ hasRoot_iff.symm

/-- A path with a root keeps it when it goes on. -/
theorem HasRoot.append (root : HasRoot path) (more : List Char) : HasRoot (path ++ more) := by
  obtain ⟨front, rest, isRoot, rfl⟩ := root
  exact ⟨front, rest ++ more, isRoot, List.append_assoc ..⟩

/-- A path with a root is absolute. -/
theorem HasRoot.isAbsolute (root : HasRoot path) : isAbsolute path = true := by
  obtain ⟨_, rest, isRoot, rfl⟩ := root
  cases isRoot with
  | slash => exact isAbsolute_iff.mpr (.inl ⟨rest, rfl⟩)
  | drive isLetter => exact isAbsolute_iff.mpr (.inr ⟨_, '/' :: rest, isLetter, rfl⟩)

/-- A path relative to a drive counts as absolute and has no root. -/
theorem isDriveRelative_iff :
    IsDriveRelative path ↔ isAbsolute (slashed path) = true ∧ ¬ HasRoot (slashed path) := by
  rw [hasRoot_iff]
  constructor
  · rintro ⟨letter, rest, isLetter, pathEq, unrooted⟩
    rw [pathEq, splitDrive_cons isLetter, unrooted]
    exact ⟨isAbsolute_iff.mpr (.inr ⟨letter, rest, isLetter, rfl⟩), Bool.false_ne_true⟩
  · rintro ⟨absolute, unrooted⟩
    rcases isAbsolute_iff.mp absolute with ⟨rest, pathEq⟩ | ⟨letter, rest, isLetter, pathEq⟩
    · rw [pathEq, splitDrive_slash] at unrooted
      exact absurd rfl unrooted
    · rw [pathEq, splitDrive_cons isLetter] at unrooted
      exact ⟨letter, rest, isLetter, pathEq, by simpa using unrooted⟩

instance (path : List Char) : Decidable (IsDriveRelative path) :=
  decidable_of_iff _ isDriveRelative_iff.symm

/-- Seen from a directory with a root, only a path relative to a drive has none. -/
theorem hasRoot_absolute_iff {directory : String} (root : HasRoot (slashed directory.toList))
    (path : List Char) :
    HasRoot (Path.absolute directory.toList path) ↔ ¬ IsDriveRelative path := by
  rw [isDriveRelative_iff]
  simp only [Path.absolute]
  split
  · next absolute => simp [absolute]
  · next relative => simp [relative, root.append]

end Roots

/-- Segments that folding leaves alone are names, but for `..` in front where there is no root. -/
theorem Settled.exists_names {rooted : Bool} {kept : List (List Char)}
    (settled : Settled rooted kept) : ∃ count names, (rooted = true → count = 0) ∧
      kept.reverse = List.replicate count ['.', '.'] ++ names ∧ ∀ name ∈ names, IsName name := by
  induction settled with
  | parents count atRoot => exact ⟨count, [], atRoot, by simp, by simp⟩
  | @name piece outer isName _ ih =>
    obtain ⟨count, names, atRoot, outerEq, areNames⟩ := ih
    refine ⟨count, names ++ [piece], atRoot, by simp [outerEq], ?_⟩
    intro name among
    rcases List.mem_append.mp among with inner | last
    · exact areNames name inner
    · exact List.mem_singleton.mp last ▸ isName

namespace Folded

variable (folded : Folded)

/-- A folded path has a root in its text exactly if it is rooted. -/
theorem hasRoot_text : HasRoot folded.text ↔ folded.rooted = true := by
  rw [hasRoot_iff, splitDrive_text, isRooted_rest]

/-- What stands behind the root or the drive. -/
theorem segments_body : join folded.kept.reverse = [] ∨ ∃ count names,
    (folded.rooted = true → count = 0) ∧
      pieces (join folded.kept.reverse) = List.replicate count ['.', '.'] ++ names ∧
      ∀ name ∈ names, IsName name := by
  by_cases bare : folded.kept = []
  · simp [bare, join, Text.join]
  · right
    rw [folded.pieces_join_kept bare]
    exact folded.settled.exists_names

/-- A rooted path is folded into the absolute form. -/
theorem isAbsoluteForm_iff : IsAbsoluteForm folded.text ↔ folded.rooted = true := by
  constructor
  · rintro ⟨_, root, rest, isRoot, textEq, _⟩
    exact folded.hasRoot_text.mp ⟨root, rest, isRoot, textEq⟩
  · intro rooted
    have isRoot : IsRoot (folded.drive ++ ['/']) := by
      rcases folded.anchored with ⟨noDrive, _⟩ | ⟨letter, isLetter, driveEq⟩
      · rw [noDrive]
        exact .slash
      · rw [driveEq]
        exact .drive isLetter
    have textEq : folded.text = (folded.drive ++ ['/']) ++ join folded.kept.reverse := by
      rw [text, folded.rest_of_rooted rooted, List.append_assoc, List.singleton_append]
    refine ⟨folded.backslash_notMem_text, _, _, isRoot, textEq, ?_⟩
    rcases folded.segments_body with empty | ⟨count, names, atRoot, piecesEq, areNames⟩
    · exact .inl empty
    · rw [atRoot rooted, List.replicate_zero, List.nil_append] at piecesEq
      exact .inr (piecesEq ▸ areNames)

/-- A path without a root is folded into the form with a drive. -/
theorem isDriveForm_iff : IsDriveForm folded.text ↔ folded.rooted = false := by
  constructor
  · rintro ⟨_, letter, rest, isLetter, textEq, unrooted, _⟩
    have split := folded.splitDrive_text
    rw [textEq, splitDrive_cons isLetter] at split
    rw [← folded.isRooted_rest, ← (Prod.mk.inj split).2, unrooted]
  · intro unrooted
    have restEq : folded.rest = join folded.kept.reverse := by simp [rest, unrooted]
    rcases folded.anchored with ⟨_, rooted⟩ | ⟨letter, isLetter, driveEq⟩
    · simp [unrooted] at rooted
    · refine ⟨folded.backslash_notMem_text, letter, folded.rest, isLetter, ?_, ?_, ?_⟩
      · rw [text, driveEq]
        rfl
      · rw [isRooted_rest, unrooted]
      · rw [restEq]
        rcases folded.segments_body with empty | ⟨count, names, _, parts⟩
        · exact .inl empty
        · exact .inr ⟨count, names, parts⟩

end Folded

/-- A normal form, seen from a directory with a root, is absolute exactly if the path is not
relative to a drive, and otherwise it is a drive with segments right behind it. -/
theorem normalize_shape {directory : String} (root : HasRoot (slashed directory.toList))
    (path : RawPath) :
    (IsAbsoluteForm (path.normalize directory).toList ↔ ¬ IsDriveRelative path.shown.toList) ∧
      (IsDriveForm (path.normalize directory).toList ↔ IsDriveRelative path.shown.toList) := by
  have absolute : IsAbsoluteDirectory directory := root.isAbsolute
  have rooted_iff : (normalParts absolute path.shown).rooted = true ↔
      ¬ IsDriveRelative path.shown.toList := by
    rw [← hasRoot_absolute_iff root, hasRoot_iff]
    rfl
  rw [RawPath.normalize, ← text_normalParts absolute, Folded.isAbsoluteForm_iff,
    Folded.isDriveForm_iff, ← Bool.not_eq_true, rooted_iff, Classical.not_not]
  exact ⟨Iff.rfl, Iff.rfl⟩

/-- A path relative to a drive keeps its `..`, and its normal form is not absolute. -/
theorem drive_relative_not_absolute :
    HasRoot (slashed "/work".toList) ∧ (RawPath.ofString "C:..\\x").normalize "/work" = "C:../x" ∧
      ¬ IsAbsoluteForm ((RawPath.ofString "C:..\\x").normalize "/work").toList := by
  have root : HasRoot (slashed "/work".toList) := by decide
  have normalEq : (RawPath.ofString "C:..\\x").normalize "/work" = "C:../x" := by decide +kernel
  have relative : IsDriveRelative (RawPath.ofString "C:..\\x").shown.toList := by
    rw [RawPath.shown_ofString]
    decide
  have shape := normalize_shape root (.ofString "C:..\\x")
  exact ⟨root, normalEq, fun form => shape.1.mp form relative⟩

end Path

end ScriptLoader
