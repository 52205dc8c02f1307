import ScriptLoader.Path.Raw
import ScriptLoader.Proofs.Text.Pieces

/-!
# Paths in normal form

A path in normal form is a root or a drive with settled segments behind it. `Folded` holds
these parts together with what they have to satisfy, so a path is in normal form when it is
the text of some `Folded`. Folding gives such texts only and leaves them alone, and a name
that grows at its end stays a name; that is all that is needed to see that a normal form is
its own normal form, also under a longer name.
-/

namespace ScriptLoader.Path

section Drives

variable {path : List Char}

/-- A letter with a colon behind it is a drive. -/
theorem splitDrive_cons {letter : Char} (isLetter : isLetter letter = true) (rest : List Char) :
    splitDrive (letter :: ':' :: rest) = ([letter, ':'], rest) := by
  simp [splitDrive, isLetter]

/-- A path is a drive and the rest, if it starts with a drive. -/
theorem splitDrive_cases (path : List Char) :
    splitDrive path = ([], path) ∨
      ∃ letter rest, isLetter letter = true ∧ path = letter :: ':' :: rest ∧
        splitDrive path = ([letter, ':'], rest) := by
  unfold splitDrive
  split
  · next letter rest =>
    cases isLetter : isLetter letter with
    | true => exact .inr ⟨letter, rest, isLetter, rfl, rfl⟩
    | false => exact .inl rfl
  · exact .inl rfl

/-- A slash is no letter, so also `/:` at the front is no drive. -/
theorem splitDrive_slash (rest : List Char) : splitDrive ('/' :: rest) = ([], '/' :: rest) := by
  rcases splitDrive_cases ('/' :: rest) with whole | ⟨letter, _, isLetter, startEq, _⟩
  · exact whole
  · obtain rfl := (List.cons.inj startEq).1
    exact absurd isLetter (by decide)

/-- A rooted path begins with a slash. -/
theorem exists_of_isRooted (rooted : isRooted path = true) : ∃ rest, path = '/' :: rest := by
  unfold isRooted at rooted
  split at rooted
  · exact ⟨_, rfl⟩
  · cases rooted

/-- An absolute path starts with a slash or with a drive. -/
theorem isAbsolute_iff : isAbsolute path = true ↔ (∃ rest, path = '/' :: rest) ∨
    ∃ letter rest, isLetter letter = true ∧ path = letter :: ':' :: rest := by
  constructor
  · intro absolute
    rcases splitDrive_cases path with whole | ⟨letter, rest, isLetter, pathEq, _⟩
    · have rooted : isRooted path = true := by simpa [isAbsolute, whole] using absolute
      exact .inl (exists_of_isRooted rooted)
    · exact .inr ⟨letter, rest, isLetter, pathEq⟩
  · rintro (⟨rest, rfl⟩ | ⟨letter, rest, isLetter, rfl⟩)
    · rfl
    · simp [isAbsolute, splitDrive_cons isLetter]

/-- What follows an absolute path does not change its drive. -/
theorem splitDrive_append (absolute : isAbsolute path = true) (back : List Char) :
    splitDrive (path ++ back) = ((splitDrive path).1, (splitDrive path).2 ++ back) := by
  rcases isAbsolute_iff.mp absolute with ⟨rest, rfl⟩ | ⟨letter, rest, isLetter, rfl⟩
  · rw [splitDrive_slash]
    exact splitDrive_slash (rest ++ back)
  · rw [splitDrive_cons isLetter]
    exact splitDrive_cons isLetter (rest ++ back)

/-- A path that is absolute stays so when it goes on. -/
theorem isAbsolute_append (absolute : isAbsolute path = true) (back : List Char) :
    isAbsolute (path ++ back) = true := by
  rcases isAbsolute_iff.mp absolute with ⟨rest, rfl⟩ | ⟨letter, rest, isLetter, rfl⟩
  · exact isAbsolute_iff.mpr (.inl ⟨rest ++ back, rfl⟩)
  · exact isAbsolute_iff.mpr (.inr ⟨letter, rest ++ back, isLetter, rfl⟩)

end Drives

/-- A segment that names a file or a directory. -/
def IsName (piece : List Char) : Prop :=
  piece ≠ [] ∧ piece ≠ ['.'] ∧ piece ≠ ['.', '.']

/-- Segments, the innermost first, that folding leaves as they are. They are names; where
there is no root, some `..` may stand outside of them. -/
inductive Settled (rooted : Bool) : List (List Char) → Prop where
  | parents (count : Nat) (atRoot : rooted = true → count = 0) :
      Settled rooted (List.replicate count ['.', '.'])
  | name {piece : List Char} {outer : List (List Char)} (isName : IsName piece)
      (settled : Settled rooted outer) : Settled rooted (piece :: outer)

section Steps

variable {rooted : Bool} {kept : List (List Char)} {piece : List Char}

/-- A name is kept. -/
theorem step_of_isName (isName : IsName piece) : step rooted kept piece = piece :: kept := by
  obtain ⟨nonempty, notSelf, notParent⟩ := isName
  simp [step, nonempty, notSelf, notParent]

/-- Segments stay settled as pieces come in. -/
theorem Settled.step (settled : Settled rooted kept) (piece : List Char) :
    Settled rooted (step rooted kept piece) := by
  by_cases skipped : piece = [] ∨ piece = ['.']
  · have same : Path.step rooted kept piece = kept := by simp [Path.step, skipped]
    rw [same]
    exact settled
  · obtain ⟨nonempty, notSelf⟩ := not_or.mp skipped
    by_cases isParent : piece = ['.', '.']
    · subst isParent
      -- `..` takes a name back. Where there is none, a root drops it and a drive keeps it.
      cases settled with
      | parents count atRoot =>
        cases count with
        | zero =>
          cases rooted with
          | true => exact .parents 0 (fun _ => rfl)
          | false => exact .parents 1 (by simp)
        | succ count =>
          cases rooted with
          | true => cases atRoot rfl
          | false => exact .parents (count + 2) (by simp)
      | name isName outerSettled =>
        obtain ⟨_, _, notParent⟩ := isName
        simpa [Path.step, notParent] using outerSettled
    · have isName : IsName piece := ⟨nonempty, notSelf, isParent⟩
      rw [step_of_isName isName]
      exact .name isName settled

/-- Folding segments keeps what is settled so. -/
theorem Settled.foldl_step (settled : Settled rooted kept) (pieces : List (List Char)) :
    Settled rooted (pieces.foldl (Path.step rooted) kept) := by
  induction pieces generalizing kept with
  | nil => exact settled
  | cons piece pieces ih => exact ih (settled.step piece)

private theorem foldl_step_parents (count : Nat) (before : Nat) :
    (List.replicate count ['.', '.']).foldl (Path.step false)
      (List.replicate before ['.', '.']) = List.replicate (before + count) ['.', '.'] := by
  induction count generalizing before with
  | zero => rfl
  | succ count ih =>
    have pushed : Path.step false (List.replicate before ['.', '.']) ['.', '.'] =
        List.replicate (before + 1) ['.', '.'] := by
      cases before with
      | zero => rfl
      | succ before => rfl
    rw [List.replicate_succ, List.foldl_cons, pushed, ih]
    congr 1
    omega

/-- Settled segments are kept when they come in one after the other. -/
theorem Settled.foldl_reverse (settled : Settled rooted kept) :
    kept.reverse.foldl (Path.step rooted) [] = kept := by
  induction settled with
  | parents count atRoot =>
    rw [List.reverse_replicate]
    cases rooted with
    | true => rw [atRoot rfl]; rfl
    | false => simpa using foldl_step_parents count 0
  | name isName _ ih =>
    rw [List.reverse_cons, List.foldl_append, ih]
    exact step_of_isName isName

/-- A segment comes from what is kept or is the one that is looked at. -/
theorem mem_of_mem_step {segment : List Char} (held : segment ∈ Path.step rooted kept piece) :
    segment ∈ kept ∨ segment = piece := by
  unfold Path.step at held
  split at held
  · exact .inl held
  · split at held
    · split at held
      · split at held
        · cases held
        · exact .inr (List.mem_singleton.mp held)
      · next last outer =>
        split at held
        · exact .inl (List.mem_cons_of_mem last held)
        · split at held
          · exact .inl held
          · exact (List.mem_cons.mp held).symm
    · exact (List.mem_cons.mp held).symm

/-- Segments are among the pieces that came in. -/
theorem mem_of_mem_foldl_step {pieces : List (List Char)} {segment : List Char}
    (held : segment ∈ pieces.foldl (Path.step rooted) kept) :
    segment ∈ kept ∨ segment ∈ pieces := by
  induction pieces generalizing kept with
  | nil => exact .inl held
  | cons piece pieces ih =>
    rcases ih held with early | late
    · rcases mem_of_mem_step early with before | rfl
      · exact .inl before
      · exact .inr (List.mem_cons_self ..)
    · exact .inr (List.mem_cons_of_mem piece late)

end Steps

/-- The segments of a path whose name has grown at its end. -/
def grow (ending : List Char) : List (List Char) → List (List Char)
  | [] => [ending]
  | name :: outer => (name ++ ending) :: outer

/-- An ending of three letters or more makes any segment a name. -/
theorem Settled.grow {rooted : Bool} {kept : List (List Char)} (settled : Settled rooted kept)
    {ending : List Char} (long : 2 < ending.length) : Settled rooted (grow ending kept) := by
  have isName : ∀ piece, IsName (piece ++ ending) := by
    intro piece
    refine ⟨?_, ?_, ?_⟩ <;>
    · intro same
      have lengths := congrArg List.length same
      simp only [List.length_append, List.length_cons, List.length_nil] at lengths
      omega
  cases settled with
  | parents count atRoot =>
    cases count with
    | zero => exact .name (isName []) (.parents 0 atRoot)
    | succ count =>
      refine .name (isName _) (.parents count ?_)
      intro rooted
      cases atRoot rooted
  | name _ outerSettled => exact .name (isName _) outerSettled

/-- The parts of a path in normal form. -/
structure Folded where
  drive : List Char
  /-- Whether the segments stand behind a root. -/
  rooted : Bool
  /-- The segments, the innermost first. -/
  kept : List (List Char)
  anchored : drive = [] ∧ rooted = true ∨ ∃ letter, isLetter letter = true ∧ drive = [letter, ':']
  settled : Settled rooted kept
  plain : ∀ piece ∈ kept, '/' ∉ piece ∧ '\\' ∉ piece

namespace Folded

/-- What stands behind the drive. -/
def rest (folded : Folded) : List Char :=
  if folded.rooted then '/' :: join folded.kept.reverse else join folded.kept.reverse

/-- The path with these parts. -/
def text (folded : Folded) : List Char :=
  folded.drive ++ folded.rest

variable (folded : Folded)

/-- A rooted path has a slash before its segments. -/
theorem rest_of_rooted (rooted : folded.rooted = true) :
    folded.rest = '/' :: join folded.kept.reverse := by
  simp [rest, rooted]

/-- The drive of a folded path is found in its text. -/
theorem splitDrive_text : splitDrive folded.text = (folded.drive, folded.rest) := by
  rcases folded.anchored with ⟨noDrive, rooted⟩ | ⟨letter, isLetter, driveEq⟩
  · rw [text, noDrive, List.nil_append, folded.rest_of_rooted rooted, splitDrive_slash]
  · rw [text, driveEq]
    exact splitDrive_cons isLetter folded.rest

private theorem join_ne_slash_cons {segments : List (List Char)}
    (plain : ∀ piece ∈ segments, piece ≠ [] ∧ '/' ∉ piece) (rest : List Char) :
    join segments ≠ '/' :: rest := by
  intro same
  cases segments with
  | nil => cases same
  | cons first more =>
    obtain ⟨nonempty, free⟩ := plain first (List.mem_cons_self ..)
    obtain ⟨letter, others, rfl⟩ := List.exists_cons_of_ne_nil nonempty
    have startsEq : letter = '/' := by
      cases more with
      | nil => exact (List.cons.inj same).1
      | cons next after => exact (List.cons.inj same).1
    simp [startsEq] at free

/-- No kept segment is empty. -/
theorem ne_nil_of_mem_kept {piece : List Char} (held : piece ∈ folded.kept) : piece ≠ [] := by
  have settled := folded.settled
  generalize folded.kept = kept at held settled
  induction settled with
  | parents count _ => simp [(List.mem_replicate.mp held).2]
  | name isName _ ih =>
    rcases List.mem_cons.mp held with rfl | outer
    · exact isName.1
    · exact ih outer

/-- The root of a folded path is found in its text. -/
theorem isRooted_rest : isRooted folded.rest = folded.rooted := by
  cases rooted : folded.rooted with
  | true => rw [folded.rest_of_rooted rooted]; rfl
  | false =>
    have restEq : folded.rest = join folded.kept.reverse := by simp [rest, rooted]
    rw [restEq]
    unfold isRooted
    split
    · next slashed =>
      refine absurd slashed (join_ne_slash_cons ?_ _)
      intro piece held
      have kept := List.mem_reverse.mp held
      exact ⟨folded.ne_nil_of_mem_kept kept, (folded.plain piece kept).1⟩
    · rfl

/-- The segments are the pieces between the slashes, if there are any. -/
theorem pieces_join_kept (some : folded.kept ≠ []) :
    pieces (join folded.kept.reverse) = folded.kept.reverse := by
  apply Text.pieces_join
  · simpa using some
  · intro piece held
    exact (folded.plain piece (List.mem_reverse.mp held)).1

/-- The pieces of the text are its segments, but for empty ones. -/
theorem segments_rest : segments folded.rooted (pieces folded.rest) = folded.kept.reverse := by
  have body : (pieces (join folded.kept.reverse)).foldl (step folded.rooted) [] =
      folded.kept := by
    -- Without segments the text behind the root still has one piece, the empty one.
    by_cases bare : folded.kept = []
    · simp [bare, join, pieces, Text.join, Text.pieces, step]
    · rw [folded.pieces_join_kept bare]
      exact folded.settled.foldl_reverse
  cases rooted : folded.rooted with
  | true =>
    rw [rooted] at body
    have skipped : pieces folded.rest = [] :: pieces (join folded.kept.reverse) := by
      rw [folded.rest_of_rooted rooted]
      rfl
    rw [segments, skipped, List.foldl_cons]
    exact congrArg List.reverse body
  | false =>
    rw [rooted] at body
    have restEq : folded.rest = join folded.kept.reverse := by simp [rest, rooted]
    rw [segments, restEq, body]

/-- Folding leaves folded paths alone. -/
theorem fold_text : fold folded.text = folded.text := by
  simp only [fold, splitDrive_text, isRooted_rest, segments_rest]
  unfold text rest
  split <;> rfl

/-- A folded path is absolute. -/
theorem isAbsolute_text : isAbsolute folded.text = true := by
  rcases folded.anchored with ⟨noDrive, rooted⟩ | ⟨letter, isLetter, driveEq⟩
  · rw [text, noDrive, List.nil_append, folded.rest_of_rooted rooted]
    rfl
  · rw [text, driveEq]
    exact isAbsolute_iff.mpr (.inr ⟨letter, folded.rest, isLetter, rfl⟩)

/-- A folded path has no backslashes. -/
theorem backslash_notMem_text : '\\' ∉ folded.text := by
  have inDrive : '\\' ∉ folded.drive := by
    rcases folded.anchored with ⟨noDrive, _⟩ | ⟨letter, isLetter, driveEq⟩
    · simp [noDrive]
    · have notLetter : Path.isLetter '\\' = false := by decide
      have different : letter ≠ '\\' := by
        rintro rfl
        simp [notLetter] at isLetter
      simpa [driveEq] using different.symm
  have inBody : '\\' ∉ join folded.kept.reverse := by
    intro held
    rcases Text.mem_join held with isSlash | ⟨piece, among, inPiece⟩
    · simp at isSlash
    · exact (folded.plain piece (List.mem_reverse.mp among)).2 inPiece
  unfold text rest
  split
  · simpa using ⟨inDrive, inBody⟩
  · simpa using ⟨inDrive, inBody⟩

/-- The parts of a path whose name has grown at its end. -/
def extend (ending : List Char) (long : 2 < ending.length) (plain : '/' ∉ ending ∧ '\\' ∉ ending) :
    Folded :=
  { folded with
    kept := grow ending folded.kept
    settled := folded.settled.grow long
    plain := by
      intro piece held
      cases keptEq : folded.kept with
      | nil =>
        rw [keptEq] at held
        obtain rfl := List.mem_singleton.mp held
        exact plain
      | cons name outer =>
        have keptPlain := folded.plain
        rw [keptEq] at held keptPlain
        obtain ⟨namePlain, outerPlain⟩ := List.forall_mem_cons.mp keptPlain
        rcases List.mem_cons.mp held with rfl | among
        · simp [namePlain, plain]
        · exact outerPlain piece among }

/-- Extending a folded path writes the ending behind its text. -/
theorem text_extend (ending : List Char) (long : 2 < ending.length)
    (plain : '/' ∉ ending ∧ '\\' ∉ ending) :
    (folded.extend ending long plain).text = folded.text ++ ending := by
  have grown : join (grow ending folded.kept).reverse = join folded.kept.reverse ++ ending := by
    cases folded.kept with
    | nil => rfl
    | cons name outer =>
      simp only [grow, List.reverse_cons]
      exact Text.join_concat_append outer.reverse name ending
  simp only [text, rest, extend, grown]
  split <;> simp

end Folded

/-- The parts of an absolute path after folding. -/
def Folded.ofPath (path : List Char) (absolute : isAbsolute path = true) (slashes : '\\' ∉ path) :
    Folded where
  drive := (splitDrive path).1
  rooted := isRooted (splitDrive path).2
  kept := (pieces (splitDrive path).2).foldl (step (isRooted (splitDrive path).2)) []
  anchored := by
    rcases isAbsolute_iff.mp absolute with ⟨rest, rfl⟩ | ⟨letter, rest, isLetter, rfl⟩
    · rw [splitDrive_slash]
      exact .inl ⟨rfl, rfl⟩
    · rw [splitDrive_cons isLetter]
      exact .inr ⟨letter, isLetter, rfl⟩
  settled := (Settled.parents 0 (fun _ => rfl)).foldl_step _
  plain := by
    have restSlashes : '\\' ∉ (splitDrive path).2 := by
      rcases splitDrive_cases path with whole | ⟨letter, rest, _, rfl, split⟩
      · rw [whole]
        exact slashes
      · rw [split]
        exact fun held => slashes (List.mem_cons_of_mem _ (List.mem_cons_of_mem _ held))
    intro piece held
    rcases mem_of_mem_foldl_step held with early | cut
    · cases early
    · exact ⟨Text.separator_notMem_of_mem_pieces cut,
        fun inPiece => restSlashes (Text.mem_of_mem_pieces cut inPiece)⟩

/-- Folding gives the text of the parts. -/
theorem Folded.text_ofPath {path : List Char} (absolute : isAbsolute path = true)
    (slashes : '\\' ∉ path) : (ofPath path absolute slashes).text = fold path := by
  by_cases rooted : isRooted (splitDrive path).2 = true <;>
    simp [text, rest, ofPath, fold, segments, rooted]

/-- A directory is given from a root or a drive on, as current directories are. -/
def IsAbsoluteDirectory (directory : String) : Prop :=
  isAbsolute (slashed directory.toList) = true

instance (directory : String) : Decidable (IsAbsoluteDirectory directory) :=
  inferInstanceAs (Decidable (_ = true))

/-- Backslashes are turned into slashes. -/
theorem backslash_notMem_slashed (path : List Char) : '\\' ∉ slashed path := by
  intro held
  obtain ⟨c, _, same⟩ := List.mem_map.mp held
  split at same
  · simp at same
  · next different => exact different same

/-- A path without backslashes is left as it is. -/
theorem slashed_eq_self {path : List Char} (slashes : '\\' ∉ path) : slashed path = path := by
  unfold slashed
  refine (List.map_congr_left ?_).trans (List.map_id path)
  intro c held
  have different : c ≠ '\\' := fun same => slashes (same ▸ held)
  exact if_neg different

/-- A path as seen from an absolute directory is absolute. -/
theorem isAbsolute_absolute {directory : String} (absolute : IsAbsoluteDirectory directory)
    (path : List Char) : isAbsolute (Path.absolute directory.toList path) = true := by
  simp only [Path.absolute]
  split
  · next itself => exact itself
  · exact isAbsolute_append absolute _

/-- A path that was made absolute has no backslashes. -/
theorem backslash_notMem_absolute (directory path : List Char) :
    '\\' ∉ Path.absolute directory path := by
  simp only [Path.absolute]
  split
  · exact backslash_notMem_slashed path
  · have inDirectory := backslash_notMem_slashed directory
    have inPath := backslash_notMem_slashed path
    simpa using ⟨inDirectory, inPath⟩

/-- A path is in normal form. -/
def IsNormal (path : String) : Prop :=
  ∃ folded : Folded, folded.text = path.toList

/-- The parts of the normal form of a path. -/
def normalParts {directory : String} (absolute : IsAbsoluteDirectory directory) (path : String) :
    Folded :=
  .ofPath (Path.absolute directory.toList path.toList) (isAbsolute_absolute absolute path.toList)
    (backslash_notMem_absolute directory.toList path.toList)

/-- The parts of a normal form make up its text. -/
theorem text_normalParts {directory : String} (absolute : IsAbsoluteDirectory directory)
    (path : String) : (normalParts absolute path).text = (normalize directory path).toList := by
  rw [normalParts, Folded.text_ofPath, normalize, String.toList_ofList]

/-- Normal forms are in normal form. -/
theorem isNormal_normalize {directory : String} (absolute : IsAbsoluteDirectory directory)
    (path : String) : IsNormal (normalize directory path) :=
  ⟨normalParts absolute path, text_normalParts absolute path⟩

namespace IsNormal

variable {path : String}

/-- A path in normal form is the same from any directory. -/
theorem absolute_eq (normal : IsNormal path) (directory : List Char) :
    Path.absolute directory path.toList = path.toList := by
  obtain ⟨folded, same⟩ := normal
  rw [← same]
  simp only [Path.absolute]
  rw [slashed_eq_self folded.backslash_notMem_text, if_pos folded.isAbsolute_text]

/-- A path in normal form is its own normal form, seen from any directory. -/
theorem normalize_eq (normal : IsNormal path) (directory : String) :
    normalize directory path = path := by
  rw [normalize, normal.absolute_eq]
  obtain ⟨folded, same⟩ := normal
  rw [← same, folded.fold_text, same, String.ofList_toList]

/-- A name that grows at its end stays in normal form. -/
theorem append (normal : IsNormal path) {ending : String} (long : 2 < ending.toList.length)
    (plain : '/' ∉ ending.toList ∧ '\\' ∉ ending.toList) : IsNormal (path ++ ending) := by
  obtain ⟨folded, same⟩ := normal
  exact ⟨folded.extend ending.toList long plain, by
    rw [folded.text_extend, same, String.toList_append]⟩

end IsNormal

end ScriptLoader.Path
