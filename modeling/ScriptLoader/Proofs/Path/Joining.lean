import ScriptLoader.Proofs.Path.Shape

/-!
# Paths behind a directory

A path that is put behind a directory has the same normal form whether the directory was brought
into normal form before or not. Folding goes through the segments from the left, so all that it
knows of the directory when it comes to the path are the segments that are left of it, and these
are the segments of its normal form. The directory must have a root: `C:.` has the normal form
`C:`, and a slash behind a bare drive is a root. And it must not be the empty text, which is the
current directory on its own, but nothing in front of a slash.
-/

namespace ScriptLoader.Path

section Fronts

variable {front : List Char}

/-- A slash behind a path that is not empty does not make it absolute. -/
theorem isAbsolute_of_append_slash (nonempty : front ≠ []) {back : List Char}
    (absolute : isAbsolute (front ++ '/' :: back) = true) : isAbsolute front = true := by
  obtain ⟨first, rest, rfl⟩ := List.exists_cons_of_ne_nil nonempty
  rcases isAbsolute_iff.mp absolute with ⟨_, startEq⟩ | ⟨letter, _, isLetter, startEq⟩
  · obtain rfl := (List.cons.inj startEq).1
    rfl
  · obtain ⟨rfl, restEq⟩ := List.cons.inj startEq
    -- The colon of a drive is not the slash, so it stands in the front, too.
    cases rest with
    | nil => simp at restEq
    | cons second rest =>
      obtain ⟨rfl, _⟩ := List.cons.inj restEq
      exact isAbsolute_iff.mpr (.inr ⟨first, rest, isLetter, rfl⟩)

/-- A path behind another one is seen from where the other one is seen from. -/
theorem absolute_append (nonempty : front ≠ []) (directory back : List Char) :
    Path.absolute directory (front ++ '/' :: back) =
      Path.absolute directory front ++ '/' :: slashed back := by
  have slashedEq : slashed (front ++ '/' :: back) = slashed front ++ '/' :: slashed back := by
    simp [slashed]
  have slashedNonempty : slashed front ≠ [] := by simpa [slashed] using nonempty
  simp only [Path.absolute, slashedEq]
  by_cases absolute : isAbsolute (slashed front) = true
  · rw [if_pos absolute, if_pos (isAbsolute_append absolute _)]
  · rw [if_neg absolute, if_neg (mt (isAbsolute_of_append_slash slashedNonempty) absolute),
      List.append_assoc, List.cons_append]

/-- Behind a root, folding goes on from the segments that are left of the front. -/
theorem fold_append (root : HasRoot front) (back : List Char) :
    fold (front ++ '/' :: back) = (splitDrive front).1 ++ '/' ::
      join ((pieces back).foldl (step true)
        ((pieces (splitDrive front).2).foldl (step true) [])).reverse := by
  obtain ⟨rest, restEq⟩ := exists_of_isRooted (hasRoot_iff.mp root)
  have rooted : isRooted ((splitDrive front).2 ++ '/' :: back) = true := by rw [restEq]; rfl
  have piecesEq : pieces ((splitDrive front).2 ++ '/' :: back) =
      pieces (splitDrive front).2 ++ pieces back := Text.pieces_append ..
  simp only [fold, splitDrive_append root.isAbsolute, rooted, piecesEq, segments,
    List.foldl_append, if_true]

/-- Behind a folded path with a root, folding goes on from its segments. -/
theorem Folded.fold_text_append (folded : Folded) (rooted : folded.rooted = true)
    (back : List Char) : fold (folded.text ++ '/' :: back) = folded.drive ++ '/' ::
      join ((pieces back).foldl (step true) folded.kept).reverse := by
  have keptAgain : (pieces folded.rest).foldl (step true) [] = folded.kept := by
    have segmentsEq := folded.segments_rest
    rw [rooted, segments] at segmentsEq
    exact List.reverse_inj.mp segmentsEq
  rw [fold_append (folded.hasRoot_text.mpr rooted), folded.splitDrive_text, keptAgain]

/-- A path behind a front folds as it does behind the folded front. -/
theorem fold_fold_append (root : HasRoot front) (slashes : '\\' ∉ front) (back : List Char) :
    fold (fold front ++ '/' :: back) = fold (front ++ '/' :: back) := by
  have rooted : isRooted (splitDrive front).2 = true := hasRoot_iff.mp root
  rw [← Folded.text_ofPath root.isAbsolute slashes, Folded.fold_text_append _ rooted,
    fold_append root]
  simp only [Folded.ofPath, rooted]

end Fronts

section Directories

variable {directory front : String}

/-- All that counts of a directory for the paths behind it is its normal form. -/
theorem normalize_append_slash (absolute : IsAbsoluteDirectory directory) (nonempty : front ≠ "")
    (root : HasRoot (normalize directory front).toList) (back : String) :
    normalize directory (front ++ "/" ++ back) =
      String.ofList (fold ((normalize directory front).toList ++ '/' :: slashed back.toList)) := by
  have seenRoot : HasRoot (Path.absolute directory.toList front.toList) := by
    rw [← text_normalParts absolute, Folded.hasRoot_text] at root
    exact hasRoot_iff.mpr root
  have listEq : (front ++ "/" ++ back).toList = front.toList ++ '/' :: back.toList := by simp
  have normalEq : (normalize directory front).toList =
      fold (Path.absolute directory.toList front.toList) := String.toList_ofList
  rw [normalEq, fold_fold_append seenRoot (backslash_notMem_absolute _ _), normalize, listEq,
    absolute_append (by simpa using nonempty)]

/-- Whatever stands behind a directory has one normal form for all spellings of the directory,
the normal form among them. -/
theorem normalize_behind_directory (absolute : IsAbsoluteDirectory directory)
    (nonempty : front ≠ "") (root : HasRoot (normalize directory front).toList) (back : String) :
    normalize directory (front ++ "/" ++ back) =
        normalize directory (normalize directory front ++ "/" ++ back) ∧
      ∀ other, other ≠ "" → normalize directory other = normalize directory front →
        normalize directory (other ++ "/" ++ back) = normalize directory (front ++ "/" ++ back) := by
  have spelled : ∀ other, other ≠ "" → normalize directory other = normalize directory front →
      normalize directory (other ++ "/" ++ back) = normalize directory (front ++ "/" ++ back) := by
    intro other otherNonempty same
    rw [normalize_append_slash absolute otherNonempty (same ▸ root), same,
      normalize_append_slash absolute nonempty root]
  have normalNonempty : normalize directory front ≠ "" := by
    intro empty
    rw [empty] at root
    exact absurd root (by decide)
  have normalAgain : normalize directory (normalize directory front) = normalize directory front :=
    (isNormal_normalize absolute front).normalize_eq directory
  exact ⟨(spelled _ normalNonempty normalAgain).symm, spelled⟩

/-- A directory is spelled in two ways, and the path behind it leaves it and its parent. -/
theorem normalize_behind_two_spellings :
    IsAbsoluteDirectory "C:\\work" ∧ HasRoot (normalize "C:\\work" "lib\\.").toList ∧
      normalize "C:\\work" "./src/../lib" = normalize "C:\\work" "lib\\." ∧
      normalize "C:\\work" ("lib\\." ++ "/" ++ "../..\\x") =
        normalize "C:\\work" (normalize "C:\\work" "lib\\." ++ "/" ++ "../..\\x") ∧
      normalize "C:\\work" ("./src/../lib" ++ "/" ++ "../..\\x") =
        normalize "C:\\work" ("lib\\." ++ "/" ++ "../..\\x") := by
  have absolute : IsAbsoluteDirectory "C:\\work" := by decide
  have root : HasRoot (normalize "C:\\work" "lib\\.").toList := by decide +kernel
  have same : normalize "C:\\work" "./src/../lib" = normalize "C:\\work" "lib\\." := by
    decide +kernel
  obtain ⟨normalized, spelled⟩ :=
    normalize_behind_directory absolute (by decide) root "../..\\x"
  exact ⟨absolute, root, same, normalized, spelled "./src/../lib" (by decide) same⟩

end Directories

end ScriptLoader.Path
