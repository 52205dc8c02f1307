import Mathlib.Logic.Relation
import ScriptLoader.Graph.Closure
import ScriptLoader.Proofs.Collection

/-!
# Walks come to an end, and find what can be reached

A closure is computed by a walk that looks at pending files, at most as many as it is
allowed. `Walk.Ends` is the same walk without an allowance, and `run_ends` says that an
allowance as large as the number of files that can be found is never used up.

Two facts are kept along the way. `Discovery` says how a list of finds came about: each was
found along an edge from an earlier one, and none is found twice. `Walk.Sound` adds what is
known of the files that were looked at. When nothing is pending, both together say that
exactly the files within reach were found (`Walk.Sound.mem_found_iff`).
-/

namespace ScriptLoader.Closure

variable {neighbours : String → List String} {start : String}

/-- A file can be reached from another one along edges. -/
def Reaches (neighbours : String → List String) : String → String → Prop :=
  Relation.ReflTransGen fun file next => next ∈ neighbours file

/-- A walk until nothing is pending, however long it takes. -/
inductive Walk.Ends (neighbours : String → List String) : Walk → Walk → Prop where
  | idle {walk : Walk} (nothing : walk.pending = []) : Ends neighbours walk walk
  | look {walk last : Walk} {file : String} {pending : List String}
      (next : walk.pending = file :: pending)
      (rest : Ends neighbours
        ((neighbours file).foldl Walk.discover { walk with pending }) last) :
      Ends neighbours walk last

/-- A list of finds, the last one first: the start, and then files that are found along an
edge from one found before, each once. -/
inductive Discovery (neighbours : String → List String) (start : String) :
    List String → Prop where
  | start : Discovery neighbours start [start]
  | find {found : List String} {file next : String}
      (prior : Discovery neighbours start found) (known : file ∈ found)
      (edge : next ∈ neighbours file) (fresh : next ∉ found) :
      Discovery neighbours start (next :: found)

namespace Discovery

variable {found : List String}

/-- No file is found twice. -/
theorem nodup (discovery : Discovery neighbours start found) : found.Nodup := by
  induction discovery with
  | start => simp
  | find _ _ _ fresh ih => exact List.nodup_cons.mpr ⟨fresh, ih⟩

/-- The start is found. -/
theorem start_mem (discovery : Discovery neighbours start found) : start ∈ found := by
  induction discovery with
  | start => exact List.mem_singleton_self start
  | find _ _ _ _ ih => exact List.mem_cons_of_mem _ ih

/-- The start is found first. -/
theorem getLast?_eq (discovery : Discovery neighbours start found) :
    found.getLast? = some start := by
  induction discovery with
  | start => rfl
  | @find found _ _ prior _ _ _ ih =>
    rw [List.getLast?_cons_of_ne_nil (List.ne_nil_of_mem prior.start_mem)]
    exact ih

/-- What is found can be reached. -/
theorem reaches (discovery : Discovery neighbours start found) {file : String}
    (member : file ∈ found) : Reaches neighbours start file := by
  induction discovery generalizing file with
  | start =>
    rw [List.mem_singleton.mp member]
    exact .refl
  | find _ known edge _ ih =>
    rcases List.mem_cons.mp member with rfl | earlier
    · exact (ih known).tail edge
    · exact ih earlier

/-- Every find but the start has an edge from one that was found before. -/
theorem exists_earlier (discovery : Discovery neighbours start found)
    {later earlier : List String} {file : String} (split : found = later ++ file :: earlier) :
    file = start ∨ ∃ source ∈ earlier, file ∈ neighbours source := by
  induction discovery generalizing later with
  | start =>
    rcases List.append_eq_singleton_iff.mp split.symm with ⟨_, single⟩ | ⟨_, empty⟩
    · exact .inl (List.cons.inj single).1
    · cases empty
  | @find found source next _ known edge _ ih =>
    rcases List.cons_eq_append_iff.mp split with ⟨_, whole⟩ | ⟨rest, _, splitRest⟩
    · obtain ⟨rfl, rfl⟩ := List.cons.inj whole
      exact .inr ⟨source, known, edge⟩
    · exact ih splitRest

/-- Every find but the start is the end of an edge. -/
theorem length_le (discovery : Discovery neighbours start found) {ends : List String}
    (all : ∀ file next, next ∈ neighbours file → next ∈ ends) :
    found.length ≤ ends.length + 1 := by
  have within : found ⊆ start :: ends := by
    intro file member
    induction discovery with
    | start => exact List.mem_cons.mpr (.inl (List.mem_singleton.mp member))
    | find _ _ edge _ ih =>
      rcases List.mem_cons.mp member with rfl | earlier
      · exact List.mem_cons_of_mem _ (all _ _ edge)
      · exact ih earlier
  exact discovery.nodup.length_le_of_subset within

end Discovery

namespace Walk

/-- What a walk remembers is true: its finds came about along edges, and the set of files
that it has seen is the set of its finds. -/
structure Recorded (neighbours : String → List String) (start : String) (walk : Walk) :
    Prop where
  discovery : Discovery neighbours start walk.found
  seen_iff : ∀ file, walk.seen.contains file = true ↔ file ∈ walk.found

/-- A walk after discoveries: each was put in front of what was pending and of what was
found. -/
def Grows (walk later : Walk) : Prop :=
  ∃ fresh, later.pending = fresh ++ walk.pending ∧ later.found = fresh ++ walk.found

/-- A walk without discoveries has grown by none. -/
theorem Grows.refl (walk : Walk) : walk.Grows walk :=
  ⟨[], rfl, rfl⟩

/-- Discoveries add up. -/
theorem Grows.trans {first second third : Walk} (early : first.Grows second)
    (late : second.Grows third) : first.Grows third := by
  obtain ⟨fresh, pendingEq, foundEq⟩ := early
  obtain ⟨newer, pendingEq', foundEq'⟩ := late
  refine ⟨newer ++ fresh, ?_, ?_⟩
  · rw [pendingEq', pendingEq, List.append_assoc]
  · rw [foundEq', foundEq, List.append_assoc]

/-- What was found stays found. -/
theorem Grows.found_subset {walk later : Walk} (grows : walk.Grows later) :
    walk.found ⊆ later.found := by
  obtain ⟨fresh, _, foundEq⟩ := grows
  rw [foundEq]
  exact List.subset_append_right fresh walk.found

/-- One discovery at most puts one file in front. -/
theorem grows_discover (walk : Walk) (file : String) : walk.Grows (walk.discover file) := by
  unfold discover
  split
  · exact .refl walk
  · exact ⟨[file], rfl, rfl⟩

/-- A file is found once it is discovered. -/
theorem Recorded.mem_discover {walk : Walk} (recorded : walk.Recorded neighbours start)
    (file : String) : file ∈ (walk.discover file).found := by
  unfold discover
  split
  · next seen => exact (recorded.seen_iff file).mp seen
  · exact List.mem_cons_self

/-- What a walk remembers stays true when it discovers a neighbour of a find. -/
theorem Recorded.discover {walk : Walk} (recorded : walk.Recorded neighbours start)
    {file next : String} (known : file ∈ walk.found) (edge : next ∈ neighbours file) :
    (walk.discover next).Recorded neighbours start := by
  unfold Walk.discover
  split
  · exact recorded
  · next unseen =>
    have fresh : next ∉ walk.found := mt (recorded.seen_iff next).mpr unseen
    refine ⟨recorded.discovery.find known edge fresh, ?_⟩
    intro other
    have before := recorded.seen_iff other
    simp only [Std.ExtTreeSet.contains_insert, Bool.or_eq_true, beq_iff_eq, List.mem_cons,
      Std.LawfulEqCmp.compare_eq_iff_eq, before]
    rw [eq_comm]

/-- Discovering some neighbours of a file that was found. -/
theorem Recorded.foldl_discover {walk : Walk} (recorded : walk.Recorded neighbours start)
    {file : String} (known : file ∈ walk.found) {nexts : List String}
    (edges : nexts ⊆ neighbours file) :
    (nexts.foldl Walk.discover walk).Recorded neighbours start ∧
      walk.Grows (nexts.foldl Walk.discover walk) ∧
      nexts ⊆ (nexts.foldl Walk.discover walk).found := by
  induction nexts generalizing walk with
  | nil => exact ⟨recorded, .refl walk, List.nil_subset _⟩
  | cons next nexts ih =>
    obtain ⟨edge, edges⟩ := List.cons_subset.mp edges
    have grows := grows_discover walk next
    obtain ⟨recordedLast, growsLast, members⟩ :=
      ih (recorded.discover known edge) (grows.found_subset known) edges
    have member := growsLast.found_subset (recorded.mem_discover next)
    exact ⟨recordedLast, grows.trans growsLast, List.cons_subset.mpr ⟨member, members⟩⟩

/-- What holds of a walk whenever it turns to the next pending file: what is pending was
found, and the neighbours of every other find were found as well. -/
structure Sound (neighbours : String → List String) (start : String) (walk : Walk) : Prop
    extends Recorded neighbours start walk where
  pending_subset : walk.pending ⊆ walk.found
  looked : ∀ file ∈ walk.found, file ∈ walk.pending ∨ neighbours file ⊆ walk.found

/-- At the beginning a walk is sound: only the start was found, and it is pending. -/
theorem sound_start (neighbours : String → List String) (start : String) :
    (Walk.start start).Sound neighbours start where
  discovery := .start
  seen_iff := by
    intro file
    simp only [Walk.start, Std.ExtTreeSet.contains_insert, Std.ExtTreeSet.contains_empty,
      Bool.or_false, beq_iff_eq, Std.LawfulEqCmp.compare_eq_iff_eq, List.mem_singleton]
    exact eq_comm
  pending_subset := List.Subset.refl _
  looked := fun _ member => .inl member

/-- The walk after the next pending file was looked at. -/
def lookAt (neighbours : String → List String) (walk : Walk) (file : String)
    (pending : List String) : Walk :=
  (neighbours file).foldl Walk.discover { walk with pending }

section Look

variable {walk : Walk} {file : String} {pending : List String}

/-- When a pending file is looked at, all its neighbours are found, each new one put in front. -/
theorem Sound.lookAt_grows (sound : walk.Sound neighbours start)
    (next : walk.pending = file :: pending) :
    (walk.lookAt neighbours file pending).Recorded neighbours start ∧
      Grows { walk with pending } (walk.lookAt neighbours file pending) ∧
      neighbours file ⊆ (walk.lookAt neighbours file pending).found := by
  have known : file ∈ walk.found := sound.pending_subset (next ▸ List.mem_cons_self)
  have recorded : Recorded neighbours start { walk with pending } :=
    ⟨sound.discovery, sound.seen_iff⟩
  exact recorded.foldl_discover known (List.Subset.refl _)

/-- A walk stays sound when the next pending file is looked at. -/
theorem Sound.lookAt (sound : walk.Sound neighbours start)
    (next : walk.pending = file :: pending) :
    (walk.lookAt neighbours file pending).Sound neighbours start := by
  obtain ⟨recorded, grows, members⟩ := sound.lookAt_grows next
  have kept : walk.found ⊆ (walk.lookAt neighbours file pending).found := grows.found_subset
  obtain ⟨fresh, pendingEq, foundEq⟩ := grows
  refine ⟨recorded, ?_, ?_⟩
  · rw [pendingEq, foundEq]
    have rest : pending ⊆ walk.found := fun other member =>
      sound.pending_subset (next ▸ List.mem_cons_of_mem file member)
    exact List.append_subset.mpr
      ⟨List.subset_append_left _ _, List.subset_append_of_subset_right _ rest⟩
  · intro other member
    rw [foundEq] at member
    rcases List.mem_append.mp member with new | old
    · left
      rw [pendingEq]
      exact List.mem_append_left _ new
    · rcases sound.looked other old with waiting | complete
      · rw [next] at waiting
        rcases List.mem_cons.mp waiting with rfl | waiting
        · exact .inr members
        · left
          rw [pendingEq]
          exact List.mem_append_right _ waiting
      · exact .inr (List.Subset.trans complete kept)

/-- Looking at a file takes one from the files that are pending and not only just found. -/
theorem Sound.lookAt_length (sound : walk.Sound neighbours start)
    (next : walk.pending = file :: pending) :
    (walk.lookAt neighbours file pending).pending.length + walk.found.length + 1 =
      walk.pending.length + (walk.lookAt neighbours file pending).found.length := by
  obtain ⟨_, ⟨fresh, pendingEq, foundEq⟩, _⟩ := sound.lookAt_grows next
  rw [pendingEq, foundEq, next]
  simp only [List.length_append, List.length_cons]
  omega

end Look

/-- An allowance for all files that can be found is not used up. -/
theorem Sound.run_ends {walk : Walk} (sound : walk.Sound neighbours start)
    {limit fuel : Nat}
    (bound : ∀ found, Discovery neighbours start found → found.length ≤ limit)
    (enough : limit + walk.pending.length ≤ fuel + walk.found.length) :
    walk.Ends neighbours (walk.run neighbours fuel) := by
  induction fuel generalizing walk with
  | zero =>
    have most := bound walk.found sound.discovery
    exact .idle (List.eq_nil_of_length_eq_zero (by omega))
  | succ fuel ih =>
    cases next : walk.pending with
    | nil => simpa [Walk.run, next] using Ends.idle next
    | cons file pending =>
      have step := sound.lookAt_length next
      have rest := ih (sound.lookAt next) (by omega)
      simp only [Walk.run, next]
      exact .look next rest

/-- A sound walk ends as one, with nothing pending. -/
theorem Sound.of_ends {walk last : Walk} (sound : walk.Sound neighbours start)
    (ends : walk.Ends neighbours last) :
    last.Sound neighbours start ∧ last.pending = [] := by
  induction ends with
  | idle nothing => exact ⟨sound, nothing⟩
  | look next _ ih => exact ih (sound.lookAt next)

/-- A walk with nothing pending has found exactly what can be reached. -/
theorem Sound.mem_found_iff {walk : Walk} (sound : walk.Sound neighbours start)
    (nothing : walk.pending = []) (file : String) :
    file ∈ walk.found ↔ Reaches neighbours start file := by
  constructor
  · exact sound.discovery.reaches
  · intro reached
    induction reached with
    | refl => exact sound.discovery.start_mem
    | @tail middle next _ edge ih =>
      rcases sound.looked middle ih with waiting | complete
      · rw [nothing] at waiting
        cases waiting
      · exact complete edge

end Walk

section Collect

variable (edges : Std.ExtTreeMap String (List String) compare) (start : String)

/-- The files collected along a map of edges are the finds, in order, of the walk that goes
on until nothing is pending. -/
theorem exists_ends_of_collect : ∃ last : Walk,
    (Walk.start start).Ends (edges.getD · []) last ∧
    last.Sound (edges.getD · []) start ∧ last.pending = [] ∧
    collect (edgeCount edges) (edges.getD · []) start = last.found.reverse := by
  have sound := Walk.sound_start (edges.getD · []) start
  have bound : ∀ found, Discovery (edges.getD · []) start found →
      found.length ≤ edgeCount edges + 1 := by
    intro found discovery
    exact discovery.length_le fun _ _ edge => Collection.mem_flatten_values edge
  have ends := sound.run_ends bound (Nat.le_refl _)
  obtain ⟨lastSound, nothing⟩ := sound.of_ends ends
  exact ⟨_, ends, lastSound, nothing, rfl⟩

/-- What is collected is what can be reached. -/
theorem mem_collect_iff (file : String) :
    file ∈ collect (edgeCount edges) (edges.getD · []) start ↔
      Reaches (edges.getD · []) start file := by
  obtain ⟨last, _, sound, nothing, eq⟩ := exists_ends_of_collect edges start
  rw [eq, List.mem_reverse]
  exact sound.mem_found_iff nothing file

end Collect

end ScriptLoader.Closure
