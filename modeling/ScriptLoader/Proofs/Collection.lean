import Mathlib.Data.List.Induction
import Mathlib.Data.List.Perm.Subperm
import Std.Data.ExtTreeMap

/-!
# Facts about maps and lists

What the library leaves unsaid about the maps that the program keeps, and about lists without
repetitions.
-/

namespace ScriptLoader.Collection

/-- Where each item is the first one with its name, looking for a name finds the item that has
it. -/
theorem find?_name_eq_some_iff {α : Type} {items : List α} {name : α → String}
    (named : ∀ item, items.find? (fun other => name other = name item) = some item) {item : α}
    {text : String} :
    items.find? (fun other => name other = text) = some item ↔ name item = text := by
  constructor
  · intro found
    simpa using List.find?_some found
  · rintro rfl
    exact named item

section Lookup

variable {α β γ : Type} [DecidableEq α] {list : List (α × β)}

/-- The first entry with a key decides. -/
theorem lookup_cons (entry : α × β) (list : List (α × β)) (key : α) :
    (entry :: list).lookup key = if key = entry.1 then some entry.2 else list.lookup key := by
  obtain ⟨other, value⟩ := entry
  by_cases same : key = other
  · rw [same, List.lookup_cons_self, if_pos rfl]
  · rw [List.lookup_cons, beq_false_of_ne same, if_neg same]

/-- Filtering by keys leaves what is found under the keys that stay. -/
theorem lookup_filter_key (keep : α → Bool) (list : List (α × β)) (key : α) :
    (list.filter fun entry => keep entry.1).lookup key =
      if keep key then list.lookup key else none := by
  induction list with
  | nil => simp
  | cons entry list ih =>
    rw [List.filter_cons, lookup_cons]
    by_cases kept : keep entry.1
    · rw [if_pos kept, lookup_cons, ih]
      grind
    · rw [if_neg kept, ih]
      grind

/-- Changing the values changes what is found in the same way. -/
theorem lookup_map_value (make : β → γ) (list : List (α × β)) (key : α) :
    (list.map fun entry => (entry.1, make entry.2)).lookup key = (list.lookup key).map make := by
  induction list with
  | nil => rfl
  | cons entry list ih =>
    rw [List.map_cons, lookup_cons, lookup_cons, ih, apply_ite (Option.map make), Option.map_some]

/-- What is found is in the list. -/
theorem mem_of_lookup {key : α} {value : β} (found : list.lookup key = some value) :
    (key, value) ∈ list := by
  obtain ⟨front, back, rfl, -⟩ := List.lookup_eq_some_iff.mp found
  simp

/-- Where each key stands once, an entry is found under its key. -/
theorem lookup_eq_some_of_mem {key : α} {value : β} (nodup : (list.map (·.1)).Nodup)
    (member : (key, value) ∈ list) : list.lookup key = some value := by
  obtain ⟨front, back, rfl⟩ := List.append_of_mem member
  rw [List.map_append, List.map_cons, List.nodup_append] at nodup
  refine List.lookup_eq_some_iff.mpr ⟨front, back, rfl, fun entry before => ?_⟩
  have apart := nodup.2.2 entry.1 (List.mem_map_of_mem before) key (List.mem_cons_self ..)
  simpa using Ne.symm apart

/-- In a list without repeated keys the order does not matter. -/
theorem lookup_reverse (nodup : (list.map (·.1)).Nodup) (key : α) :
    list.reverse.lookup key = list.lookup key := by
  have nodup' : (list.reverse.map (·.1)).Nodup := by
    rw [List.map_reverse]
    exact List.pairwise_reverse.mpr (nodup.imp Ne.symm)
  ext value
  exact ⟨fun found => lookup_eq_some_of_mem nodup (List.mem_reverse.mp (mem_of_lookup found)),
    fun found => lookup_eq_some_of_mem nodup' (List.mem_reverse.mpr (mem_of_lookup found))⟩

end Lookup

section Maps

open Std

variable {α β : Type} {cmp : α → α → Ordering} [TransCmp cmp]

/-- The values of a map are those of its entries. -/
theorem values_eq_map_toList (map : ExtTreeMap α β cmp) :
    map.values = map.toList.map (·.2) := by
  have folded : map.values = map.foldr (fun _ value values => value :: values) [] := by
    rcases map with ⟨inner⟩
    induction inner using ExtDTreeMap.inductionOn with
    | mk inner => rfl
  rw [folded, ExtTreeMap.foldr_eq_foldr_toList]
  simp

/-- What a map of lists holds at a key is among all that it holds. -/
theorem mem_flatten_values [LawfulEqCmp cmp] {γ : Type} {map : ExtTreeMap α (List γ) cmp}
    {key : α} {item : γ} (held : item ∈ map.getD key []) : item ∈ map.values.flatten := by
  rw [ExtTreeMap.getD_eq_getD_getElem?] at held
  cases known : map[key]? with
  | none => simp [known] at held
  | some items =>
    rw [known, Option.getD_some] at held
    rw [values_eq_map_toList]
    have entry := ExtTreeMap.mem_toList_iff_getElem?_eq_some.mpr known
    exact List.mem_flatten.mpr ⟨items, List.mem_map.mpr ⟨(key, items), entry, rfl⟩, held⟩

/-- A map lists no key twice. -/
theorem nodup_keys_toList [LawfulEqCmp cmp] (map : ExtTreeMap α β cmp) :
    (map.toList.map (·.1)).Nodup := by
  rw [ExtTreeMap.map_fst_toList_eq_keys]
  exact ExtTreeMap.nodup_keys

/-- A map with entries added one after the other: of those with one key the last one counts. -/
theorem getElem?_insertMany [LawfulEqCmp cmp] [DecidableEq α] (map : ExtTreeMap α β cmp)
    (list : List (α × β)) (key : α) :
    (map.insertMany list)[key]? = (list.reverse.lookup key).or map[key]? := by
  induction list generalizing map with
  | nil => simp
  | cons entry list ih =>
    rw [ExtTreeMap.insertMany_cons, ih, List.reverse_cons, List.lookup_append, Option.or_assoc,
      ExtTreeMap.getElem?_insert, lookup_cons]
    by_cases same : key = entry.1
    · simp [same]
    · simp [same, LawfulEqCmp.compare_eq_iff_eq, Ne.symm same]

/-- The entries of a map are looked up as the map is. -/
theorem lookup_toList [LawfulEqCmp cmp] [DecidableEq α] (map : ExtTreeMap α β cmp) (key : α) :
    map.toList.lookup key = map[key]? := by
  ext value
  rw [← ExtTreeMap.mem_toList_iff_getElem?_eq_some]
  exact ⟨mem_of_lookup, lookup_eq_some_of_mem (nodup_keys_toList map)⟩

/-- A map with all entries of another one holds those, and its own under the other keys. -/
theorem getElem?_insertMany_toList [LawfulEqCmp cmp] (own other : ExtTreeMap α β cmp) (key : α) :
    (own.insertMany other.toList)[key]? = (other[key]?).or own[key]? := by
  classical
  rw [getElem?_insertMany, lookup_reverse (nodup_keys_toList other), lookup_toList]

/-- What is ordered by comparing texts comes in the order of these texts. -/
theorem pairwise_lt_of_compare {items : List α} {key : α → String}
    (ordered : items.Pairwise fun first second => compare (key first) (key second) = .lt) :
    items.Pairwise fun first second => key first < key second := by
  refine List.Pairwise.imp ?_ ordered
  intro first second less
  exact compareOfLessAndEq_eq_lt.mp less

/-- The entries of a map make up the map. -/
theorem ofList_toList [LawfulEqCmp cmp] (map : ExtTreeMap α β cmp) :
    ExtTreeMap.ofList map.toList cmp = map := by
  ext key value
  rw [ExtTreeMap.ofList_eq_insertMany_empty, getElem?_insertMany_toList]
  simp

end Maps

section Lists

variable {α : Type} [BEq α] [LawfulBEq α]

/-- An element at the end counts only if it is new. -/
theorem eraseDups_concat (list : List α) (a : α) :
    (list ++ [a]).eraseDups =
      if a ∈ list then list.eraseDups else list.eraseDups ++ [a] := by
  rw [List.eraseDups_append]
  by_cases known : a ∈ list <;> simp [List.removeAll, List.eraseDups_cons, known]

/-- What is left without repetitions is in the order of the first occurrences. -/
theorem pairwise_idxOf_eraseDups (list : List α) :
    list.eraseDups.Pairwise fun first second => list.idxOf first < list.idxOf second := by
  induction list using List.reverseRecOn with
  | nil => exact .nil
  | append_singleton list a ih =>
    have placeEq : ∀ b ∈ list.eraseDups, (list ++ [a]).idxOf b = list.idxOf b := by
      intro b kept
      rw [List.idxOf_append, if_pos (List.mem_eraseDups.mp kept)]
    have early : list.eraseDups.Pairwise fun first second =>
        (list ++ [a]).idxOf first < (list ++ [a]).idxOf second := by
      refine ih.imp_of_mem ?_
      intro first second firstKept secondKept before
      rwa [placeEq first firstKept, placeEq second secondKept]
    rw [eraseDups_concat]
    split
    · exact early
    · next new =>
      refine List.pairwise_append.mpr ⟨early, List.pairwise_singleton .., ?_⟩
      intro first firstKept second isLast
      obtain rfl := List.mem_singleton.mp isLast
      rw [placeEq first firstKept, List.idxOf_append, if_neg new]
      have within := List.idxOf_lt_length_iff.mpr (List.mem_eraseDups.mp firstKept)
      omega

/-- Without repetitions, every element stands once. -/
theorem nodup_eraseDups (list : List α) : list.eraseDups.Nodup := by
  refine (pairwise_idxOf_eraseDups list).imp ?_
  rintro first _ before rfl
  exact Nat.lt_irrefl _ before

/-- A list without repetitions is left as it is. -/
theorem eraseDups_eq_self {list : List α} (nodup : list.Nodup) : list.eraseDups = list := by
  induction list with
  | nil => rfl
  | cons a list ih =>
    obtain ⟨fresh, rest⟩ := List.nodup_cons.mp nodup
    have others : list.filter (fun b => !b == a) = list := by
      refine List.filter_eq_self.mpr fun b member => ?_
      have differs : b ≠ a := fun same => fresh (same ▸ member)
      simpa using differs
    rw [List.eraseDups_cons, others, ih rest]

/-- A list loses nothing just if it has no repetitions. -/
theorem length_eraseDups_eq_iff {list : List α} :
    list.eraseDups.length = list.length ↔ list.Nodup := by
  constructor
  · intro lengthEq
    have within : list.eraseDups.Subperm list :=
      List.subperm_of_subset (nodup_eraseDups list) fun _ => List.mem_eraseDups.mp
    exact (within.perm_of_length_le (Nat.le_of_eq lengthEq.symm)).nodup_iff.mp (nodup_eraseDups list)
  · intro nodup
    rw [eraseDups_eq_self nodup]

end Lists

section Sorted

variable {first second : List String}

/-- Sorted texts come in order. -/
theorem pairwise_le_mergeSort (list : List String) :
    (list.mergeSort (fun a b => a ≤ b)).Pairwise (· ≤ ·) := by
  have transitive : ∀ a b c : String,
      decide (a ≤ b) = true → decide (b ≤ c) = true → decide (a ≤ c) = true := by
    intro a b c below above
    exact decide_eq_true (String.le_trans (of_decide_eq_true below) (of_decide_eq_true above))
  have total : ∀ a b : String, (decide (a ≤ b) || decide (b ≤ a)) = true := by
    intro a b
    simpa using String.le_total a b
  refine (List.pairwise_mergeSort transitive total list).imp ?_
  intro a b below
  exact of_decide_eq_true below

/-- Texts are sorted alike, whatever order they come in. -/
theorem mergeSort_eq_of_perm (perm : first.Perm second) :
    first.mergeSort (fun a b => a ≤ b) = second.mergeSort (fun a b => a ≤ b) := by
  have sorted : (first.mergeSort (fun a b => a ≤ b)).Perm
      (second.mergeSort (fun a b => a ≤ b)) :=
    (List.mergeSort_perm first _).trans (perm.trans (List.mergeSort_perm second _).symm)
  refine sorted.eq_of_pairwise ?_ (pairwise_le_mergeSort first) (pairwise_le_mergeSort second)
  intro a b _ _ below above
  exact String.le_antisymm below above

/-- Different texts are sorted in strictly increasing order. -/
theorem pairwise_lt_mergeSort {list : List String} (nodup : list.Nodup) :
    (list.mergeSort (fun a b => a ≤ b)).Pairwise (· < ·) := by
  have apart : (list.mergeSort (fun a b => a ≤ b)).Nodup :=
    (List.mergeSort_perm list _).nodup_iff.mpr nodup
  refine ((pairwise_le_mergeSort list).and apart).imp ?_
  rintro a b ⟨below, differs⟩
  exact String.not_le.mp fun above => differs (String.le_antisymm below above)

end Sorted

end ScriptLoader.Collection
