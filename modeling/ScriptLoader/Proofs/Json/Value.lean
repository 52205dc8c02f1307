import ScriptLoader.Json.Basic
import ScriptLoader.Proofs.Collection

/-!
# Reading values, and their canonical form

What can be read from a value determines the value, so each reader has one equivalence. Values are
nested; `induction` passes from the items of an array and the members of an object to the whole.
-/

namespace ScriptLoader.Json

/-- What holds of an array as soon as of its items, and of an object as soon as of what its
members are, holds of every value. -/
@[elab_as_elim]
theorem induction {motive : Json → Prop} (null : motive .null)
    (bool : ∀ truth, motive (.bool truth)) (number : ∀ value, motive (.number value))
    (string : ∀ text, motive (.string text))
    (array : ∀ items, (∀ item ∈ items, motive item) → motive (.array items))
    (object : ∀ members, (∀ member ∈ members, motive member.2) → motive (.object members)) :
    ∀ value, motive value
  | .null => null
  | .bool truth => bool truth
  | .number value => number value
  | .string text => string text
  | .array items => array items fun item _ =>
      induction null bool number string array object item
  | .object members => object members fun member _ =>
      induction null bool number string array object member.2
decreasing_by
  · decreasing_tactic
  · have among : sizeOf member < sizeOf members := List.sizeOf_lt_of_mem ‹member ∈ members›
    have within : sizeOf member = 1 + sizeOf member.1 + sizeOf member.2 := rfl
    simp only [Json.object.sizeOf_spec]
    omega

section Readers

variable {value : Json}

/-- A value is read as a word if it is a whole number below 2^32. -/
theorem word?_eq_some_iff {word : Nat} :
    word? value = some word ↔ value = .ofNat word ∧ word < 0x100000000 := by
  unfold word?
  split
  · next written =>
    rw [Option.ite_none_right_eq_some, Option.some.injEq, ofNat, number.injEq,
      Number.natural.injEq]
    constructor
    · rintro ⟨fits, rfl⟩
      exact ⟨rfl, fits⟩
    · rintro ⟨rfl, fits⟩
      exact ⟨fits, rfl⟩
  · next other =>
    refine iff_of_false (by simp) ?_
    rintro ⟨rfl, -⟩
    exact other _ rfl

/-- A value is read as a text if it is a string. -/
theorem text?_eq_some_iff {text : String} : text? value = some text ↔ value = .string text := by
  cases value <;> simp [text?]

/-- A list is read as texts if all its items are strings. -/
theorem mapM_text?_eq_some_iff {items : List Json} {texts : List String} :
    items.mapM text? = some texts ↔ items = texts.map .string := by
  induction items generalizing texts with
  | nil => cases texts <;> simp
  | cons item items ih =>
    cases texts <;> simp [Option.bind_eq_some_iff, text?_eq_some_iff, ih]

/-- A field that is left out, or `null`, counts as absent. -/
def present : Option Json → Option Json
  | some .null => none
  | written => written

/-- A text that may be left out is read as absent if it is left out or `null`. -/
theorem optional?_text?_eq_some_iff {written : Option Json} {text : Option String} :
    optional? text? written = some text ↔ present written = text.map .string := by
  rcases written with _ | value
  · cases text <;> simp [optional?, present]
  · cases value <;> cases text <;> simp [optional?, present, text?]

@[simp] theorem present_map_string (text : Option String) :
    present (text.map .string) = text.map .string := by
  cases text <;> rfl

end Readers

section Canonical

/-- The canonical items are the items in canonical form. -/
theorem canonicalItems_eq_map (items : List Json) : canonicalItems items = items.map canonical := by
  induction items with
  | nil => rfl
  | cons item items ih => rw [canonicalItems, ih, List.map_cons]

/-- The canonical members have the keys of the members and their values in canonical form. -/
theorem canonicalMembers_eq_map (members : List (String × Json)) :
    canonicalMembers members = members.map fun member => (member.1, canonical member.2) := by
  induction members with
  | nil => rfl
  | cons member members ih => rw [canonicalMembers, ih, List.map_cons]

/-- Of members with one key the last one counts. -/
theorem getElem?_membersOf (written : List (String × Json)) (key : String) :
    (membersOf written)[key]? = written.reverse.lookup key := by
  rw [membersOf, Std.ExtTreeMap.ofList_eq_insertMany_empty, Collection.getElem?_insertMany]
  simp

/-- Of canonical members with one key the last one counts. -/
theorem getElem?_membersOf_canonicalMembers (members : List (String × Json)) (key : String) :
    (membersOf (canonicalMembers members))[key]? = (members.reverse.lookup key).map canonical := by
  rw [getElem?_membersOf, canonicalMembers_eq_map, ← List.map_reverse,
    Collection.lookup_map_value]

/-- In an object that is kept as a map each key stands once. -/
theorem getElem?_canonical_toList (members : Members) (key : String) :
    (membersOf (canonicalMembers members.toList))[key]? = (members[key]?).map canonical := by
  rw [getElem?_membersOf_canonicalMembers,
    Collection.lookup_reverse (Collection.nodup_keys_toList members), Collection.lookup_toList]

/-- Members with canonical values are left as they are. -/
theorem canonical_toList {members : Members}
    (settled : ∀ (key : String) (value : Json),
      members[key]? = some value → value.canonical = value) :
    membersOf (canonicalMembers members.toList) = members := by
  refine Std.ExtTreeMap.ext_getElem? fun key => ?_
  rw [getElem?_canonical_toList]
  cases held : members[key]? with
  | none => rfl
  | some value => rw [Option.map_some, settled key value held]

/-- The canonical form has the canonical form of each value. -/
theorem exists_of_getElem?_canonical {members : List (String × Json)} {key : String}
    {value : Json} (held : (membersOf (canonicalMembers members))[key]? = some value) :
    ∃ member ∈ members, value = member.2.canonical := by
  rw [getElem?_membersOf_canonicalMembers, Option.map_eq_some_iff] at held
  obtain ⟨written, found, rfl⟩ := held
  exact ⟨(key, written), List.mem_reverse.mp (Collection.mem_of_lookup found), rfl⟩

/-- The canonical form is its own canonical form. -/
theorem canonical_canonical (value : Json) : value.canonical.canonical = value.canonical := by
  induction value using induction with
  | array items ih =>
    simp only [canonical, canonicalItems_eq_map, List.map_map]
    exact congrArg array (List.map_congr_left fun item among => ih item among)
  | object members ih =>
    simp only [canonical, ofMembers]
    rw [canonical_toList]
    intro key value held
    obtain ⟨member, among, rfl⟩ := exists_of_getElem?_canonical held
    exact ih member among
  | _ => rfl

@[simp] theorem canonical_ofTexts (texts : List String) :
    (ofTexts texts).canonical = .ofTexts texts := by
  simp [ofTexts, canonical, canonicalItems_eq_map]

/-- Whether a field is absent can be told in canonical form. -/
theorem present_map_canonical (written : Option Json) :
    present (written.map canonical) = (present written).map canonical := by
  rcases written with _ | _ | _ | _ | _ | _ | _ <;> rfl

end Canonical

end ScriptLoader.Json
