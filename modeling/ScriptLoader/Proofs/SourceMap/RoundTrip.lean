import ScriptLoader.Proofs.SourceMap.Reading

/-!
# Source maps written and read again

A source map keeps the known fields apart from the others, and both end up in one object. No name
stands in both (`IsSettled`), so under a known name the object has the field and under any other
name what the map keeps (`getElem?_written`). From this follow both directions: the object writes
the map again (`IsSettled.writes_written`), and after a compilation it is the object that was read,
with the fields rewritten that `rewritten` names (`written_attach`).
-/

namespace ScriptLoader.SourceMap

open Json (membersOf canonicalMembers)

/-- The members of the object that a source map is written as. -/
def written (map : SourceMap) : Json.Members :=
  map.extra.insertMany map.fields

/-- What is read from an object: the version fits, and the other fields are no known ones and are
in canonical form. -/
structure IsSettled (map : SourceMap) : Prop where
  fits : map.version < 0x100000000
  other : ∀ name, isOther name = false → map.extra[name]? = none
  canonical : ∀ (name : String) (value : Json),
    map.extra[name]? = some value → value.canonical = value

section Fields

variable {map : SourceMap} {name : String}

/-- The fields of a map are known ones, in their order. -/
theorem keys_fields_sublist (map : SourceMap) :
    (map.fields.map (·.1)).Sublist knownFields := by
  obtain ⟨version, file, sourceRoot, sources, sourcesContent, names, mappings, extra⟩ := map
  cases file <;> cases sourceRoot <;> simp [fields, knownFields]

/-- No field of a map has the name of another one. -/
theorem lookup_fields_of_isOther (other : isOther name = true) : map.fields.lookup name = none := by
  refine List.lookup_eq_none_iff.mpr fun entry member => bne_iff_ne.mpr ?_
  rintro rfl
  have known : entry.1 ∈ knownFields :=
    (keys_fields_sublist map).subset (List.mem_map_of_mem member)
  simp [isOther, known] at other

/-- The fields of a map, one by one. -/
theorem lookup_fields (map : SourceMap) :
    map.fields.lookup "version" = some (.ofNat map.version) ∧
    map.fields.lookup "file" = map.file.map .string ∧
    map.fields.lookup "sourceRoot" = map.sourceRoot.map .string ∧
    map.fields.lookup "sources" = some (.ofTexts map.sources) ∧
    map.fields.lookup "sourcesContent" = some (.ofTexts map.sourcesContent) ∧
    map.fields.lookup "names" = some (.ofTexts map.names) ∧
    map.fields.lookup "mappings" = some (.string map.mappings) := by
  obtain ⟨version, file, sourceRoot, sources, sourcesContent, names, mappings, extra⟩ := map
  cases file <;> cases sourceRoot <;> simp [fields, Collection.lookup_cons]

/-- Under a known name stands a field of the map, under any other name what the map keeps. -/
theorem getElem?_written (settled : map.IsSettled) (name : String) :
    map.written[name]? = if isOther name then map.extra[name]? else map.fields.lookup name := by
  have nodup : (map.fields.map (·.1)).Nodup :=
    (keys_fields_sublist map).nodup (by decide)
  rw [written, Collection.getElem?_insertMany, Collection.lookup_reverse nodup]
  split
  · next other => rw [lookup_fields_of_isOther other, Option.none_or]
  · next known => rw [settled.other name (by simpa using known), Option.or_none]

end Fields

section Canonical

variable {members : List (String × Json)} {map : SourceMap} {name : String}

/-- The other members of an object in canonical form are those under names that are not known. -/
theorem getElem?_others (members : List (String × Json)) (name : String) :
    (membersOf (canonicalMembers (members.filter fun member => isOther member.1)))[name]? =
      if isOther name then (membersOf (canonicalMembers members))[name]? else none := by
  rw [Json.getElem?_membersOf_canonicalMembers, Json.getElem?_membersOf_canonicalMembers,
    ← List.filter_reverse, Collection.lookup_filter_key, apply_ite (Option.map Json.canonical),
    Option.map_none]

/-- A known field is written once, so that the last member with its name also is the first. -/
theorem Writes.lookup_canonical (writes : Writes members map) (known : isOther name = false) :
    (membersOf (canonicalMembers members)).toList.lookup name =
      (members.lookup name).map Json.canonical := by
  have isKnown : knownFields.contains name = true := by simpa [isOther] using known
  have nodup : ((members.filter fun member => knownFields.contains member.1).map (·.1)).Nodup := by
    simpa only [List.filter_map, Function.comp_def] using writes.once
  have sameLookup := Collection.lookup_reverse nodup name
  rw [← List.filter_reverse, Collection.lookup_filter_key, Collection.lookup_filter_key,
    if_pos isKnown, if_pos isKnown] at sameLookup
  rw [Collection.lookup_toList, Json.getElem?_membersOf_canonicalMembers, sameLookup]

/-- The values of an object in canonical form are in canonical form. -/
theorem canonical_of_getElem? {value : Json}
    (held : (membersOf (canonicalMembers members))[name]? = some value) :
    value.canonical = value := by
  obtain ⟨member, -, rfl⟩ := Json.exists_of_getElem?_canonical held
  exact member.2.canonical_canonical

/-- A text that may be left out is read from the canonical form as from the object. -/
theorem Writes.present_canonical (writes : Writes members map) (known : isOther name = false)
    {text : Option String} (read : Json.present (members.lookup name) = text.map .string) :
    Json.present ((membersOf (canonicalMembers members)).toList.lookup name) =
      text.map .string := by
  rw [writes.lookup_canonical known, Json.present_map_canonical, read, Option.map_map]
  rfl

/-- A field with a default is read from the canonical form as from the object. -/
theorem Writes.getD_canonical (writes : Writes members map) (known : isOther name = false)
    {default value : Json} (read : (members.lookup name).getD default = value)
    (defaultEq : default.canonical = default) (valueEq : value.canonical = value) :
    ((membersOf (canonicalMembers members)).toList.lookup name).getD default = value := by
  rw [writes.lookup_canonical known, ← defaultEq, Option.getD_map, read, valueEq]

/-- An object in canonical form writes the same source map. -/
theorem Writes.canonical (writes : Writes members map) :
    Writes (membersOf (canonicalMembers members)).toList map where
  once := (Collection.nodup_keys_toList _).filter _
  version := by
    rw [writes.lookup_canonical (by decide), writes.version]
    rfl
  fits := writes.fits
  file := writes.present_canonical (by decide) writes.file
  sourceRoot := writes.present_canonical (by decide) writes.sourceRoot
  sources := writes.getD_canonical (by decide) writes.sources (by simp) (by simp)
  sourcesContent := writes.getD_canonical (by decide) writes.sourcesContent (by simp) (by simp)
  names := writes.getD_canonical (by decide) writes.names (by simp) (by simp)
  mappings := writes.getD_canonical (by decide) writes.mappings rfl rfl
  extra := by
    refine Std.ExtTreeMap.ext_getElem? fun name => ?_
    rw [writes.extra, getElem?_others, getElem?_others,
      Json.canonical_toList fun _ _ => canonical_of_getElem?]

/-- What an object writes is settled. -/
theorem Writes.settled (writes : Writes members map) : map.IsSettled := by
  refine ⟨writes.fits, fun name known => ?_, fun name value held => ?_⟩
  · rw [writes.extra, getElem?_others, known]
    rfl
  · rw [writes.extra] at held
    exact canonical_of_getElem? held

/-- Under a known name, the object of a settled map has the field of the map. -/
theorem IsSettled.lookup_written (settled : map.IsSettled) (known : isOther name = false) :
    map.written.toList.lookup name = map.fields.lookup name := by
  rw [Collection.lookup_toList, getElem?_written settled, known]
  rfl

/-- A settled source map is written as an object that writes it. -/
theorem IsSettled.writes_written (settled : map.IsSettled) : Writes map.written.toList map := by
  obtain ⟨version, file, sourceRoot, sources, sourcesContent, names, mappings⟩ := lookup_fields map
  exact {
    once := (Collection.nodup_keys_toList map.written).filter _
    version := by rw [settled.lookup_written (by decide), version]
    fits := settled.fits
    file := by rw [settled.lookup_written (by decide), file, Json.present_map_string]
    sourceRoot := by rw [settled.lookup_written (by decide), sourceRoot, Json.present_map_string]
    sources := by rw [settled.lookup_written (by decide), sources, Option.getD_some]
    sourcesContent := by
      rw [settled.lookup_written (by decide), sourcesContent, Option.getD_some]
    names := by rw [settled.lookup_written (by decide), names, Option.getD_some]
    mappings := by rw [settled.lookup_written (by decide), mappings, Option.getD_some]
    extra := by
      refine Std.ExtTreeMap.ext_getElem? fun name => ?_
      rw [getElem?_others, Json.getElem?_canonical_toList, getElem?_written settled]
      cases kind : isOther name with
      | true =>
        cases held : map.extra[name]? with
        | none => rfl
        | some value => simp [settled.canonical name value held]
      | false => exact settled.other name kind }

/-- A settled map is read back from the value that it is written as. -/
theorem ofJson?_toJson (settled : map.IsSettled) : ofJson? map.toJson = some map :=
  ofMembers?_eq_some_iff.mpr settled.writes_written

end Canonical

section Rewriting

variable {map : SourceMap}

/-- An object without a field that is `null`. -/
def dropNull (members : Json.Members) (name : String) : Json.Members :=
  match members[name]? with
  | some .null => members.erase name
  | _ => members

/-- The object of a source map after a compilation: what was compiled, under which path and with
what content stands in place of what was there, a missing list of names or of mappings is filled
in, and a root that is `null` is left out. -/
def rewritten (members : Json.Members) (request path content : String) : Json.Members :=
  let filled := (members.insertIfNew "names" (.ofTexts [])).insertIfNew "mappings" (.string "")
  (((dropNull filled "sourceRoot").insert "sources" (.ofTexts [request])).insert "file"
    (.string path)).insert "sourcesContent" (.ofTexts [content])

section Lookup

variable (members : Json.Members) (name : String)

/-- A field that is inserted is there, and the others stay. -/
theorem getElem?_insert_name (key : String) (value : Json) :
    (members.insert key value)[name]? = if name = key then some value else members[name]? := by
  simp only [Std.ExtTreeMap.getElem?_insert, Std.LawfulEqCmp.compare_eq_iff_eq, @eq_comm _ key]

/-- A field that is inserted if it is new is there, with its old value if it had one, and the others
stay. -/
theorem getElem?_insertIfNew_name (key : String) (value : Json) :
    (members.insertIfNew key value)[name]? =
      if name = key then some (members[name]?.getD value) else members[name]? := by
  simp only [Std.ExtTreeMap.getElem?_insertIfNew, Std.LawfulEqCmp.compare_eq_iff_eq,
    Std.ExtTreeMap.mem_iff_isSome_getElem?]
  by_cases same : name = key
  · subst same
    cases members[name]? <;> simp
  · simp [same, Ne.symm same]

/-- A field that is dropped if it is `null` is absent then, and the others stay. -/
theorem getElem?_dropNull (dropped : String) :
    (dropNull members dropped)[name]? =
      if name = dropped then Json.present members[name]? else members[name]? := by
  unfold dropNull
  split
  · next isNull =>
    simp only [Std.ExtTreeMap.getElem?_erase, Std.LawfulEqCmp.compare_eq_iff_eq]
    by_cases same : name = dropped
    · simp [same, isNull, Json.present]
    · simp [same, Ne.symm same]
  · next other =>
    split
    · next same =>
      subst same
      unfold Json.present
      split
      · next isNull => exact absurd isNull other
      · rfl
    · rfl

/-- What a field is after a compilation. -/
theorem getElem?_rewritten (request path content : String) :
    (rewritten members request path content)[name]? =
      if name = "sourcesContent" then some (.ofTexts [content])
      else if name = "file" then some (.string path)
      else if name = "sources" then some (.ofTexts [request])
      else if name = "sourceRoot" then Json.present members[name]?
      else if name = "mappings" then some (members[name]?.getD (.string ""))
      else if name = "names" then some (members[name]?.getD (.ofTexts []))
      else members[name]? := by
  simp only [rewritten, getElem?_insert_name, getElem?_dropNull, getElem?_insertIfNew_name]
  by_cases root : name = "sourceRoot"
  · simp [root]
  · simp only [root, if_false]
    by_cases mappings : name = "mappings" <;> simp [mappings]

end Lookup

/-- The known fields, one by one. -/
theorem isOther_eq_false_iff {name : String} : isOther name = false ↔
    name = "version" ∨ name = "file" ∨ name = "sourceRoot" ∨ name = "sources" ∨
      name = "sourcesContent" ∨ name = "names" ∨ name = "mappings" := by
  rw [isOther, Bool.not_eq_false', List.contains_iff_mem]
  simp [knownFields]

/-- Attaching a map to a file keeps it settled. -/
theorem IsSettled.attach (settled : map.IsSettled) (request path content : String) :
    (map.attach request path content).IsSettled :=
  ⟨settled.fits, settled.other, settled.canonical⟩

/-- The object of an object in canonical form, with the source map that it writes, after a
compilation. -/
theorem written_attach {members : Json.Members} (writes : Writes members.toList map)
    (settled : ∀ (name : String) (value : Json),
      members[name]? = some value → value.canonical = value) (request path content : String) :
    (map.attach request path content).written = rewritten members request path content := by
  refine Std.ExtTreeMap.ext_getElem? fun name => ?_
  rw [getElem?_written (writes.settled.attach request path content), getElem?_rewritten]
  cases kind : isOther name with
  | true =>
    have unknown : ¬ isOther name = false := by simp [kind]
    simp only [isOther_eq_false_iff, not_or] at unknown
    simp only [unknown, if_false, if_true]
    rw [attach, writes.extra, getElem?_others, if_pos kind, Json.canonical_toList settled]
  | false =>
    obtain ⟨version, file, sourceRoot, sources, sourcesContent, names, mappings⟩ :=
      lookup_fields (map.attach request path content)
    simp only [← Collection.lookup_toList, Bool.false_eq_true, if_false]
    rcases isOther_eq_false_iff.mp kind with rfl | rfl | rfl | rfl | rfl | rfl | rfl
    · rw [version, writes.version]
      rfl
    · rw [file]
      rfl
    · rw [sourceRoot, writes.sourceRoot]
      rfl
    · rw [sources]
      rfl
    · rw [sourcesContent]
      rfl
    · rw [names, writes.names]
      rfl
    · rw [mappings, writes.mappings]
      rfl

/-- A text that is accepted as a source map holds an object. The source map of a compilation is
written as that object with some fields rewritten, and it is read back from what it is written as,
whatever text that is read from. -/
theorem make_rewrites_object {text : String} {read : SourceMap} (accepted : ofText text = .ok read)
    (output path content request : String) :
    ∃ members map, Json.Strict.parse? greatestDepth text = some (.object members) ∧
      make (some text) output path content request = .ok (strip output, some map) ∧
      map.toJson =
        .ofMembers (rewritten (membersOf (canonicalMembers members)) request path content) ∧
      ofJson? map.toJson = some map ∧
      ∀ again, Json.Strict.parse? greatestDepth again = some map.toJson → ofText again = .ok map := by
  obtain ⟨members, parsed, writes⟩ := ofText_eq_ok_iff.mp accepted
  have settled := writes.settled.attach request path content
  have rewrites := written_attach writes.canonical (fun _ _ => canonical_of_getElem?) request path
    content
  refine ⟨members, read.attach request path content, parsed, make_of_accepted accepted, ?_,
    ofJson?_toJson settled, ?_⟩
  · exact congrArg Json.ofMembers rewrites
  · intro again written
    exact ofText_eq_ok_iff.mpr ⟨_, written, settled.writes_written⟩

/-- A source map in which a field of another tool is written twice, the root is `null` and there
are neither names nor mappings. -/
def sparseText : String :=
  "\x7b\"x_tool\":1,\"sourceRoot\":null,\"version\":3,\"file\":\"a.js\",\"x_tool\":\x7b\"b\":[],\"a\":2\x7d\x7d"

/-- Of the field that is written twice the last value is kept, and what is missing is filled in. -/
theorem make_rewrites_sparse_object :
    ∃ read, ofText sparseText = .ok read ∧
      ∃ members map, Json.Strict.parse? greatestDepth sparseText = some (.object members) ∧
        make (some sparseText) "var a;" "/a.ts" "let a" "./a.ts" =
          .ok (strip "var a;", some map) ∧
        map.toJson =
          .ofMembers (rewritten (membersOf (canonicalMembers members)) "./a.ts" "/a.ts" "let a") ∧
        ofJson? map.toJson = some map ∧
        ∀ again, Json.Strict.parse? greatestDepth again = some map.toJson →
          ofText again = .ok map := by
  have reads : (ofText sparseText).toOption.map (·.version) = some 3 := by decide +kernel
  obtain ⟨read, accepted, -⟩ := exists_ok_of_map_toOption reads
  exact ⟨read, accepted, make_rewrites_object accepted "var a;" "/a.ts" "let a" "./a.ts"⟩

example : ((make (some sparseText) "" "/a.ts" "let a" "./a.ts").toOption.bind (·.2)).map
    (·.toJson.compact) = some ("\x7b\"file\":\"/a.ts\",\"mappings\":\"\",\"names\":[]," ++
      "\"sources\":[\"./a.ts\"],\"sourcesContent\":[\"let a\"],\"version\":3," ++
      "\"x_tool\":\x7b\"a\":2,\"b\":[]\x7d\x7d") := by
  decide +kernel

end Rewriting

end ScriptLoader.SourceMap
