import ScriptLoader.Proofs.Json.Value
import ScriptLoader.Proofs.Outcome
import ScriptLoader.SourceMap

/-!
# Reading source maps

`Writes` says which source map an object writes, field by field. An output is made with a source
map if the text of the map is accepted, without one if there is no text, and not at all if the text
is refused.
-/

namespace ScriptLoader.SourceMap

/-- Whether a field is none of the known ones. -/
def isOther (name : String) : Bool :=
  !knownFields.contains name

/-- An object writes a source map. -/
structure Writes (members : List (String × Json)) (map : SourceMap) : Prop where
  /-- No known field is written twice. -/
  once : ((members.map (·.1)).filter knownFields.contains).Nodup
  version : members.lookup "version" = some (.ofNat map.version)
  fits : map.version < 0x100000000
  file : Json.present (members.lookup "file") = map.file.map .string
  sourceRoot : Json.present (members.lookup "sourceRoot") = map.sourceRoot.map .string
  sources : (members.lookup "sources").getD (.ofTexts []) = .ofTexts map.sources
  sourcesContent :
    (members.lookup "sourcesContent").getD (.ofTexts []) = .ofTexts map.sourcesContent
  names : (members.lookup "names").getD (.ofTexts []) = .ofTexts map.names
  mappings : (members.lookup "mappings").getD (.string "") = .string map.mappings
  extra : map.extra =
    Json.membersOf (Json.canonicalMembers (members.filter fun member => isOther member.1))

section Reading

variable {members : List (String × Json)} {map : SourceMap}

/-- A list of texts is read from the array of these texts. -/
theorem texts?_eq_some_iff {value : Json} {texts : List String} :
    texts? value = some texts ↔ value = .ofTexts texts := by
  cases value <;> simp [texts?, Json.ofTexts, Json.mapM_text?_eq_some_iff]

/-- A field that is left out is read as one that writes the default. -/
theorem field?_eq_some_iff {α : Type} {name : String} {default result : α}
    {read? : Json → Option α} {write : α → Json}
    (reads : ∀ value result, read? value = some result ↔ value = write result) :
    field? members name default read? = some result ↔
      (members.lookup name).getD (write default) = write result := by
  unfold field?
  split
  · next absent =>
    have readDefault : read? (write default) = some default := (reads _ _).mpr rfl
    rw [absent, Option.getD_none, ← reads, readDefault]
  · next value written => rw [written, Option.getD_some, reads]

/-- Members are read as the source map that they write, and as no other. -/
theorem ofMembers?_eq_some_iff : ofMembers? members = some map ↔ Writes members map := by
  have textsOf (value : Json) (texts : List String) :
      texts? value = some texts ↔ value = .ofTexts texts := texts?_eq_some_iff
  have textOf (value : Json) (text : String) :
      value.text? = some text ↔ value = .string text := Json.text?_eq_some_iff
  unfold ofMembers?
  simp only [Collection.length_eraseDups_eq_iff, Option.bind_eq_bind, Option.ite_none_right_eq_some,
    Option.bind_eq_some_iff, Json.word?_eq_some_iff, Json.optional?_text?_eq_some_iff,
    field?_eq_some_iff textsOf, field?_eq_some_iff textOf]
  constructor
  · rintro ⟨once, _, version, _, ⟨rfl, fits⟩, _, file, _, sourceRoot, _, sources, _,
      sourcesContent, _, names, _, mappings, made⟩
    obtain rfl := Option.some.inj made
    exact ⟨once, version, fits, file, sourceRoot, sources, sourcesContent, names, mappings, rfl⟩
  · rintro ⟨once, version, fits, file, sourceRoot, sources, sourcesContent, names, mappings, extra⟩
    refine ⟨once, _, version, _, ⟨rfl, fits⟩, _, file, _, sourceRoot, _, sources, _,
      sourcesContent, _, names, _, mappings, ?_⟩
    exact congrArg (fun extra => some { map with extra }) extra.symm

end Reading

section Text

variable {text : String} {map : SourceMap}

/-- A text is taken for a source map just if the object that it holds writes one. -/
theorem ofText_eq_ok_iff : ofText text = .ok map ↔ ∃ members,
    Json.Strict.parse? greatestDepth text = some (.object members) ∧ Writes members map := by
  have readIff : ofText text = .ok map ↔
      (Json.Strict.parse? greatestDepth text).bind ofJson? = some map := by
    unfold ofText
    split
    · next read => rw [read, Except.ok.injEq, Option.some.injEq]
    · next unread => rw [unread]; simp
  rw [readIff, Option.bind_eq_some_iff]
  constructor
  · rintro ⟨value, parsed, read⟩
    cases value with
    | object members => exact ⟨members, parsed, ofMembers?_eq_some_iff.mp read⟩
    | _ => cases read
  · rintro ⟨members, parsed, writes⟩
    exact ⟨.object members, parsed, ofMembers?_eq_some_iff.mpr writes⟩

/-- The empty text holds no source map. -/
theorem ne_empty_of_ofText (accepted : ofText text = .ok map) : text ≠ "" := by
  rintro rfl
  obtain ⟨_, parsed, -⟩ := ofText_eq_ok_iff.mp accepted
  cases parsed

/-- A text that is no source map is refused as malformed. -/
theorem exists_serialization_of_ofText {cause : LoaderError} (refused : ofText text = .error cause) :
    ∃ detail, cause = .serialization detail := by
  unfold ofText at refused
  split at refused
  · cases refused
  · exact ⟨_, (Except.error.inj refused).symm⟩

end Text

section Make

variable {text output path content request : String} {map : SourceMap}

/-- Without the text of a map, the output is left as it is and there is no map. -/
theorem make_of_absent {mapText : Option String} (absent : mapText = none ∨ mapText = some "") :
    make mapText output path content request = .ok (output, none) := by
  rcases absent with rfl | rfl <;> rfl

/-- With the text of a map, the output is stripped and the map is attached to the file, if it can be
read. -/
theorem make_of_nonempty (nonempty : text ≠ "") :
    make (some text) output path content request =
      (fun map => (strip output, some (map.attach request path content))) <$> ofText text := by
  have kept : (some text).filter (fun text => decide (text ≠ "")) = some text :=
    Option.filter_some_pos (by simpa using nonempty)
  rw [make, kept]
  rfl

/-- A map that can be read is attached to the file, and the output is stripped. -/
theorem make_of_accepted (accepted : ofText text = .ok map) :
    make (some text) output path content request =
      .ok (strip output, some (map.attach request path content)) := by
  rw [make_of_nonempty (ne_empty_of_ofText accepted), accepted]
  rfl

/-- A map that cannot be read is refused. -/
theorem make_of_refused {cause : LoaderError} (nonempty : text ≠ "")
    (refused : ofText text = .error cause) :
    make (some text) output path content request = .error cause := by
  rw [make_of_nonempty nonempty, refused]
  rfl

/-- An output is made if the text of its map is absent, empty or accepted. -/
theorem exists_make_eq_ok_iff {mapText : Option String} :
    (∃ made, make mapText output path content request = .ok made) ↔
      ∀ text ∈ mapText, text = "" ∨ ∃ map, ofText text = .ok map := by
  rcases mapText with _ | text
  · simp [make_of_absent]
  · by_cases isEmpty : text = ""
    · simp [isEmpty, make_of_absent]
    · simp [isEmpty, make_of_nonempty, map_eq_ok]

end Make

end ScriptLoader.SourceMap
