import ScriptLoader.Options.Raw
import ScriptLoader.Proofs.Collection
import ScriptLoader.Proofs.Json.CompactText
import ScriptLoader.Proofs.Text.Utf8

/-!
# What a fingerprint tells

A fingerprint is the digest of the compact text of both sources, and this text tells every value
in them. Only the digest can lose something: as long as it keeps two texts apart, equal
fingerprints mean equal sources.
-/

namespace ScriptLoader

/-- The digest does not take one of two byte sequences for the other. -/
def Digest.KeepsApart (first second : List UInt8) : Prop :=
  blake3 first = blake3 second → first = second

/-- An object has one text only, and no other object has it. -/
theorem Json.ofMembers_inj {first second : Members} :
    ofMembers first = ofMembers second ↔ first = second := by
  constructor
  · intro same
    exact Std.ExtTreeMap.toList_inj.mp (Json.object.inj same)
  · rintro rfl
    rfl

namespace OptionSources

variable {first second : OptionSources}

/-- The value that sources are written as tells the sources. -/
theorem toJson_inj : first.toJson = second.toJson ↔ first = second := by
  constructor
  · intro same
    obtain ⟨⟨firstFile⟩, ⟨firstQuery⟩⟩ := first
    obtain ⟨⟨secondFile⟩, ⟨secondQuery⟩⟩ := second
    simp only [toJson, RawOptions.toJson, Json.object.injEq, List.cons.injEq, Prod.mk.injEq, true_and,
      and_true, Json.ofMembers_inj] at same
    obtain ⟨rfl, rfl⟩ := same
    rfl
  · rintro rfl
    rfl

/-- The text of both sources tells both of them. -/
theorem compact_toJson_inj : first.toJson.compact = second.toJson.compact ↔ first = second :=
  Json.compact_inj.trans toJson_inj

/-- The digest does not take the text of one of two sources for that of the other. -/
def DigestedApart (first second : OptionSources) : Prop :=
  Digest.KeepsApart (Utf8.encode first.toJson.compact) (Utf8.encode second.toJson.compact)

/-- Two sources that the digest keeps apart have one fingerprint exactly if they have one text. -/
theorem fingerprint_eq_iff (apart : first.DigestedApart second) :
    first.fingerprint = second.fingerprint ↔ first.toJson.compact = second.toJson.compact := by
  constructor
  · intro same
    exact Utf8.encode_inj.mp (apart same)
  · intro same
    rw [fingerprint, fingerprint, same]

end OptionSources

end ScriptLoader
