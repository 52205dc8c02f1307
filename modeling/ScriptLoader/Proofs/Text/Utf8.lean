import ScriptLoader.Text.Utf8

/-!
# Bytes that spell a text

The bytes of a text are read back as the text. A character is written as one to four bytes: the
first tells how many are owed and gives the highest bits of the code, and each of the others adds
six bits. The bounds that some leads put on the byte behind them only keep out codes that have a
shorter writing or belong to no character, so they never stop the bytes of a character.
-/

namespace ScriptLoader.Utf8

/-- Bytes are one well-formed part that gives a code, whatever follows them. -/
inductive Spells : List UInt8 → Nat → Prop where
  | part {lead : UInt8} {others : List UInt8} {value code : Nat} {owed : List (Nat × Nat)}
      (leads : leadOf lead.toNat = some (value, owed))
      (reads : ∀ rest, readOwed value owed (others ++ rest) = (some code, rest)) :
      Spells (lead :: others) code

/-- A number below 256 is a byte. -/
private theorem toNat_ofNat {byte : Nat} (small : byte < 256) : (UInt8.ofNat byte).toNat = byte :=
  UInt8.toNat_ofNat_of_lt' small

/-- A byte within the bounds of what is owed adds six bits. -/
theorem readOwed_cons {bits least greatest : Nat} (small : bits < 64) (atLeast : least ≤ bits + 128)
    (atMost : bits + 128 ≤ greatest) (value : Nat) (owed : List (Nat × Nat)) (rest : List UInt8) :
    readOwed value ((least, greatest) :: owed) (UInt8.ofNat (bits + 128) :: rest) =
      readOwed (value * 64 + bits) owed rest := by
  have lowBits : (bits + 128) % 64 = bits := by omega
  rw [readOwed, toNat_ofNat (by omega), if_pos ⟨atLeast, atMost⟩, lowBits]

section Widths

variable {high next low last : Nat}

/-- The lead of two bytes has five bits, and the second byte six. -/
theorem leadOf_two (long : 2 ≤ high) (small : high < 32) :
    leadOf (high + 192) = some (high, [(0x80, 0xBF)]) := by
  rw [leadOf, if_neg (by omega), if_neg (by omega), if_pos (by omega), Nat.add_sub_cancel]

/-- The second of three bytes is bounded behind the first lead and behind that of surrogates. -/
theorem leadOf_three : ∀ high < 16, leadOf (high + 224) =
    some (high, [(if high = 0 then 0xA0 else 0x80, if high = 13 then 0x9F else 0xBF),
      (0x80, 0xBF)]) := by
  decide

/-- The second of four bytes is bounded behind the first lead and behind the last. -/
theorem leadOf_four : ∀ high < 5, leadOf (high + 240) =
    some (high, [(if high = 0 then 0x90 else 0x80, if high = 4 then 0x8F else 0xBF),
      (0x80, 0xBF), (0x80, 0xBF)]) := by
  decide

/-- A byte below 128 spells its number. -/
theorem spells_one (small : high < 128) : Spells [UInt8.ofNat high] high := by
  have leads : leadOf high = some (high, []) := if_pos small
  rw [← toNat_ofNat (show high < 256 by omega)] at leads
  refine .part leads fun rest => ?_
  rw [toNat_ofNat (by omega)]
  rfl

/-- Two bytes spell a number in base 64, if one byte could not. -/
theorem spells_two (long : 2 ≤ high) (highSmall : high < 32) (lowSmall : low < 64) :
    Spells [UInt8.ofNat (high + 192), UInt8.ofNat (low + 128)] (high * 64 + low) := by
  have leads := leadOf_two long highSmall
  rw [← toNat_ofNat (show high + 192 < 256 by omega)] at leads
  refine .part leads fun rest => ?_
  rw [List.cons_append, readOwed_cons lowSmall (by omega) (by omega)]
  rfl

/-- Three bytes spell a number in base 64, if two bytes could not and it is no surrogate. -/
theorem spells_three (highSmall : high < 16) (nextSmall : next < 64) (lowSmall : low < 64)
    (long : high = 0 → 32 ≤ next) (noSurrogate : high = 13 → next < 32) :
    Spells [UInt8.ofNat (high + 224), UInt8.ofNat (next + 128), UInt8.ofNat (low + 128)]
      ((high * 64 + next) * 64 + low) := by
  have leads := leadOf_three high highSmall
  rw [← toNat_ofNat (show high + 224 < 256 by omega)] at leads
  refine .part leads fun rest => ?_
  rw [List.cons_append, readOwed_cons nextSmall (by split <;> omega) (by split <;> omega),
    List.cons_append, readOwed_cons lowSmall (by omega) (by omega)]
  rfl

/-- Four bytes spell a number in base 64, if three bytes could not and it is within Unicode. -/
theorem spells_four (highSmall : high < 5) (nextSmall : next < 64) (lowSmall : low < 64)
    (lastSmall : last < 64) (long : high = 0 → 16 ≤ next) (bounded : high = 4 → next < 16) :
    Spells [UInt8.ofNat (high + 240), UInt8.ofNat (next + 128), UInt8.ofNat (low + 128),
      UInt8.ofNat (last + 128)] (((high * 64 + next) * 64 + low) * 64 + last) := by
  have leads := leadOf_four high highSmall
  rw [← toNat_ofNat (show high + 240 < 256 by omega)] at leads
  refine .part leads fun rest => ?_
  rw [List.cons_append, readOwed_cons nextSmall (by split <;> omega) (by split <;> omega),
    List.cons_append, readOwed_cons lowSmall (by omega) (by omega),
    List.cons_append, readOwed_cons lastSmall (by omega) (by omega)]
  rfl

end Widths

/-- The bytes of a character give its code. -/
theorem spells_encodeChar (c : Char) : Spells (String.utf8EncodeChar c) c.val.toNat := by
  have valid : c.val.toNat < 0xD800 ∨ 0xDFFF < c.val.toNat ∧ c.val.toNat < 0x110000 := c.valid
  simp only [String.utf8EncodeChar]
  generalize c.val.toNat = code at valid
  -- The digits of the code to the base 64 are what its bytes hold.
  split
  · exact spells_one (by omega)
  · split
    · have digits : code = code / 64 % 32 * 64 + code % 64 := by omega
      conv => rhs; rw [digits]
      exact spells_two (by omega) (by omega) (by omega)
    · split
      · have digits : code = (code / 4096 % 16 * 64 + code / 64 % 64) * 64 + code % 64 := by omega
        conv => rhs; rw [digits]
        exact spells_three (by omega) (by omega) (by omega) (by omega) (by omega)
      · have digits : code = ((code / 262144 % 8 * 64 + code / 4096 % 64) * 64 + code / 64 % 64) *
            64 + code % 64 := by omega
        conv => rhs; rw [digits]
        exact spells_four (by omega) (by omega) (by omega) (by omega) (by omega) (by omega)

/-- The bytes of a character are its part, in front of any others. -/
theorem partsWithin_encodeChar (fuel : Nat) (c : Char) (rest : List UInt8) :
    partsWithin (fuel + 1) (String.utf8EncodeChar c ++ rest) = some c :: partsWithin fuel rest := by
  have spells := spells_encodeChar c
  have codeEq : Char.ofNat c.val.toNat = c := Char.ofNat_toNat c
  generalize String.utf8EncodeChar c = bytes, c.val.toNat = code at codeEq spells
  cases spells with
  | part leads reads =>
    simp only [List.cons_append, partsWithin, leads, reads, Option.map_some, codeEq]

/-- The bytes of characters are read back as these characters. -/
theorem partsWithin_flatMap_encodeChar {fuel : Nat} {chars : List Char}
    (enough : chars.length ≤ fuel) :
    partsWithin fuel (chars.flatMap String.utf8EncodeChar) = chars.map some := by
  induction chars generalizing fuel with
  | nil => cases fuel <;> rfl
  | cons c chars ih =>
    cases fuel with
    | zero => simp at enough
    | succ fuel =>
      rw [List.flatMap_cons, partsWithin_encodeChar, ih (by simpa using enough), List.map_cons]

/-- Every character has one byte at least. -/
theorem length_le_flatMap_encodeChar (chars : List Char) :
    chars.length ≤ (chars.flatMap String.utf8EncodeChar).length := by
  induction chars with
  | nil => exact Nat.le_refl 0
  | cons c chars ih =>
    have positive : 0 < (String.utf8EncodeChar c).length :=
      List.length_pos_iff.mpr String.utf8EncodeChar_ne_nil
    simp only [List.flatMap_cons, List.length_append, List.length_cons]
    omega

section Texts

/-- The bytes from a place on are those of the array, behind the ones taken before. -/
theorem toList_loop_eq (bytes : ByteArray) (start : Nat) (taken : List UInt8) :
    ByteArray.toList.loop bytes start taken = taken.reverse ++ bytes.data.toList.drop start := by
  induction start, taken using ByteArray.toList.loop.induct bytes with
  | case1 start taken within ih =>
    have inside : start < bytes.data.toList.length := within
    have taken_eq : bytes.get! start = bytes.data.toList[start] :=
      getElem!_pos bytes.data start inside
    rw [ByteArray.toList.loop, if_pos within, ih, List.drop_eq_getElem_cons inside, taken_eq,
      List.reverse_cons, List.append_assoc]
    rfl
  | case2 start taken beyond =>
    have outside : bytes.data.toList.length ≤ start := Nat.le_of_not_lt beyond
    rw [ByteArray.toList.loop, if_neg beyond, List.drop_eq_nil_of_le outside, List.append_nil]

/-- A text is written character by character. -/
theorem encode_eq (text : String) : encode text = text.toList.flatMap String.utf8EncodeChar := by
  have bytesEq : text.toUTF8 = (text.toList.flatMap String.utf8EncodeChar).toByteArray := by
    conv => lhs; rw [← String.ofList_toList (s := text)]
    exact String.toByteArray_ofList
  rw [encode, bytesEq, ByteArray.toList, toList_loop_eq, List.data_toByteArray]
  rfl

/-- A text is read back from its bytes. -/
theorem decodeLossy_encode (text : String) : decodeLossy (encode text) = text := by
  have partsEq : parts (encode text) = text.toList.map some := by
    rw [encode_eq]
    exact partsWithin_flatMap_encodeChar (length_le_flatMap_encodeChar _)
  rw [decodeLossy, partsEq, List.map_map]
  simp [Function.comp_def]

/-- Texts with the same bytes are the same. -/
theorem encode_inj {first second : String} : encode first = encode second ↔ first = second := by
  constructor
  · intro same
    rw [← decodeLossy_encode first, same, decodeLossy_encode]
  · rintro rfl
    rfl

end Texts

end ScriptLoader.Utf8
