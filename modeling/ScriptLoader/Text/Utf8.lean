/-!
# Reading bytes as text

Bytes are cut into parts: a well-formed sequence gives its character, and each maximal
ill-formed part gives none. A text is exact when no part is ill-formed; otherwise every
ill-formed part is shown as one replacement character.
-/

namespace ScriptLoader.Utf8

/-- What a lead byte starts: the bits it contributes, and for each byte still owed the
least and the greatest value that byte may have. -/
def leadOf (byte : Nat) : Option (Nat × List (Nat × Nat)) :=
  if byte < 0x80 then some (byte, [])
  else if byte < 0xC2 then none
  else if byte < 0xE0 then some (byte - 0xC0, [(0x80, 0xBF)])
  else if byte = 0xE0 then some (0, [(0xA0, 0xBF), (0x80, 0xBF)])
  else if byte = 0xED then some (0xD, [(0x80, 0x9F), (0x80, 0xBF)])
  else if byte < 0xF0 then some (byte - 0xE0, [(0x80, 0xBF), (0x80, 0xBF)])
  else if byte = 0xF0 then some (0, [(0x90, 0xBF), (0x80, 0xBF), (0x80, 0xBF)])
  else if byte < 0xF4 then some (byte - 0xF0, [(0x80, 0xBF), (0x80, 0xBF), (0x80, 0xBF)])
  else if byte = 0xF4 then some (4, [(0x80, 0x8F), (0x80, 0xBF), (0x80, 0xBF)])
  else none

/-- Reads the bytes owed by a lead byte. It stops in front of the first byte that does not
belong, so the part given up is as long as a well-formed beginning allows. -/
def readOwed (value : Nat) : List (Nat × Nat) → List UInt8 → Option Nat × List UInt8
  | [], rest => (some value, rest)
  | _ :: _, [] => (none, [])
  | (least, greatest) :: owed, byte :: rest =>
    if least ≤ byte.toNat ∧ byte.toNat ≤ greatest then
      readOwed (value * 64 + byte.toNat % 64) owed rest
    else (none, byte :: rest)

/-- The parts of `bytes`, at most `fuel` of them; every part takes at least one byte. -/
def partsWithin : Nat → List UInt8 → List (Option Char)
  | 0, _ => []
  | _, [] => []
  | fuel + 1, byte :: rest =>
    match leadOf byte.toNat with
    | none => none :: partsWithin fuel rest
    | some (value, owed) =>
      let (code, rest) := readOwed value owed rest
      code.map Char.ofNat :: partsWithin fuel rest

/-- The parts of `bytes` in order: a character, or `none` for a maximal ill-formed part. -/
def parts (bytes : List UInt8) : List (Option Char) :=
  partsWithin bytes.length bytes

/-- The text that `bytes` spell exactly, if every part is well formed. -/
def decode? (bytes : List UInt8) : Option String :=
  ((parts bytes).mapM id).map String.ofList

/-- The text of `bytes` with U+FFFD in the place of each ill-formed part. -/
def decodeLossy (bytes : List UInt8) : String :=
  String.ofList ((parts bytes).map (·.getD '\uFFFD'))

/-- The bytes of a text. -/
def encode (text : String) : List UInt8 :=
  text.toUTF8.toList

end ScriptLoader.Utf8
