import ScriptLoader.Json.Token

/-!
# Strict JSON text

The standard notation: no comments, no trailing commas, names in double quotes, and only
so many levels of nesting. Objects keep their members as they are written, repeated keys
included.

No key has a meaning of its own here. Left out is the private key by which some readers of JSON
mark raw values: with that feature they take a nested object whose first member has the key for the
value that the text of this member writes. Such an object is read here like any other.
-/

namespace ScriptLoader.Json.Strict

/-- Whether a character may stand between tokens. -/
def isBlank (c : Char) : Bool :=
  c = ' ' || c = '\n' || c = '\t' || c = '\r'

/-- The number at the front of a text. -/
def readNumber? (text : List Char) : Option (Token × List Char) := do
  let (written, rest) ←
    match text with
    | '-' :: rest => Json.readNumber? true rest
    | rest => Json.readNumber? false rest
  let value ← Number.ofWritten written
  return (.number "" (.number value), rest)

/-- The token that starts with a character, and the rest of the text. -/
def readToken? (c : Char) (rest : List Char) : Option (Token × List Char) :=
  match Token.ofPunctuation? c with
  | some token => some (token, rest)
  | none =>
    if c = '"' then
      (readString? '"' (fun d => 0x20 ≤ d.toNat) [] rest).map fun (value, rest) =>
        (.string value, rest)
    else if c.isDigit || c = '-' then readNumber? (c :: rest)
    else
      keywords.findSome? fun (word, value) =>
        (dropFront? word (c :: rest)).map fun rest => (.keyword value, rest)

/-- The tokens of a text, at most `fuel` steps of it; a step takes at least one character. -/
def tokensWithin : Nat → List Token → List Char → Option (List Token)
  | _, taken, [] => some taken.reverse
  | 0, _, _ => none
  | fuel + 1, taken, c :: rest =>
    if isBlank c then tokensWithin fuel taken rest
    else
      match readToken? c rest with
      | none => none
      | some (token, rest) => tokensWithin fuel (token :: taken) rest

mutual

/-- The value at the front of the tokens. `depth` levels of nesting are left. -/
def valueWithin : Nat → Nat → List Token → Option (Json × List Token)
  | 0, _, _ => none
  | _, _, .string value :: rest => some (.string value, rest)
  | _, _, .number _ value :: rest => some (value, rest)
  | _, _, .keyword value :: rest => some (value, rest)
  | fuel + 1, depth + 1, .beginArray :: rest =>
    match rest with
    | .endArray :: rest => some (.array [], rest)
    | rest => itemsWithin fuel depth [] rest
  | fuel + 1, depth + 1, .beginObject :: rest =>
    match rest with
    | .endObject :: rest => some (.object [], rest)
    | rest => membersWithin fuel depth [] rest
  | _, _, _ => none

/-- The items of an array from the next one on. -/
def itemsWithin : Nat → Nat → List Json → List Token → Option (Json × List Token)
  | 0, _, _, _ => none
  | fuel + 1, depth, taken, tokens =>
    match valueWithin fuel depth tokens with
    | some (value, .comma :: rest) => itemsWithin fuel depth (value :: taken) rest
    | some (value, .endArray :: rest) => some (.array (value :: taken).reverse, rest)
    | _ => none

/-- The members of an object from the next one on. -/
def membersWithin : Nat → Nat → List (String × Json) → List Token →
    Option (Json × List Token)
  | 0, _, _, _ => none
  | fuel + 1, depth, taken, .string key :: .colon :: tokens =>
    match valueWithin fuel depth tokens with
    | some (value, .comma :: rest) => membersWithin fuel depth ((key, value) :: taken) rest
    | some (value, .endObject :: rest) =>
      some (.object ((key, value) :: taken).reverse, rest)
    | _ => none
  | _, _, _, _ => none

end

/-- The value that the whole text writes, with at most `depth` levels of nesting. -/
def parse? (depth : Nat) (text : String) : Option Json := do
  let tokens ← tokensWithin text.length [] text.toList
  match valueWithin (2 * tokens.length + 1) depth tokens with
  | some (value, []) => return value
  | _ => none

end ScriptLoader.Json.Strict
