import ScriptLoader.Json.Token
import ScriptLoader.Text.Alphanumeric
import ScriptLoader.Text.Blank

/-!
# Lenient JSON text

The notation people write by hand: comments, names without quotes or in single quotes,
commas that may trail or be left out, numbers with a plus sign or in base 16, and line
breaks inside strings. A text without any value is accepted, too.
-/

namespace ScriptLoader.Json.Lenient

/-- The rest of the text after a line comment: it runs up to the end of the line. -/
def afterLine (text : List Char) : List Char :=
  text.dropWhile (· ≠ '\n')

/-- The rest of the text after a block comment, if it is closed. -/
def afterBlock? : List Char → Option (List Char)
  | '*' :: '/' :: rest => some rest
  | _ :: rest => afterBlock? rest
  | [] => none

/-- Whether a character may be part of a name. -/
def isNameChar (c : Char) : Bool :=
  Text.isAlphanumeric c || c = '-' || c = '_'

/-- The keyword at the front of a text, unless a letter or a number follows it. -/
def readKeyword? (text : List Char) : Option (Token × List Char) :=
  keywords.findSome? fun (word, value) =>
    match dropFront? word text with
    | some [] => some (.keyword value, [])
    | some (c :: rest) => if Text.isAlphanumeric c then none else some (.keyword value, c :: rest)
    | none => none

/-- The name at the front of a text: it runs up to a blank or a colon. -/
def readName? (text : List Char) : Option (Token × List Char) :=
  let inside (c : Char) : Bool := !(Text.isBlank c || c = ':')
  let name := text.takeWhile inside
  if name.all isNameChar then some (.word (String.ofList name), text.dropWhile inside) else none

/-- A whole number in base 16, as far as it fits a signed 64-bit number. Otherwise it stays
a text. -/
def hexNumber (written : String) (negative : Bool) (digits : List Nat) : Json :=
  let value := ofDigits 16 digits
  if value < 0x8000000000000000 then .number (.ofInt (if negative then -value else value))
  else .string written

/-- The value of a written number without its sign, and the rest of the text. -/
def readUnsigned? (written : List Char → String) (negative : Bool) (text : List Char) :
    Option (Json × List Char) :=
  let decimal : Option (Json × List Char) :=
    (Json.readNumber? negative text).map fun (parts, rest) =>
      match Number.ofWritten parts with
      | some value => (.number value, rest)
      | none => (.string (written rest), rest)
  match text with
  | '0' :: c :: rest =>
    if c = 'x' || c = 'X' then
      let digits := (rest.takeWhile (hexValue? · |>.isSome)).filterMap hexValue?
      let rest := rest.dropWhile (hexValue? · |>.isSome)
      if digits = [] then none else some (hexNumber (written rest) negative digits, rest)
    else decimal
  | _ => decimal

/-- The number at the front of a text. A decimal that is too large stays a text. -/
def readNumber? (text : List Char) : Option (Token × List Char) :=
  let written (rest : List Char) : String :=
    String.ofList (text.take (text.length - rest.length))
  let read :=
    match text with
    | '-' :: rest => readUnsigned? written true rest
    | '+' :: rest => readUnsigned? written false rest
    | rest => readUnsigned? written false rest
  read.map fun (value, rest) => (.number (written rest) value, rest)

/-- The token that starts with a character, and the rest of the text. -/
def readToken? (c : Char) (rest : List Char) : Option (Token × List Char) :=
  match Token.ofPunctuation? c with
  | some token => some (token, rest)
  | none =>
    if c = '"' || c = '\'' then
      (readString? c (fun _ => true) [] rest).map fun (value, rest) => (.string value, rest)
    else if c.isDigit || c = '-' || c = '+' then readNumber? (c :: rest)
    else (readKeyword? (c :: rest)).or (readName? (c :: rest))

/-- The tokens of a text, at most `fuel` steps of it; a step takes at least one character. -/
def tokensWithin : Nat → List Token → List Char → Option (List Token)
  | _, taken, [] => some taken.reverse
  | 0, _, _ => none
  | fuel + 1, taken, '/' :: '/' :: rest => tokensWithin fuel taken (afterLine rest)
  | fuel + 1, taken, '/' :: '*' :: rest =>
    match afterBlock? rest with
    | none => none
    | some rest => tokensWithin fuel taken rest
  | fuel + 1, taken, c :: rest =>
    if Text.isBlank c then tokensWithin fuel taken rest
    else
      match readToken? c rest with
      | none => none
      | some (token, rest) => tokensWithin fuel (token :: taken) rest

/-- The tokens without a comma at the front. -/
def dropComma : List Token → List Token
  | .comma :: rest => rest
  | tokens => tokens

/-- The key that a token can be. -/
def keyOf? : Token → Option String
  | .string value => some value
  | .number written _ => some written
  | .word name => some name
  | _ => none

mutual

/-- The value at the front of the tokens. -/
def valueWithin : Nat → List Token → Option (Json × List Token)
  | 0, _ => none
  | _, .string value :: rest => some (.string value, rest)
  | _, .number _ value :: rest => some (value, rest)
  | _, .keyword value :: rest => some (value, rest)
  | fuel + 1, .beginArray :: rest => itemsWithin fuel [] rest
  | fuel + 1, .beginObject :: rest => membersWithin fuel [] rest
  | _, _ => none

/-- The items of an array from the next one on, or its end. -/
def itemsWithin : Nat → List Json → List Token → Option (Json × List Token)
  | 0, _, _ => none
  | _, taken, .endArray :: rest => some (.array taken.reverse, rest)
  | fuel + 1, taken, tokens =>
    match valueWithin fuel tokens with
    | none => none
    | some (value, rest) => itemsWithin fuel (value :: taken) (dropComma rest)

/-- The members of an object from the next one on, or its end. -/
def membersWithin : Nat → List (String × Json) → List Token → Option (Json × List Token)
  | 0, _, _ => none
  | _, taken, .endObject :: rest => some (.object taken.reverse, rest)
  | fuel + 1, taken, token :: .colon :: tokens =>
    match keyOf? token with
    | none => none
    | some key =>
      match valueWithin fuel tokens with
      | none => none
      | some (value, rest) => membersWithin fuel ((key, value) :: taken) (dropComma rest)
  | _, _, _ => none

end

/-- The value that the whole text writes; a text without tokens writes `null`. -/
def parse? (text : String) : Option Json := do
  let tokens ← tokensWithin text.length [] text.toList
  match tokens with
  | [] => return .null
  | tokens =>
    match valueWithin (2 * tokens.length + 1) tokens with
    | some (value, []) => return value.canonical
    | _ => none

end ScriptLoader.Json.Lenient
