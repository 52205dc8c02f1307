import ScriptLoader.Json.Basic

/-!
# Tokens of JSON text

What strict and lenient JSON text have in common: the tokens, the digits of a number, and
the characters of a string.
-/

namespace ScriptLoader.Json

/-- A token of JSON text. -/
inductive Token where
  | beginObject
  | endObject
  | beginArray
  | endArray
  | colon
  | comma
  /-- A text in quotes. -/
  | string (value : String)
  /-- A written number, and the value it stands for. -/
  | number (written : String) (value : Json)
  /-- One of `true`, `false` and `null`. -/
  | keyword (value : Json)
  /-- A name without quotes. -/
  | word (name : String)

/-- The token that a single character is. -/
def Token.ofPunctuation? : Char → Option Token
  | '{' => some .beginObject
  | '}' => some .endObject
  | '[' => some .beginArray
  | ']' => some .endArray
  | ':' => some .colon
  | ',' => some .comma
  | _ => none

/-- The keywords and their values. -/
def keywords : List (List Char × Json) :=
  [(['t', 'r', 'u', 'e'], .bool true), (['f', 'a', 'l', 's', 'e'], .bool false),
    (['n', 'u', 'l', 'l'], .null)]

/-- Takes a word off the front of a text. -/
def dropFront? : List Char → List Char → Option (List Char)
  | [], rest => some rest
  | c :: word, d :: rest => if c = d then dropFront? word rest else none
  | _ :: _, [] => none

/-- The value of a decimal digit. -/
def digitValue (c : Char) : Nat :=
  c.toNat - '0'.toNat

/-- The value of a hexadecimal digit. -/
def hexValue? (c : Char) : Option Nat :=
  if c.isDigit then some (digitValue c)
  else if 'a' ≤ c && c ≤ 'f' then some (c.toNat - 'a'.toNat + 10)
  else if 'A' ≤ c && c ≤ 'F' then some (c.toNat - 'A'.toNat + 10)
  else none

/-- The number that digits write in a base. -/
def ofDigits (base : Nat) (digits : List Nat) : Nat :=
  digits.foldl (fun value digit => value * base + digit) 0

/-- The digits at the front of a text, at least one, and the rest. -/
def readDigits? (text : List Char) : Option (List Nat × List Char) :=
  match text.takeWhile Char.isDigit with
  | [] => none
  | digits => some (digits.map digitValue, text.dropWhile Char.isDigit)

/-- The digits before the point: a single `0`, or digits that do not start with `0`. -/
def readWhole? : List Char → Option (List Nat × List Char)
  | '0' :: rest => some ([0], rest)
  | text => readDigits? text

/-- The digits after the point, if a point follows; there is at least one. -/
def readFraction? : List Char → Option (Option (List Nat) × List Char)
  | '.' :: rest => (readDigits? rest).map fun (digits, rest) => (some digits, rest)
  | text => some (none, text)

/-- The exponent, if an `e` follows; it has at least one digit. -/
def readExponent? : List Char → Option (Option Int × List Char)
  | [] => some (none, [])
  | c :: rest =>
    if c = 'e' || c = 'E' then
      let (negative, rest) :=
        match rest with
        | '-' :: rest => (true, rest)
        | '+' :: rest => (false, rest)
        | rest => (false, rest)
      (readDigits? rest).map fun (digits, rest) =>
        let magnitude : Int := ofDigits 10 digits
        (some (if negative then -magnitude else magnitude), rest)
    else some (none, c :: rest)

/-- A number without its sign. -/
def readNumber? (negative : Bool) (text : List Char) :
    Option (Number.Written × List Char) := do
  let (whole, rest) ← readWhole? text
  let (fraction, rest) ← readFraction? rest
  let (exponent, rest) ← readExponent? rest
  return ({ negative, whole, fraction := fraction.getD [], exponent
            pointed := fraction.isSome }, rest)

/-- The 16-bit unit that four hexadecimal digits write. -/
def unitOf? (a b c d : Char) : Option Nat := do
  return ofDigits 16 [← hexValue? a, ← hexValue? b, ← hexValue? c, ← hexValue? d]

/-- The character that a two-letter escape stands for. -/
def escaped? (quote c : Char) : Option Char :=
  if c = quote then some quote
  else match c with
    | '\\' => some '\\'
    | '/' => some '/'
    | 'b' => some '\x08'
    | 'f' => some '\x0C'
    | 'n' => some '\n'
    | 'r' => some '\r'
    | 't' => some '\t'
    | _ => none

/-- The character that a leading and a trailing surrogate spell together. -/
def joinSurrogates (leading trailing : Nat) : Char :=
  Char.ofNat (0x10000 + (leading - 0xD800) * 0x400 + (trailing - 0xDC00))

/-- The rest of a string after its opening quote. `bare` says which characters may stand
for themselves, and a surrogate only counts as one of a pair. -/
def readString? (quote : Char) (bare : Char → Bool) :
    List Char → List Char → Option (String × List Char)
  | _, [] => none
  | taken, '\\' :: 'u' :: a :: b :: c :: d :: rest =>
    match unitOf? a b c d with
    | none => none
    | some unit =>
      if 0xD800 ≤ unit && unit < 0xDC00 then
        match rest with
        | '\\' :: 'u' :: e :: f :: g :: h :: rest =>
          match unitOf? e f g h with
          | none => none
          | some second =>
            if 0xDC00 ≤ second && second < 0xE000 then
              readString? quote bare (joinSurrogates unit second :: taken) rest
            else none
        | _ => none
      else if 0xDC00 ≤ unit && unit < 0xE000 then none
      else readString? quote bare (Char.ofNat unit :: taken) rest
  | taken, '\\' :: c :: rest =>
    match escaped? quote c with
    | none => none
    | some character => readString? quote bare (character :: taken) rest
  | taken, c :: rest =>
    if c = quote then some (String.ofList taken.reverse, rest)
    else if c ≠ '\\' && bare c then readString? quote bare (c :: taken) rest
    else none

end ScriptLoader.Json
