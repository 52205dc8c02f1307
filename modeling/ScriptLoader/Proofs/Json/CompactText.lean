import ScriptLoader.Json.Compact
import ScriptLoader.Proofs.Json.NumberText
import ScriptLoader.Proofs.Json.Value
import ScriptLoader.Text.Pieces

/-!
# What compact text stands for

The first character of a text tells the kind of the value. A number and a text in quotes can
be read back, and what stands between brackets is made up of parts that each tell where they
end. So two values never share a text, not even when more text follows: `Json.legible` says
so of every value, with the items and the members in their order, and `Json.compact_inj` is
what is left of it for whole texts.
-/

namespace ScriptLoader.Json

/-- The text of a thing tells the thing, and where it ends, whatever may follow it. -/
def Legible {α : Type} (write : α → List Char) (thing : α) : Prop :=
  ∀ ⦃other : α⦄ ⦃rest rest' : List Char⦄, EndsValue rest → EndsValue rest' →
    write thing ++ rest = write other ++ rest' → thing = other ∧ rest = rest'

section Strings

/-- A hexadecimal digit is read back. -/
theorem hexValue?_hexDigit {value : Nat} (small : value < 16) :
    hexValue? (hexDigit value) = some value := by
  have all : ∀ digit : Fin 16, hexValue? (hexDigit digit) = some digit.val := by decide
  exact all ⟨value, small⟩

variable {bare : Char → Bool} (bareText : ∀ c : Char, 0x20 ≤ c.toNat → bare c = true)

include bareText

/-- An escaped character is read back as one character. -/
theorem readString?_escape (c : Char) (taken rest : List Char) :
    readString? '"' bare taken (escape c ++ rest) = readString? '"' bare (c :: taken) rest := by
  rw [escape]
  split
  · next isQuote => subst isQuote; rfl
  split
  · next isBackslash => subst isBackslash; rfl
  split
  · next isBackspace => subst isBackspace; rfl
  split
  · next isFormFeed => subst isFormFeed; rfl
  split
  · next isNewline => subst isNewline; rfl
  split
  · next isReturn => subst isReturn; rfl
  split
  · next isTab => subst isTab; rfl
  split
  · next control =>
    have unitEq : unitOf? '0' '0' (hexDigit (c.toNat / 16)) (hexDigit (c.toNat % 16)) =
        some c.toNat := by
      have zero : hexValue? '0' = some 0 := rfl
      rw [unitOf?, zero, hexValue?_hexDigit (by omega), hexValue?_hexDigit (by omega)]
      simp only [Option.bind_eq_bind, Option.bind_some, Option.pure_def, ofDigits, List.foldl_cons,
        List.foldl_nil, Option.some.injEq]
      omega
    have notLeading : (0xD800 ≤ c.toNat && c.toNat < 0xDC00) = false := by
      simp only [Bool.and_eq_false_iff, decide_eq_false_iff_not]
      omega
    have notTrailing : (0xDC00 ≤ c.toNat && c.toNat < 0xE000) = false := by
      simp only [Bool.and_eq_false_iff, decide_eq_false_iff_not]
      omega
    simp [readString?, unitEq, notLeading, notTrailing]
  · next notQuote notBackslash _ _ _ _ _ printable =>
    have stands : bare c = true := bareText c (Nat.le_of_not_lt printable)
    simp [readString?, notQuote, notBackslash, stands]

/-- A text with its escapes is read back character by character. -/
theorem readString?_flatMap_escape (text taken rest : List Char) :
    readString? '"' bare taken (text.flatMap escape ++ '"' :: rest) =
      some (String.ofList (taken.reverse ++ text), rest) := by
  induction text generalizing taken with
  | nil => simp [readString?]
  | cons c text ih =>
    rw [List.flatMap_cons, List.append_assoc, readString?_escape bareText, ih]
    simp

/-- A text in quotes is read back, by every notation in which printable characters stand for
themselves. -/
theorem readString?_quoted (text : String) (rest : List Char) :
    readString? '"' bare [] (text.toList.flatMap escape ++ '"' :: rest) = some (text, rest) := by
  rw [readString?_flatMap_escape bareText]
  simp

end Strings

/-- A text in quotes tells the text, whatever follows. -/
theorem quoted_append_inj {first second : String} {rest rest' : List Char}
    (same : quoted first ++ rest = quoted second ++ rest') : first = second ∧ rest = rest' := by
  simp only [quoted, List.cons_append, List.append_assoc, List.nil_append,
    List.cons.injEq, true_and] at same
  have read (text : String) (behind : List Char) :
      readString? '"' (fun _ => true) [] (text.toList.flatMap escape ++ '"' :: behind) =
        some (text, behind) :=
    readString?_quoted (fun _ _ => rfl) text behind
  have firstRead := read first rest
  rw [same, read second rest', Option.some.injEq, Prod.mk.injEq] at firstRead
  exact ⟨firstRead.1.symm, firstRead.2.symm⟩

section Sequences

variable {α : Type} {write : α → List Char} {closing : Char}

/-- What follows a part: the end, or a comma and the other parts. -/
theorem join_cons_append (piece : List Char) (more : List (List Char)) (rest : List Char) :
    Text.join ',' (piece :: more) ++ closing :: rest =
      piece ++ (if more = [] then closing :: rest
        else ',' :: (Text.join ',' more ++ closing :: rest)) := by
  split
  · next last => simp [last, Text.join]
  · next nonempty => simp [Text.join_cons_of_ne_nil ',' piece nonempty]

/-- Parts that each tell where they end can be told from the whole, with commas between them and
a bracket behind them. -/
theorem legible_join (closes : closing = ']' ∨ closing = '}')
    (starts : ∀ thing, ∃ c more, write thing = c :: more ∧ c ≠ closing) {things : List α}
    (legible : ∀ thing ∈ things, Legible write thing) {others : List α} {rest rest' : List Char}
    (same : Text.join ',' (things.map write) ++ closing :: rest =
      Text.join ',' (others.map write) ++ closing :: rest') :
    things = others ∧ rest = rest' := by
  have notComma : closing ≠ ',' := by rcases closes with rfl | rfl <;> decide
  have ends (more : List (List Char)) (behind : List Char) :
      EndsValue (if more = [] then closing :: behind
        else ',' :: (Text.join ',' more ++ closing :: behind)) := by
    split
    · rintro c ⟨⟩
      exact .inr closes
    · rintro c ⟨⟩
      exact .inl rfl
  induction things generalizing others with
  | nil =>
    cases others with
    | nil => exact ⟨rfl, (List.cons.inj same).2⟩
    | cons other others =>
      obtain ⟨c, more, textEq, different⟩ := starts other
      rw [List.map_cons, join_cons_append, textEq] at same
      exact absurd (List.cons.inj same).1.symm different
  | cons thing things ih =>
    cases others with
    | nil =>
      obtain ⟨c, more, textEq, different⟩ := starts thing
      rw [List.map_cons, join_cons_append, textEq] at same
      exact absurd (List.cons.inj same).1 different
    | cons other others =>
      rw [List.map_cons, List.map_cons, join_cons_append, join_cons_append] at same
      obtain ⟨rfl, behind⟩ := legible thing (List.mem_cons_self ..) (ends _ _) (ends _ _) same
      simp only [List.map_eq_nil_iff] at behind
      have later : things = others ∧ rest = rest' := by
        by_cases last : things = []
        · by_cases lastOther : others = []
          · simp only [if_pos last, if_pos lastOther, List.cons.injEq, true_and] at behind
            exact ⟨last.trans lastOther.symm, behind⟩
          · simp only [if_pos last, if_neg lastOther, List.cons.injEq] at behind
            exact absurd behind.1 notComma
        · by_cases lastOther : others = []
          · simp only [if_neg last, if_pos lastOther, List.cons.injEq] at behind
            exact absurd behind.1.symm notComma
          · simp only [if_neg last, if_neg lastOther, List.cons.injEq, true_and] at behind
            exact ih (fun thing among => legible thing (List.mem_cons_of_mem _ among)) behind
      exact ⟨congrArg (thing :: ·) later.1, later.2⟩

end Sequences

/-- A member of an object: its key in quotes, a colon and its value. -/
def memberText (member : String × Json) : List Char :=
  quoted member.1 ++ ':' :: chars member.2

/-- The items of an array are their texts with commas between them. -/
theorem itemChars_eq (items : List Json) : itemChars items = Text.join ',' (items.map chars) := by
  induction items with
  | nil => rfl
  | cons item items ih =>
    cases items with
    | nil => rfl
    | cons next items =>
      rw [itemChars, ih]
      · rfl
      · simp

/-- The members of an object are their texts with commas between them. -/
theorem memberChars_eq (members : List (String × Json)) :
    memberChars members = Text.join ',' (members.map memberText) := by
  induction members with
  | nil => rfl
  | cons member members ih =>
    cases members with
    | nil => rfl
    | cons next members =>
      rw [memberChars, ih]
      · simp [Text.join, memberText]
      · simp

/-- The kind of a value whose text starts with a character. -/
def kindOfStart (c : Char) : String :=
  if c = 'n' then "null"
  else if c = 't' ∨ c = 'f' then "boolean"
  else if c = '"' then "string"
  else if c = '[' then "array"
  else if c = '{' then "object"
  else "number"

/-- A value whose text starts with a digit is a number. -/
theorem kindOfStart_of_isDigit {c : Char} (digit : c.isDigit = true) :
    kindOfStart c = "number" := by
  have other (letter : Char) (notDigit : letter.isDigit = false) : c ≠ letter := by
    rintro rfl
    rw [digit] at notDigit
    cases notDigit
  simp [kindOfStart, other 'n' rfl, other 't' rfl, other 'f' rfl, other '"' rfl, other '[' rfl,
    other '{' rfl]

/-- The text of a number starts with a digit or a sign. -/
theorem exists_start_number (number : Number) :
    ∃ c more, number.chars = c :: more ∧ kindOfStart c = "number" ∧ c ≠ ']' := by
  obtain ⟨numeral, charsEq, _⟩ := number.exists_numeral
  rw [charsEq]
  split
  · exact ⟨'-', numeral.chars, rfl, by decide, by decide⟩
  · obtain ⟨c, more, wholeEq⟩ : ∃ c more, numeral.whole = c :: more := by
      rcases numeral.whole_leading with single | ⟨c, more, wholeEq, _⟩
      · exact ⟨'0', [], single⟩
      · exact ⟨c, more, wholeEq⟩
    have digit : c.isDigit = true := numeral.whole_isDigit c (by simp [wholeEq])
    refine ⟨c, _, by rw [Numeral.chars, wholeEq]; rfl, kindOfStart_of_isDigit digit, ?_⟩
    rintro rfl
    cases digit

/-- The text of a value starts with a character that tells its kind. -/
theorem exists_start (value : Json) :
    ∃ c more, chars value = c :: more ∧ kindOfStart c = value.kind ∧ c ≠ ']' := by
  cases value with
  | null => exact ⟨'n', _, rfl, by decide, by decide⟩
  | bool truth =>
    cases truth with
    | true => exact ⟨'t', _, rfl, by decide, by decide⟩
    | false => exact ⟨'f', _, rfl, by decide, by decide⟩
  | number value => exact exists_start_number value
  | string value => exact ⟨'"', _, rfl, rfl, by decide⟩
  | array items => exact ⟨'[', _, rfl, rfl, by decide⟩
  | object members => exact ⟨'{', _, rfl, rfl, by decide⟩

/-- Values with the same text are of one kind, whatever follows the texts. -/
theorem kind_eq_of_append_eq {first second : Json} {rest rest' : List Char}
    (same : chars first ++ rest = chars second ++ rest') : first.kind = second.kind := by
  obtain ⟨c, more, firstEq, kindEq, _⟩ := exists_start first
  obtain ⟨d, _, secondEq, kindEq', _⟩ := exists_start second
  rw [firstEq, secondEq, List.cons_append, List.cons_append, List.cons.injEq] at same
  rw [← kindEq, ← kindEq', same.1]

section Kinds

/-- The text of `null` tells it. -/
theorem legible_null : Legible chars .null := by
  intro other rest rest' _ _ same
  have kindEq := kind_eq_of_append_eq same
  cases other with
  | null => exact ⟨rfl, List.append_cancel_left same⟩
  | _ => simp [kind] at kindEq

/-- The text of a truth value tells it. -/
theorem legible_bool (truth : Bool) : Legible chars (.bool truth) := by
  intro other rest rest' _ _ same
  have kindEq := kind_eq_of_append_eq same
  cases other with
  | bool truth' => cases truth <;> cases truth' <;> simp_all [chars]
  | _ => simp [kind] at kindEq

/-- The text of a number tells the number, and where it ends. -/
theorem legible_number (value : Number) : Legible chars (.number value) := by
  intro other rest rest' ends ends' same
  have kindEq := kind_eq_of_append_eq same
  cases other with
  | number value' =>
    have read := value.readExact?_chars ends
    simp only [chars] at same
    rw [same, value'.readExact?_chars ends', Option.some.injEq, Prod.mk.injEq] at read
    exact ⟨congrArg Json.number read.1.symm, read.2.symm⟩
  | _ => simp [kind] at kindEq

/-- The text of a string tells the string, and where it ends. -/
theorem legible_string (value : String) : Legible chars (.string value) := by
  intro other rest rest' _ _ same
  have kindEq := kind_eq_of_append_eq same
  cases other with
  | string value' =>
    obtain ⟨rfl, restEq⟩ := quoted_append_inj same
    exact ⟨rfl, restEq⟩
  | _ => simp [kind] at kindEq

/-- The text of an array tells its items, if the text of each item tells the item. -/
theorem legible_array {items : List Json} (legible : ∀ item ∈ items, Legible chars item) :
    Legible chars (.array items) := by
  intro other rest rest' _ _ same
  have kindEq := kind_eq_of_append_eq same
  cases other with
  | array items' =>
    simp only [chars, itemChars_eq, List.cons_append, List.append_assoc, List.nil_append,
      List.cons.injEq, true_and] at same
    have starts (item : Json) : ∃ c more, chars item = c :: more ∧ c ≠ ']' := by
      obtain ⟨c, more, charsEq, _, different⟩ := exists_start item
      exact ⟨c, more, charsEq, different⟩
    obtain ⟨rfl, restEq⟩ := legible_join (.inl rfl) starts legible same
    exact ⟨rfl, restEq⟩
  | _ => simp [kind] at kindEq

/-- The text of a member tells its key and its value, if the text of the value tells the value. -/
theorem legible_memberText {member : String × Json} (legible : Legible chars member.2) :
    Legible memberText member := by
  intro other rest rest' ends ends' same
  simp only [memberText, List.append_assoc, List.cons_append] at same
  obtain ⟨keyEq, valueText⟩ := quoted_append_inj same
  obtain ⟨valueEq, restEq⟩ := legible ends ends' (List.cons.inj valueText).2
  exact ⟨Prod.ext keyEq valueEq, restEq⟩

/-- The text of an object tells its members, if the text of each value tells the value. -/
theorem legible_object {members : List (String × Json)}
    (legible : ∀ member ∈ members, Legible chars member.2) : Legible chars (.object members) := by
  intro other rest rest' _ _ same
  have kindEq := kind_eq_of_append_eq same
  cases other with
  | object members' =>
    simp only [chars, memberChars_eq, List.cons_append, List.append_assoc, List.nil_append,
      List.cons.injEq, true_and] at same
    have starts (member : String × Json) : ∃ c more, memberText member = c :: more ∧ c ≠ '}' :=
      ⟨'"', _, rfl, by decide⟩
    obtain ⟨rfl, restEq⟩ := legible_join (.inr rfl) starts
      (fun member among => legible_memberText (legible member among)) same
    exact ⟨rfl, restEq⟩
  | _ => simp [kind] at kindEq

end Kinds

/-- The text of a value tells the value, and where it ends. -/
theorem legible (value : Json) : Legible chars value := by
  induction value using induction with
  | null => exact legible_null
  | bool truth => exact legible_bool truth
  | number value => exact legible_number value
  | string value => exact legible_string value
  | array items ih => exact legible_array ih
  | object members ih => exact legible_object ih

/-- Values with the same compact text are the same. -/
theorem compact_inj {first second : Json} : first.compact = second.compact ↔ first = second := by
  constructor
  · intro same
    have charsEq := String.ofList_inj.mp same
    have appended : chars first ++ [] = chars second ++ [] := by rw [charsEq]
    exact (legible first endsValue_nil endsValue_nil appended).1
  · rintro rfl
    rfl

end ScriptLoader.Json
