import ScriptLoader.Proofs.Diagnostic.Record
import ScriptLoader.Proofs.Json.NumberText
import ScriptLoader.Proofs.Options.Merge
import ScriptLoader.Proofs.Text.Trimming

/-!
# Codes of diagnostics that are ignored

A code is a whole number of 32 bits, and a text can write one as well (`WritesCount`). Reading finds
the code that a value stands for and refuses all other values (`codeOf?_eq_some_iff`), so a list of
values is accepted if each of them stands for a code, and the diagnostics with these codes are the
ones that are not reported.
-/

namespace ScriptLoader

namespace Setting

/-- A text writes a whole number: digits, perhaps behind a plus sign, with blanks around. -/
inductive WritesCount : String → Nat → Prop where
  | intro {front sign digits back : List Char} (blankFront : Text.IsBlank front)
      (signed : sign = [] ∨ sign = ['+']) (nonempty : digits ≠ [])
      (areDigits : ∀ c ∈ digits, c.isDigit = true) (blankBack : Text.IsBlank back) :
      WritesCount (.ofList (front ++ (sign ++ digits) ++ back)) (Nat.ofDigitChars 10 digits 0)

/-- A value stands for the code of a diagnostic: a whole number of 32 bits, or a text that writes
one. -/
inductive DenotesCode : Json → Nat → Prop where
  | number {code : Nat} (small : code < 0x100000000) : DenotesCode (.number (.natural code)) code
  | text {text : String} {code : Nat} (written : WritesCount text code)
      (small : code < 0x100000000) : DenotesCode (.string text) code

/-- A code that a value of `ignoreDiagnostics` names, alone or in a list. -/
def IgnoresCode (value : Json) (code : Nat) : Prop :=
  ∃ item ∈ listOf value, DenotesCode item code

section Count

variable {digits : List Char}

/-- A number starts and ends with no blank. -/
theorem isTrimmed_append {sign : List Char} (signed : sign = [] ∨ sign = ['+'])
    (areDigits : ∀ c ∈ digits, c.isDigit = true) : Text.IsTrimmed (sign ++ digits) := by
  have noBlank : ∀ c ∈ sign ++ digits, Text.isBlank c = false := by
    intro c member
    rcases List.mem_append.mp member with inSign | inDigits
    · rcases signed with rfl | rfl
      · cases inSign
      · rw [List.mem_singleton.mp inSign]
        rfl
    · exact Text.isBlank_of_isDigit (areDigits c inDigits)
  exact ⟨fun c first => noBlank c (List.mem_of_mem_head? first),
    fun c last => noBlank c (List.mem_of_mem_getLast? last)⟩

/-- A text without the plus sign that it starts with. -/
def unsigned : List Char → List Char
  | '+' :: rest => rest
  | text => text

/-- A text is its sign, if it has one, and what is behind it. -/
theorem exists_sign (text : List Char) :
    ∃ sign, (sign = [] ∨ sign = ['+']) ∧ text = sign ++ unsigned text := by
  unfold unsigned
  split
  · exact ⟨['+'], .inr rfl, rfl⟩
  · exact ⟨[], .inl rfl, rfl⟩

/-- What is behind the sign of a number are its digits. -/
theorem unsigned_append {sign : List Char} (signed : sign = [] ∨ sign = ['+'])
    (areDigits : ∀ c ∈ digits, c.isDigit = true) : unsigned (sign ++ digits) = digits := by
  rcases signed with rfl | rfl
  · -- A digit is no plus sign, so nothing is taken off.
    rw [List.nil_append, unsigned.eq_def]
    split
    · exact absurd (areDigits '+' (List.mem_cons_self ..)) (by decide)
    · rfl
  · rfl

/-- A number is read from the digits behind the sign, if there is nothing else. -/
theorem countOf?_eq_some_iff_digits {text : String} {count : Nat} :
    countOf? text = some count ↔
      unsigned (Text.trimBlanks text.toList) ≠ [] ∧
        (∀ c ∈ unsigned (Text.trimBlanks text.toList), c.isDigit = true) ∧
        Nat.ofDigitChars 10 (unsigned (Text.trimBlanks text.toList)) 0 = count := by
  have opened : countOf? text =
      if unsigned (Text.trimBlanks text.toList) ≠ [] &&
          (unsigned (Text.trimBlanks text.toList)).all Char.isDigit then
        some (Json.ofDigits 10 ((unsigned (Text.trimBlanks text.toList)).map Json.digitValue))
      else none := rfl
  rw [opened, Json.ofDigits_map_digitValue]
  simp [and_assoc]

/-- Reading finds the number that a text writes. -/
theorem countOf?_eq_some_iff {text : String} {count : Nat} :
    countOf? text = some count ↔ WritesCount text count := by
  rw [countOf?_eq_some_iff_digits]
  constructor
  · rintro ⟨nonempty, areDigits, rfl⟩
    obtain ⟨-, front, back, blankFront, blankBack, whole⟩ := Text.trimBlanks_eq_iff.mp rfl
    obtain ⟨sign, signed, split⟩ := exists_sign (Text.trimBlanks text.toList)
    have written := WritesCount.intro blankFront signed nonempty areDigits blankBack
    rwa [← split, ← whole, String.ofList_toList] at written
  · rintro ⟨blankFront, signed, nonempty, areDigits, blankBack⟩
    rw [String.toList_ofList,
      Text.trimBlanks_append blankFront (isTrimmed_append signed areDigits) blankBack,
      unsigned_append signed areDigits]
    exact ⟨nonempty, areDigits, rfl⟩

end Count

/-- Reading finds the code that a value stands for. -/
theorem codeOf?_eq_some_iff {value : Json} {code : Nat} :
    codeOf? value = some code ↔ DenotesCode value code := by
  unfold codeOf?
  rw [Option.filter_eq_some_iff, decide_eq_true_iff]
  constructor
  · rintro ⟨found, small⟩
    split at found
    · obtain rfl := Option.some.inj found
      exact .number small
    · exact .text (countOf?_eq_some_iff.mp found) small
    · cases found
  · rintro (small | ⟨written, small⟩)
    · exact ⟨rfl, small⟩
    · exact ⟨countOf?_eq_some_iff.mpr written, small⟩

example : ([.string "++1", .string "+", .string "4294967296", .ofNat 4294967296, .bool true,
    .null] : List Json).filterMap codeOf? = [] := by
  decide +kernel

/-- A value stands for one code only. -/
theorem DenotesCode.unique {value : Json} {first second : Nat} (isFirst : DenotesCode value first)
    (isSecond : DenotesCode value second) : first = second :=
  Option.some.inj ((codeOf?_eq_some_iff.mpr isFirst).symm.trans (codeOf?_eq_some_iff.mpr isSecond))

instance (value : Json) (code : Nat) : Decidable (IgnoresCode value code) :=
  decidable_of_iff ((listOf value).any fun item => codeOf? item = some code) (by
    simp [IgnoresCode, codeOf?_eq_some_iff])

/-- Codes are read from a list of values that stand for them. -/
theorem read?_ignoreDiagnostics_eq_ok_iff {value : Json} {given : Option Setting} :
    read? .ignoreDiagnostics value = .ok given ↔
      ∃ codes, List.Forall₂ DenotesCode (listOf value) codes ∧
        given = some (.ignoreDiagnostics codes) := by
  have opened : read? .ignoreDiagnostics value = some <$> read .ignoreDiagnostics value := by
    cases value <;> rfl
  simp only [opened, map_eq_ok, read_eq_ok_iff]
  constructor
  · rintro ⟨said, ⟨named, written⟩, rfl⟩
    cases written with
    | ignoreDiagnostics counted =>
      exact ⟨_, counted.imp fun _ _ => codeOf?_eq_some_iff.mp, rfl⟩
    | _ => cases named
  · rintro ⟨codes, counted, rfl⟩
    have written := counted.imp fun _ _ => codeOf?_eq_some_iff.mpr
    exact ⟨_, ⟨rfl, .ignoreDiagnostics written⟩, rfl⟩

end Setting

namespace LoaderOptions

variable {sources : OptionSources} {value : Json} {key : String}

/-- Options come out of a value if its items stand for codes, and these codes are ignored. -/
theorem merge_ignoring_eq_ok_iff (only : sources.Lists [("ignoreDiagnostics", value)])
    {options : LoaderOptions} :
    merge sources key = .ok options ↔
      ∃ codes, List.Forall₂ Setting.DenotesCode (Setting.listOf value) codes ∧
        options = { defaults key with ignoreDiagnostics := codes } := by
  have named : sources.Lists [(OptionName.ignoreDiagnostics.key, value)] := only
  simp only [merge_only_eq_ok_iff named, Setting.read?_ignoreDiagnostics_eq_ok_iff]
  constructor
  · rintro ⟨_, ⟨codes, counted, rfl⟩, rfl⟩
    exact ⟨codes, counted, rfl⟩
  · rintro ⟨codes, counted, rfl⟩
    exact ⟨_, ⟨codes, counted, rfl⟩, rfl⟩

/-- What a value of `ignoreDiagnostics` does when no other option is given. -/
structure Ignoring (value : Json) (merged : Except ConfigError LoaderOptions) : Prop where
  accepted_iff : (∃ options, merged = .ok options) ↔
    ∀ item ∈ Setting.listOf value, ∃ code, Setting.DenotesCode item code
  /-- The diagnostics with these codes are dropped; each of the others has its record, in order. -/
  records_eq : ∀ options, merged = .ok options → ∀ directory module diagnostics,
    Diagnostic.records directory options module diagnostics =
      (diagnostics.filter fun diagnostic => ¬ Setting.IgnoresCode value diagnostic.code).map
        (Diagnostic.record directory .default module)

/-- The values that are accepted are those that stand for codes, and the diagnostics that are not
reported are those with one of these codes. -/
theorem ignoring_denoted_codes (only : sources.Lists [("ignoreDiagnostics", value)])
    (key : String) : Ignoring value (merge sources key) where
  accepted_iff := by
    simp only [merge_ignoring_eq_ok_iff only, ← exists_results_iff]
    constructor
    · rintro ⟨_, codes, counted, rfl⟩
      exact ⟨codes, counted⟩
    · rintro ⟨codes, counted⟩
      exact ⟨_, codes, counted, rfl⟩
  records_eq := by
    intro options success directory module diagnostics
    obtain ⟨codes, counted, rfl⟩ := (merge_ignoring_eq_ok_iff only).mp success
    have isIgnored_iff (code : Nat) : code ∈ codes ↔ Setting.IgnoresCode value code :=
      mem_results_iff counted fun _ _ _ => Setting.DenotesCode.unique
    rw [Diagnostic.records_eq]
    simp only [isIgnored_iff]
    rfl

/-- A code after a no-break space, with a plus sign, zeros and an em space, a number, and the
largest code. -/
def looseCodes : Json :=
  .array [.string "\u00a0+0042\u2003", .ofNat 7, .string "4294967295"]

/-- A request with these codes, and a project with another one that does not count. -/
def looseCodeSources : OptionSources :=
  ⟨(∅ : RawOptions).set "ignoreDiagnostics" (.ofNat 1),
    (∅ : RawOptions).set "ignoreDiagnostics" looseCodes⟩

/-- Blanks, a sign and zeros do not matter, and a code of the project does not count beside those of
the request. -/
theorem ignoring_of_loose_codes :
    looseCodeSources.Lists [("ignoreDiagnostics", looseCodes)] ∧
      Ignoring looseCodes (merge looseCodeSources "0_default") ∧
      (merge looseCodeSources "0_default").toOption.map
          (fun options => (Diagnostic.records "/" options ""
            [⟨42, .error, "first", none, none⟩, ⟨1, .error, "second", none, none⟩,
              ⟨4294967295, .error, "third", none, none⟩,
              ⟨1, .warning, "fourth", none, none⟩]).map (·.rawMessage)) =
        some ["error TS1: second", "warning TS1: fourth"] := by
  have only : looseCodeSources.Lists [("ignoreDiagnostics", looseCodes)] := by
    rw [OptionSources.lists_singleton_iff]
    intro key
    simp only [looseCodeSources, OptionSources.effective?, RawOptions.get?_set,
      RawOptions.get?_empty]
    split <;> rfl
  exact ⟨only, ignoring_denoted_codes only "0_default", by decide +kernel⟩

end LoaderOptions

end ScriptLoader
