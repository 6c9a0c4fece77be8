import Highlighter.Json
import Highlighter.Proofs.Text.Enclosed
import Mathlib.Data.List.Basic

/-!
# Reading data interchange notation

The part of the notation that listings are written in: strings, arrays and objects, with blanks
between them wherever the notation allows some. Whatever this reader accepts is a text of the whole
notation and means the same there; numbers and the three literal names are refused.

Strings are read back from what is written for them. A list of values is read back if each of its
values is, where the values are separated by commas and line breaks and blanks stand in front of the
bracket that closes the list.
-/

namespace Highlighter.Json

/-- A value that is made of strings, arrays and objects. -/
inductive Value where
  /-- A string. -/
  | string (text : String)
  /-- A list of values. -/
  | array (items : List Value)
  /-- A list of values with names. -/
  | object (members : List (String × Value))

/-! ### Strings -/

/-- The character that a letter stands for behind a backslash. -/
def ofLetter? : Char → Option Char
  | '"' => some '"'
  | '\\' => some '\\'
  | '/' => some '/'
  | 'b' => some '\x08'
  | 'f' => some '\x0c'
  | 'n' => some '\n'
  | 'r' => some '\r'
  | 't' => some '\t'
  | _ => none

/-- Reads a code point of four digits. The halves of a pair, which are no characters, are refused. -/
def readCodePoint? : List Char → Option (Char × List Char)
  | a :: b :: c :: d :: rest => (Toml.charOfDigits? [a, b, c, d]).map fun read => (read, rest)
  | _ => none

/-- The rules of strings, in which no control character below the space stands for itself. -/
def rules : Text.QuotingRules where
  isPlain c := !decide (c.toNat < 0x20)
  ofLetter? := ofLetter?
  readCodePoint? := readCodePoint?

/-- Reads a string behind its opening quote. -/
def readString? (text : List Char) : Option (String × List Char) :=
  (rules.read? text).map fun (body, rest) => (String.ofList body, rest)

theorem ofLetter?_of_escapeLetter? {c letter : Char} (written : escapeLetter? c = some letter) :
    ofLetter? letter = some c ∧ letter ≠ 'u' := by
  unfold escapeLetter? at written
  split at written <;> cases written <;> decide

/-- The four digits of a control character below the space are read back. -/
theorem readCodePoint?_hexPadded {c : Char} (control : c.toNat < 0x20) (rest : List Char) :
    readCodePoint? (Text.hexPadded 4 c.toNat ++ rest) = some (c, rest) := by
  have digits : ∀ code < 0x20, (Text.hexPadded 4 code).length = 4 ∧
      Toml.charOfDigits? (Text.hexPadded 4 code) = some (Char.ofNat code) := by
    decide +kernel
  rcases digits c.toNat control with ⟨four, read⟩
  rcases List.length_eq_four.mp four with ⟨first, second, third, last, written⟩
  rw [written] at read ⊢
  simp [readCodePoint?, read, Char.ofNat_toNat]

/-- Characters are written by the rules. -/
theorem spells_escape (c : Char) : rules.Spells c (escape c) := by
  unfold escape
  cases written : escapeLetter? c with
  | some letter =>
      rcases ofLetter?_of_escapeLetter? written with ⟨stands, notCode⟩
      exact Text.QuotingRules.Spells.letter stands notCode
  | none =>
      by_cases control : c.toNat < 0x20
      · simp only [if_pos control]
        exact Text.QuotingRules.Spells.codePoint (readCodePoint?_hexPadded control)
      · simp only [if_neg control]
        apply Text.QuotingRules.Spells.plain
        · rintro rfl
          nomatch written
        · rintro rfl
          nomatch written
        · simp [rules, control]

/-- A string starts with a quote, and is read back behind it. -/
theorem exists_readString?_string (text : String) :
    ∃ body, (string text).toList = '"' :: body ∧
      ∀ rest, readString? (body ++ rest) = some (text, rest) := by
  refine ⟨text.toList.flatMap escape ++ ['"'], by simp [string], ?_⟩
  intro rest
  have read := Text.QuotingRules.read?_flatMap spells_escape text.toList rest
  simp [readString?, read, String.ofList_toList]

/-! ### Lists -/

/-- A character that may stand between the parts of a value. -/
def isBlank (c : Char) : Bool :=
  c == ' ' || c == '\t' || c == '\n' || c == '\r'

/-- Drops the blanks at the start. -/
def dropBlanks (text : List Char) : List Char :=
  text.dropWhile isBlank

/-- Reads values that are separated by commas, of which there is at least one, and the bracket that
closes them. A separator has to leave less text than there was. -/
def readSeparated? {α : Type} (readItem? : List Char → Option (α × List Char)) (close : Char)
    (text : List Char) : Option (List α × List Char) :=
  match readItem? text with
  | none => none
  | some (item, rest) => match dropBlanks rest with
    | [] => none
    | c :: after =>
      if c = close then some ([item], after)
      else if c = ',' ∧ after.length < text.length then
        (readSeparated? readItem? close after).map fun (items, after) => (item :: items, after)
      else none
termination_by text.length
decreasing_by
  simp_all

/-- Reads values behind the bracket that opens them. -/
def readList? {α : Type} (readItem? : List Char → Option (α × List Char)) (close : Char)
    (text : List Char) : Option (List α × List Char) :=
  if (dropBlanks text).head? = some close then some ([], (dropBlanks text).tail)
  else readSeparated? readItem? close text

/-- Reads a name, a colon and a value. -/
def readMember? (readValue? : List Char → Option (Value × List Char)) (text : List Char) :
    Option ((String × Value) × List Char) := do
  let '"' :: rest := dropBlanks text | none
  let (name, rest) ← readString? rest
  let ':' :: rest := dropBlanks rest | none
  let (value, rest) ← readValue? rest
  return ((name, value), rest)

/-- Reads a value in which brackets are nested less deeply than the bound says. -/
def readValue? : Nat → List Char → Option (Value × List Char)
  | 0, _ => none
  | depth + 1, text => match dropBlanks text with
    | '"' :: rest => (readString? rest).map fun (text, rest) => (.string text, rest)
    | '[' :: rest =>
      (readList? (readValue? depth) ']' rest).map fun (items, rest) => (.array items, rest)
    | '\x7b' :: rest =>
      (readList? (readMember? (readValue? depth)) '\x7d' rest).map fun (members, rest) =>
        (.object members, rest)
    | _ => none

/-- How deeply brackets may be nested. -/
def nestingLimit : Nat := 128

/-- Reads a text that is one value with nothing but blanks around it. -/
def read? (text : String) : Option Value := do
  let (value, rest) ← readValue? nestingLimit text.toList
  if dropBlanks rest = [] then return value else none

@[simp]
theorem isBlank_space : isBlank ' ' = true := rfl

@[simp]
theorem isBlank_newline : isBlank '\n' = true := rfl

theorem dropBlanks_cons {c : Char} (visible : isBlank c = false) (rest : List Char) :
    dropBlanks (c :: rest) = c :: rest := by
  simp [dropBlanks, visible]

theorem dropBlanks_append {gap : List Char} (blank : ∀ c ∈ gap, isBlank c) (rest : List Char) :
    dropBlanks (gap ++ rest) = dropBlanks rest :=
  List.dropWhile_append_of_pos blank

theorem readValue?_append {gap : List Char} (blank : ∀ c ∈ gap, isBlank c) (depth : Nat)
    (rest : List Char) : readValue? depth (gap ++ rest) = readValue? depth rest := by
  cases depth with
  | zero => rfl
  | succ depth => rw [readValue?, readValue?, dropBlanks_append blank]

theorem readMember?_append {gap : List Char} (blank : ∀ c ∈ gap, isBlank c)
    (readValue? : List Char → Option (Value × List Char)) (rest : List Char) :
    readMember? readValue? (gap ++ rest) = readMember? readValue? rest := by
  rw [readMember?, readMember?, dropBlanks_append blank]

section

variable {α β : Type} {readItem? : List Char → Option (β × List Char)} {close : Char}
  {write : α → List Char} {item : α → β} {between : List Char}

/-- The reader takes what is written for an item, with blanks in front of it. -/
def ReadsBack (readItem? : List Char → Option (β × List Char)) (write : α → List Char)
    (item : α → β) : Prop :=
  ∀ a {lead : List Char}, (∀ c ∈ lead, isBlank c) → ∀ rest,
    readItem? (lead ++ (write a ++ rest)) = some (item a, rest)

/-- Items with commas and blanks between them are read back up to the closing bracket, in front of
which there may be blanks. -/
theorem ReadsBack.readSeparated?_intercalate (reads : ReadsBack readItem? write item)
    (visible : isBlank close = false) (notComma : close ≠ ',')
    (betweenBlank : ∀ c ∈ between, isBlank c) {gap : List Char} (gapBlank : ∀ c ∈ gap, isBlank c)
    (first : α) (others : List α) {lead : List Char} (leadBlank : ∀ c ∈ lead, isBlank c)
    (rest : List Char) :
    readSeparated? readItem? close
        (lead ++ ((',' :: between).intercalate ((first :: others).map write) ++
          (gap ++ close :: rest))) =
      some ((first :: others).map item, rest) := by
  induction others generalizing first lead with
  | nil =>
      rw [readSeparated?]
      simp [reads first leadBlank, dropBlanks_append gapBlank, dropBlanks_cons visible]
  | cons second others ih =>
      have behind := ih second betweenBlank
      have commaVisible : isBlank ',' = false := by decide
      rw [List.map_cons, List.map_cons, List.intercalate_cons_cons, ← List.map_cons]
      simp only [List.append_assoc, List.cons_append]
      rw [readSeparated?, reads first leadBlank]
      simp only [dropBlanks_cons commaVisible, if_neg notComma.symm]
      rw [if_pos, behind]
      · rfl
      · refine ⟨trivial, ?_⟩
        simp only [List.length_append, List.length_cons]
        omega

theorem ReadsBack.readList?_intercalate (reads : ReadsBack readItem? write item)
    (visible : isBlank close = false) (notComma : close ≠ ',')
    (opens : ∀ a rest, (dropBlanks (write a ++ rest)).head? ≠ some close)
    (betweenBlank : ∀ c ∈ between, isBlank c) {gap : List Char} (gapBlank : ∀ c ∈ gap, isBlank c)
    (first : α) (others : List α) {lead : List Char} (leadBlank : ∀ c ∈ lead, isBlank c)
    (rest : List Char) :
    readList? readItem? close
        (lead ++ ((',' :: between).intercalate ((first :: others).map write) ++
          (gap ++ close :: rest))) =
      some ((first :: others).map item, rest) := by
  have separated := reads.readSeparated?_intercalate visible notComma betweenBlank gapBlank first
    others leadBlank rest
  rw [readList?, if_neg, separated]
  rw [dropBlanks_append leadBlank]
  cases others with
  | nil => simpa using opens first _
  | cons second others =>
      rw [List.map_cons, List.map_cons, List.intercalate_cons_cons]
      simpa using opens first _

end

/-! ### Values -/

theorem readValue?_quote (depth : Nat) (rest : List Char) :
    readValue? (depth + 1) ('"' :: rest) =
      (readString? rest).map fun (text, rest) => (.string text, rest) := rfl

theorem readValue?_bracket (depth : Nat) (rest : List Char) :
    readValue? (depth + 1) ('[' :: rest) =
      (readList? (readValue? depth) ']' rest).map fun (items, rest) => (.array items, rest) := rfl

theorem readValue?_brace (depth : Nat) (rest : List Char) :
    readValue? (depth + 1) ('\x7b' :: rest) =
      (readList? (readMember? (readValue? depth)) '\x7d' rest).map fun (members, rest) =>
        (.object members, rest) := rfl

/-- A string is read back as a value. -/
theorem readValue?_string (depth : Nat) (text : String) (rest : List Char) :
    readValue? (depth + 1) ((string text).toList ++ rest) = some (.string text, rest) := by
  rcases exists_readString?_string text with ⟨body, written, read⟩
  rw [written, List.cons_append, readValue?_quote, read]
  rfl

/-- The text of a member of an object whose value is a string. -/
def writeMember (member : String × String) : List Char :=
  (string member.1).toList ++ ':' :: ' ' :: (string member.2).toList

theorem head?_dropBlanks_writeMember_ne {close : Char} (notQuote : close ≠ '"')
    (member : String × String) (rest : List Char) :
    (dropBlanks (writeMember member ++ rest)).head? ≠ some close := by
  rcases exists_readString?_string member.1 with ⟨body, written, -⟩
  have quoteVisible : isBlank '"' = false := by decide
  rw [writeMember, written]
  simp [dropBlanks_cons quoteVisible, notQuote.symm]

theorem readsBack_writeMember (depth : Nat) :
    ReadsBack (readMember? (readValue? (depth + 1))) writeMember fun member =>
      (member.1, Value.string member.2) := by
  rintro ⟨name, text⟩ lead blank rest
  rcases exists_readString?_string name with ⟨body, written, read⟩
  have quoteVisible : isBlank '"' = false := by decide
  have colonVisible : isBlank ':' = false := by decide
  have space : ∀ c ∈ [' '], isBlank c := by simp
  have value := readValue?_append space (depth + 1) ((string text).toList ++ rest)
  rw [readValue?_string, List.singleton_append] at value
  rw [readMember?_append blank, readMember?, writeMember]
  simp only [written, List.cons_append, List.append_assoc, dropBlanks_cons quoteVisible]
  simp only [Option.bind_eq_bind, Option.bind_some, read, dropBlanks_cons colonVisible]
  rw [value]
  rfl

end Highlighter.Json
