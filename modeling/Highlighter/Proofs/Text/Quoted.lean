import Highlighter.Proofs.Text.Enclosed
import Highlighter.Proofs.Toml.Text
import Highlighter.Text.Quoted

/-!
# Reading quoted text

Quoted text is read by its own rules: behind a backslash stands a letter for a control character,
a quote or a backslash, or the code point of a character in braces, and every other character
stands for itself. What is quoted for people is read back as the text it was, whatever the text
holds, and takes a single line.
-/

namespace Highlighter.Text.Quoted

/-- The character that a letter stands for behind a backslash. -/
def ofLetter? : Char → Option Char
  | '0' => some '\x00'
  | 't' => some '\t'
  | 'r' => some '\r'
  | 'n' => some '\n'
  | '\\' => some '\\'
  | '"' => some '"'
  | '\'' => some '\''
  | _ => none

/-- Reads a code point between braces. -/
def readCodePoint? : List Char → Option (Char × List Char)
  | '\x7b' :: text =>
    let digits := text.takeWhile (· ≠ '\x7d')
    match text.dropWhile (· ≠ '\x7d') with
    | [] => none
    | _ :: rest =>
      if digits = [] then none else (Toml.charOfDigits? digits).map fun c => (c, rest)
  | _ => none

/-- The rules of quoted text, in which every character may stand for itself. -/
def rules : QuotingRules where
  isPlain _ := true
  ofLetter? := ofLetter?
  readCodePoint? := readCodePoint?

/-- Reads a text that stands in double quotes and has nothing behind them. -/
def read? : List Char → Option String
  | '"' :: rest => match rules.read? rest with
    | some (body, []) => some (String.ofList body)
    | _ => none
  | _ => none

theorem readCodePoint?_hexNumeral (c : Char) (rest : List Char) :
    readCodePoint? ('\x7b' :: (hexNumeral c.toNat ++ '\x7d' :: rest)) = some (c, rest) := by
  have inside : ∀ digit ∈ hexNumeral c.toNat, (digit ≠ '\x7d' : Bool) := by
    intro digit member
    have isDigit := hexValue?_of_mem_hexNumeral member
    apply decide_eq_true
    rintro rfl
    exact isDigit (by decide)
  have ends : ∀ digit ∈ ('\x7d' :: rest).head?, (digit ≠ '\x7d' : Bool) = false := by
    simp
  simp only [readCodePoint?, Toml.takeWhile_append_eq inside ends,
    Toml.dropWhile_append_eq inside ends, if_neg (hexNumeral_ne_nil c.toNat),
    charOfDigits?_hexNumeral c, Option.map_some]

theorem ofLetter?_of_escapeLetter? {c letter : Char} (written : escapeLetter? c = some letter) :
    ofLetter? letter = some c ∧ letter ≠ 'u' := by
  unfold escapeLetter? at written
  split at written <;> cases written <;> decide

/-- Characters are written by the rules. -/
theorem spells_escape (c : Char) : rules.Spells c (escape '"' c) := by
  unfold escape
  by_cases quote : c = '"'
  · rw [if_pos quote]
    apply QuotingRules.Spells.letter
    · rw [quote]
      rfl
    · rw [quote]
      decide
  · rw [if_neg quote]
    cases written : escapeLetter? c with
    | some letter =>
        rcases ofLetter?_of_escapeLetter? written with ⟨stands, notCode⟩
        exact QuotingRules.Spells.letter stands notCode
    | none =>
        have notBackslash : c ≠ '\\' := by
          rintro rfl
          nomatch written
        by_cases shown : isShown c
        · simp only [if_pos shown]
          exact QuotingRules.Spells.plain notBackslash quote rfl
        · simp only [if_neg shown]
          apply QuotingRules.Spells.codePoint
          intro rest
          simpa [rules] using readCodePoint?_hexNumeral c rest

/-- Quoted text is read back. -/
theorem read?_string (text : String) : read? (string text).toList = some text := by
  have read := QuotingRules.read?_flatMap spells_escape text.toList []
  simp [string, enclose, read?, read, String.ofList_toList]

/-! ### Quoted text takes a single line -/

theorem newline_not_mem_hexNumeral (number : Nat) : '\n' ∉ hexNumeral number := by
  intro member
  exact hexValue?_of_mem_hexNumeral member (by decide)

theorem newline_not_mem_escape (c : Char) : '\n' ∉ escape '"' c := by
  by_cases newline : c = '\n'
  · rw [newline]
    decide
  · unfold escape
    split
    · simp [Ne.symm newline]
    · split
      · next letter written =>
          have stands := (ofLetter?_of_escapeLetter? written).1
          intro member
          have isNewline : '\n' = letter := by simpa using member
          rw [← isNewline] at stands
          nomatch stands
      · split
        · simp [Ne.symm newline]
        · simp [codePoint, newline_not_mem_hexNumeral]

theorem newline_not_mem_string (text : String) : '\n' ∉ (string text).toList := by
  simp [string, enclose, newline_not_mem_escape]

end Highlighter.Text.Quoted
