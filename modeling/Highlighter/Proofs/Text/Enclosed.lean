import Highlighter.Toml.String

/-!
# Reading text between double quotes

Two notations put text between double quotes. Both write a character as itself, as a letter behind a
backslash, or as a code point behind a backslash and a `u`; they differ in the letters, in the form
of the code points, and in the characters that may stand for themselves. One reader, which is given
these rules, serves both of them.

What the rules have to do with the writer of a notation is said of one character at a time. If each
character is written in a way that the rules know, then whatever follows, the whole text is read
back, and the quote behind it is the one that ends it.
-/

namespace Highlighter.Text

/-- How a notation reads the characters between double quotes. -/
structure QuotingRules where
  /-- The characters that may stand for themselves, besides the quote and the backslash. -/
  isPlain : Char → Bool
  /-- The character that a letter other than `u` stands for behind a backslash. -/
  ofLetter? : Char → Option Char
  /-- Reads a code point behind the `u`. -/
  readCodePoint? : List Char → Option (Char × List Char)

namespace QuotingRules

/-- Reads one character that is written in front of a text, but no quote. -/
def readChar? (rules : QuotingRules) : List Char → Option (Char × List Char)
  | '\\' :: 'u' :: rest => rules.readCodePoint? rest
  | '\\' :: letter :: rest => (rules.ofLetter? letter).map fun c => (c, rest)
  | c :: rest => if c = '\\' ∨ rules.isPlain c = false then none else some (c, rest)
  | [] => none

/-- Reads the characters of a text up to the quote that ends it. Rules that take nothing for a
character are of no use. -/
def read? (rules : QuotingRules) (text : List Char) : Option (List Char × List Char) :=
  match text with
  | [] => none
  | first :: following =>
    if first = '"' then some ([], following)
    else match rules.readChar? (first :: following) with
      | none => none
      | some (c, rest) =>
        if rest.length ≤ following.length then
          (rules.read? rest).map fun (body, after) => (c :: body, after)
        else none
termination_by text.length
decreasing_by
  simp only [List.length_cons]
  omega

/-- The ways to write a character that the rules know. -/
inductive Spells (rules : QuotingRules) : Char → List Char → Prop
  | plain {c : Char} (notBackslash : c ≠ '\\') (notQuote : c ≠ '"') (isPlain : rules.isPlain c) :
      Spells rules c [c]
  | letter {c letter : Char} (stands : rules.ofLetter? letter = some c) (notCode : letter ≠ 'u') :
      Spells rules c ['\\', letter]
  | codePoint {c : Char} {code : List Char}
      (reads : ∀ rest, rules.readCodePoint? (code ++ rest) = some (c, rest)) :
      Spells rules c ('\\' :: 'u' :: code)

variable {rules : QuotingRules} {c : Char} {written : List Char}

theorem Spells.readChar?_eq (spells : rules.Spells c written) (rest : List Char) :
    rules.readChar? (written ++ rest) = some (c, rest) := by
  cases spells with
  | plain notBackslash notQuote isPlain => simp [readChar?, notBackslash, isPlain]
  | letter stands notCode => simp [readChar?, stands]
  | codePoint reads => simpa [readChar?] using reads rest

theorem Spells.exists_cons (spells : rules.Spells c written) :
    ∃ first others, written = first :: others ∧ first ≠ '"' := by
  cases spells with
  | plain notBackslash notQuote isPlain => exact ⟨c, [], rfl, notQuote⟩
  | letter stands notCode => exact ⟨_, _, rfl, by decide⟩
  | codePoint reads => exact ⟨_, _, rfl, by decide⟩

theorem read?_quote (rest : List Char) : rules.read? ('"' :: rest) = some ([], rest) := by
  rw [read?]
  simp

theorem Spells.read?_append (spells : rules.Spells c written) (rest : List Char) :
    rules.read? (written ++ rest) =
      (rules.read? rest).map fun (body, after) => (c :: body, after) := by
  have reads := spells.readChar?_eq rest
  rcases spells.exists_cons with ⟨first, others, rfl, notQuote⟩
  rw [List.cons_append] at reads ⊢
  rw [read?, if_neg notQuote, reads]
  simp

/-- What is written character by character is read back, together with the text behind the quote
that ends it. -/
theorem read?_flatMap {write : Char → List Char} (spells : ∀ c, rules.Spells c (write c))
    (body rest : List Char) :
    rules.read? (body.flatMap write ++ '"' :: rest) = some (body, rest) := by
  induction body with
  | nil => exact read?_quote rest
  | cons c body ih =>
      rw [List.flatMap_cons, List.append_assoc, (spells c).read?_append, ih]
      rfl

end QuotingRules

/-! ### Hexadecimal numerals -/

theorem hexValue?_hexDigit : ∀ value < 16, hexValue? (hexDigit value) = some value := by
  decide

/-- The values of the digits of a numeral, from the first to the last, make up the number. -/
theorem exists_values_hexNumeral (number : Nat) :
    ∃ values, (hexNumeral number).mapM hexValue? = some values ∧
      values.foldl (fun code value => 16 * code + value) 0 = number := by
  fun_induction hexNumeral number with
  | case1 number small =>
      refine ⟨[number], ?_, by simp⟩
      simp [hexValue?_hexDigit number small]
  | case2 number large ih =>
      rcases ih with ⟨values, read, value⟩
      have last := hexValue?_hexDigit (number % 16) (by omega)
      refine ⟨values ++ [number % 16], ?_, ?_⟩
      · simp [List.mapM_append, read, last]
      · rw [List.foldl_append, value]
        simp only [List.foldl_cons, List.foldl_nil]
        omega

theorem hexNumeral_ne_nil (number : Nat) : hexNumeral number ≠ [] := by
  fun_induction hexNumeral number with
  | case1 number small => simp
  | case2 number large ih => simp

theorem hexValue?_of_mem_hexNumeral {number : Nat} {c : Char} (member : c ∈ hexNumeral number) :
    hexValue? c ≠ none := by
  fun_induction hexNumeral number with
  | case1 number small =>
      rw [List.mem_singleton.mp member, hexValue?_hexDigit number small]
      simp
  | case2 number large ih =>
      rcases List.mem_append.mp member with front | last
      · exact ih front
      · rw [List.mem_singleton.mp last, hexValue?_hexDigit (number % 16) (by omega)]
        simp

/-- A character is read back from the numeral of its code point. -/
theorem charOfDigits?_hexNumeral (c : Char) :
    Toml.charOfDigits? (hexNumeral c.toNat) = some c := by
  rcases exists_values_hexNumeral c.toNat with ⟨values, read, value⟩
  have valid : c.toNat.isValidChar := c.valid
  simp [Toml.charOfDigits?, read, value, valid, Char.ofNat_toNat]

end Highlighter.Text
