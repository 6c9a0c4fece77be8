import Highlighter.Toml.String
import Highlighter.Toml.Writer

/-!
# Escapes

In double quotes a character is written as itself or as a backslash with a code behind it. Reading
the code gives the character back, wherever the code stands.
-/

namespace Highlighter.Toml

/-- What is written behind a backslash for a character that does not stand for itself: a letter, the
character itself, or its code point. Over several `lines` a newline stands for itself, and so does
a double quote before which fewer than two stand. -/
def escapeCode? (lines : Bool) (quotes : Nat) (c : Char) : Option (List Char) :=
  if c = '"' then if lines ∧ quotes < 2 then none else some ['"']
  else if c = '\n' then if lines then none else some ['n']
  else match escapeLetter? c with
    | some letter => some [letter]
    | none =>
      if isControl c then some ('u' :: (Text.hexPadded 4 c.toNat).map Char.toUpper) else none

/-- The number of double quotes that stand for themselves right before the next character. -/
def quotesBehind (lines : Bool) (quotes : Nat) (c : Char) : Nat :=
  if c = '"' ∧ lines ∧ quotes < 2 then quotes + 1 else 0

theorem escaped_cons (lines : Bool) (quotes : Nat) (c : Char) (rest : List Char) :
    escaped lines quotes (c :: rest) =
      match escapeCode? lines quotes c with
      | some code => '\\' :: code ++ escaped lines (quotesBehind lines quotes c) rest
      | none => c :: escaped lines (quotesBehind lines quotes c) rest := by
  rw [escaped]
  by_cases quote : c = '"'
  · by_cases plain : lines ∧ quotes < 2
    · simp only [escapeCode?, quotesBehind, quote, if_true, if_pos plain, true_and]
    · simp only [escapeCode?, quotesBehind, quote, if_true, if_neg plain, true_and]
      rfl
  · by_cases newline : c = '\n'
    · cases lines <;> simp [escapeCode?, quotesBehind, newline]
    · simp only [escapeCode?, quotesBehind, quote, newline, if_false, false_and]
      cases escapeLetter? c with
      | some letter => rfl
      | none =>
          by_cases control : isControl c
          · simp [control]
          · simp [control]

theorem escaped_cons_of_code {lines : Bool} {quotes : Nat} {c : Char} {code : List Char}
    (written : escapeCode? lines quotes c = some code) (rest : List Char) :
    escaped lines quotes (c :: rest) =
      '\\' :: (code ++ escaped lines (quotesBehind lines quotes c) rest) := by
  rw [escaped_cons, written]
  rfl

theorem escaped_cons_of_plain {lines : Bool} {quotes : Nat} {c : Char}
    (plain : escapeCode? lines quotes c = none) (rest : List Char) :
    escaped lines quotes (c :: rest) =
      c :: escaped lines (quotesBehind lines quotes c) rest := by
  rw [escaped_cons, plain]

theorem toNat_lt_of_isControl {c : Char} (control : isControl c) : c.toNat < 0x80 := by
  simp only [isControl, isText, Bool.and_eq_true, Bool.not_eq_true', Bool.or_eq_false_iff,
    Bool.and_eq_false_iff, decide_eq_false_iff_not] at control
  omega

/-- The digits of a code point below 128 are read back as the character. -/
theorem charOfDigits?_hexPadded :
    ∀ code < 0x80, charOfDigits? ((Text.hexPadded 4 code).map Char.toUpper) =
        some (Char.ofNat code) ∧ (Text.hexPadded 4 code).length = 4 := by
  decide +kernel

theorem escapedChar?_of_escapeLetter? {c letter : Char} (written : escapeLetter? c = some letter) :
    letter ∈ ['b', 't', 'f', 'r', '\\'] ∧ escapedChar? letter = some c := by
  unfold escapeLetter? at written
  split at written
  all_goals
    simp only [Option.some.injEq, reduceCtorEq] at written
    try subst written
    try decide

/-- A code is a single letter that stands for the character, or its code point in four digits. -/
theorem letter_or_digits_of_escapeCode? {lines : Bool} {quotes : Nat} {c : Char} {code : List Char}
    (written : escapeCode? lines quotes c = some code) :
    (∃ letter ∈ ['"', 'n', 'b', 't', 'f', 'r', '\\'],
        escapedChar? letter = some c ∧ code = [letter]) ∨
      (isControl c ∧ code = 'u' :: (Text.hexPadded 4 c.toNat).map Char.toUpper) := by
  unfold escapeCode? at written
  split at written
  · next quote =>
      split at written
      · nomatch written
      · rcases Option.some.inj written with rfl
        exact Or.inl ⟨'"', by simp, by rw [quote]; rfl, rfl⟩
  · split at written
    · next newline =>
        split at written
        · nomatch written
        · rcases Option.some.inj written with rfl
          exact Or.inl ⟨'n', by simp, by rw [newline]; rfl, rfl⟩
    · split at written
      · next letter isLetter =>
          rcases Option.some.inj written with rfl
          rcases escapedChar?_of_escapeLetter? isLetter with ⟨known, read⟩
          exact Or.inl ⟨letter, by simp_all, read, rfl⟩
      · split at written
        · next control =>
            exact Or.inr ⟨control, (Option.some.inj written).symm⟩
        · nomatch written

/-- A code is not taken for the end of a line behind a backslash. -/
theorem lineBreak?_dropBlanks_code {lines : Bool} {quotes : Nat} {c : Char} {code : List Char}
    (written : escapeCode? lines quotes c = some code) (rest : List Char) :
    lineBreak? (dropBlanks (code ++ rest)) = none := by
  rcases letter_or_digits_of_escapeCode? written with ⟨letter, known, -, rfl⟩ | ⟨-, rfl⟩
  · have visible : isBlank letter = false ∧ letter ≠ '\n' ∧ letter ≠ '\r' := by
      simp only [List.mem_cons, List.not_mem_nil, or_false] at known
      rcases known with rfl | rfl | rfl | rfl | rfl | rfl | rfl
      all_goals decide
    simp [dropBlanks, visible, lineBreak?]
  · simp [dropBlanks, isBlank, lineBreak?]

/-- What stands for itself is no backslash and no control character but the tab, over several lines
the newline, and a double quote only there. -/
theorem plain_of_escapeCode?_eq_none {lines : Bool} {quotes : Nat} {c : Char}
    (plain : escapeCode? lines quotes c = none) :
    c ≠ '\\' ∧ (lines ∧ c = '\n' ∨ isText c) ∧ (c = '"' → lines ∧ quotes < 2) := by
  unfold escapeCode? at plain
  split at plain
  · next quote =>
      split at plain
      · next allowed =>
          subst quote
          exact ⟨by decide, Or.inr (by decide), fun _ => allowed⟩
      · nomatch plain
  · next notQuote =>
      split at plain
      · next newline =>
          split at plain
          · next several =>
              refine ⟨?_, Or.inl ⟨several, newline⟩, fun quote => absurd quote notQuote⟩
              simp [newline]
          · nomatch plain
      · next notNewline =>
          split at plain
          · nomatch plain
          · next notLetter =>
              split at plain
              · nomatch plain
              · next notControl =>
                  refine ⟨?_, Or.inr ?_, fun quote => absurd quote notQuote⟩
                  · intro backslash
                    subst backslash
                    nomatch notLetter
                  · simpa [isControl, notNewline] using notControl

theorem escape?_code {lines : Bool} {quotes : Nat} {c : Char} {code : List Char}
    (written : escapeCode? lines quotes c = some code) (rest : List Char) :
    escape? (code ++ rest) = some (c, code.length) := by
  rcases letter_or_digits_of_escapeCode? written with ⟨letter, known, read, rfl⟩ | ⟨control, rfl⟩
  · have small : letter ≠ 'u' := by rintro rfl; simp at known
    have large : letter ≠ 'U' := by rintro rfl; simp at known
    simpa [escape?, small, large] using read
  · rcases charOfDigits?_hexPadded c.toNat (toNat_lt_of_isControl control) with ⟨read, digits⟩
    have taken : ((Text.hexPadded 4 c.toNat).map Char.toUpper ++ rest).take 4 =
        (Text.hexPadded 4 c.toNat).map Char.toUpper := by
      rw [List.take_append_of_le_length (by simp [digits]), List.take_of_length_le]
      simp [digits]
    simp [escape?, taken, read, digits, Char.ofNat_toNat]

end Highlighter.Toml
