import Highlighter.Character

/-!
# Characters that belong to one class only

White space and quotes have no part in words and numbers: no letter, number or underscore is white
space or a quote. The tables of the classes are compared range by range.
-/

namespace Highlighter

namespace Unicode

theorem exists_range_of_covers {ranges : List CodeRange} {code : Nat}
    (covered : covers ranges code) : ∃ range ∈ ranges, range.1 ≤ code ∧ code ≤ range.2 := by
  induction ranges with
  | nil => simp [covers] at covered
  | cons range rest ih =>
      simp only [covers] at covered
      split at covered
      · simp at covered
      · next notBelow =>
          split at covered
          · next notAbove => exact ⟨range, List.mem_cons_self, by omega, notAbove⟩
          · rcases ih covered with ⟨later, member, inside⟩
            exact ⟨later, List.mem_cons_of_mem range member, inside⟩

/-- A code point lies in at most one of two tables whose ranges do not meet. -/
theorem not_covers_of_apart {left right : List CodeRange} {code : Nat}
    (apart : ∀ l ∈ left, ∀ r ∈ right, l.2 < r.1 ∨ r.2 < l.1) (covered : covers left code) :
    ¬covers right code := by
  intro coveredRight
  rcases exists_range_of_covers covered with ⟨l, leftMember, leftInside⟩
  rcases exists_range_of_covers coveredRight with ⟨r, rightMember, rightInside⟩
  have disjoint := apart l leftMember r rightMember
  omega

end Unicode

namespace Character

theorem not_hasProperty_of_isWhitespace {ascii : Char → Bool} {ranges : List Unicode.CodeRange}
    {c : Char} (whitespace : isWhitespace c)
    (asciiApart : ∀ code ∈ [9, 10, 11, 12, 13, 32], ascii (Char.ofNat code) = false)
    (apart : ∀ l ∈ Unicode.whitespaceRanges, ∀ r ∈ ranges, l.2 < r.1 ∨ r.2 < l.1) :
    ¬hasProperty ascii ranges c := by
  intro property
  unfold hasProperty at property
  split at property
  · next isAscii =>
      have code : c.toNat ∈ [9, 10, 11, 12, 13, 32] := by
        rcases Unicode.exists_range_of_covers whitespace with ⟨range, member, inside⟩
        simp only [Unicode.whitespaceRanges, List.mem_cons, List.not_mem_nil, or_false] at member
        simp only [List.mem_cons, List.not_mem_nil, or_false]
        rcases member with rfl | rfl | rfl | rfl | rfl | rfl | rfl | rfl | rfl | rfl <;> omega
      have noProperty := asciiApart c.toNat code
      rw [Char.ofNat_toNat, property] at noProperty
      simp at noProperty
  · exact Unicode.not_covers_of_apart apart whitespace property

theorem not_isAlphanumeric_of_isWhitespace {c : Char} (whitespace : isWhitespace c) :
    ¬isAlphanumeric c := by
  have noLetter : ¬isAlphabetic c :=
    not_hasProperty_of_isWhitespace whitespace (by decide) (by decide +kernel)
  have noNumber : ¬isNumeric c :=
    not_hasProperty_of_isWhitespace whitespace (by decide) (by decide +kernel)
  simp [isAlphanumeric, noLetter, noNumber]

theorem not_isWordContinue_of_isWhitespace {c : Char} (whitespace : isWhitespace c) :
    ¬isWordContinue c := by
  have noUnderscore : c ≠ '_' := by
    rintro rfl
    exact absurd whitespace (by decide)
  simp [isWordContinue, noUnderscore, not_isAlphanumeric_of_isWhitespace whitespace]

theorem not_isWordContinue_of_isQuote {c : Char} (quote : isQuote c) : ¬isWordContinue c := by
  have isEither : c = '"' ∨ c = '\'' := by simpa [isQuote] using quote
  rcases isEither with rfl | rfl <;> decide

theorem isWordContinue_of_isWordStart {c : Char} (starts : isWordStart c) : isWordContinue c := by
  have isEither : c = '_' ∨ isAlphabetic c := by simpa [isWordStart] using starts
  rcases isEither with rfl | letter
  · rfl
  · simp [isWordContinue, isAlphanumeric, letter]

theorem isWordContinue_of_isDigit {c : Char} (digit : c.isDigit) : isWordContinue c := by
  have range : 48 ≤ c.val ∧ c.val ≤ 57 := by simpa [Char.isDigit] using digit
  have isAscii : c.toNat < 0x80 :=
    Nat.lt_of_le_of_lt (UInt32.le_iff_toNat_le.mp range.2) (by decide)
  simp [isWordContinue, isAlphanumeric, isNumeric, hasProperty, isAscii, digit]

end Character

end Highlighter
