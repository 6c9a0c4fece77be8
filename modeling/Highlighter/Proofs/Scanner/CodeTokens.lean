import Highlighter.Proofs.Scanner.OpeningCharacters

/-!
# White space and quotes end tokens of code

Numbers, words, operators and punctuation are tokens of code. No rule of theirs starts at white
space or at a quote, since the rules for white space and literals come first, and the checks of a
definition keep both out of the characters that continue numbers and words. The characters that
continue operators are not checked: where they hold white space or a quote, an operator reaches
across it. In every other language a quote always opens a literal, unless it stands in one or in a
comment or directive, and white space always is text.
-/

namespace Highlighter

/-- Decides whether tokens of a kind are code, rather than text, comments, literals or
directives. -/
def TokenKind.isCode : TokenKind → Bool
  | number | identifier | keyword | type | operator | punctuation => true
  | text | comment | string | preprocessor => false

/-- White space and quotes stand outside of code. -/
structure Token.SeparateCode (tokens : List Token) : Prop where
  /-- Tokens of code hold no white space and no quotes. -/
  code : ∀ token ∈ tokens, token.kind.isCode → ∀ c ∈ token.lexeme.toList, ¬Definition.endsCode c
  /-- A quote stands in a comment, in a directive or in a literal, which a quote opens. -/
  quote : ∀ token ∈ tokens, ∀ c ∈ token.lexeme.toList, Character.isQuote c →
    token.kind = .comment ∨ token.kind = .preprocessor ∨
      token.kind = .string ∧ ∃ opener body, token.lexeme.toList = opener :: body ∧
        Character.isQuote opener
  /-- White space stands in text, in a comment, in a directive or in a literal. -/
  whitespace : ∀ token ∈ tokens, ∀ c ∈ token.lexeme.toList, Character.isWhitespace c →
    token.kind = .text ∨ token.kind = .comment ∨ token.kind = .preprocessor ∨ token.kind = .string

namespace Scanner

/-! ### The characters of a token -/

namespace Rule

variable {language : Language} {first : Char} {following : List Char} {rule : Rule}

/-- White space and quotes have rules of their own, which come before those of code. -/
theorem Decides.not_endsCode_first (decides : rule.Decides language first following)
    (notWhitespace : rule ≠ whitespace) (notLiteral : rule ≠ literal) :
    ¬Definition.endsCode first := by
  intro ends
  have isEither : Character.isWhitespace first ∨ Character.isQuote first := by
    simpa [Definition.endsCode] using ends
  rcases isEither with isWhitespace | quote
  · have whitespaceDecides : whitespace.Decides language first following :=
      decides_iff.mpr ⟨isWhitespace, by simp [before, all]⟩
    exact notWhitespace (decides.unique whitespaceDecides)
  · have opens : first = '"' ∨ first = '\'' := by simpa [Character.isQuote] using quote
    have literalDecides : literal.Decides language first following := by
      refine decides_iff.mpr ⟨opens, ?_⟩
      rcases opens with rfl | rfl <;>
        simp [before, all, Applies, (by decide : Character.isWhitespace '"' = false),
          (by decide : Character.isWhitespace '\'' = false)]
    exact notLiteral (decides.unique literalDecides)

theorem not_endsCode_of_continuesNumber (wellFormed : language.WellFormed) {c : Char}
    (continues : language.continuesNumber c) : ¬Definition.endsCode c := by
  rcases Language.continuesNumber_iff.mp continues with digit | listed
  · exact Definition.not_endsCode_of_isWordContinue (Character.isWordContinue_of_isDigit digit)
  · exact wellFormed.numberChars c listed

theorem not_endsCode_of_continuesWord (wellFormed : language.WellFormed) {c : Char}
    (continues : language.continuesWord c) : ¬Definition.endsCode c := by
  have isEither : Character.isWordContinue c ∨ c ∈ language.wordExtra := by
    simpa [Language.continuesWord] using continues
  rcases isEither with wordCharacter | extra
  · exact Definition.not_endsCode_of_isWordContinue wordCharacter
  · exact wellFormed.wordExtra c extra

/-- Only an operator can hold a character that ends code, behind its first character. -/
theorem Decides.operator_of_endsCode (wellFormed : language.WellFormed)
    (decides : rule.Decides language first following)
    (code : (rule.found language first following).kind.isCode) {c : Char}
    (member : c ∈ first :: (rule.cut language first following).1)
    (ends : Definition.endsCode c) : rule = operator ∧ c ∈ language.operatorContinue := by
  have notWhitespace : rule ≠ whitespace := by
    rintro rfl
    simp [found, kind, TokenKind.isCode] at code
  have notLiteral : rule ≠ literal := by
    rintro rfl
    simp [found, kind, TokenKind.isCode] at code
  have behind : c ∈ (rule.cut language first following).1 := by
    rcases List.mem_cons.mp member with rfl | behind
    · exact absurd ends (decides.not_endsCode_first notWhitespace notLiteral)
    · exact behind
  cases rule with
  | number =>
      have continues : language.continuesNumber c := List.mem_takeWhile_imp behind
      exact absurd ends (not_endsCode_of_continuesNumber wellFormed continues)
  | word =>
      have continues : language.continuesWord c := List.mem_takeWhile_imp behind
      exact absurd ends (not_endsCode_of_continuesWord wellFormed continues)
  | operator =>
      have continues : language.operatorContinue.contains c := List.mem_takeWhile_imp behind
      exact ⟨rfl, OrderedSet.contains_iff_mem.mp continues⟩
  | punctuation => simp [cut, emptyCut] at behind
  | whitespace | lineComment | blockComment | literal | directive | other =>
      simp [found, kind, TokenKind.isCode] at code

/-- Text holds no quotes. -/
theorem Decides.not_isQuote_of_text (decides : rule.Decides language first following)
    (text : (rule.found language first following).kind = .text) {c : Char}
    (member : c ∈ first :: (rule.cut language first following).1) : ¬Character.isQuote c := by
  have rules := rule.mem_rulesOf_kind language first (rule.cut language first following).1
  have kind : rule.kind language first (rule.cut language first following).1 = .text := text
  rw [kind] at rules
  have isEither : rule = whitespace ∨ rule = other := by simpa [rulesOf] using rules
  rcases isEither with rfl | rfl
  · have allWhitespace : Character.isWhitespace c := by
      rcases List.mem_cons.mp member with rfl | behind
      · exact (decides_iff.mp decides).1
      · exact List.mem_takeWhile_imp behind
    intro quote
    have isEither : c = '"' ∨ c = '\'' := by simpa [Character.isQuote] using quote
    rcases isEither with rfl | rfl <;> exact absurd allWhitespace (by decide)
  · have alone : c = first := by simpa [cut, emptyCut] using member
    have noEnd := decides.not_endsCode_first (by simp) (by simp)
    intro quote
    exact noEnd (by simp [Definition.endsCode, ← alone, quote])

end Rule

/-! ### All tokens -/

/-- A token of code that holds white space or a quote is an operator, which the language can start
and continue with the character. -/
theorem operator_of_mem_scan {language : Language} (wellFormed : language.WellFormed)
    {text : List Char} {token : Token} (member : token ∈ scan language text)
    (code : token.kind.isCode) {c : Char} (held : c ∈ token.lexeme.toList)
    (ends : Definition.endsCode c) :
    token.kind = .operator ∧ c ∈ language.operatorContinue ∧
      ∃ first ∈ language.operatorStart, ¬Character.isCommonOpener first := by
  rcases exists_found_of_mem_scan member with ⟨first, following, rule, decides, rfl⟩
  rw [toList_lexeme_token] at held
  rcases decides.operator_of_endsCode wellFormed code held ends with ⟨rfl, continues⟩
  have listed : first ∈ language.operatorStart := (Rule.decides_iff.mp decides).1
  have opens := ((Rule.decides_operator_iff wellFormed listed following).mp decides).1
  exact ⟨rfl, continues, first, listed, opens⟩

theorem separateCode_of_code {language : Language} {text : List Char}
    (code : ∀ token ∈ scan language text, token.kind.isCode →
      ∀ c ∈ token.lexeme.toList, ¬Definition.endsCode c) :
    Token.SeparateCode (scan language text) where
  code := code
  quote := by
    intro token member c held quote
    rcases exists_found_of_mem_scan member with ⟨first, following, rule, decides, rfl⟩
    have outside := code _ member
    rw [toList_lexeme_token] at held outside
    have ends : Definition.endsCode c := by simp [Definition.endsCode, quote]
    cases kind : (rule.found language first following).kind with
    | comment => exact Or.inl kind
    | preprocessor => exact Or.inr (Or.inl kind)
    | string =>
        have isLiteral : rule = .literal := Rule.eq_of_kind rfl kind
        subst isLiteral
        have opens : first = '"' ∨ first = '\'' := (Rule.decides_iff.mp decides).1
        refine Or.inr (Or.inr ⟨kind, first, _, toList_lexeme_token _ _, ?_⟩)
        simpa [Character.isQuote] using opens
    | text => exact absurd quote (decides.not_isQuote_of_text kind held)
    | number | identifier | keyword | type | operator | punctuation =>
        have isCode : ((rule.found language first following).token first).kind.isCode := by
          simp [Match.token, kind, TokenKind.isCode]
        exact absurd ends (outside isCode c held)
  whitespace := by
    intro token member c held isWhitespace
    have ends : Definition.endsCode c := by simp [Definition.endsCode, isWhitespace]
    have noCode : ¬token.kind.isCode := fun isCode => code token member isCode c held ends
    cases kind : token.kind <;> simp_all [TokenKind.isCode]

/-- An operator reaches across a character that ends code if operators continue with it. -/
theorem scan_operator_endsCode {language : Language} (wellFormed : language.WellFormed)
    {first c : Char} (listed : first ∈ language.operatorStart)
    (opens : ¬Character.isCommonOpener first) (continues : c ∈ language.operatorContinue)
    (ends : Definition.endsCode c) :
    scan language [first, c] = [⟨.operator, String.ofList [first, c]⟩] := by
  have noSlash : c ≠ '/' := by
    rintro rfl
    exact absurd ends (by decide)
  have noStar : c ≠ '*' := by
    rintro rfl
    exact absurd ends (by decide)
  have decides : Rule.operator.Decides language first [c] := by
    rw [Rule.decides_operator_iff wellFormed listed]
    simp [opens, noSlash.symm, noStar.symm]
  have whole : Rule.operator.cut language first [c] = ([c], []) := by
    simp [Rule.cut, Rule.runCut, continues]
  rw [scan_cons, recognize_eq_found decides, Rule.found, whole, scan_nil]
  rfl

/--
For a language that was built from a definition, white space and quotes stand outside of code in
every source exactly if no operator of the language can be continued with them. In any case tokens
of code other than operators hold none.
-/
theorem tokenize_separateCode_iff {definition : Definition} {language : Language}
    (built : definition.build = .ok language) :
    ((∀ source, Token.SeparateCode (language.tokenize source)) ↔
        ∀ first ∈ language.operatorStart, ¬Character.isCommonOpener first →
          ∀ c ∈ language.operatorContinue, ¬Definition.endsCode c) ∧
      ∀ source, ∀ token ∈ language.tokenize source, token.kind.isCode → token.kind ≠ .operator →
        ∀ c ∈ token.lexeme.toList, ¬Definition.endsCode c := by
  have wellFormed := Definition.wellFormed_of_build built
  refine ⟨⟨?_, ?_⟩, ?_⟩
  · intro separate first listed opens c continues ends
    have across := scan_operator_endsCode wellFormed listed opens continues ends
    have separateAcross := separate (String.ofList [first, c])
    rw [Language.tokenize, String.toList_ofList, across] at separateAcross
    exact separateAcross.code _ List.mem_cons_self rfl c (by simp) ends
  · intro never source
    apply separateCode_of_code
    intro token member code c held ends
    rcases operator_of_mem_scan wellFormed member code held ends with
      ⟨-, continues, first, listed, opens⟩
    exact never first listed opens c continues ends
  · intro source token member code other c held ends
    exact other (operator_of_mem_scan wellFormed member code held ends).1

/-- The characters that an accepted language continues operators with need not be symbols, as long
as they are neither white space nor quotes. -/
theorem tokenize_separateCode_of_letters :
    ∃ language,
      { name := "sample", operatorStart := "+ ", operatorContinue := "=x#" : Definition }.build =
        .ok language ∧
      ∀ source, Token.SeparateCode (language.tokenize source) := by
  have built :
      { name := "sample", operatorStart := "+ ", operatorContinue := "=x#" : Definition }.build =
        .ok _ := rfl
  refine ⟨_, built, (tokenize_separateCode_iff built).1.mpr ?_⟩
  intro first _ _ c continues
  have listed : c ∈ ['#', '=', 'x'] := continues
  have isEither : c = '#' ∨ c = '=' ∨ c = 'x' := by simpa using listed
  rcases isEither with rfl | rfl | rfl <;> decide

/-- A language is accepted whose operators reach across a space and the quote behind it, so that the
literal is lost. -/
theorem tokenize_operator_across_quote :
    ∃ language,
      { name := "sample", operatorStart := "+", operatorContinue := " \"" : Definition }.build =
        .ok language ∧
      language.tokenize "+ \"a\"" =
        [⟨.operator, "+ \""⟩, ⟨.identifier, "a"⟩, ⟨.string, "\""⟩] := by
  have built :
      { name := "sample", operatorStart := "+", operatorContinue := " \"" : Definition }.build =
        .ok _ := rfl
  exact ⟨_, built, Language.tokenize_eq_iff.mpr (by decide)⟩

end Scanner

end Highlighter
