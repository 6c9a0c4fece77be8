import Highlighter.Proofs.Registry.Consistency
import Highlighter.Proofs.Scanner.Rule

/-!
# Comment openers

Two slashes, or a slash and a star, open a comment wherever a token can start, since the rules of
comments come before all rules that a slash could fall under. So an opener is passed over only where
a token has started before it and still goes on, and in a language whose operators, numbers and
words do not go on with a slash, only comments, literals and directives do.
-/

namespace Highlighter

/-- Operators, numbers and words do not go on with a slash. -/
def Language.EndsCodeAtSlash (language : Language) : Prop :=
  '/' ∉ language.operatorContinue ∧ '/' ∉ language.numberChars ∧ '/' ∉ language.wordExtra

instance (language : Language) : Decidable language.EndsCodeAtSlash :=
  inferInstanceAs (Decidable (_ ∧ _ ∧ _))

theorem Builtin.endsCodeAtSlash {language : Language} (builtin : language ∈ languages) :
    language.EndsCodeAtSlash := by
  have listed : ∀ definition ∈ definitions, '/' ∉ definition.operatorContinue.toList ∧
      '/' ∉ definition.numberChars.toList ∧ '/' ∉ definition.wordExtra.toList := by
    decide
  rw [languages_eq_map] at builtin
  rcases List.mem_map.mp builtin with ⟨definition, member, rfl⟩
  simpa [Language.EndsCodeAtSlash, Definition.described] using listed definition member

namespace Scanner.Rule

variable {language : Language} {first : Char} {following : List Char} {rule : Rule}

/-- Where a comment opener stands at the start of a token, the token is a comment. -/
theorem Decides.kind_of_commentOpener (decides : rule.Decides language first following)
    (opener : ['/', '/'] <+: first :: following ∨ ['/', '*'] <+: first :: following) :
    (rule.found language first following).kind = .comment := by
  have notWhitespace : ∀ {second : Char}, ['/', second] <+: first :: following →
      ¬Character.isWhitespace first := by
    intro second opens
    rw [(Text.pair_isPrefix_cons_iff.mp opens).1]
    decide
  rcases opener with line | block
  · have lineDecides : lineComment.Decides language first following := by
      refine decides_iff.mpr ⟨line, ?_⟩
      have order : lineComment.before = [whitespace] := rfl
      simpa [order, Applies] using notWhitespace line
    rw [decides.unique lineDecides]
    rfl
  · have notLine : ¬['/', '/'] <+: first :: following := by
      rw [Text.pair_isPrefix_cons_iff] at block ⊢
      simp [block.2]
    have blockDecides : blockComment.Decides language first following := by
      refine decides_iff.mpr ⟨block, ?_⟩
      have order : blockComment.before = [whitespace, lineComment] := rfl
      rw [order, List.forall_mem_cons, List.forall_mem_singleton]
      exact ⟨notWhitespace block, notLine⟩
    rw [decides.unique blockDecides]
    rfl

/-- Behind its first character only a comment, a literal or a directive can hold a slash. -/
theorem kind_of_slash_mem_cut (apart : language.EndsCodeAtSlash)
    (member : '/' ∈ (rule.cut language first following).1) :
    (rule.found language first following).kind ∈
      [TokenKind.comment, .string, .preprocessor] := by
  rcases apart with ⟨noOperator, noNumber, noWord⟩
  cases rule with
  | lineComment | blockComment | literal | directive => simp [found, kind]
  | whitespace =>
      have isWhitespace : Character.isWhitespace '/' := List.mem_takeWhile_imp member
      exact absurd isWhitespace (by decide)
  | number =>
      have continues : language.continuesNumber '/' := List.mem_takeWhile_imp member
      rcases Language.continuesNumber_iff.mp continues with digit | listed
      · exact absurd digit (by decide)
      · exact absurd listed noNumber
  | word =>
      have continues : language.continuesWord '/' := List.mem_takeWhile_imp member
      rcases Language.continuesWord_iff.mp continues with alphanumeric | underscore | listed
      · exact absurd alphanumeric (by decide)
      · exact absurd underscore (by decide)
      · exact absurd listed noWord
  | operator =>
      have continues : language.operatorContinue.contains '/' := List.mem_takeWhile_imp member
      exact absurd (OrderedSet.contains_iff_mem.mp continues) noOperator
  | punctuation | other => simp [cut, emptyCut] at member

end Scanner.Rule

namespace Scanner

/-- A comment opener starts a comment, or lies within a comment, a literal or a directive. -/
theorem exists_token_of_commentOpener {language : Language} (apart : language.EndsCodeAtSlash)
    (left : List Char) {right : List Char}
    (opener : ['/', '/'] <+: right ∨ ['/', '*'] <+: right) :
    ∃ before token after start rest,
      scan language (left ++ right) = before ++ token :: after ∧
      token.lexeme.toList = start ++ rest ∧ rest ≠ [] ∧
      left = before.flatMap (·.lexeme.toList) ++ start ∧
      (start = [] ∧ token.kind = .comment ∨
        start ≠ [] ∧ token.kind ∈ [TokenKind.comment, .string, .preprocessor]) := by
  have slash : ∃ tail, right = '/' :: tail := by
    rcases opener with ⟨tail, rfl⟩ | ⟨tail, rfl⟩ <;> exact ⟨_, rfl⟩
  rcases slash with ⟨tail, isSlash⟩
  have nonempty : right ≠ [] := by simp [isSlash]
  rcases exists_token_of_append language left nonempty with
    ⟨before, token, after, start, rest, tokens, lexeme, more, atLeft, atRight⟩
  refine ⟨before, token, after, start, rest, tokens, lexeme, more, atLeft, ?_⟩
  rcases exists_found_of_scan_eq tokens with
    ⟨first, following, rule, decides, text, rfl, -⟩
  rw [toList_lexeme_token] at lexeme
  have behind : start ++ right = first :: following := by
    rw [atLeft, List.append_assoc] at text
    exact List.append_cancel_left text
  cases start with
  | nil =>
      rw [List.nil_append] at behind
      rw [behind] at opener
      exact Or.inl ⟨rfl, decides.kind_of_commentOpener opener⟩
  | cons c start =>
      -- The slash that the opener starts with is one of the characters behind the first one.
      rcases List.exists_cons_of_ne_nil more with ⟨d, rest, rfl⟩
      rw [isSlash, List.cons_append] at atRight
      have isFirst : '/' = d := (List.cons.inj atRight).1
      have body : (rule.found language first following).body = start ++ d :: rest :=
        (List.cons.inj lexeme).2
      have member : '/' ∈ (rule.cut language first following).1 := by
        change '/' ∈ (rule.found language first following).body
        rw [body, isFirst]
        simp
      exact Or.inr ⟨by simp, Rule.kind_of_slash_mem_cut apart member⟩

/--
In a language whose operators, numbers and words do not go on with a slash, every comment opener in
every source starts a comment, or lies behind the first character of a comment, a literal or a
directive. All built-in languages are of this sort.
-/
theorem tokenize_keeps_commentOpeners :
    (∀ language : Language, language.EndsCodeAtSlash → ∀ left opener right : String,
      opener = "//" ∨ opener = "/*" →
        ∃ before token after,
          language.tokenize (left ++ opener ++ right) = before ++ token :: after ∧
          (token.kind = .comment ∧ left = Token.joinLexemes before ∨
            token.kind ∈ [TokenKind.comment, .string, .preprocessor] ∧
              ∃ start rest, start ≠ "" ∧ rest ≠ "" ∧ token.lexeme = start ++ rest ∧
                left = Token.joinLexemes before ++ start)) ∧
      Builtin.languages.length = 6 ∧ ∀ language ∈ Builtin.languages, language.EndsCodeAtSlash := by
  have six : Builtin.languages.length = 6 := by
    rw [← List.length_map Registry.foldedNames, Builtin.foldedNames_languages]
    rfl
  refine ⟨?_, six, fun _ => Builtin.endsCodeAtSlash⟩
  intro language apart left opener right isOpener
  have opens : ['/', '/'] <+: (opener ++ right).toList ∨ ['/', '*'] <+: (opener ++ right).toList := by
    rcases isOpener with rfl | rfl
    · exact Or.inl ⟨right.toList, by simp⟩
    · exact Or.inr ⟨right.toList, by simp⟩
  rcases exists_token_of_commentOpener apart left.toList opens with
    ⟨before, token, after, start, rest, tokens, lexeme, more, atLeft, place⟩
  refine ⟨before, token, after, ?_, ?_⟩
  · rw [Language.tokenize, String.append_assoc, String.toList_append, tokens]
  rcases place with ⟨rfl, isComment⟩ | ⟨inside, kind⟩
  · refine Or.inl ⟨isComment, String.toList_injective ?_⟩
    simpa using atLeft
  · refine Or.inr ⟨kind, String.ofList start, String.ofList rest, ?_, ?_, ?_, ?_⟩
    · simpa using inside
    · simpa using more
    · exact String.toList_injective (by simpa using lexeme)
    · exact String.toList_injective (by simpa using atLeft)

/-- The second slash of a line comment does not open a block comment with the star behind it. -/
theorem tokenize_keeps_commentOpeners_overlap :
    ∃ language,
      { name := "sample", operatorStart := "/*", numberChars := "." : Definition }.build =
        .ok language ∧
      language.EndsCodeAtSlash ∧
      ∃ before token after,
        language.tokenize ("1.5/" ++ "/*" ++ "/") = before ++ token :: after ∧
        (token.kind = .comment ∧ "1.5/" = Token.joinLexemes before ∨
          token.kind ∈ [TokenKind.comment, .string, .preprocessor] ∧
            ∃ start rest, start ≠ "" ∧ rest ≠ "" ∧ token.lexeme = start ++ rest ∧
              "1.5/" = Token.joinLexemes before ++ start) := by
  have sample : ∃ language,
      { name := "sample", operatorStart := "/*", numberChars := "." : Definition }.build =
        .ok language ∧ language.EndsCodeAtSlash :=
    ⟨_, rfl, by decide⟩
  rcases sample with ⟨language, built, apart⟩
  exact ⟨language, built, apart,
    tokenize_keeps_commentOpeners.1 language apart "1.5/" "/*" "/" (Or.inr rfl)⟩

end Scanner

end Highlighter
