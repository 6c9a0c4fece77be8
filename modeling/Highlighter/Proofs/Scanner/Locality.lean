import Highlighter.Proofs.Scanner.Coverage
import Highlighter.Proofs.Scanner.Rule

/-!
# Tokens depend on their own text

Where a token ends is settled by its own characters and the one character behind it. Text that is
appended therefore reaches at most the last token, which it may lengthen, and text behind a token
can be removed without changing that token. What comes before a token plays no part at all, so that
every run of tokens is found again in the text that it covers.
-/

namespace Highlighter

namespace Scanner

/-! ### One token -/

theorem Rule.decides_append_iff {language : Language} {first : Char} {following : List Char}
    (extra : List Char) {rule : Rule} (nonempty : following ≠ []) :
    rule.Decides language first (following ++ extra) ↔ rule.Decides language first following := by
  have sameHead : following.head? = (following ++ extra).head? := by
    cases following with
    | nil => exact absurd rfl nonempty
    | cons c tail => rfl
  constructor
  · exact Decides.congr sameHead.symm
  · exact Decides.congr sameHead

/-- A token with text behind it is settled: what is appended is only more text behind it. -/
theorem recognize_append_of_rest_ne_nil {language : Language} {first : Char}
    {following : List Char} (extra : List Char)
    (behind : (recognize language first following).rest ≠ []) :
    recognize language first (following ++ extra) =
      { recognize language first following with
        rest := (recognize language first following).rest ++ extra } := by
  have nonempty : following ≠ [] := by
    rintro rfl
    have whole := body_append_rest_recognize language first []
    exact behind (List.append_eq_nil_iff.mp whole).2
  rcases exists_decides_and_recognize_eq_found language first following with
    ⟨rule, decides, recognized⟩
  rw [recognized] at behind ⊢
  rw [recognize_eq_found ((Rule.decides_append_iff extra nonempty).mpr decides)]
  simp only [Rule.found, (rule.isStableCut_cut language first).settled following extra behind]

theorem body_recognize_isPrefix_append (language : Language) (first : Char)
    (following extra : List Char) :
    (recognize language first following).body <+:
      (recognize language first (following ++ extra)).body := by
  by_cases empty : following = []
  · subst empty
    have whole := body_append_rest_recognize language first []
    rw [(List.append_eq_nil_iff.mp whole).1]
    exact List.nil_prefix
  · rcases exists_decides_and_recognize_eq_found language first following with
      ⟨rule, decides, recognized⟩
    rw [recognized, recognize_eq_found ((Rule.decides_append_iff extra empty).mpr decides)]
    exact (rule.isStableCut_cut language first).grows following extra

theorem Rule.Decides.truncate {language : Language} {first : Char} {taken rest extra : List Char}
    {rule : Rule} (decides : rule.Decides language first (taken ++ rest ++ extra))
    (takes : (rule.cut language first (taken ++ rest ++ extra)).1 = taken) :
    rule.Decides language first (taken ++ rest) := by
  by_cases empty : taken ++ rest = []
  · have takesNothing := takes.trans (List.append_eq_nil_iff.mp empty).1
    rw [empty]
    exact decides.alone takesNothing
  · exact (decides_append_iff extra empty).mp decides

/-- What follows a token can be removed without changing the token. -/
theorem recognize_truncate {language : Language} {first : Char} {kind : TokenKind}
    {taken rest extra : List Char}
    (longer : recognize language first (taken ++ rest ++ extra) = ⟨kind, taken, rest ++ extra⟩) :
    recognize language first (taken ++ rest) = ⟨kind, taken, rest⟩ := by
  rcases exists_decides_and_recognize_eq_found language first (taken ++ rest ++ extra) with
    ⟨rule, decides, recognized⟩
  rw [longer] at recognized
  rcases Match.mk.inj recognized with ⟨sameKind, sameTaken, sameRest⟩
  have shorterCut : rule.cut language first (taken ++ rest) = (taken, rest) :=
    (rule.isStableCut_cut language first).truncate (Prod.ext sameTaken.symm sameRest.symm)
  have shorterDecides := decides.truncate sameTaken.symm
  rw [← sameTaken] at sameKind
  rw [recognize_eq_found shorterDecides, Rule.found, shorterCut, sameKind]

/-! ### All tokens -/

/-- Appended text leaves all tokens but the last one as they are, and does not shorten that one. -/
theorem scan_append_of_scan_eq {language : Language} {text : List Char} {settled : List Token}
    {last : Token} (tokens : scan language text = settled ++ [last]) (extra : List Char) :
    ∃ grown more, scan language (text ++ extra) = settled ++ grown :: more ∧
      last.lexeme.toList <+: grown.lexeme.toList := by
  induction text using scan_induction language generalizing settled with
  | nil => simp at tokens
  | cons first following ih =>
      rw [scan_cons] at tokens
      cases settled with
      | nil =>
          rcases List.cons.inj tokens with ⟨rfl, _⟩
          refine ⟨_, _, scan_cons language first (following ++ extra), ?_⟩
          rw [toList_lexeme_token, toList_lexeme_token, List.prefix_cons_inj]
          exact body_recognize_isPrefix_append language first following extra
      | cons token settled =>
          rcases List.cons.inj tokens with ⟨rfl, later⟩
          have behind : (recognize language first following).rest ≠ [] := by
            intro nothing
            simp [nothing] at later
          rcases ih later with ⟨grown, more, laterTokens, lengthened⟩
          refine ⟨grown, more, ?_, lengthened⟩
          rw [List.cons_append, scan_cons, recognize_append_of_rest_ne_nil extra behind]
          rw [laterTokens]
          rfl

/-- Between two tokens the text can be cut, and the tokens of each part are those found in it. -/
theorem scan_flatMap_lexeme_of_scan_eq {language : Language} {text : List Char}
    {left right : List Token} (tokens : scan language text = left ++ right) :
    scan language (left.flatMap (·.lexeme.toList)) = left ∧
      scan language (right.flatMap (·.lexeme.toList)) = right := by
  induction text using scan_induction language generalizing left with
  | nil =>
      rw [scan_nil] at tokens
      rcases List.append_eq_nil_iff.mp tokens.symm with ⟨rfl, rfl⟩
      exact ⟨scan_nil language, scan_nil language⟩
  | cons first following ih =>
      cases left with
      | nil =>
          have whole := flatMap_lexeme_scan language (first :: following)
          rw [tokens, List.nil_append] at whole
          rw [whole]
          exact ⟨scan_nil language, tokens⟩
      | cons token left =>
          rw [scan_cons, List.cons_append] at tokens
          rcases List.cons.inj tokens with ⟨rfl, later⟩
          rcases ih later with ⟨leftTokens, rightTokens⟩
          refine ⟨?_, rightTokens⟩
          have behind := flatMap_lexeme_scan language (recognize language first following).rest
          rw [later, List.flatMap_append] at behind
          have longer :
              recognize language first ((recognize language first following).body ++
                left.flatMap (·.lexeme.toList) ++ right.flatMap (·.lexeme.toList)) =
              ⟨(recognize language first following).kind,
                (recognize language first following).body,
                left.flatMap (·.lexeme.toList) ++ right.flatMap (·.lexeme.toList)⟩ := by
            rw [List.append_assoc, behind, body_append_rest_recognize]
          rw [List.flatMap_cons, toList_lexeme_token, List.cons_append, scan_cons,
            recognize_truncate longer, leftTokens]
          rfl

end Scanner

theorem Language.exists_last_token (language : Language) {source : String}
    (nonempty : source ≠ "") : ∃ settled last, language.tokenize source = settled ++ [last] := by
  rcases List.eq_nil_or_concat (language.tokenize source) with none | ⟨settled, last, tokens⟩
  · have whole := language.joinLexemes_tokenize source
    rw [none] at whole
    exact absurd whole.symm nonempty
  · rw [List.concat_eq_append] at tokens
    exact ⟨settled, last, tokens⟩

/--
If text is appended to a source that is not empty, all of its tokens but the last one stay as they
are, and the next token is the last one with perhaps more characters.
-/
theorem Language.tokenize_append_keeps_settled (language : Language) {source : String}
    (nonempty : source ≠ "") :
    (∃ settled last, language.tokenize source = settled ++ [last]) ∧
      ∀ settled last, language.tokenize source = settled ++ [last] → ∀ text : String,
        ∃ grown more extension, language.tokenize (source ++ text) = settled ++ grown :: more ∧
          grown.lexeme = last.lexeme ++ extension := by
  refine ⟨language.exists_last_token nonempty, ?_⟩
  intro settled last tokens text
  rcases Scanner.scan_append_of_scan_eq tokens text.toList with
    ⟨grown, more, extended, extension, lengthened⟩
  refine ⟨grown, more, String.ofList extension, ?_, ?_⟩
  · rw [tokenize, String.toList_append, extended]
  · apply String.toList_injective
    rw [String.toList_append, String.toList_ofList, lengthened]

/-- A slash that turns into a comment leaves the word before it as it is. -/
theorem Language.tokenize_append_slash :
    ∃ language, { name := "sample", operatorStart := "/" : Definition }.build = .ok language ∧
      ∃ grown more extension,
        language.tokenize ("x/" ++ "/y") = [⟨.identifier, "x"⟩] ++ grown :: more ∧
          grown.lexeme = "/" ++ extension := by
  have built : { name := "sample", operatorStart := "/" : Definition }.build = .ok _ := rfl
  refine ⟨_, built, ?_⟩
  exact (tokenize_append_keeps_settled _ (by decide)).2 [⟨.identifier, "x"⟩] ⟨.operator, "/"⟩
    (Language.tokenize_eq_iff.mpr (by decide)) "/y"

theorem Language.tokenize_joinLexemes_of_append {language : Language} {source : String}
    {left right : List Token} (tokens : language.tokenize source = left ++ right) :
    language.tokenize (Token.joinLexemes left) = left ∧
      language.tokenize (Token.joinLexemes right) = right := by
  rcases Scanner.scan_flatMap_lexeme_of_scan_eq tokens with ⟨leftTokens, rightTokens⟩
  rw [tokenize, tokenize, Token.toList_joinLexemes, Token.toList_joinLexemes]
  exact ⟨leftTokens, rightTokens⟩

/--
Every run of tokens is found again, and nothing else, in the text that it covers. So where a
boundary between tokens of a longer text falls at the end of a part of it, that part and the rest
can be scanned apart.
-/
theorem Language.tokenize_covered_text (language : Language) :
    (∀ source before between after, language.tokenize source = before ++ between ++ after →
      source = Token.joinLexemes before ++ Token.joinLexemes between ++ Token.joinLexemes after ∧
        language.tokenize (Token.joinLexemes between) = between) ∧
    ∀ source text left right, language.tokenize (source ++ text) = left ++ right →
      Token.joinLexemes left = source →
        language.tokenize (source ++ text) =
          language.tokenize source ++ language.tokenize text := by
  constructor
  · intro source before between after tokens
    have whole := language.joinLexemes_tokenize source
    rw [tokens, Token.joinLexemes_append, Token.joinLexemes_append] at whole
    have leading := (tokenize_joinLexemes_of_append tokens).1
    exact ⟨whole.symm, (tokenize_joinLexemes_of_append leading).2⟩
  · intro source text left right tokens boundary
    have whole := language.joinLexemes_tokenize (source ++ text)
    rw [tokens, Token.joinLexemes_append, boundary] at whole
    have rest : Token.joinLexemes right = text := (String.append_right_inj source).mp whole
    rcases tokenize_joinLexemes_of_append tokens with ⟨leftTokens, rightTokens⟩
    rw [boundary] at leftTokens
    rw [rest] at rightTokens
    rw [leftTokens, rightTokens, tokens]

/-- A comment between a word and the end of its line is a comment on its own. -/
theorem Language.tokenize_comment_apart :
    ∃ language, { name := "sample" : Definition }.build = .ok language ∧
      language.tokenize (Token.joinLexemes [⟨.comment, "//y"⟩]) = [⟨.comment, "//y"⟩] ∧
        language.tokenize ("x" ++ "//y\n") =
          language.tokenize "x" ++ language.tokenize "//y\n" := by
  have built : { name := "sample" : Definition }.build = .ok _ := rfl
  refine ⟨_, built, ?_, ?_⟩
  · exact ((tokenize_covered_text _).1 "x//y\n" [⟨.identifier, "x"⟩] [⟨.comment, "//y"⟩]
      [⟨.text, "\n"⟩] (Language.tokenize_eq_iff.mpr (by decide))).2
  · exact (tokenize_covered_text _).2 "x" "//y\n" [⟨.identifier, "x"⟩]
      [⟨.comment, "//y"⟩, ⟨.text, "\n"⟩] (Language.tokenize_eq_iff.mpr (by decide)) (by decide)

end Highlighter
