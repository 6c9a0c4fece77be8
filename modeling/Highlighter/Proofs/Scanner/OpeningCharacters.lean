import Highlighter.Proofs.Scanner.ClassifiedWords
import Highlighter.Proofs.Scanner.Grammar

/-!
# Opening characters

A definition lists characters that open operators, punctuation and words, and two markers. Each of
them is meant to be recognized by its own rule. The checks of a definition compare the listed
characters with each other, and the markers also with the characters that open white space,
literals, numbers and words in every language. For operators and punctuation this second comparison
is missing, and for the characters of words it leaves out digits: where a rule common to all
languages comes first, the listed character is never recognized as what it is listed for.
-/

namespace Highlighter

namespace Character

/-- Decides whether a character opens white space, a literal, a number or a word in every
language. -/
def isCommonOpener (c : Char) : Bool :=
  isWhitespace c || isQuote c || c.isDigit || isWordStart c

theorem isCommonOpener_iff {c : Char} :
    isCommonOpener c ↔
      isWhitespace c ∨ (c = '"' ∨ c = '\'') ∨ c.isDigit ∨ isAlphabetic c ∨ c = '_' := by
  simp [isCommonOpener, isQuote, isWordStart, or_assoc, or_comm (a := c = '_')]

end Character

/-- The characters that operators and punctuation start with are no markers and no characters of
words. -/
theorem Language.WellFormed.excludes_symbol {language : Language} (wellFormed : language.WellFormed)
    {c : Char} (symbol : c ∈ language.operatorStart ∨ c ∈ language.punctuation) :
    language.directiveMarker ≠ some c ∧ language.verbatimPrefix ≠ some c ∧
      c ∉ language.wordExtra := by
  refine ⟨?_, ?_, ?_⟩
  · intro isMarker
    have noShadow := Definition.not_shadowsMarker_iff.mp (wellFormed.directiveMarker c isMarker)
    exact symbol.elim noShadow.2.2.2.1 noShadow.2.2.2.2
  · intro isPrefix
    have noShadow := Definition.not_shadowsMarker_iff.mp (wellFormed.verbatimPrefix c isPrefix)
    exact symbol.elim noShadow.2.2.2.1 noShadow.2.2.2.2
  · intro extra
    have apart := wellFormed.wordExtra_disjoint c extra
    exact symbol.elim apart.1 apart.2

namespace Scanner

/-- The rules that give tokens of a kind. -/
def rulesOf : TokenKind → List Rule
  | .text => [.whitespace, .other]
  | .comment => [.lineComment, .blockComment]
  | .string => [.literal]
  | .preprocessor => [.directive]
  | .number => [.number]
  | .identifier | .keyword | .type => [.word]
  | .operator => [.operator]
  | .punctuation => [.punctuation]

theorem Rule.mem_rulesOf_kind (language : Language) (first : Char) (taken : List Char)
    (rule : Rule) : rule ∈ rulesOf (rule.kind language first taken) := by
  cases rule with
  | word =>
      simp only [kind, Language.classify]
      split_ifs <;> simp [rulesOf]
  | _ => simp [kind, rulesOf]

/-- Where only one rule gives tokens of a kind, the kind tells the rule. -/
theorem Rule.eq_of_kind {language : Language} {first : Char} {taken : List Char}
    {kind : TokenKind} {chosen rule : Rule} (only : rulesOf kind = [rule])
    (isKind : chosen.kind language first taken = kind) : chosen = rule := by
  have member := chosen.mem_rulesOf_kind language first taken
  rw [isKind, only] at member
  exact List.mem_singleton.mp member

theorem rulesOf_eq_word {kind : TokenKind}
    (member : kind ∈ [TokenKind.identifier, .keyword, .type]) : rulesOf kind = [.word] := by
  have isEither : kind = .identifier ∨ kind = .keyword ∨ kind = .type := by simpa using member
  rcases isEither with rfl | rfl | rfl <;> rfl

/-! ### A character on its own -/

theorem not_opensComment_alone (c : Char) : ¬['/', '/'] <+: [c] ∧ ¬['/', '*'] <+: [c] := by
  simp

/-- A character on its own is one token of the kind that the deciding rule gives it. -/
theorem scan_singleton {language : Language} {c : Char} {rule : Rule}
    (decides : rule.Decides language c []) :
    scan language [c] = [⟨rule.kind language c [], String.singleton c⟩] := by
  have nothing : rule.cut language c [] = ([], []) := by
    have whole := List.append_eq_nil_iff.mp ((rule.isStableCut_cut language c).append [])
    exact Prod.ext whole.1 whole.2
  rw [scan_cons, recognize_eq_found decides, Rule.found, nothing, scan_nil]
  rw [Match.token, String.singleton_eq_ofList]

/-- The kind of a character on its own tells the rule if only one rule gives tokens of the kind. -/
theorem decides_of_scan_singleton {language : Language} {c : Char} {kind : TokenKind} {rule : Rule}
    (only : rulesOf kind = [rule])
    (single : scan language [c] = [⟨kind, String.singleton c⟩]) : rule.Decides language c [] := by
  rcases exists_decides_and_recognize_eq_found language c [] with ⟨chosen, decides, _⟩
  rw [scan_singleton decides] at single
  have sameKind : chosen.kind language c [] = kind := congrArg Token.kind (List.cons.inj single).1
  exact Rule.eq_of_kind only sameKind ▸ decides

/-! ### The rules of the listed characters -/

namespace Rule

variable {language : Language} {first : Char}

/-- Before a character that starts operators or is punctuation is seen as such, only the rules
common to all languages can apply to it. -/
theorem not_applies_before_operator_iff (wellFormed : language.WellFormed)
    (symbol : first ∈ language.operatorStart ∨ first ∈ language.punctuation)
    (following : List Char) :
    (∀ tried ∈ operator.before, ¬tried.Applies language first (first :: following)) ↔
      ¬Character.isCommonOpener first ∧ ¬['/', '/'] <+: first :: following ∧
        ¬['/', '*'] <+: first :: following := by
  have order : operator.before =
      [whitespace, lineComment, blockComment, literal, directive, number, word] := rfl
  have excluded := wellFormed.excludes_symbol symbol
  simp only [order, List.forall_mem_cons, Applies, Character.isCommonOpener_iff, excluded,
    List.not_mem_nil, false_imp_iff, implies_true, not_false_eq_true, and_true, true_and, or_false]
  tauto

theorem decides_operator_iff (wellFormed : language.WellFormed)
    (listed : first ∈ language.operatorStart) (following : List Char) :
    operator.Decides language first following ↔
      ¬Character.isCommonOpener first ∧ ¬['/', '/'] <+: first :: following ∧
        ¬['/', '*'] <+: first :: following := by
  rw [decides_iff, not_applies_before_operator_iff wellFormed (Or.inl listed)]
  exact and_iff_right listed

theorem decides_punctuation_iff (wellFormed : language.WellFormed)
    (listed : first ∈ language.punctuation) (following : List Char) :
    punctuation.Decides language first following ↔
      ¬Character.isCommonOpener first ∧ ¬['/', '/'] <+: first :: following ∧
        ¬['/', '*'] <+: first :: following := by
  have order : punctuation.before = operator.before ++ [operator] := rfl
  have noOperator : ¬operator.Applies language first (first :: following) :=
    wellFormed.punctuation_disjoint first listed
  rw [decides_iff, order, List.forall_mem_append, List.forall_mem_singleton,
    not_applies_before_operator_iff wellFormed (Or.inr listed), and_iff_left noOperator]
  exact and_iff_right listed

/-- Nothing comes before the rule of the directive marker. -/
theorem decides_directive (wellFormed : language.WellFormed)
    (marker : language.directiveMarker = some first) : directive.Decides language first [] := by
  have order : directive.before = [whitespace, lineComment, blockComment, literal] := rfl
  have noEnd := (Definition.not_shadowsMarker_iff.mp (wellFormed.directiveMarker first marker)).1
  refine decides_iff.mpr ⟨marker, ?_⟩
  rw [order]
  simpa [Applies, Definition.endsCode, Character.isQuote] using noEnd

/-- Before a character that starts words only the rule of numbers can apply to it. -/
theorem decides_word_alone_iff (wellFormed : language.WellFormed)
    (starts : language.startsWord first) : word.Decides language first [] ↔ ¬first.isDigit := by
  rw [decides_word_iff wellFormed starts]
  simp [OpensNumberOrComment]

end Rule

/--
Where a language was built from a definition, a character listed for operators or for punctuation is
recognized as such on its own exactly if it does not open white space, a literal, a number or a word
in every language, and a character listed for words exactly if it is no digit. The two markers are
always recognized.
-/
theorem tokenize_opening_character {definition : Definition} {language : Language}
    (built : definition.build = .ok language) (c : Char) :
    (c ∈ language.operatorStart →
        (language.tokenize (String.singleton c) = [⟨.operator, String.singleton c⟩] ↔
          ¬Character.isCommonOpener c)) ∧
      (c ∈ language.punctuation →
        (language.tokenize (String.singleton c) = [⟨.punctuation, String.singleton c⟩] ↔
          ¬Character.isCommonOpener c)) ∧
      (c ∈ language.wordExtra →
        ((∃ kind ∈ [TokenKind.identifier, .keyword, .type],
            language.tokenize (String.singleton c) = [⟨kind, String.singleton c⟩]) ↔
          ¬c.isDigit)) ∧
      (language.directiveMarker = some c →
        language.tokenize (String.singleton c) = [⟨.preprocessor, String.singleton c⟩]) ∧
      (language.verbatimPrefix = some c →
        language.tokenize (String.singleton c) = [⟨.identifier, String.singleton c⟩]) := by
  have wellFormed := Definition.wellFormed_of_build built
  simp only [Language.tokenize, String.toList_singleton]
  refine ⟨?_, ?_, ?_, ?_, ?_⟩
  · intro listed
    have alone := Rule.decides_operator_iff wellFormed listed []
    rw [and_iff_left (not_opensComment_alone c)] at alone
    rw [← alone]
    exact ⟨decides_of_scan_singleton rfl, scan_singleton⟩
  · intro listed
    have alone := Rule.decides_punctuation_iff wellFormed listed []
    rw [and_iff_left (not_opensComment_alone c)] at alone
    rw [← alone]
    exact ⟨decides_of_scan_singleton rfl, scan_singleton⟩
  · intro extra
    have starts : language.startsWord c := by simp [Language.startsWord, extra]
    rw [← Rule.decides_word_alone_iff wellFormed starts]
    constructor
    · rintro ⟨kind, member, single⟩
      exact decides_of_scan_singleton (rulesOf_eq_word member) single
    · intro decides
      exact ⟨_, language.classify_mem _, scan_singleton decides⟩
  · intro marker
    exact scan_singleton (Rule.decides_directive wellFormed marker)
  · intro isPrefix
    have starts : language.startsWord c := by simp [Language.startsWord, isPrefix]
    have noShadow := Definition.not_shadowsMarker_iff.mp (wellFormed.verbatimPrefix c isPrefix)
    have noDigit : ¬c.isDigit := fun digit =>
      noShadow.2.1 (Character.isWordContinue_of_isDigit digit)
    have decides := (Rule.decides_word_alone_iff wellFormed starts).mpr noDigit
    have kind : Rule.word.kind language c [] = .identifier := by
      simp only [Rule.kind, isPrefix, if_true]
      exact classify_eq_wordKind wellFormed []
    rw [scan_singleton decides, kind]

/-- Characters of all sorts are recognized, the one of a word as a type. -/
theorem tokenize_characters_of_all_sorts :
    ∃ language,
      { name := "sample", types := ["$"], operatorStart := "+", punctuation := "(",
        wordExtra := "$", directiveMarker := some '#',
        verbatimPrefix := some '@' : Definition }.build = .ok language ∧
      language.tokenize "+" = [⟨.operator, "+"⟩] ∧
      language.tokenize "(" = [⟨.punctuation, "("⟩] ∧
      (∃ kind ∈ [TokenKind.identifier, .keyword, .type],
        language.tokenize "$" = [⟨kind, "$"⟩]) ∧
      language.tokenize "#" = [⟨.preprocessor, "#"⟩] ∧
      language.tokenize "@" = [⟨.identifier, "@"⟩] := by
  have built :
      { name := "sample", types := ["$"], operatorStart := "+", punctuation := "(",
        wordExtra := "$", directiveMarker := some '#',
        verbatimPrefix := some '@' : Definition }.build = .ok _ := rfl
  refine ⟨_, built, ?_, ?_, ?_, ?_, ?_⟩
  · exact ((tokenize_opening_character built '+').1 (by decide)).mpr (by decide)
  · exact ((tokenize_opening_character built '(').2.1 (by decide)).mpr (by decide)
  · exact ((tokenize_opening_character built '$').2.2.1 (by decide)).mpr (by decide)
  · exact (tokenize_opening_character built '#').2.2.2.1 rfl
  · exact (tokenize_opening_character built '@').2.2.2.2 rfl

/-- A language is accepted that lists a letter for operators, a space for punctuation and a digit
for words, none of which is recognized as what it is listed for. -/
theorem tokenize_dead_characters :
    ∃ language,
      { name := "sample", operatorStart := "a", punctuation := " ",
        wordExtra := "1" : Definition }.build = .ok language ∧
      'a' ∈ language.operatorStart ∧ language.tokenize "a" = [⟨.identifier, "a"⟩] ∧
      ' ' ∈ language.punctuation ∧ language.tokenize " " = [⟨.text, " "⟩] ∧
      '1' ∈ language.wordExtra ∧ language.tokenize "1" = [⟨.number, "1"⟩] := by
  have built :
      { name := "sample", operatorStart := "a", punctuation := " ",
        wordExtra := "1" : Definition }.build = .ok _ := rfl
  exact ⟨_, built, by decide, Language.tokenize_eq_iff.mpr (by decide), by decide,
    Language.tokenize_eq_iff.mpr (by decide), by decide,
    Language.tokenize_eq_iff.mpr (by decide)⟩

end Scanner

end Highlighter
