import Highlighter.Proofs.Language.Checks
import Highlighter.Proofs.Registry.Consistency
import Highlighter.Proofs.Scanner.Rule

/-!
# Languages with different words

Which rule decides and where it cuts the text depends on the characters and the markers of a
language and not on its words. Two languages that share these cut every text alike, and the tokens
that they find in the same place differ at most in how a word is classified. A language that adds
words to those of another one, and makes no type of one of its keywords, keeps the kinds of these.
-/

namespace Highlighter

/-- The languages have the same characters and markers. -/
structure Language.SharesCharacters (left right : Language) : Prop where
  operatorStart : ∀ c, c ∈ left.operatorStart ↔ c ∈ right.operatorStart
  operatorContinue : ∀ c, c ∈ left.operatorContinue ↔ c ∈ right.operatorContinue
  punctuation : ∀ c, c ∈ left.punctuation ↔ c ∈ right.punctuation
  numberChars : ∀ c, c ∈ left.numberChars ↔ c ∈ right.numberChars
  wordExtra : ∀ c, c ∈ left.wordExtra ↔ c ∈ right.wordExtra
  directiveMarker : left.directiveMarker = right.directiveMarker
  verbatimPrefix : left.verbatimPrefix = right.verbatimPrefix

namespace Scanner

variable {left right : Language}

/-! ### Rules -/

theorem Rule.applies_iff_of_shares (shared : left.SharesCharacters right) (first : Char)
    (text : List Char) (rule : Rule) :
    rule.Applies left first text ↔ rule.Applies right first text := by
  cases rule with
  | directive => simp only [Applies, shared.directiveMarker]
  | word => simp only [Applies, shared.wordExtra, shared.verbatimPrefix]
  | operator => exact shared.operatorStart first
  | punctuation => exact shared.punctuation first
  | _ => rfl

theorem Rule.Decides.shares {first : Char} {following : List Char} {rule : Rule}
    (shared : left.SharesCharacters right) (decides : rule.Decides left first following) :
    rule.Decides right first following := by
  rcases decides with ⟨earlier, later, order, applies, none⟩
  refine ⟨earlier, later, order, (applies_iff_of_shares shared _ _ _).mp applies, ?_⟩
  intro tried member triedApplies
  exact none tried member ((applies_iff_of_shares shared _ _ _).mpr triedApplies)

theorem Rule.cut_eq_of_shares (shared : left.SharesCharacters right) (first : Char) (rule : Rule) :
    rule.cut left first = rule.cut right first := by
  cases rule with
  | number =>
      have same : left.continuesNumber = right.continuesNumber := by
        funext c
        rw [Bool.eq_iff_iff, Language.continuesNumber_iff, Language.continuesNumber_iff,
          shared.numberChars]
      simp only [cut, same]
  | word =>
      have same : left.continuesWord = right.continuesWord := by
        funext c
        rw [Bool.eq_iff_iff, Language.continuesWord_iff, Language.continuesWord_iff,
          shared.wordExtra]
      simp only [cut, same]
  | operator =>
      have same : left.operatorContinue.contains = right.operatorContinue.contains := by
        funext c
        rw [Bool.eq_iff_iff, OrderedSet.contains_iff_mem, OrderedSet.contains_iff_mem,
          shared.operatorContinue]
      simp only [cut, same]
  | _ => rfl

/-! ### Tokens -/

/-- The tokens have the same lexeme, and the same kind unless the languages classify a word. -/
structure DiffersInClass (left right : Language) (token other : Token) : Prop where
  lexeme : token.lexeme = other.lexeme
  kind : token.kind = other.kind ∧ token.kind ∉ [TokenKind.identifier, .keyword, .type] ∨
    ∃ word, token.kind = left.classify word ∧ other.kind = right.classify word

theorem Rule.differsInClass_found (shared : left.SharesCharacters right) (first : Char)
    (following : List Char) (rule : Rule) :
    DiffersInClass left right ((rule.found left first following).token first)
      ((rule.found right first following).token first) := by
  have sameCut := rule.cut_eq_of_shares shared first
  constructor
  · simp only [found, Match.token, sameCut]
  · cases rule with
    | word =>
        right
        refine ⟨_, rfl, ?_⟩
        simp only [found, Match.token, kind, sameCut, shared.verbatimPrefix]
    | _ =>
        left
        refine ⟨rfl, ?_⟩
        simp [found, Match.token, kind]

/-- The tokens of a text in both languages differ at most in how words are classified. -/
theorem forall₂_differsInClass_scan (shared : left.SharesCharacters right) (text : List Char) :
    List.Forall₂ (DiffersInClass left right) (scan left text) (scan right text) := by
  induction text using scan_induction left with
  | nil =>
      rw [scan_nil, scan_nil]
      exact List.Forall₂.nil
  | cons first following ih =>
      rcases exists_decides_and_recognize_eq_found left first following with
        ⟨rule, decides, recognized⟩
      -- The same rule decides for both and cuts off the same, so the scans go on with the same rest.
      have recognizedToo := recognize_eq_found (decides.shares shared)
      have sameRest : (rule.found right first following).rest =
          (rule.found left first following).rest := by
        simp only [Rule.found, rule.cut_eq_of_shares shared]
      rw [scan_cons, scan_cons, recognizedToo, sameRest, recognized]
      rw [recognized] at ih
      exact List.Forall₂.cons (rule.differsInClass_found shared first following) ih

theorem map_lexeme_tokenize_eq (shared : left.SharesCharacters right) (source : String) :
    (left.tokenize source).map (·.lexeme) = (right.tokenize source).map (·.lexeme) := by
  rw [← List.forall₂_eq_eq_eq, List.forall₂_map_left_iff, List.forall₂_map_right_iff]
  exact (forall₂_differsInClass_scan shared source.toList).imp fun _ _ differs => differs.lexeme

theorem DiffersInClass.kind_eq {token other : Token}
    (differs : DiffersInClass left right token other)
    (noWord : token.kind ∉ [TokenKind.identifier, .keyword, .type] ∨
      other.kind ∉ [TokenKind.identifier, .keyword, .type]) : token.kind = other.kind := by
  rcases differs.kind with ⟨same, -⟩ | ⟨word, ofLeft, ofRight⟩
  · exact same
  · rw [ofLeft, ofRight] at noWord
    rcases noWord with noWord | noWord
    · exact absurd (left.classify_mem word) noWord
    · exact absurd (right.classify_mem word) noWord

end Scanner

/-! ### Languages that add words to another one -/

/-- The second definition has the characters and the markers of the first one and its words in
their roles, and it makes no type of one of its keywords. -/
structure Definition.IsExtendedBy (base extended : Definition) : Prop where
  operatorStart : extended.operatorStart = base.operatorStart
  operatorContinue : extended.operatorContinue = base.operatorContinue
  punctuation : extended.punctuation = base.punctuation
  numberChars : extended.numberChars = base.numberChars
  wordExtra : extended.wordExtra = base.wordExtra
  directiveMarker : extended.directiveMarker = base.directiveMarker
  verbatimPrefix : extended.verbatimPrefix = base.verbatimPrefix
  keywords : base.keywords ⊆ extended.keywords
  types : base.types ⊆ extended.types
  keywordsKept : ∀ word ∈ base.keywords, word ∈ extended.types → word ∈ base.types

namespace Definition

variable {base extended : Definition}

theorem isExtendedBy_append {keywords types : List String} (name : String)
    (aliases extensions : List String)
    (keywordsKept : ∀ word ∈ base.keywords, word ∈ base.types ++ types → word ∈ base.types) :
    base.IsExtendedBy
      { base with
        name, aliases, extensions
        keywords := base.keywords ++ keywords
        types := base.types ++ types } := by
  constructor
  case keywords => exact List.subset_append_left base.keywords keywords
  case types => exact List.subset_append_left base.types types
  case keywordsKept => exact keywordsKept
  all_goals rfl

theorem IsExtendedBy.sharesCharacters (isExtended : base.IsExtendedBy extended) :
    base.described.SharesCharacters extended.described := by
  constructor <;> simp [described, isExtended.operatorStart, isExtended.operatorContinue,
    isExtended.punctuation, isExtended.numberChars, isExtended.wordExtra,
    isExtended.directiveMarker, isExtended.verbatimPrefix]

/-- What the first language calls a keyword or a type is one of the same sort for the second. -/
theorem IsExtendedBy.classify_eq (isExtended : base.IsExtendedBy extended) {word : String}
    (isClassified : base.described.classify word ≠ .identifier) :
    extended.described.classify word = base.described.classify word := by
  by_cases isType : word ∈ base.types
  · simp [Language.classify, described, isType, isExtended.types isType]
  · by_cases isKeyword : word ∈ base.keywords
    · have noType : word ∉ extended.types := by
        intro newType
        exact isType (isExtended.keywordsKept word isKeyword newType)
      simp [Language.classify, described, isType, isKeyword, noType,
        isExtended.keywords isKeyword]
    · simp [Language.classify, described, isType, isKeyword] at isClassified

/-- Whatever the base language finds to be a keyword or a type is the same for the other one. -/
theorem IsExtendedBy.forall₂_kind_tokenize (isExtended : base.IsExtendedBy extended)
    (source : String) :
    List.Forall₂
      (fun token other : Token =>
        token.kind = .keyword ∨ token.kind = .type → other.kind = token.kind)
      (base.described.tokenize source) (extended.described.tokenize source) := by
  apply (Scanner.forall₂_differsInClass_scan isExtended.sharesCharacters source.toList).imp
  intro token other differs isClassified
  rcases differs.kind with ⟨-, noWord⟩ | ⟨word, ofBase, ofExtended⟩
  · rcases isClassified with isKeyword | isType
    · simp [isKeyword] at noWord
    · simp [isType] at noWord
  · rw [ofBase, ofExtended]
    apply isExtended.classify_eq
    rw [← ofBase]
    rcases isClassified with isKeyword | isType
    · simp [isKeyword]
    · simp [isType]

end Definition

namespace Builtin

theorem isExtendedBy_cpp : c.IsExtendedBy cpp := by
  apply Definition.isExtendedBy_append
  decide

theorem isExtendedBy_typescript : javascript.IsExtendedBy typescript := by
  apply Definition.isExtendedBy_append
  decide

end Builtin

namespace Language

/--
Two languages with the same characters and markers cut every text alike, and they give a token the
same kind if either of them finds it to be no word. This holds of C and C++ and of JavaScript and
TypeScript, and what the first of these calls a keyword or a type is the same for the second.
-/
theorem tokenize_of_sharesCharacters :
    (∀ left right : Language, left.SharesCharacters right → ∀ source,
      (left.tokenize source).map (·.lexeme) = (right.tokenize source).map (·.lexeme) ∧
        List.Forall₂
          (fun token other : Token =>
            token.kind ∉ [TokenKind.identifier, .keyword, .type] ∨
              other.kind ∉ [TokenKind.identifier, .keyword, .type] → token.kind = other.kind)
          (left.tokenize source) (right.tokenize source)) ∧
    ∀ base extended,
      (base, extended) ∈ [(Builtin.c, Builtin.cpp), (Builtin.javascript, Builtin.typescript)] →
      ∃ small large, base.build = .ok small ∧ extended.build = .ok large ∧ ∀ source,
        (small.tokenize source).map (·.lexeme) = (large.tokenize source).map (·.lexeme) ∧
          List.Forall₂
            (fun token other : Token =>
              token.kind = .keyword ∨ token.kind = .type → other.kind = token.kind)
            (small.tokenize source) (large.tokenize source) := by
  constructor
  · intro left right shared source
    refine ⟨Scanner.map_lexeme_tokenize_eq shared source, ?_⟩
    apply (Scanner.forall₂_differsInClass_scan shared source.toList).imp
    intro token other differs noWord
    exact differs.kind_eq noWord
  · intro base extended pair
    have isEither : (base = Builtin.c ∧ extended = Builtin.cpp) ∨
        (base = Builtin.javascript ∧ extended = Builtin.typescript) := by simpa using pair
    have known : base ∈ Builtin.definitions ∧ extended ∈ Builtin.definitions ∧
        base.IsExtendedBy extended := by
      rcases isEither with ⟨rfl, rfl⟩ | ⟨rfl, rfl⟩
      · exact ⟨by simp [Builtin.definitions], by simp [Builtin.definitions],
          Builtin.isExtendedBy_cpp⟩
      · exact ⟨by simp [Builtin.definitions], by simp [Builtin.definitions],
          Builtin.isExtendedBy_typescript⟩
    rcases known with ⟨baseKnown, extendedKnown, isExtended⟩
    refine ⟨base.described, extended.described, Builtin.build_of_mem baseKnown,
      Builtin.build_of_mem extendedKnown, ?_⟩
    intro source
    exact ⟨Scanner.map_lexeme_tokenize_eq isExtended.sharesCharacters source,
      isExtended.forall₂_kind_tokenize source⟩

/-- A language with a keyword. -/
def keywordSample : Definition where
  name := "one"
  keywords := ["int"]
  operatorStart := "+-"

/-- A language with the same characters that makes a type of the word. -/
def typeSample : Definition where
  name := "two"
  types := ["int"]
  operatorStart := "-+-"

/-- The word is the only token that the two sample languages tell apart. -/
theorem tokenize_of_sharesCharacters_samples :
    ∃ left right, keywordSample.build = .ok left ∧ typeSample.build = .ok right ∧
      left.SharesCharacters right ∧
      (left.tokenize "int+x").map (·.lexeme) = (right.tokenize "int+x").map (·.lexeme) ∧
      left.tokenize "int+x" = [⟨.keyword, "int"⟩, ⟨.operator, "+"⟩, ⟨.identifier, "x"⟩] ∧
      right.tokenize "int+x" = [⟨.type, "int"⟩, ⟨.operator, "+"⟩, ⟨.identifier, "x"⟩] := by
  have keywordBuilt : keywordSample.build = .ok keywordSample.described := rfl
  have typeBuilt : typeSample.build = .ok typeSample.described := rfl
  have shared : keywordSample.described.SharesCharacters typeSample.described := by
    constructor <;> simp [Definition.described, keywordSample, typeSample, or_comm]
  refine ⟨_, _, keywordBuilt, typeBuilt, shared, ?_, ?_, ?_⟩
  · exact (tokenize_of_sharesCharacters.1 _ _ shared "int+x").1
  · exact Language.tokenize_eq_iff.mpr (by decide)
  · exact Language.tokenize_eq_iff.mpr (by decide)

end Language

end Highlighter
