import Highlighter.Proofs.Character.Disjoint
import Highlighter.Proofs.Scanner.Coverage
import Highlighter.Proofs.Scanner.Rule

/-!
# Scanning the classified words

The keywords and the types of a language are words by the check of its definition, and most of them
are scanned as one token of their kind, alone as well as behind the prefix character. The check lets
a language count digits and slashes among the characters of its words, however, and the rules for
numbers and comments come first: a word that opens with a digit or with a comment opener is never
seen as a word.
-/

namespace Highlighter

theorem Definition.exists_of_isWord {extra : CharClass} {word : String}
    (isWord : isWord extra word) :
    ∃ first rest, word.toList = first :: rest ∧
      (Character.isWordStart first ∨ first ∈ extra) ∧
      ∀ c ∈ rest, Character.isWordContinue c ∨ c ∈ extra := by
  unfold Definition.isWord at isWord
  cases characters : word.toList with
  | nil => simp [characters] at isWord
  | cons first rest =>
      refine ⟨first, rest, rfl, ?_⟩
      simpa [characters] using isWord

theorem Definition.not_endsCode_of_isWordContinue {c : Char}
    (continues : Character.isWordContinue c) : ¬endsCode c := by
  intro ends
  have isEither : Character.isWhitespace c ∨ Character.isQuote c := by
    simpa [endsCode] using ends
  rcases isEither with whitespace | quote
  · exact Character.not_isWordContinue_of_isWhitespace whitespace continues
  · exact Character.not_isWordContinue_of_isQuote quote continues

namespace Language

/-- The kind of a word of one of the word sets: a type before a keyword. -/
def wordSetKind (language : Language) (word : String) : TokenKind :=
  if word ∈ language.types then .type else .keyword

theorem classify_eq_wordSetKind {language : Language} {word : String}
    (member : word ∈ language.keywords ∨ word ∈ language.types) :
    language.classify word = language.wordSetKind word := by
  by_cases isType : word ∈ language.types
  · simp [classify, wordSetKind, isType]
  · have isKeyword : word ∈ language.keywords := by simpa [isType] using member
    simp [classify, wordSetKind, isType, isKeyword]

/-- No character that starts a word is white space, a quote or the directive marker. -/
theorem WellFormed.startsWord_excludes {language : Language} (wellFormed : language.WellFormed)
    {c : Char} (starts : language.startsWord c) :
    ¬Definition.endsCode c ∧ language.directiveMarker ≠ some c := by
  by_cases isPrefix : language.verbatimPrefix = some c
  · have noShadow := Definition.not_shadowsMarker_iff.mp (wellFormed.verbatimPrefix c isPrefix)
    refine ⟨noShadow.1, ?_⟩
    intro isMarker
    exact wellFormed.markers c isMarker isPrefix
  · have continues := continuesWord_of_startsWord starts isPrefix
    have isEither : Character.isWordContinue c ∨ c ∈ language.wordExtra := by
      simpa [continuesWord] using continues
    constructor
    · rcases isEither with wordCharacter | extra
      · exact Definition.not_endsCode_of_isWordContinue wordCharacter
      · exact wellFormed.wordExtra c extra
    · intro isMarker
      have noShadow := Definition.not_shadowsMarker_iff.mp (wellFormed.directiveMarker c isMarker)
      rcases isEither with wordCharacter | extra
      · exact noShadow.2.1 wordCharacter
      · exact noShadow.2.2.1 extra

end Language

namespace Scanner

/-- The text starts as a number or a comment does. -/
def OpensNumberOrComment (text : List Char) : Prop :=
  (∃ c ∈ text.head?, c.isDigit) ∨ ['/', '/'] <+: text ∨ ['/', '*'] <+: text

/-- Where a word may start, only the rules of numbers and comments can come before that of words. -/
theorem Rule.decides_word_iff {language : Language} (wellFormed : language.WellFormed)
    {first : Char} {following : List Char} (starts : language.startsWord first) :
    word.Decides language first following ↔ ¬OpensNumberOrComment (first :: following) := by
  rcases wellFormed.startsWord_excludes starts with ⟨noEnd, noMarker⟩
  have noWhitespace : ¬Character.isWhitespace first := by
    intro whitespace
    exact noEnd (by simp [Definition.endsCode, whitespace])
  have noQuote : first ≠ '"' ∧ first ≠ '\'' := by
    constructor <;> rintro rfl <;> exact noEnd (by decide)
  have applies : Rule.word.Applies language first (first :: following) :=
    Language.startsWord_iff.mp starts
  have order : Rule.word.before =
      [whitespace, lineComment, blockComment, literal, directive, number] := rfl
  rw [decides_iff, and_iff_right applies, order]
  simp only [List.forall_mem_cons, Applies, OpensNumberOrComment, List.head?_cons,
    Option.mem_some_iff, exists_eq_left', noWhitespace, noQuote, noMarker, List.not_mem_nil,
    false_imp_iff, implies_true, not_false_eq_true, and_true, true_and, or_false]
  tauto

theorem Rule.eq_word_of_kind {language : Language} {first : Char} {taken : List Char} {rule : Rule}
    {word : String} (kind : rule.kind language first taken = language.wordSetKind word) :
    rule = .word := by
  cases rule with
  | word => rfl
  | _ =>
      simp only [Rule.kind, Language.wordSetKind] at kind
      split at kind <;> simp at kind

/-- A text that consists of characters of words behind the first one is a single token of the given
kind exactly if the rule for words decides. -/
theorem scan_eq_word_iff {language : Language} {first : Char} {following : List Char}
    {word : String} (member : word ∈ language.keywords ∨ word ∈ language.types)
    (continues : ∀ c ∈ following, language.continuesWord c)
    (classified : String.ofList
      (if language.verbatimPrefix = some first then following else first :: following) = word) :
    scan language (first :: following) =
        [⟨language.wordSetKind word, String.ofList (first :: following)⟩] ↔
      Rule.word.Decides language first following := by
  constructor
  · intro single
    rcases exists_decides_and_recognize_eq_found language first following with
      ⟨rule, decides, recognized⟩
    rw [scan_cons, recognized] at single
    have kind : (rule.found language first following).kind = language.wordSetKind word :=
      congrArg Token.kind (List.cons.inj single).1
    rcases Rule.eq_word_of_kind kind with rfl
    exact decides
  · intro decides
    have whole : (Rule.word.cut language first following) = (following, []) := by
      have taken : following.takeWhile language.continuesWord = following :=
        List.takeWhile_eq_self_iff.mpr continues
      have left : following.dropWhile language.continuesWord = [] :=
        List.dropWhile_eq_nil_iff.mpr continues
      simp [Rule.cut, Rule.runCut, taken, left]
    rw [scan_cons, recognize_eq_found decides, Rule.found, whole, scan_nil]
    simp only [Match.token, Rule.kind, classified]
    rw [Language.classify_eq_wordSetKind member]

/--
A classified word is scanned as one token of its kind exactly if it opens neither as a number nor as
a comment does, and so is the word behind the prefix character of the language.
-/
theorem tokenize_classified_word_iff {definition : Definition} {language : Language}
    (built : definition.build = .ok language) {word : String}
    (member : word ∈ language.keywords ∨ word ∈ language.types) :
    (language.tokenize word = [⟨language.wordSetKind word, word⟩] ↔
        ¬OpensNumberOrComment word.toList) ∧
      ∀ c, language.verbatimPrefix = some c →
        (language.tokenize (String.singleton c ++ word) =
            [⟨language.wordSetKind word, String.singleton c ++ word⟩] ↔
          ¬OpensNumberOrComment (c :: word.toList)) := by
  have wellFormed := Definition.wellFormed_of_build built
  have isWord : Definition.isWord language.wordExtra word := by
    rcases member with keyword | type
    · exact wellFormed.keywords word keyword
    · exact wellFormed.types word type
  rcases Definition.exists_of_isWord isWord with
    ⟨first, rest, characters, firstStarts, restContinue⟩
  have continues : ∀ c ∈ rest, language.continuesWord c := by
    intro c later
    simpa [Language.continuesWord] using restContinue c later
  have starts : language.startsWord first := by
    rcases firstStarts with wordStart | extra
    · simp [Language.startsWord, wordStart]
    · simp [Language.startsWord, extra]
  have firstContinues : Character.isWordContinue first ∨ first ∈ language.wordExtra :=
    firstStarts.imp_left Character.isWordContinue_of_isWordStart
  constructor
  · have noPrefix : language.verbatimPrefix ≠ some first := by
      intro isPrefix
      have noShadow :=
        Definition.not_shadowsMarker_iff.mp (wellFormed.verbatimPrefix first isPrefix)
      rcases firstContinues with wordCharacter | extra
      · exact noShadow.2.1 wordCharacter
      · exact noShadow.2.2.1 extra
    rw [Language.tokenize, characters, ← Rule.decides_word_iff wellFormed starts]
    have text : String.ofList (first :: rest) = word := by
      rw [← characters, String.ofList_toList]
    rw [← text] at member ⊢
    exact scan_eq_word_iff member continues (by simp [noPrefix])
  · intro c isPrefix
    have prefixStarts : language.startsWord c := by simp [Language.startsWord, isPrefix]
    have wordContinues : ∀ d ∈ word.toList, language.continuesWord d := by
      intro d inWord
      rw [characters] at inWord
      rcases List.mem_cons.mp inWord with rfl | later
      · simpa [Language.continuesWord] using firstContinues
      · exact continues d later
    have text : (String.singleton c ++ word).toList = c :: word.toList := by simp
    rw [Language.tokenize, text, ← Rule.decides_word_iff wellFormed prefixStarts]
    have whole : String.singleton c ++ word = String.ofList (c :: word.toList) := by
      rw [← text, String.ofList_toList]
    rw [whole]
    exact scan_eq_word_iff member wordContinues (by simp [isPrefix])

/-- A word of both sets is a type, also behind the prefix. -/
theorem tokenize_type_behind_prefix :
    ∃ language,
      { name := "sample", keywords := ["int"], types := ["int"],
        verbatimPrefix := some '@' : Definition }.build = .ok language ∧
      "int" ∈ language.types ∧ language.tokenize "int" = [⟨.type, "int"⟩] ∧
      language.tokenize "@int" = [⟨.type, "@int"⟩] := by
  have built :
      { name := "sample", keywords := ["int"], types := ["int"],
        verbatimPrefix := some '@' : Definition }.build = .ok _ := rfl
  have alone := (tokenize_classified_word_iff built (Or.inr (by decide : "int" ∈ _))).1
  have prefixed := (tokenize_classified_word_iff built (Or.inr (by decide : "int" ∈ _))).2 '@' rfl
  refine ⟨_, built, by decide, alone.mpr ?_, prefixed.mpr ?_⟩
  · simp [OpensNumberOrComment]
  · simp [OpensNumberOrComment]

/-- A language is accepted whose keywords are scanned as a number with a word behind it, and as a
comment where the prefix character stands in front. -/
theorem tokenize_keyword_as_number_or_comment :
    ∃ language,
      { name := "sample", keywords := ["1a", "*"], wordExtra := "1*",
        verbatimPrefix := some '/' : Definition }.build = .ok language ∧
      "1a" ∈ language.keywords ∧
      language.tokenize "1a" = [⟨.number, "1"⟩, ⟨.identifier, "a"⟩] ∧
      "*" ∈ language.keywords ∧ language.tokenize "/*" = [⟨.comment, "/*"⟩] := by
  have built :
      { name := "sample", keywords := ["1a", "*"], wordExtra := "1*",
        verbatimPrefix := some '/' : Definition }.build = .ok _ := rfl
  exact ⟨_, built, by decide, Language.tokenize_eq_iff.mpr (by decide), by decide,
    Language.tokenize_eq_iff.mpr (by decide)⟩

end Scanner

end Highlighter
