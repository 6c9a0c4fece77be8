import Highlighter.Proofs.Scanner.Coverage
import Highlighter.Proofs.Scanner.Rule

/-!
# The grammar of tokens

A text is divided into tokens by a grammar that says, for the first rule that applies at the start
of a token, which prefix of the text the token is: the longest one that consists of certain
characters, or the shortest one that is closed. The grammar divides every text in exactly one way,
and for a language that was built from a definition the tokens are those of the scanner.
-/

namespace Highlighter.Scanner

/-- The kind of a word without its prefix: a type before a keyword before an identifier. A prefix
that no word follows is an identifier. -/
def wordKind (language : Language) (word : List Char) : TokenKind :=
  if word = [] then .identifier
  else if String.ofList word ∈ language.types then .type
  else if String.ofList word ∈ language.keywords then .keyword
  else .identifier

/-- The prefix character in front of a word that starts with the given character, if it is one. -/
def wordPrefix (language : Language) (first : Char) : List Char :=
  if language.verbatimPrefix = some first then [first] else []

/-- The kind and the characters of a token that starts a text with the given first character and is
formed by the rule. -/
def Rule.Forms (language : Language) (first : Char) (text : List Char) (kind : TokenKind)
    (lexeme : List Char) : Rule → Prop
  | whitespace =>
    kind = .text ∧
      Text.IsLongestPrefix (fun taken => ∀ c ∈ taken, Character.isWhitespace c) text lexeme
  | lineComment =>
    kind = .comment ∧ Text.IsLongestPrefix (fun taken => '\n' ∉ taken) text lexeme
  | blockComment =>
    kind = .comment ∧
      Text.IsShortestPrefixOrAll (fun taken => ∃ inner, taken = ['/', '*'] ++ inner ++ ['*', '/'])
        text lexeme
  | literal =>
    kind = .string ∧
      Text.IsShortestPrefixOrAll
        (fun taken => ∃ body, taken = [first] ++ body ++ [first] ∧ LeavesUnescaped body) text lexeme
  | directive =>
    kind = .preprocessor ∧ Text.IsLongestPrefix (fun taken => '\n' ∉ taken) text lexeme
  | number =>
    kind = .number ∧
      Text.IsLongestPrefix (fun taken => ∀ c ∈ taken, c.isDigit ∨ c ∈ language.numberChars)
        text lexeme
  | word =>
    ∃ word rest, lexeme = wordPrefix language first ++ word ∧
      text = wordPrefix language first ++ rest ∧ kind = wordKind language word ∧
      Text.IsLongestPrefix
        (fun taken => ∀ c ∈ taken,
          Character.isAlphanumeric c ∨ c = '_' ∨ c ∈ language.wordExtra) rest word
  | operator =>
    kind = .operator ∧
      ∃ run rest, lexeme = first :: run ∧ text = first :: rest ∧
        Text.IsLongestPrefix (fun taken => ∀ c ∈ taken, c ∈ language.operatorContinue) rest run
  | punctuation => kind = .punctuation ∧ lexeme = [first]
  | other => kind = .text ∧ lexeme = [first]

/-- The text is divided into the tokens, each of which is formed by the first rule that applies. -/
inductive DividesInto (language : Language) : List Char → List Token → Prop
  | nil : DividesInto language [] []
  | cons {first : Char} {following lexeme rest : List Char} {rule : Rule} {kind : TokenKind}
      {tokens : List Token} :
      rule.Decides language first following →
      rule.Forms language first (first :: following) kind lexeme →
      first :: following = lexeme ++ rest →
      DividesInto language rest tokens →
      DividesInto language (first :: following) (⟨kind, String.ofList lexeme⟩ :: tokens)

/-! ### The grammar leaves no choice -/

theorem Rule.Forms.unique {language : Language} {first : Char} {text : List Char} {rule : Rule}
    {leftKind rightKind : TokenKind} {left right : List Char}
    (isLeft : rule.Forms language first text leftKind left)
    (isRight : rule.Forms language first text rightKind right) :
    leftKind = rightKind ∧ left = right := by
  cases rule with
  | whitespace | lineComment | blockComment | literal | directive | number =>
      exact ⟨isLeft.1.trans isRight.1.symm, isLeft.2.unique isRight.2⟩
  | word =>
      rcases isLeft with ⟨leftWord, leftRest, rfl, leftText, rfl, leftLongest⟩
      rcases isRight with ⟨rightWord, rightRest, rfl, rightText, rfl, rightLongest⟩
      rcases List.append_cancel_left (leftText.symm.trans rightText) with rfl
      rcases leftLongest.unique rightLongest with rfl
      exact ⟨rfl, rfl⟩
  | operator =>
      rcases isLeft with ⟨rfl, leftRun, leftRest, rfl, leftText, leftLongest⟩
      rcases isRight with ⟨rfl, rightRun, rightRest, rfl, rightText, rightLongest⟩
      rcases (List.cons.inj (leftText.symm.trans rightText)).2 with rfl
      rcases leftLongest.unique rightLongest with rfl
      exact ⟨rfl, rfl⟩
  | punctuation | other =>
      exact ⟨isLeft.1.trans isRight.1.symm, isLeft.2.trans isRight.2.symm⟩

theorem DividesInto.unique {language : Language} {text : List Char} {left right : List Token}
    (isLeft : DividesInto language text left) (isRight : DividesInto language text right) :
    left = right := by
  induction isLeft generalizing right with
  | nil =>
      cases isRight
      rfl
  | cons leftDecides leftForms leftWhole _ ih =>
      cases isRight with
      | cons rightDecides rightForms rightWhole rightRest =>
          rcases leftDecides.unique rightDecides with rfl
          rcases leftForms.unique rightForms with ⟨rfl, rfl⟩
          rcases List.append_cancel_left (leftWhole.symm.trans rightWhole) with rfl
          rw [ih rightRest]

/-! ### The scanner follows the grammar -/

theorem Rule.Decides.ne_newline {language : Language} {first : Char} {following : List Char}
    {rule : Rule} (decides : rule.Decides language first following)
    (notWhitespace : rule ≠ whitespace) : first ≠ '\n' := by
  rintro rfl
  have newline : Character.isWhitespace '\n' := by decide
  have isWhitespace : whitespace.Decides language '\n' following := ⟨[], _, rfl, newline, by simp⟩
  exact notWhitespace (decides.unique isWhitespace)

theorem classify_eq_wordKind {language : Language} (wellFormed : language.WellFormed)
    (word : List Char) : language.classify (String.ofList word) = wordKind language word := by
  have noType : "" ∉ language.types := fun member => by
    simpa [Definition.isWord] using wellFormed.types "" member
  have noKeyword : "" ∉ language.keywords := fun member => by
    simpa [Definition.isWord] using wellFormed.keywords "" member
  by_cases empty : word = []
  · subst empty
    simp [Language.classify, wordKind, noType, noKeyword]
  · simp [Language.classify, wordKind, empty]

theorem forms_word {language : Language} (wellFormed : language.WellFormed) {first : Char}
    (following : List Char) (starts : language.startsWord first) :
    Rule.word.Forms language first (first :: following)
      (Rule.word.found language first following).kind
      (first :: (Rule.word.found language first following).body) := by
  have characters : ∀ taken : List Char,
      (∀ c ∈ taken, Character.isAlphanumeric c ∨ c = '_' ∨ c ∈ language.wordExtra) ↔
        ∀ c ∈ taken, language.continuesWord c := by
    intro taken
    simp only [Language.continuesWord_iff]
  simp only [Rule.found, Rule.cut, Rule.runCut, Rule.kind, classify_eq_wordKind wellFormed]
  by_cases isPrefix : language.verbatimPrefix = some first
  · refine ⟨following.takeWhile language.continuesWord, following, ?_, ?_, ?_, ?_⟩
    · simp [wordPrefix, isPrefix]
    · simp [wordPrefix, isPrefix]
    · simp [isPrefix]
    · exact Text.isLongestPrefix_takeWhile characters following
  · have continues := Language.continuesWord_of_startsWord starts isPrefix
    refine ⟨first :: following.takeWhile language.continuesWord, first :: following, ?_, ?_, ?_, ?_⟩
    · simp [wordPrefix, isPrefix]
    · simp [wordPrefix, isPrefix]
    · simp [isPrefix]
    · exact Text.isLongestPrefix_cons_takeWhile characters continues following

/-- What the deciding rule finds is a token that the rule forms. -/
theorem forms_found {language : Language} (wellFormed : language.WellFormed) {first : Char}
    {following : List Char} {rule : Rule} (decides : rule.Decides language first following) :
    rule.Forms language first (first :: following) (rule.found language first following).kind
      (first :: (rule.found language first following).body) := by
  rcases id decides with ⟨_, _, _, applies, _⟩
  have noNewline : ∀ taken : List Char, '\n' ∉ taken ↔ ∀ c ∈ taken, decide (c ≠ '\n') = true := by
    intro taken
    simp [List.forall_mem_ne']
  cases rule with
  | whitespace =>
      exact ⟨rfl, Text.isLongestPrefix_cons_takeWhile (fun _ => Iff.rfl) applies following⟩
  | lineComment =>
      rcases Text.pair_isPrefix_cons_iff.mp applies with ⟨rfl, _⟩
      exact ⟨rfl, Text.isLongestPrefix_cons_takeWhile noNewline (by decide) following⟩
  | blockComment =>
      rcases Text.pair_isPrefix_cons_iff.mp applies with ⟨rfl, opens⟩
      rcases List.head?_eq_some_iff.mp opens with ⟨tail, rfl⟩
      refine ⟨rfl, ?_⟩
      apply (isShortestPrefixOrAll_splitBlock tail).append_left ['/', '*']
      intro other
      constructor
      · rintro ⟨inner, rfl⟩
        exact ⟨inner ++ ['*', '/'], rfl, inner, rfl⟩
      · rintro ⟨_, rfl, inner, rfl⟩
        exact ⟨inner, rfl⟩
  | literal =>
      refine ⟨rfl, ?_⟩
      apply (isShortestPrefixOrAll_splitLiteral first following).append_left [first]
      intro other
      constructor
      · rintro ⟨body, rfl, leaves⟩
        exact ⟨body ++ [first], rfl, body, rfl, leaves⟩
      · rintro ⟨_, rfl, body, rfl, leaves⟩
        exact ⟨body, rfl, leaves⟩
  | directive =>
      have isLine := decides.ne_newline (by simp)
      exact ⟨rfl, Text.isLongestPrefix_cons_takeWhile noNewline (by simpa using isLine) following⟩
  | number =>
      have digits : ∀ taken : List Char, (∀ c ∈ taken, c.isDigit ∨ c ∈ language.numberChars) ↔
          ∀ c ∈ taken, language.continuesNumber c := by
        intro taken
        simp only [Language.continuesNumber_iff]
      have continues : language.continuesNumber first :=
        Language.continuesNumber_iff.mpr (Or.inl applies)
      exact ⟨rfl, Text.isLongestPrefix_cons_takeWhile digits continues following⟩
  | word => exact forms_word wellFormed following (Language.startsWord_iff.mpr applies)
  | operator =>
      have members : ∀ taken : List Char, (∀ c ∈ taken, c ∈ language.operatorContinue) ↔
          ∀ c ∈ taken, language.operatorContinue.contains c := by
        intro taken
        simp
      exact ⟨rfl, _, following, rfl, rfl, Text.isLongestPrefix_takeWhile members following⟩
  | punctuation => exact ⟨rfl, rfl⟩
  | other => exact ⟨rfl, rfl⟩

theorem dividesInto_scan {language : Language} (wellFormed : language.WellFormed)
    (text : List Char) : DividesInto language text (scan language text) := by
  induction text using scan_induction language with
  | nil =>
      rw [scan_nil]
      exact .nil
  | cons first following ih =>
      rcases exists_decides_and_recognize_eq_found language first following with
        ⟨rule, decides, recognized⟩
      have whole := body_append_rest_recognize language first following
      rw [scan_cons]
      rw [recognized] at whole ih ⊢
      exact .cons decides (forms_found wellFormed decides) (by rw [List.cons_append, whole]) ih

/--
For a language that was built from a definition, scanning gives exactly the tokens into which the
grammar divides the source.
-/
theorem tokenize_eq_iff_dividesInto {definition : Definition} {language : Language}
    (built : definition.build = .ok language) (source : String) (tokens : List Token) :
    language.tokenize source = tokens ↔ DividesInto language source.toList tokens := by
  have divides := dividesInto_scan (Definition.wellFormed_of_build built) source.toList
  constructor
  · rintro rfl
    exact divides
  · intro dividesInto
    exact divides.unique dividesInto

/-- A prefix takes no part in the classification of its word, and on its own it is an identifier. -/
theorem dividesInto_of_tokenize_verbatim :
    ∃ language,
      { name := "sample", types := ["int"], verbatimPrefix := some '@' : Definition }.build =
        .ok language ∧
      DividesInto language "@int @".toList
        [⟨.type, "@int"⟩, ⟨.text, " "⟩, ⟨.identifier, "@"⟩] := by
  have built :
      { name := "sample", types := ["int"], verbatimPrefix := some '@' : Definition }.build =
        .ok _ := rfl
  exact ⟨_, built,
    (tokenize_eq_iff_dividesInto built "@int @" _).mp (Language.tokenize_eq_iff.mpr (by decide))⟩

end Highlighter.Scanner
