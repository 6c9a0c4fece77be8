import Highlighter.Proofs.Language.Checks

/-!
# Languages that can drive the scanner

The characters that words and numbers consist of are those of the Unicode classes and of the
classes of the language, and a character that opens a word, other than as its prefix, continues
words as well. A language that was built from a definition has passed the checks of the definition,
and these say which characters and words it can hold.
-/

namespace Highlighter

namespace Language

theorem startsWord_iff {language : Language} {c : Char} :
    language.startsWord c ↔
      Character.isAlphabetic c ∨ c = '_' ∨ c ∈ language.wordExtra ∨
        language.verbatimPrefix = some c := by
  simp [startsWord, Character.isWordStart, or_assoc, or_left_comm]

theorem continuesWord_iff {language : Language} {c : Char} :
    language.continuesWord c ↔
      Character.isAlphanumeric c ∨ c = '_' ∨ c ∈ language.wordExtra := by
  simp [continuesWord, Character.isWordContinue, or_assoc, or_left_comm]

theorem continuesNumber_iff {language : Language} {c : Char} :
    language.continuesNumber c ↔ c.isDigit ∨ c ∈ language.numberChars := by
  simp [continuesNumber]

theorem continuesWord_of_startsWord {language : Language} {c : Char}
    (starts : language.startsWord c) (noPrefix : language.verbatimPrefix ≠ some c) :
    language.continuesWord c := by
  rw [continuesWord_iff]
  rcases startsWord_iff.mp starts with letter | underscore | extra | isPrefix
  · exact Or.inl (by simp [Character.isAlphanumeric, letter])
  · exact Or.inr (Or.inl underscore)
  · exact Or.inr (Or.inr extra)
  · exact absurd isPrefix noPrefix

/-- The kinds of words. -/
theorem classify_mem (language : Language) (word : String) :
    language.classify word ∈ [TokenKind.identifier, .keyword, .type] := by
  unfold classify
  split
  · simp
  · split <;> simp

end Language

/-- What the checks of a definition establish of the language it describes. -/
structure Language.WellFormed (language : Language) : Prop where
  wordExtra : ∀ c ∈ language.wordExtra, ¬Definition.endsCode c
  keywords : ∀ word ∈ language.keywords, Definition.isWord language.wordExtra word
  types : ∀ word ∈ language.types, Definition.isWord language.wordExtra word
  directiveMarker : ∀ c, language.directiveMarker = some c →
    ¬Definition.shadowsMarker language.wordExtra language.operatorStart language.punctuation c
  verbatimPrefix : ∀ c, language.verbatimPrefix = some c →
    ¬Definition.shadowsMarker language.wordExtra language.operatorStart language.punctuation c
  markers : ∀ c, language.directiveMarker = some c → language.verbatimPrefix ≠ some c
  wordExtra_disjoint : ∀ c ∈ language.wordExtra,
    c ∉ language.operatorStart ∧ c ∉ language.punctuation
  punctuation_disjoint : ∀ c ∈ language.punctuation, c ∉ language.operatorStart
  numberChars : ∀ c ∈ language.numberChars, ¬Definition.endsCode c

namespace Definition

theorem bind_eq_ok_iff {ε α β : Type} {action : Except ε α} {next : α → Except ε β} {result : β} :
    action >>= next = .ok result ↔ ∃ value, action = .ok value ∧ next value = .ok result := by
  cases action with
  | error error => simp [bind, Except.bind]
  | ok value => simp [bind, Except.bind]

theorem ite_throw_eq_ok_iff {ε α β : Type} {condition : Prop} [Decidable condition] {error : ε}
    {next : α → Except ε β} {otherwise : Except ε β} {result : β} :
    (if condition then throw error >>= next else otherwise) = .ok result ↔
      ¬condition ∧ otherwise = .ok result := by
  by_cases holds : condition
  · simp [holds, bind, Except.bind, throw, throwThe, MonadExceptOf.throw]
  · simp [holds]

theorem not_shadowsMarker_iff {wordExtra operatorStart punctuation : CharClass} {c : Char} :
    ¬shadowsMarker wordExtra operatorStart punctuation c ↔
      ¬endsCode c ∧ ¬Character.isWordContinue c ∧ c ∉ wordExtra ∧ c ∉ operatorStart ∧
        c ∉ punctuation := by
  simp [shadowsMarker, and_assoc]

/-- A language that was built is well-formed. -/
theorem wellFormed_of_build {definition : Definition} {language : Language}
    (built : definition.build = .ok language) : language.WellFormed := by
  rcases build_eq_ok_iff_described.mp built with ⟨passes, rfl⟩
  constructor
  · intro c member
    rw [endsCode_iff]
    exact passes .wordExtra c (CharClass.mem_ofString.mp member)
  · intro word member
    exact isWord_iff.mpr (passes (.words .keyword) word (OrderedSet.mem_ofList.mp member))
  · intro word member
    exact isWord_iff.mpr (passes (.words .type) word (OrderedSet.mem_ofList.mp member))
  · intro c isMarker
    rw [shadowsMarker_iff]
    exact passes (.marker .directive) c isMarker
  · intro c isPrefix
    rw [shadowsMarker_iff]
    exact passes (.marker .verbatim) c isPrefix
  · exact passes .markers
  · intro c member
    have apart := passes .wordExtraApart
    simp only [described, CharClass.mem_ofString] at member ⊢
    exact ⟨apart.1 member, apart.2 member⟩
  · intro c member
    have apart := passes .symbolsApart
    simp only [described, CharClass.mem_ofString] at member ⊢
    exact fun isOperator => apart isOperator member
  · intro c member
    rw [endsCode_iff]
    exact passes .numberChars c (CharClass.mem_ofString.mp member)

end Definition

end Highlighter
