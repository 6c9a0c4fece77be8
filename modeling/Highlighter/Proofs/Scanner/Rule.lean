import Highlighter.Proofs.Language.WellFormed
import Highlighter.Proofs.Scanner.Coverage
import Highlighter.Proofs.Scanner.Delimited

/-!
# The rule that decides

The scanner tries its rules in a fixed order, and the first one that applies to the text decides the
kind of the next token and where it ends. Which rule that is depends on the first character and on
whether the character behind it makes a comment opener of it, and on nothing else. Every rule then
cuts the text behind the first character in a way that does not look ahead.
-/

namespace Highlighter.Scanner

/-- The rules by which tokens are recognized. -/
inductive Rule where
  | whitespace
  | lineComment
  | blockComment
  | literal
  | directive
  | number
  | word
  | operator
  | punctuation
  | other

namespace Rule

/-- The rules in the order in which they are tried. -/
def all : List Rule :=
  [whitespace, lineComment, blockComment, literal, directive, number, word, operator, punctuation,
    other]

/-- A text with the given first character starts as a token of the rule does. -/
def Applies (language : Language) (first : Char) (text : List Char) : Rule → Prop
  | whitespace => Character.isWhitespace first
  | lineComment => ['/', '/'] <+: text
  | blockComment => ['/', '*'] <+: text
  | literal => first = '"' ∨ first = '\''
  | directive => language.directiveMarker = some first
  | number => first.isDigit
  | word =>
    Character.isAlphabetic first ∨ first = '_' ∨ first ∈ language.wordExtra ∨
      language.verbatimPrefix = some first
  | operator => first ∈ language.operatorStart
  | punctuation => first ∈ language.punctuation
  | other => True

/-- The rule is the first one that applies to the text of the two arguments together. -/
def Decides (language : Language) (first : Char) (following : List Char) (rule : Rule) : Prop :=
  ∃ earlier later, all = earlier ++ rule :: later ∧
    rule.Applies language first (first :: following) ∧
    ∀ tried ∈ earlier, ¬tried.Applies language first (first :: following)

open Classical in
theorem decides_iff_find? {language : Language} {first : Char} {following : List Char}
    {rule : Rule} :
    rule.Decides language first following ↔
      all.find? (fun tried => decide (tried.Applies language first (first :: following))) =
        some rule := by
  rw [List.find?_eq_some_iff_append, Decides]
  constructor
  · rintro ⟨earlier, later, order, applies, none⟩
    exact ⟨by simpa using applies, earlier, later, order, by simpa using none⟩
  · rintro ⟨applies, earlier, later, order, none⟩
    exact ⟨earlier, later, order, by simpa using applies, by simpa using none⟩

theorem Decides.unique {language : Language} {first : Char} {following : List Char}
    {left right : Rule} (isLeft : left.Decides language first following)
    (isRight : right.Decides language first following) : left = right := by
  rw [decides_iff_find?] at isLeft isRight
  exact Option.some.inj (isLeft.symm.trans isRight)

deriving instance DecidableEq for Rule

/-- The rules that are tried before a rule. -/
def before (rule : Rule) : List Rule :=
  all.takeWhile (· ≠ rule)

/-- A rule decides exactly if it applies and none that is tried before it does. -/
theorem decides_iff {language : Language} {first : Char} {following : List Char} {rule : Rule} :
    rule.Decides language first following ↔
      rule.Applies language first (first :: following) ∧
        ∀ tried ∈ rule.before, ¬tried.Applies language first (first :: following) := by
  constructor
  · rintro ⟨earlier, later, order, applies, none⟩
    have distinct : (earlier ++ rule :: later).Nodup := order ▸ (by decide : all.Nodup)
    have others : ∀ tried ∈ earlier, decide (tried ≠ rule) = true := by
      intro tried member
      have apart := (List.nodup_append.mp distinct).2.2 tried member rule List.mem_cons_self
      simpa using apart
    have same : rule.before = earlier := by
      rw [before, order, List.takeWhile_append_of_pos others]
      simp
    rw [same]
    exact ⟨applies, none⟩
  · rintro ⟨applies, none⟩
    refine ⟨rule.before, (all.dropWhile (· ≠ rule)).tail, ?_, applies, none⟩
    cases rule <;> rfl

/-! ### What the choice of the rule depends on -/

/-- Of the text behind the first character only the next character matters. -/
theorem applies_congr {language : Language} {first : Char} {following other : List Char}
    (same : following.head? = other.head?) (rule : Rule) :
    rule.Applies language first (first :: following) ↔
      rule.Applies language first (first :: other) := by
  cases rule with
  | lineComment => simp only [Applies, Text.pair_isPrefix_cons_iff, same]
  | blockComment => simp only [Applies, Text.pair_isPrefix_cons_iff, same]
  | _ => rfl

theorem Decides.congr {language : Language} {first : Char} {following other : List Char}
    {rule : Rule} (same : following.head? = other.head?)
    (decides : rule.Decides language first following) : rule.Decides language first other := by
  rcases decides with ⟨earlier, later, order, applies, none⟩
  refine ⟨earlier, later, order, (applies_congr same rule).mp applies, ?_⟩
  intro tried member triedApplies
  exact none tried member ((applies_congr same tried).mpr triedApplies)

/-! ### What the rule makes of the text -/

/-- The kind of a token, given its first character and what the rule took behind it. -/
def kind (language : Language) (first : Char) (taken : List Char) : Rule → TokenKind
  | whitespace => .text
  | lineComment => .comment
  | blockComment => .comment
  | literal => .string
  | directive => .preprocessor
  | number => .number
  | word =>
    language.classify (String.ofList
      (if language.verbatimPrefix = some first then taken else first :: taken))
  | operator => .operator
  | punctuation => .punctuation
  | other => .text

/-- The cut at the end of the characters that satisfy the predicate. -/
def runCut (p : Char → Bool) (text : List Char) : List Char × List Char :=
  (text.takeWhile p, text.dropWhile p)

/-- The cut behind a block comment, behind its opening slash. -/
def blockCut : List Char → List Char × List Char
  | [] => ([], [])
  | c :: text => (c :: (splitBlock text).1, (splitBlock text).2)

/-- The cut that takes nothing. -/
def emptyCut (text : List Char) : List Char × List Char :=
  ([], text)

/-- How the rule cuts the text behind the first character of a token. -/
def cut (language : Language) (first : Char) : Rule → List Char → List Char × List Char
  | whitespace => runCut Character.isWhitespace
  | lineComment => runCut (· ≠ '\n')
  | blockComment => blockCut
  | literal => splitLiteral first
  | directive => runCut (· ≠ '\n')
  | number => runCut language.continuesNumber
  | word => runCut language.continuesWord
  | operator => runCut language.operatorContinue.contains
  | punctuation => emptyCut
  | other => emptyCut

/-- What the rule recognizes in the text behind the first character. -/
def found (language : Language) (first : Char) (following : List Char) (rule : Rule) : Match :=
  ⟨rule.kind language first (rule.cut language first following).1,
    (rule.cut language first following).1, (rule.cut language first following).2⟩

theorem isStableCut_blockCut : Text.IsStableCut blockCut where
  append := by
    intro text
    cases text with
    | nil => rfl
    | cons c text => simp [blockCut, splitBlock_append]
  settled := by
    intro text extra rest
    cases text with
    | nil => simp [blockCut] at rest
    | cons c text => simp [blockCut, isStableCut_splitBlock.settled text extra rest]
  grows := by
    intro text extra
    cases text with
    | nil => simp [blockCut]
    | cons c text => simpa [blockCut] using isStableCut_splitBlock.grows text extra

theorem isStableCut_emptyCut : Text.IsStableCut emptyCut where
  append _ := rfl
  settled _ _ _ := rfl
  grows _ _ := List.prefix_rfl

/-- No rule looks ahead. -/
theorem isStableCut_cut (language : Language) (first : Char) (rule : Rule) :
    Text.IsStableCut (rule.cut language first) := by
  cases rule with
  | blockComment => exact isStableCut_blockCut
  | literal => exact isStableCut_splitLiteral first
  | punctuation => exact isStableCut_emptyCut
  | other => exact isStableCut_emptyCut
  | _ => exact Text.isStableCut_run _

/-! ### The first character on its own -/

theorem Applies.alone {language : Language} {first : Char} {following : List Char} {rule : Rule}
    (applies : rule.Applies language first (first :: following))
    (takes : (rule.cut language first following).1 = []) :
    rule.Applies language first [first] := by
  cases rule with
  | lineComment =>
      -- A comment takes at least the second character of its opener.
      have opens := (Text.pair_isPrefix_cons_iff.mp applies).2
      rcases List.head?_eq_some_iff.mp opens with ⟨tail, rfl⟩
      simp [cut, runCut] at takes
  | blockComment =>
      have opens := (Text.pair_isPrefix_cons_iff.mp applies).2
      rcases List.head?_eq_some_iff.mp opens with ⟨tail, rfl⟩
      simp [cut, blockCut] at takes
  | _ => exact applies

theorem applies_cons_of_alone {language : Language} {first : Char} (following : List Char)
    {rule : Rule} (applies : rule.Applies language first [first]) :
    rule.Applies language first (first :: following) := by
  cases rule with
  | lineComment => simp [Applies] at applies
  | blockComment => simp [Applies] at applies
  | _ => exact applies

/-- A rule that takes nothing more decides for the first character whatever comes behind it. -/
theorem Decides.alone {language : Language} {first : Char} {following : List Char} {rule : Rule}
    (decides : rule.Decides language first following)
    (takes : (rule.cut language first following).1 = []) : rule.Decides language first [] := by
  rcases decides with ⟨earlier, later, order, applies, none⟩
  refine ⟨earlier, later, order, applies.alone takes, ?_⟩
  intro tried member triedApplies
  exact none tried member (applies_cons_of_alone following triedApplies)

end Rule

/-- The scanner recognizes what the deciding rule finds. -/
theorem exists_decides_and_recognize_eq_found (language : Language) (first : Char)
    (following : List Char) :
    ∃ rule : Rule, rule.Decides language first following ∧
      recognize language first following = rule.found language first following := by
  have quote : Character.isQuote first = true ↔ first = '"' ∨ first = '\'' := by
    simp [Character.isQuote]
  simp only [recognize, quote, Language.startsWord_iff, ← Text.pair_isPrefix_cons_iff,
    OrderedSet.contains_iff_mem]
  -- In each branch the context says that the rules before the chosen one do not apply.
  split
  · refine ⟨.whitespace, ?_, rfl⟩
    simp [-List.cons_prefix_cons, Rule.decides_iff_find?, Rule.all, Rule.Applies, *]
  split
  · refine ⟨.lineComment, ?_, rfl⟩
    simp [-List.cons_prefix_cons, Rule.decides_iff_find?, Rule.all, Rule.Applies, *]
  split
  · next opener =>
      refine ⟨.blockComment, ?_, ?_⟩
      · simp [-List.cons_prefix_cons, Rule.decides_iff_find?, Rule.all, Rule.Applies, *]
      · rcases List.head?_eq_some_iff.mp (Text.pair_isPrefix_cons_iff.mp opener).2 with ⟨tail, rfl⟩
        rfl
  split
  · refine ⟨.literal, ?_, rfl⟩
    simp [-List.cons_prefix_cons, Rule.decides_iff_find?, Rule.all, Rule.Applies, *]
  split
  · refine ⟨.directive, ?_, rfl⟩
    simp [-List.cons_prefix_cons, Rule.decides_iff_find?, Rule.all, Rule.Applies, *]
  split
  · refine ⟨.number, ?_, rfl⟩
    simp [-List.cons_prefix_cons, Rule.decides_iff_find?, Rule.all, Rule.Applies, *]
  split
  · refine ⟨.word, ?_, rfl⟩
    simp [-List.cons_prefix_cons, Rule.decides_iff_find?, Rule.all, Rule.Applies, *]
  split
  · refine ⟨.operator, ?_, rfl⟩
    simp [-List.cons_prefix_cons, Rule.decides_iff_find?, Rule.all, Rule.Applies, *]
  split
  · refine ⟨.punctuation, ?_, rfl⟩
    simp [-List.cons_prefix_cons, Rule.decides_iff_find?, Rule.all, Rule.Applies, *]
  · refine ⟨.other, ⟨[.whitespace, .lineComment, .blockComment, .literal, .directive, .number,
      .word, .operator, .punctuation], [], rfl, trivial, ?_⟩, rfl⟩
    simp [-List.cons_prefix_cons, Rule.Applies, *]

theorem recognize_eq_found {language : Language} {first : Char} {following : List Char}
    {rule : Rule} (decides : rule.Decides language first following) :
    recognize language first following = rule.found language first following := by
  rcases exists_decides_and_recognize_eq_found language first following with
    ⟨chosen, chosenDecides, recognized⟩
  rw [recognized, chosenDecides.unique decides]

/-- Each token is what the deciding rule finds where it starts. -/
theorem exists_found_of_scan_eq {language : Language} {text : List Char}
    {before after : List Token} {token : Token}
    (tokens : scan language text = before ++ token :: after) :
    ∃ first following, ∃ rule : Rule, rule.Decides language first following ∧
      text = before.flatMap (·.lexeme.toList) ++ first :: following ∧
      token = (rule.found language first following).token first ∧
      after = scan language (rule.found language first following).rest := by
  rcases exists_recognize_of_scan_eq tokens with ⟨first, following, place, isToken, others⟩
  rcases exists_decides_and_recognize_eq_found language first following with
    ⟨rule, decides, recognized⟩
  rw [recognized] at isToken others
  exact ⟨first, following, rule, decides, place, isToken, others⟩

theorem exists_found_of_mem_scan {language : Language} {text : List Char} {token : Token}
    (member : token ∈ scan language text) :
    ∃ first following, ∃ rule : Rule, rule.Decides language first following ∧
      token = (rule.found language first following).token first := by
  rcases List.append_of_mem member with ⟨before, after, tokens⟩
  rcases exists_found_of_scan_eq tokens with ⟨first, following, rule, decides, _, isToken, _⟩
  exact ⟨first, following, rule, decides, isToken⟩

end Highlighter.Scanner
