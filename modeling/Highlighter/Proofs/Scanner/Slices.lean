import Highlighter.Proofs.Cursor.Position
import Highlighter.Proofs.Language.WellFormed
import Highlighter.Proofs.Scanner.Coverage

/-!
# Scanning by slices

The scanner can be run on nothing but the source and a byte position in it: every look at what
comes next slices the source from the position to the end, and every lexeme is a slice between two
positions. Such a run gives nothing as soon as one slice is out of range or cuts through a
character, and also if it does not come to an end within as many steps as there are characters. Here
it is shown to give the tokens of the source, so none of this ever happens.
-/

namespace Highlighter

/-- The cursor with the text after it sliced anew out of the source, or nothing if there is no such
slice. -/
def Cursor.look? (cursor : Cursor) : Option Cursor :=
  cursor.sliceToEnd?.map fun remaining => { cursor with remaining }

namespace SliceScan

/-- Moves past the rest of a literal, from behind its opening quote, unless that takes more than the
given number of steps. -/
def literal? (quote : Char) : Nat → Cursor → Option Cursor
  | 0, _ => none
  | steps + 1, cursor => do
    match (← cursor.look?).bump with
    | (none, behind) => return behind
    | (some c, behind) =>
      if c = quote then return behind
      else if c = '\\' then literal? quote steps (← behind.look?).bump.2
      else literal? quote steps behind

/-- Moves past a word and classifies what is sliced from behind its prefix character. -/
def word? (language : Language) (cursor : Cursor) : Option (TokenKind × Cursor) := do
  let start :=
    if language.verbatimPrefix.isSome ∧ cursor.first? = language.verbatimPrefix then cursor.bump.2
    else cursor
  let behind := (← start.look?).eatWhile language.continuesWord
  return (language.classify (← behind.sliceFrom? start.position), behind)

/-- Moves past the token that starts with the given character and tells its kind. -/
def recognize? (language : Language) (first : Char) (cursor : Cursor) :
    Option (TokenKind × Cursor) := do
  let here ← cursor.look?
  if Character.isWhitespace first then return (.text, here.eatWhile Character.isWhitespace)
  else if here.startsWith "//" then return (.comment, here.eatLine)
  else if here.startsWith "/*" then
    return (.comment, ((← (here.bumpPast "/*").look?).eatPast "*/").2)
  else if Character.isQuote first then
    return (.string, ← literal? first here.remaining.length here.bump.2)
  else if language.directiveMarker = some first then return (.preprocessor, here.eatLine)
  else if first.isDigit then return (.number, here.eatWhile language.continuesNumber)
  else if language.startsWord first then word? language here
  else if language.operatorStart.contains first then
    return (.operator, (← here.bump.2.look?).eatWhile language.operatorContinue.contains)
  else if language.punctuation.contains first then return (.punctuation, here.bump.2)
  else return (.text, here.bump.2)

/-- The next token, sliced out of the source, with the cursor behind it; or that there is none. -/
def next? (language : Language) (cursor : Cursor) : Option (Option (Token × Cursor)) := do
  match (← cursor.look?).first? with
  | none => return none
  | some first =>
    let (kind, behind) ← recognize? language first cursor
    return some (⟨kind, ← behind.sliceFrom? cursor.position⟩, behind)

/-- The tokens from the cursor to the end of the source, unless finding them and seeing that there
are no more takes more than the given number of steps. -/
def tokens? (language : Language) : Nat → Cursor → Option (List Token)
  | 0, _ => none
  | steps + 1, cursor => do
    match ← next? language cursor with
    | none => return []
    | some (token, behind) => return token :: (← tokens? language steps behind)

end SliceScan

/-- The tokens of a source text, if all slices exist and the run ends after at most as many tokens
as the source has characters. -/
def Language.tokenizeBySlices? (language : Language) (source : String) : Option (List Token) :=
  SliceScan.tokens? language (source.length + 1) (Cursor.atStart source)

theorem Cursor.StandsBehind.look? {cursor : Cursor} {before : List Char}
    (stands : cursor.StandsBehind before) : cursor.look? = some cursor := by
  rw [Cursor.look?, stands.sliceToEnd?]
  rfl

namespace SliceScan

theorem literal?_of_isAtEnd {cursor : Cursor} {before : List Char}
    (stands : cursor.StandsBehind before) (quote : Char) (atEnd : cursor.remaining = [])
    (steps : Nat) : literal? quote (steps + 1) cursor = some cursor := by
  rw [literal?, stands.look?]
  simp [Cursor.bump_of_isAtEnd atEnd]

theorem literal?_eq {cursor : Cursor} {before : List Char} (stands : cursor.StandsBehind before)
    (quote : Char) {steps : Nat} (enough : cursor.remaining.length ≤ steps) :
    literal? quote (steps + 1) cursor =
      some (cursor.movePast (Scanner.splitLiteral quote cursor.remaining)) := by
  generalize text : cursor.remaining = rest at enough
  fun_induction Scanner.splitLiteral quote rest generalizing cursor before steps with
  | case1 => rw [literal?_of_isAtEnd stands quote text, Cursor.movePast_nil text]
  | case2 c =>
      rcases Nat.exists_eq_add_one.mpr (Nat.zero_lt_of_lt enough) with ⟨steps, rfl⟩
      have behind := stands.bump text
      have stays : (cursor.movePast ([c], [])).bump = _ := Cursor.bump_of_isAtEnd rfl
      have atEnd := literal?_of_isAtEnd behind quote rfl steps
      rw [literal?, stands.look?]
      simp [Cursor.bump_eq text, behind.look?, stays, atEnd]
  | case3 next rest =>
      rw [literal?, stands.look?]
      simp [Cursor.bump_eq text]
  | case4 next rest taken remaining cut noQuote ih =>
      rcases Nat.exists_eq_add_one.mpr (Nat.zero_lt_of_lt enough) with ⟨steps, rfl⟩
      -- The character behind the backslash is passed without a look at what it is.
      have behind := stands.bump text
      have passed : (cursor.movePast (['\\'], next :: rest)).bump = _ := Cursor.bump_eq rfl
      have enoughLater : rest.length ≤ steps := by
        simp only [List.length_cons] at enough
        omega
      have found := ih (behind.bump rfl) rfl enoughLater
      rw [literal?, stands.look?]
      simp only [Cursor.movePast_movePast, List.cons_append, List.nil_append] at passed found
      simp [Cursor.bump_eq text, noQuote, behind.look?, passed, found, cut]
  | case5 c next rest noQuote plain taken remaining cut ih =>
      rcases Nat.exists_eq_add_one.mpr (Nat.zero_lt_of_lt enough) with ⟨steps, rfl⟩
      have found := ih (stands.bump text) rfl (Nat.le_of_succ_le_succ enough)
      rw [literal?, stands.look?]
      simp [Cursor.bump_eq text, noQuote, plain, found, cut]

theorem eatPast_closer (cursor : Cursor) :
    (cursor.eatPast "*/").2 = cursor.movePast (Scanner.splitBlock cursor.remaining) := by
  have closer : "*/".toList = ['*', '/'] := rfl
  simp only [Cursor.eatPast, closer, Scanner.splitBlock]
  cases Text.splitPast? ['*', '/'] cursor.remaining <;> rfl

theorem word?_eq (language : Language) {cursor : Cursor} {before : List Char}
    (stands : cursor.StandsBehind before) {first : Char} {following : List Char}
    (text : cursor.remaining = first :: following) (starts : language.startsWord first) :
    word? language cursor =
      some ((Scanner.word language first following).kind,
        cursor.movePast (first :: (Scanner.word language first following).body,
          (Scanner.word language first following).rest)) := by
  have isFirst : cursor.first? = some first := by simp [Cursor.first?, text]
  by_cases isPrefix : language.verbatimPrefix = some first
  · have behind := stands.bump text
    have slice := behind.sliceFrom?_movePast
      (following.takeWhile language.continuesWord, following.dropWhile language.continuesWord)
      List.takeWhile_append_dropWhile
    simp only [Cursor.movePast_movePast, List.singleton_append] at slice
    simp [word?, isFirst, isPrefix, Cursor.bump_eq text, behind.look?, Cursor.eatWhile, slice,
      Scanner.word]
  · -- A word without a prefix starts with a character that continues words as well.
    have continues := Language.continuesWord_of_startsWord starts isPrefix
    have slice := stands.sliceFrom?_movePast
      (first :: following.takeWhile language.continuesWord,
        following.dropWhile language.continuesWord) (by simp [text])
    have noPrefix : ¬(language.verbatimPrefix.isSome ∧ some first = language.verbatimPrefix) := by
      intro both
      exact isPrefix both.2.symm
    simp [word?, isFirst, isPrefix, stands.look?, noPrefix, Cursor.eatWhile_of_pos text continues,
      slice, Scanner.word]

/-- Each rule of the scanner finds by slices what it finds on the characters. -/
theorem recognize?_eq (language : Language) {cursor : Cursor} {before : List Char}
    (stands : cursor.StandsBehind before) {first : Char} {following : List Char}
    (text : cursor.remaining = first :: following) :
    recognize? language first cursor =
      some ((Scanner.recognize language first following).kind,
        cursor.movePast (first :: (Scanner.recognize language first following).body,
          (Scanner.recognize language first following).rest)) := by
  have line : cursor.startsWith "//" = true ↔ first = '/' ∧ following.head? = some '/' := by
    rw [Cursor.startsWith_iff, text]
    exact Text.pair_isPrefix_cons_iff
  have block : cursor.startsWith "/*" = true ↔ first = '/' ∧ following.head? = some '*' := by
    rw [Cursor.startsWith_iff, text]
    exact Text.pair_isPrefix_cons_iff
  have behind := stands.bump text
  simp only [recognize?, Scanner.recognize, stands.look?, Option.bind_eq_bind, Option.bind_some,
    Option.pure_def, line, block]
  split
  · next whitespace => simp [Cursor.eatWhile_of_pos text whitespace, Scanner.run]
  split
  · next opener =>
      have noNewline : decide (first ≠ '\n') = true := by simp [opener.1]
      rw [Cursor.eatLine, Cursor.eatWhile_of_pos text noNewline]
      rfl
  split
  · next opener =>
      rcases opener with ⟨rfl, opens⟩
      rcases List.head?_eq_some_iff.mp opens with ⟨tail, rfl⟩
      have behindOpener : (cursor.movePast (['/', '*'], tail)).StandsBehind _ :=
        stands.movePast (['/', '*'], tail) text.symm
      have opened : cursor.bumpPast "/*" = cursor.movePast (['/', '*'], tail) := by
        rw [Cursor.bumpPast, text]
        rfl
      simp [opened, behindOpener.look?, eatPast_closer, Scanner.block]
  split
  · have closed := literal?_eq behind first (Nat.le_refl _)
    simp only [Cursor.remaining_movePast] at closed
    simp [Cursor.bump_eq text, text, closed, Scanner.literal]
  split
  · next whitespace _ _ _ _ =>
      -- A newline would have been taken as white space.
      have noNewline : decide (first ≠ '\n') = true := by
        simp only [ne_eq, decide_not, Bool.not_eq_true', decide_eq_false_iff_not]
        rintro rfl
        exact whitespace (by decide)
      rw [Cursor.eatLine, Cursor.eatWhile_of_pos text noNewline]
      rfl
  split
  · next digit =>
      have continues : language.continuesNumber first :=
        Language.continuesNumber_iff.mpr (Or.inl digit)
      simp [Cursor.eatWhile_of_pos text continues, Scanner.run]
  split
  · next starts => exact word?_eq language stands text starts
  split
  · simp [Cursor.bump_eq text, behind.look?, Cursor.eatWhile, Scanner.run]
  split
  · simp [Cursor.bump_eq text]
  · simp [Cursor.bump_eq text]

theorem next?_of_isAtEnd (language : Language) {cursor : Cursor} {before : List Char}
    (stands : cursor.StandsBehind before) (atEnd : cursor.remaining = []) :
    next? language cursor = some none := by
  simp [next?, stands.look?, Cursor.first?, atEnd]

theorem next?_eq (language : Language) {cursor : Cursor} {before : List Char}
    (stands : cursor.StandsBehind before) {first : Char} {following : List Char}
    (text : cursor.remaining = first :: following) :
    next? language cursor =
      some (some ((Scanner.recognize language first following).token first,
        cursor.movePast (first :: (Scanner.recognize language first following).body,
          (Scanner.recognize language first following).rest))) := by
  have isFirst : cursor.first? = some first := by simp [Cursor.first?, text]
  have slice := stands.sliceFrom?_movePast
    (first :: (Scanner.recognize language first following).body,
      (Scanner.recognize language first following).rest)
    (by rw [text, List.cons_append, Scanner.body_append_rest_recognize])
  simp [next?, stands.look?, isFirst, recognize?_eq language stands text, slice,
    Scanner.Match.token]

/-- From every position the run by slices ends, and it gives the tokens of the text that is left. -/
theorem tokens?_eq (language : Language) {cursor : Cursor} {before : List Char}
    (stands : cursor.StandsBehind before) {steps : Nat}
    (enough : cursor.remaining.length ≤ steps) :
    tokens? language (steps + 1) cursor = some (Scanner.scan language cursor.remaining) := by
  generalize text : cursor.remaining = rest at enough
  induction rest using Scanner.scan_induction language generalizing cursor before steps with
  | nil =>
      rw [tokens?, next?_of_isAtEnd language stands text]
      simp
  | cons first following ih =>
      rcases Nat.exists_eq_add_one.mpr (Nat.zero_lt_of_lt enough) with ⟨steps, rfl⟩
      have behind := stands.movePast
        (first :: (Scanner.recognize language first following).body,
          (Scanner.recognize language first following).rest)
        (by rw [text, List.cons_append, Scanner.body_append_rest_recognize])
      have enoughLater := (Scanner.length_rest_recognize_le language first following).trans
        (Nat.le_of_succ_le_succ enough)
      have later := ih behind rfl enoughLater
      rw [tokens?, next?_eq language stands text, Scanner.scan_cons]
      simp [later]

end SliceScan

theorem Language.tokenizeBySlices?_eq (language : Language) (source : String) :
    language.tokenizeBySlices? source = some (language.tokenize source) := by
  apply SliceScan.tokens?_eq language (Cursor.standsBehind_atStart source)
  rw [← String.length_toList]
  exact Nat.le_refl _

/--
Scanning ends without a bad slice, its tokens cover the source exactly, none of them is empty, and
there are no more of them than characters.
-/
theorem Language.tokenize_covers_source (language : Language) (source : String) :
    language.tokenizeBySlices? source = some (language.tokenize source) ∧
      Token.joinLexemes (language.tokenize source) = source ∧
      (∀ token ∈ language.tokenize source, token.lexeme ≠ "") ∧
      (language.tokenize source).length ≤ source.length := by
  refine ⟨language.tokenizeBySlices?_eq source, language.joinLexemes_tokenize source, ?_, ?_⟩
  · intro token member
    exact Scanner.lexeme_ne_empty_of_mem_scan member
  · rw [← String.length_toList]
    exact Scanner.length_scan_le language source.toList

end Highlighter
