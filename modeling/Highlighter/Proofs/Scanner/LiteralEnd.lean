import Highlighter.Proofs.Scanner.OpeningCharacters
import Mathlib.Algebra.Group.Nat.Even
import Mathlib.Data.List.Induction

/-!
# Where a literal ends

The scanner passes a literal from left to right and skips the character behind each backslash that
it meets. Where the literal ends can also be told from the right: at the first quote of its own sort
that has an even number of backslashes directly in front of it, none of which is counted that stands
in front of the literal. The two agree because a character is escaped exactly if the character before
it is a backslash that is not escaped itself, so along a run of backslashes every other one is.
-/

namespace Highlighter.Scanner

/-! ### Backslashes directly in front of a character -/

/-- The number of backslashes at the end of a text. -/
def finalBackslashes (text : List Char) : Nat :=
  (text.reverse.takeWhile (· = '\\')).length

theorem finalBackslashes_append_backslash (text : List Char) :
    finalBackslashes (text ++ ['\\']) = finalBackslashes text + 1 := by
  simp [finalBackslashes]

theorem finalBackslashes_append_of_ne {c : Char} (text : List Char) (plain : c ≠ '\\') :
    finalBackslashes (text ++ [c]) = 0 := by
  simp [finalBackslashes, plain]

theorem leavesUnescaped_append_of_ne {c : Char} (text : List Char) (plain : c ≠ '\\') :
    LeavesUnescaped (text ++ [c]) := by
  match text with
  | [] => exact .plain plain .nil
  | [d] =>
      by_cases backslash : d = '\\'
      · exact backslash ▸ .escape c .nil
      · exact .plain backslash (.plain plain .nil)
  | d :: e :: rest =>
      by_cases backslash : d = '\\'
      · exact backslash ▸ .escape e (leavesUnescaped_append_of_ne rest plain)
      · exact .plain backslash (leavesUnescaped_append_of_ne (e :: rest) plain)

/-- One more backslash escapes the next character exactly if it is not escaped itself. -/
theorem leavesUnescaped_append_backslash (text : List Char) :
    LeavesUnescaped (text ++ ['\\']) ↔ ¬LeavesUnescaped text := by
  match text with
  | [] => simp [leavesUnescaped_cons_backslash, LeavesUnescaped.nil]
  | [d] =>
      by_cases backslash : d = '\\'
      · simp [backslash, leavesUnescaped_cons_backslash, LeavesUnescaped.nil]
      · simp [leavesUnescaped_cons_of_ne backslash, leavesUnescaped_cons_backslash,
          LeavesUnescaped.nil]
  | d :: e :: rest =>
      by_cases backslash : d = '\\'
      · simpa [backslash, leavesUnescaped_cons_backslash] using
          leavesUnescaped_append_backslash rest
      · simpa [leavesUnescaped_cons_of_ne backslash] using
          leavesUnescaped_append_backslash (e :: rest)

/-- The character behind a text is not escaped exactly if the text ends with an even number of
backslashes. -/
theorem leavesUnescaped_iff_even (text : List Char) :
    LeavesUnescaped text ↔ Even (finalBackslashes text) := by
  induction text using List.reverseRecOn with
  | nil => simp [LeavesUnescaped.nil, finalBackslashes]
  | append_singleton text c ih =>
      by_cases backslash : c = '\\'
      · rw [backslash, leavesUnescaped_append_backslash, finalBackslashes_append_backslash,
          Nat.even_add_one, ih]
      · simp [leavesUnescaped_append_of_ne text backslash,
          finalBackslashes_append_of_ne text backslash]

/-! ### Positions in a text -/

/-- A quote at the position ends a literal that is opened at the other one: the number of
backslashes directly in front of it, counted back to the opening quote, is even. -/
def ClosesLiteral (text : List Char) (quote : Char) (opening position : Nat) : Prop :=
  opening < position ∧ text[position]? = some quote ∧
    Even (finalBackslashes (text.extract (opening + 1) position))

/-- A literal ends behind each text that leaves the quote behind it unescaped. -/
theorem closesLiteral_iff {lead following : List Char} {quote : Char} {position : Nat} :
    ClosesLiteral (lead ++ quote :: following) quote lead.length position ↔
      ∃ body rest, following = body ++ quote :: rest ∧ LeavesUnescaped body ∧
        position = lead.length + 1 + body.length := by
  have drop : (lead ++ quote :: following).drop (lead.length + 1) = following := by
    rw [List.append_cons]
    exact List.drop_left' (by simp)
  have behind : ∀ index, (lead ++ quote :: following)[lead.length + 1 + index]? =
      following[index]? := by
    intro index
    rw [← List.getElem?_drop, drop]
  have between : ∀ index, (lead ++ quote :: following).extract (lead.length + 1)
      (lead.length + 1 + index) = following.take index := by
    intro index
    rw [List.extract_eq_take_drop, drop, Nat.add_sub_cancel_left]
  constructor
  · rintro ⟨later, isQuote, even⟩
    rcases Nat.exists_eq_add_of_le (Nat.succ_le_of_lt later) with ⟨index, rfl⟩
    rw [Nat.succ_eq_add_one] at isQuote even ⊢
    rw [behind] at isQuote
    rw [between, ← leavesUnescaped_iff_even] at even
    rcases List.getElem?_eq_some_iff.mp isQuote with ⟨inside, quoteThere⟩
    refine ⟨following.take index, following.drop (index + 1), ?_, even, ?_⟩
    · rw [← quoteThere, ← List.drop_eq_getElem_cons inside, List.take_append_drop]
    · rw [List.length_take_of_le inside.le]
  · rintro ⟨body, rest, rfl, leaves, rfl⟩
    refine ⟨by omega, ?_, ?_⟩
    · rw [behind]
      simp
    · rw [between, List.take_left, ← leavesUnescaped_iff_even]
      exact leaves

/-- The literal is the one that a quote opens at a position of the text, as the quotes behind that
position tell. -/
structure IsLiteralAt (text : List Char) (quote : Char) (opening : Nat) (literal : List Char) :
    Prop where
  /-- The quote is one of the two sorts, and the literal starts with it. -/
  opens : (quote = '"' ∨ quote = '\'') ∧ text[opening]? = some quote
  /-- The literal reaches through the first quote that ends it. -/
  closed : ∀ closing, IsLeast {position | ClosesLiteral text quote opening position} closing →
    literal = text.extract opening (closing + 1)
  /-- Where there is none, the literal reaches through the end. -/
  unclosed : (∀ position, ¬ClosesLiteral text quote opening position) →
    literal = text.drop opening
  /-- No other character is the last one of the literal, unless the text ends there. -/
  continues : ∀ position, opening ≤ position → position < opening + literal.length →
    ¬ClosesLiteral text quote opening position →
      position + 1 < opening + literal.length ∨ position + 1 = text.length

theorem isLiteralAt_extract {text : List Char} {quote : Char} {opening closing : Nat}
    (opens : (quote = '"' ∨ quote = '\'') ∧ text[opening]? = some quote)
    (least : IsLeast {position | ClosesLiteral text quote opening position} closing) :
    IsLiteralAt text quote opening (text.extract opening (closing + 1)) where
  opens := opens
  closed := by
    intro other otherLeast
    rw [otherLeast.unique least]
  unclosed := by
    intro never
    exact absurd least.1 (never closing)
  continues := by
    intro position _ inside noQuote
    left
    have within : closing < text.length := (List.getElem?_eq_some_iff.mp least.1.2.1).1
    have later : opening < closing := least.1.1
    have notLast : position ≠ closing := by
      rintro rfl
      exact noQuote least.1
    simp only [List.extract_eq_take_drop, List.length_take, List.length_drop] at inside ⊢
    omega

theorem isLiteralAt_drop {text : List Char} {quote : Char} {opening : Nat}
    (opens : (quote = '"' ∨ quote = '\'') ∧ text[opening]? = some quote)
    (never : ∀ position, ¬ClosesLiteral text quote opening position) :
    IsLiteralAt text quote opening (text.drop opening) where
  opens := opens
  closed := by
    intro closing least
    exact absurd least.1 (never closing)
  unclosed := by
    intro _
    rfl
  continues := by
    intro position _ inside _
    have within : opening < text.length := (List.getElem?_eq_some_iff.mp opens.2).1
    simp only [List.length_drop] at inside ⊢
    omega

/-- The first position at which a literal ends is the one behind the shortest text that leaves the
quote unescaped. -/
theorem isLeast_closesLiteral {lead body rest : List Char} {quote : Char}
    (leaves : LeavesUnescaped body)
    (shortest : ∀ other, other <+: body ++ quote :: rest → EndsUnescaped quote other →
      (body ++ [quote]).length ≤ other.length) :
    IsLeast
      {position |
        ClosesLiteral (lead ++ quote :: (body ++ quote :: rest)) quote lead.length position}
      (lead.length + 1 + body.length) := by
  refine ⟨closesLiteral_iff.mpr ⟨body, rest, rfl, leaves, rfl⟩, ?_⟩
  intro position closes
  rcases closesLiteral_iff.mp closes with ⟨other, otherRest, place, otherLeaves, rfl⟩
  have notLonger := shortest (other ++ [quote]) ⟨otherRest, by simp [place]⟩
    ⟨other, rfl, otherLeaves⟩
  simp only [List.length_append, List.length_singleton] at notLonger
  omega

/-- What the scanner takes for a literal is one. -/
theorem isLiteralAt_splitLiteral {quote : Char} (isQuote : quote = '"' ∨ quote = '\'')
    (lead following : List Char) :
    IsLiteralAt (lead ++ quote :: following) quote lead.length
      (quote :: (splitLiteral quote following).1) := by
  have opens : (quote = '"' ∨ quote = '\'') ∧ (lead ++ quote :: following)[lead.length]? =
      some quote := ⟨isQuote, by simp⟩
  rcases isShortestPrefixOrAll_splitLiteral quote following with
    ⟨⟨rest, whole⟩, ⟨body, taken, leaves⟩, shortest⟩ | ⟨never, all⟩
  · have place : following = body ++ quote :: rest := by
      rw [← whole, taken, List.append_assoc, List.singleton_append]
    rw [taken]
    rw [taken] at shortest
    subst place
    have literal := isLiteralAt_extract opens (isLeast_closesLiteral leaves shortest)
    have covers : (lead ++ quote :: (body ++ quote :: rest)).extract lead.length
        (lead.length + 1 + body.length + 1) = quote :: (body ++ [quote]) := by
      have count : lead.length + 1 + body.length + 1 - lead.length =
          (quote :: (body ++ [quote])).length := by
        simp only [List.length_cons, List.length_append, List.length_nil]
        omega
      have split : quote :: (body ++ quote :: rest) = (quote :: (body ++ [quote])) ++ rest := by
        simp
      rw [List.extract_eq_take_drop, List.drop_left, count, split, List.take_left]
    rwa [covers] at literal
  · have unclosed : ∀ position,
        ¬ClosesLiteral (lead ++ quote :: following) quote lead.length position := by
      intro position closes
      rcases closesLiteral_iff.mp closes with ⟨body, rest, place, leaves, -⟩
      exact never (body ++ [quote]) ⟨rest, by simp [place]⟩ ⟨body, rfl, leaves⟩
    have literal := isLiteralAt_drop opens unclosed
    rw [List.drop_left] at literal
    rwa [all]

/--
Every string token ends at the first quote of the sort that opens it which has an even number of
backslashes directly in front of it, or with the source. Other characters never end it: no quote of
the other sort, no line break, no comment opener and no escaped character.
-/
theorem tokenize_literal_extent {language : Language} {source : String} {before after : List Token}
    {token : Token} (tokens : language.tokenize source = before ++ token :: after)
    (isString : token.kind = .string) :
    ∃ quote, IsLiteralAt source.toList quote (Token.joinLexemes before).length
      token.lexeme.toList := by
  rcases exists_found_of_scan_eq tokens with ⟨first, following, rule, decides, text, rfl, -⟩
  have isLiteral : rule = .literal := Rule.eq_of_kind rfl isString
  subst isLiteral
  have opens : first = '"' ∨ first = '\'' := (Rule.decides_iff.mp decides).1
  have literal := isLiteralAt_splitLiteral opens (before.flatMap (·.lexeme.toList)) following
  refine ⟨first, ?_⟩
  rw [← String.length_toList, Token.toList_joinLexemes, text, toList_lexeme_token]
  exact literal

/-- Neither a quote behind three backslashes nor the other quote, a line break or a comment opener
ends a literal, but a quote behind two backslashes does. -/
theorem tokenize_literal_extent_of_escapes :
    ∃ language, { name := "sample" : Definition }.build = .ok language ∧
      language.tokenize "x\"é\\\\\\\"'\n//\\\\\"y" =
        [⟨.identifier, "x"⟩] ++ ⟨.string, "\"é\\\\\\\"'\n//\\\\\""⟩ :: [⟨.identifier, "y"⟩] ∧
      ∃ quote, IsLiteralAt "x\"é\\\\\\\"'\n//\\\\\"y".toList quote
        (Token.joinLexemes [⟨.identifier, "x"⟩]).length
        "\"é\\\\\\\"'\n//\\\\\"".toList := by
  have sample : ∃ language, { name := "sample" : Definition }.build = .ok language ∧
      language.tokenize "x\"é\\\\\\\"'\n//\\\\\"y" =
        [⟨.identifier, "x"⟩] ++
          ⟨.string, "\"é\\\\\\\"'\n//\\\\\""⟩ :: [⟨.identifier, "y"⟩] :=
    ⟨_, rfl, Language.tokenize_eq_iff.mpr (by decide)⟩
  rcases sample with ⟨language, built, tokens⟩
  exact ⟨language, built, tokens, tokenize_literal_extent tokens rfl⟩

end Highlighter.Scanner
