import Highlighter.Proofs.Text.StableCut
import Highlighter.Scanner

/-!
# Literals and block comments

A literal reaches up to the first quote of its own sort that is not escaped, and a block comment up
to the first closer behind its opener. Both are shortest prefixes, or everything that is left, so
the cuts that find them are stable.
-/

namespace Highlighter.Scanner

/-- The character behind such a text is not escaped: every backslash that is not escaped itself has
the one character that it escapes within the text. -/
inductive LeavesUnescaped : List Char → Prop
  | nil : LeavesUnescaped []
  | plain {c : Char} {rest : List Char} :
      c ≠ '\\' → LeavesUnescaped rest → LeavesUnescaped (c :: rest)
  | escape (c : Char) {rest : List Char} :
      LeavesUnescaped rest → LeavesUnescaped ('\\' :: c :: rest)

/-- The text ends with the quote, and this last quote is not escaped. -/
def EndsUnescaped (quote : Char) (text : List Char) : Prop :=
  ∃ body, text = body ++ [quote] ∧ LeavesUnescaped body

theorem leavesUnescaped_cons_of_ne {c : Char} {rest : List Char} (plain : c ≠ '\\') :
    LeavesUnescaped (c :: rest) ↔ LeavesUnescaped rest := by
  constructor
  · intro leaves
    cases leaves with
    | plain _ leaves => exact leaves
    | escape _ _ => exact absurd rfl plain
  · exact LeavesUnescaped.plain plain

theorem leavesUnescaped_cons_backslash {rest : List Char} :
    LeavesUnescaped ('\\' :: rest) ↔ ∃ c tail, rest = c :: tail ∧ LeavesUnescaped tail := by
  constructor
  · intro leaves
    cases leaves with
    | plain plain _ => exact absurd rfl plain
    | escape c leaves => exact ⟨c, _, rfl, leaves⟩
  · rintro ⟨c, tail, rfl, leaves⟩
    exact LeavesUnescaped.escape c leaves

theorem endsUnescaped_cons_of_ne {quote c : Char} {rest : List Char} (noQuote : c ≠ quote)
    (plain : c ≠ '\\') : EndsUnescaped quote (c :: rest) ↔ EndsUnescaped quote rest := by
  constructor
  · rintro ⟨body, whole, leaves⟩
    rcases body with _ | ⟨d, body⟩
    · simp [noQuote] at whole
    · have parts : c = d ∧ rest = body ++ [quote] := by simpa using whole
      rcases parts with ⟨rfl, rfl⟩
      exact ⟨body, rfl, (leavesUnescaped_cons_of_ne plain).mp leaves⟩
  · rintro ⟨body, rfl, leaves⟩
    exact ⟨c :: body, rfl, leaves.plain plain⟩

theorem endsUnescaped_cons_backslash {quote : Char} {rest : List Char} (noQuote : '\\' ≠ quote) :
    EndsUnescaped quote ('\\' :: rest) ↔ ∃ c tail, rest = c :: tail ∧ EndsUnescaped quote tail := by
  constructor
  · rintro ⟨body, whole, leaves⟩
    rcases body with _ | ⟨d, body⟩
    · simp [noQuote] at whole
    · have parts : '\\' = d ∧ rest = body ++ [quote] := by simpa using whole
      rcases parts with ⟨rfl, rfl⟩
      rcases leavesUnescaped_cons_backslash.mp leaves with ⟨c, tail, rfl, tailLeaves⟩
      exact ⟨c, tail ++ [quote], rfl, tail, rfl, tailLeaves⟩
  · rintro ⟨c, _, rfl, body, rfl, leaves⟩
    exact ⟨'\\' :: c :: body, rfl, leaves.escape c⟩

/-- Behind the opening quote a literal takes the shortest text that ends with an unescaped quote of
the same sort, or else everything. -/
theorem isShortestPrefixOrAll_splitLiteral (quote : Char) (text : List Char) :
    Text.IsShortestPrefixOrAll (EndsUnescaped quote) text (splitLiteral quote text).1 := by
  have closed : ∀ rest, Text.IsShortestPrefix (EndsUnescaped quote) (quote :: rest) [quote] := by
    intro rest
    refine ⟨by simp, ⟨[], rfl, .nil⟩, ?_⟩
    rintro _ _ ⟨body, rfl, _⟩
    simp
  fun_induction splitLiteral quote text with
  | case1 =>
      right
      refine ⟨?_, rfl⟩
      rintro _ nothing ⟨body, rfl, _⟩
      simp at nothing
  | case2 c =>
      by_cases same : c = quote
      · exact Or.inl (same ▸ closed [])
      · right
        refine ⟨?_, rfl⟩
        rintro _ single ⟨body, rfl, _⟩
        rcases body with _ | ⟨d, body⟩
        · simp [Ne.symm same] at single
        · simp at single
  | case3 next rest => exact Or.inl (closed (next :: rest))
  | case4 next rest taken remaining cut noQuote ih =>
      -- The backslash goes together with the character behind it, whatever that is.
      rw [cut] at ih
      have behindNext : Text.IsShortestPrefixOrAll
          (fun other => ∃ c tail, other = c :: tail ∧ EndsUnescaped quote tail)
          (next :: rest) (next :: taken) := by
        apply ih.cons
        intro other otherPrefix
        constructor
        · rintro ⟨c, tail, rfl, ends⟩
          exact ⟨tail, by simp [(List.cons_prefix_cons.mp otherPrefix).1], ends⟩
        · rintro ⟨tail, rfl, ends⟩
          exact ⟨next, tail, rfl, ends⟩
      apply behindNext.cons
      intro other otherPrefix
      rcases List.prefix_cons_iff.mp otherPrefix with rfl | ⟨tail, rfl, _⟩
      · simp [EndsUnescaped]
      · simp [endsUnescaped_cons_backslash noQuote]
  | case5 c next rest noQuote plain taken remaining cut ih =>
      rw [cut] at ih
      apply ih.cons
      intro other otherPrefix
      rcases List.prefix_cons_iff.mp otherPrefix with rfl | ⟨tail, rfl, _⟩
      · simp [EndsUnescaped]
      · simp [endsUnescaped_cons_of_ne noQuote plain]

theorem isStableCut_splitLiteral (quote : Char) : Text.IsStableCut (splitLiteral quote) :=
  Text.isStableCut_of_shortest (splitLiteral_append quote)
    (isShortestPrefixOrAll_splitLiteral quote)

/-- Behind its opener a block comment takes the shortest text that ends with a closer, or else
everything. -/
theorem isShortestPrefixOrAll_splitBlock (text : List Char) :
    Text.IsShortestPrefixOrAll (fun taken => ∃ inner, taken = inner ++ ['*', '/']) text
      (splitBlock text).1 :=
  Text.isShortestPrefixOrAll_splitPast ['*', '/'] text

theorem isStableCut_splitBlock : Text.IsStableCut splitBlock :=
  Text.isStableCut_of_shortest splitBlock_append isShortestPrefixOrAll_splitBlock

end Highlighter.Scanner
