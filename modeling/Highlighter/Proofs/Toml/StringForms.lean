import Highlighter.Proofs.Toml.Escape

/-!
# Reading written strings

Every string is read back from the form it is written in. Over several lines the difficulty is in
double or single quotes: the reader closes a string at the last three of a run, so whatever is
written has at most two quotes in a row where the reader looks for the end.
-/

namespace Highlighter.Toml

/-! ### One line -/

theorem basicString?_escaped (text : List Char) (quotes : Nat) (rest : List Char) :
    basicString? (escaped false quotes text ++ '"' :: rest) = some (text, rest) := by
  induction text generalizing quotes with
  | nil => simp [escaped, basicString?]
  | cons c text ih =>
      cases written : escapeCode? false quotes c with
      | some code =>
          have read := escape?_code written
            (escaped false (quotesBehind false quotes c) text ++ '"' :: rest)
          rw [escaped_cons_of_code written]
          simp [basicString?, read, ih]
      | none =>
          rcases plain_of_escapeCode?_eq_none written with ⟨notBackslash, shown, quoted⟩
          have notQuote : c ≠ '"' := fun quote => by simpa using (quoted quote).1
          have visible : isText c := by simpa using shown
          rw [escaped_cons_of_plain written]
          simp [basicString?, notQuote, notBackslash, visible, ih]

theorem literalString?_append {text : List Char}
    (plain : ∀ c ∈ text, c ≠ '\'' ∧ isText c) (rest : List Char) :
    literalString? (text ++ '\'' :: rest) = some (text, rest) := by
  induction text with
  | nil => simp [literalString?]
  | cons c text ih =>
      rcases List.forall_mem_cons.mp plain with ⟨⟨notQuote, visible⟩, others⟩
      simp [literalString?, notQuote, visible, ih others]

/-! ### Several lines -/

/-- The number of times the text starts with a character. -/
def leading (c : Char) (text : List Char) : Nat :=
  (text.takeWhile (· == c)).length

/-- A reader that looks for the end at a place behind which at most two quotes stand in front of
other text, or of the three that close the string, finds it only in the second case. -/
theorem closing?_append {quote : Char} (text : List Char) (few : leading quote text ≤ 2)
    {rest : List Char} (ends : rest.head? ≠ some quote) :
    closing? quote (text ++ quote :: quote :: quote :: rest) =
      if text.all (· == quote) then some (text, rest) else none := by
  match text with
  | [] =>
      match rest with
      | [] => simp [closing?]
      | [d] => simp_all [closing?]
      | d :: e :: after => simp_all [closing?]
  | [a] =>
      by_cases first : a = quote
      · match rest with
        | [] => simp [closing?, first]
        | d :: after => simp_all [closing?]
      · simp [closing?, first]
  | [a, b] =>
      by_cases first : a = quote
      · by_cases second : b = quote
        · simp [closing?, first, second]
        · simp [closing?, second]
      · simp [closing?, first]
  | a :: b :: c :: text =>
      have different : ¬(a = quote ∧ b = quote ∧ c = quote) := by
        rintro ⟨rfl, rfl, rfl⟩
        simp [leading] at few
      have others : ¬(a :: b :: c :: text).all (· == quote) := by
        simpa using fun first second third => absurd ⟨first, second, third⟩ different
      rw [if_neg others]
      simp [closing?, different]

theorem quotesBehind_le (quotes : Nat) (c : Char) : quotesBehind true quotes c ≤ 2 := by
  unfold quotesBehind
  split <;> omega

theorem leading_escaped {quotes : Nat} (few : quotes ≤ 2) (text : List Char) :
    leading '"' (escaped true quotes text) + quotes ≤ 2 := by
  induction text generalizing quotes with
  | nil => simpa [escaped, leading] using few
  | cons c text ih =>
      cases written : escapeCode? true quotes c with
      | some code =>
          rw [escaped_cons_of_code written]
          simpa [leading] using few
      | none =>
          rw [escaped_cons_of_plain written]
          by_cases quote : c = '"'
          · have room := ((plain_of_escapeCode?_eq_none written).2.2 quote).2
            have later := ih (quotesBehind_le quotes c)
            simp only [quotesBehind, quote, room, leading, and_self, if_true, beq_self_eq_true,
              List.takeWhile_cons_of_pos, List.length_cons] at later ⊢
            omega
          · simpa [leading, quote] using few

/-- What is written with quotes alone stands for itself. -/
theorem escaped_eq_of_all {quotes : Nat} {text : List Char}
    (all : (escaped true quotes text).all (· == '"')) : escaped true quotes text = text := by
  induction text generalizing quotes with
  | nil => rfl
  | cons c text ih =>
      cases written : escapeCode? true quotes c with
      | some code =>
          rw [escaped_cons_of_code written] at all
          nomatch all
      | none =>
          rw [escaped_cons_of_plain written] at all ⊢
          rw [ih (Bool.and_eq_true_iff.mp all).2]

theorem linesString?_of_closing {quote : Char} {escapes : Bool} {text : List Char}
    {found : List Char × List Char} (closed : closing? quote text = some found) :
    linesString? quote escapes text = some found := by
  cases text with
  | nil => nomatch closed
  | cons c rest => rw [linesString?, closed]

theorem linesString?_of_escape {quote : Char} {text : List Char}
    (within : closing? quote ('\\' :: text) = none)
    (sameLine : lineBreak? (dropBlanks text) = none) {c : Char} {taken : Nat}
    (read : escape? text = some (c, taken)) :
    linesString? quote true ('\\' :: text) =
      (linesString? quote true (text.drop taken)).map fun (body, after) => (c :: body, after) := by
  rw [linesString?, within]
  simp only [and_self, if_true, sameLine, read, Option.bind_eq_bind, Option.bind_some]
  cases linesString? quote true (text.drop taken) <;> rfl

theorem linesString?_of_plain {quote : Char} {escapes : Bool} {c : Char} {text : List Char}
    (within : closing? quote (c :: text) = none) (noEscape : ¬(c = '\\' ∧ escapes))
    (shown : c = '\n' ∨ isText c) :
    linesString? quote escapes (c :: text) =
      (linesString? quote escapes text).map fun (body, after) => (c :: body, after) := by
  have noReturn : ¬(c = '\r' ∧ text.head? = some '\n') := by
    rintro ⟨rfl, -⟩
    exact absurd shown (by decide)
  rw [linesString?, within]
  simp only [if_neg noEscape, if_neg noReturn, if_pos shown]
  cases linesString? quote escapes text <;> rfl

theorem linesString?_escaped (text : List Char) {quotes : Nat} (few : quotes ≤ 2)
    {rest : List Char} (ends : rest.head? ≠ some '"') :
    linesString? '"' true (escaped true quotes text ++ '"' :: '"' :: '"' :: rest) =
      some (text, rest) := by
  induction text generalizing quotes with
  | nil => exact linesString?_of_closing (closing?_append [] (by simp [leading]) ends)
  | cons c text ih =>
      have closing := closing?_append _
        (Nat.le_of_add_right_le (leading_escaped few (c :: text))) ends
      by_cases all : (escaped true quotes (c :: text)).all (· == '"')
      · rw [if_pos all] at closing
        rw [linesString?_of_closing closing, escaped_eq_of_all all]
      · rw [if_neg all] at closing
        have later := ih (quotesBehind_le quotes c)
        cases written : escapeCode? true quotes c with
        | some code =>
            rw [escaped_cons_of_code written, List.cons_append, List.append_assoc] at closing ⊢
            rw [linesString?_of_escape closing (lineBreak?_dropBlanks_code written _)
              (escape?_code written _), List.drop_left, later]
            rfl
        | none =>
            rcases plain_of_escapeCode?_eq_none written with ⟨notBackslash, shown, -⟩
            rw [escaped_cons_of_plain written, List.cons_append] at closing ⊢
            rw [linesString?_of_plain closing (fun escape => notBackslash escape.1)
              (by simpa using shown), later]
            rfl

theorem leading_le_of_hasTriple {c : Char} {text : List Char}
    (noTriple : hasTriple c text = false) : leading c text ≤ 2 := by
  match text with
  | [] | [_] | [_, _] => exact Nat.le_trans (List.takeWhile_prefix _).length_le (by simp)
  | first :: second :: third :: rest =>
      have apart : ¬(c = first ∧ c = second ∧ c = third) := by
        rintro ⟨rfl, rfl, rfl⟩
        simp [hasTriple] at noTriple
      by_cases one : first = c
      · by_cases two : second = c
        · have three : third ≠ c := fun three => apart ⟨one.symm, two.symm, three.symm⟩
          simp [leading, one, two, three]
        · simp [leading, one, two]
      · simp [leading, one]

theorem linesString?_literal {text : List Char} (plain : ∀ c ∈ text, c = '\n' ∨ isText c)
    (noTriple : hasTriple '\'' text = false) {rest : List Char} (ends : rest.head? ≠ some '\'') :
    linesString? '\'' false (text ++ '\'' :: '\'' :: '\'' :: rest) = some (text, rest) := by
  induction text with
  | nil => exact linesString?_of_closing (closing?_append [] (by simp [leading]) ends)
  | cons c text ih =>
      rcases List.forall_mem_cons.mp plain with ⟨visible, others⟩
      have closing := closing?_append _ (leading_le_of_hasTriple noTriple) ends
      by_cases all : (c :: text).all (· == '\'')
      · rw [if_pos all] at closing
        exact linesString?_of_closing closing
      · rw [if_neg all, List.cons_append] at closing
        have later := ih others (Bool.or_eq_false_iff.mp noTriple).2
        rw [List.cons_append, linesString?_of_plain closing (by simp) visible, later]
        rfl

/-! ### Choosing the form -/

theorem not_lineBreak_of_isText {c : Char} (visible : isText c) : c ≠ '\n' ∧ c ≠ '\r' := by
  constructor <;> (rintro rfl; nomatch visible)

theorem lineBreak?_eq_none {text : List Char}
    (starts : ∀ c ∈ text.head?, c ≠ '\n' ∧ c ≠ '\r') : lineBreak? text = none := by
  cases text with
  | nil => rfl
  | cons c rest =>
      rcases starts c rfl with ⟨notNewline, notReturn⟩
      unfold lineBreak?
      split
      · next same => exact absurd (List.cons.inj same).1 notNewline
      · next same => exact absurd (List.cons.inj same).1 notReturn
      · rfl

/-- A line break behind opening quotes is there for a string with line breaks of its own, and no
other string starts with what reads as one. -/
theorem afterBreak_leadingBreak {text body : List Char}
    (starts : '\n' ∉ text → ∀ c ∈ body.head?, c ≠ '\n' ∧ c ≠ '\r') :
    (lineBreak? (leadingBreak text ++ body)).getD (leadingBreak text ++ body) = body := by
  by_cases broken : '\n' ∈ text
  · simp [leadingBreak, broken, lineBreak?]
  · simp [leadingBreak, broken, lineBreak?_eq_none (starts broken)]

/-- Double quotes on one line are read as such unless two more stand right behind the first. -/
theorem string?_of_basic {text : List Char} (single : ∀ rest, text ≠ '"' :: '"' :: rest) :
    string? ('"' :: text) =
      (basicString? text).map fun (body, after) => (String.ofList body, after) := by
  unfold string?
  split
  · next same => exact absurd (List.cons.inj same).2 (single _)
  · next same =>
      rw [← (List.cons.inj same).2]
      cases basicString? text <;> rfl
  · next same => nomatch same
  · next same => nomatch same
  · next other _ _ => exact absurd rfl (other text)

theorem string?_of_literal {text : List Char} (single : ∀ rest, text ≠ '\'' :: '\'' :: rest) :
    string? ('\'' :: text) =
      (literalString? text).map fun (body, after) => (String.ofList body, after) := by
  unfold string?
  split
  · next same => nomatch same
  · next same => nomatch same
  · next same => exact absurd (List.cons.inj same).2 (single _)
  · next same =>
      rw [← (List.cons.inj same).2]
      cases literalString? text <;> rfl
  · next other => exact absurd rfl (other text)

theorem string?_inQuotes (text : List Char) {rest : List Char} (ends : rest.head? ≠ some '"') :
    string? (inQuotes text ++ rest) = some (String.ofList text, rest) := by
  have read := basicString?_escaped text 0 rest
  have opened : inQuotes text ++ rest = '"' :: (escaped false 0 text ++ '"' :: rest) := by
    simp [inQuotes]
  have single : ∀ after, escaped false 0 text ++ '"' :: rest ≠ '"' :: '"' :: after := by
    intro after same
    cases text with
    | nil => exact ends (by rw [(List.cons.inj same).2]; rfl)
    | cons c text =>
        cases written : escapeCode? false 0 c with
        | some code =>
            rw [escaped_cons_of_code written] at same
            nomatch same
        | none =>
            rw [escaped_cons_of_plain written] at same
            have quote := (List.cons.inj same).1
            simpa using ((plain_of_escapeCode?_eq_none written).2.2 quote).1
  rw [opened, string?_of_basic single, read]
  rfl

theorem string?_literal {text : List Char} (nonempty : text ≠ [])
    (plain : ∀ c ∈ text, c ≠ '\'' ∧ isText c) (rest : List Char) :
    string? ('\'' :: text ++ '\'' :: rest) = some (String.ofList text, rest) := by
  have single : ∀ after, text ++ '\'' :: rest ≠ '\'' :: '\'' :: after := by
    intro after same
    cases text with
    | nil => exact nonempty rfl
    | cons c text => exact (plain c List.mem_cons_self).1 (List.cons.inj same).1
  rw [List.cons_append, string?_of_literal single, literalString?_append plain]
  rfl

theorem string?_inTripleQuotes (text : List Char) {rest : List Char}
    (ends : rest.head? ≠ some '"') :
    string? (inTripleQuotes text ++ rest) = some (String.ofList text, rest) := by
  have read := linesString?_escaped text (Nat.zero_le 2) ends
  have unbroken : '\n' ∉ text → ∀ c ∈ (escaped true 0 text ++ '"' :: '"' :: '"' :: rest).head?,
      c ≠ '\n' ∧ c ≠ '\r' := by
    intro noBreak c first
    cases text with
    | nil =>
        rcases Option.some.inj first with rfl
        decide
    | cons d text =>
        cases written : escapeCode? true 0 d with
        | some code =>
            rw [escaped_cons_of_code written] at first
            rcases Option.some.inj first with rfl
            decide
        | none =>
            rw [escaped_cons_of_plain written] at first
            rcases Option.some.inj first with rfl
            rcases (plain_of_escapeCode?_eq_none written).2.1 with ⟨-, newline⟩ | visible
            · exact absurd (newline ▸ List.mem_cons_self) noBreak
            · exact not_lineBreak_of_isText visible
  have opened : inTripleQuotes text ++ rest = '"' :: '"' :: '"' ::
      (leadingBreak text ++ (escaped true 0 text ++ '"' :: '"' :: '"' :: rest)) := by
    simp [inTripleQuotes]
  rw [opened]
  simp only [string?, afterBreak_leadingBreak unbroken, read]
  rfl

theorem string?_tripleLiteral {text : List Char} (plain : ∀ c ∈ text, c = '\n' ∨ isText c)
    (noTriple : hasTriple '\'' text = false) {rest : List Char} (ends : rest.head? ≠ some '\'') :
    string? (['\'', '\'', '\''] ++ leadingBreak text ++ text ++ ['\'', '\'', '\''] ++ rest) =
      some (String.ofList text, rest) := by
  have read := linesString?_literal plain noTriple ends
  have unbroken : '\n' ∉ text → ∀ c ∈ (text ++ '\'' :: '\'' :: '\'' :: rest).head?,
      c ≠ '\n' ∧ c ≠ '\r' := by
    intro noBreak c first
    cases text with
    | nil =>
        rcases Option.some.inj first with rfl
        decide
    | cons d text =>
        rcases Option.some.inj first with rfl
        rcases plain d List.mem_cons_self with newline | visible
        · exact absurd (newline ▸ List.mem_cons_self) noBreak
        · exact not_lineBreak_of_isText visible
  have opened : ['\'', '\'', '\''] ++ leadingBreak text ++ text ++ ['\'', '\'', '\''] ++ rest =
      '\'' :: '\'' :: '\'' ::
        (leadingBreak text ++ (text ++ '\'' :: '\'' :: '\'' :: rest)) := by
    simp
  rw [opened]
  simp only [string?, afterBreak_leadingBreak unbroken, read]
  rfl

/-- A written string is read back whatever follows it, unless that is one more quote. -/
theorem string?_stringForm (text : List Char) {rest : List Char}
    (notDouble : rest.head? ≠ some '"') (notSingle : rest.head? ≠ some '\'') :
    string? (stringForm text ++ rest) = some (String.ofList text, rest) := by
  have shown : text.any isControl = false → ∀ c ∈ text, c = '\n' ∨ isText c := by
    intro noControl c member
    have notControl := List.any_eq_false.mp noControl c member
    by_cases newline : c = '\n'
    · exact Or.inl newline
    · exact Or.inr (by simpa [isControl, newline] using notControl)
  simp only [stringForm, Bool.and_eq_true, Bool.not_eq_true', List.contains_eq_mem,
    decide_eq_false_iff_not, decide_eq_true_eq]
  split
  · exact string?_inQuotes text notDouble
  · next notPlain =>
      split
      · next isLiteral =>
          rcases isLiteral with ⟨⟨noControl, unbroken⟩, noQuote⟩
          have nonempty : text ≠ [] := by
            rintro rfl
            exact notPlain (by simp)
          have plain : ∀ c ∈ text, c ≠ '\'' ∧ isText c := by
            intro c member
            rcases shown noControl c member with newline | visible
            · exact absurd (newline ▸ member) unbroken
            · exact ⟨fun quote => noQuote (quote ▸ member), visible⟩
          simpa using string?_literal nonempty plain rest
      · split
        · exact string?_inTripleQuotes text notDouble
        · split
          · next isLiteral =>
              exact string?_tripleLiteral (shown isLiteral.1) isLiteral.2 notSingle
          · split
            · exact string?_inTripleQuotes text notDouble
            · exact string?_inQuotes text notDouble

end Highlighter.Toml
