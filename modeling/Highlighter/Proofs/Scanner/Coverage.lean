import Highlighter.Scanner

/-!
# Tokens cover the text

A scan goes through the text from left to right, one token after the other, without losing a
character: the lexemes of the tokens, one behind the other, are the text. No lexeme is empty, so
there are no more tokens than characters. Whether a list of tokens is the scan of a text is decided
by taking them in turn.
-/

namespace Highlighter

/-- The text that is covered by tokens which follow each other. -/
def Token.joinLexemes (tokens : List Token) : String :=
  String.join (tokens.map (·.lexeme))

@[simp]
theorem Token.toList_joinLexemes (tokens : List Token) :
    (joinLexemes tokens).toList = tokens.flatMap (·.lexeme.toList) := by
  rw [joinLexemes, String.toList_join, List.flatMap_map]

@[simp]
theorem Token.joinLexemes_append (left right : List Token) :
    joinLexemes (left ++ right) = joinLexemes left ++ joinLexemes right := by
  apply String.toList_injective
  simp

namespace Scanner

@[simp]
theorem toList_lexeme_token (found : Match) (first : Char) :
    (found.token first).lexeme.toList = first :: found.body :=
  String.toList_ofList

@[simp]
theorem scan_nil (language : Language) : scan language [] = [] := by
  rw [scan]

theorem scan_cons (language : Language) (first : Char) (following : List Char) :
    scan language (first :: following) =
      (recognize language first following).token first ::
        scan language (recognize language first following).rest := by
  rw [scan]

/-- A statement holds of every text if it holds of a text once it holds behind its first token. -/
theorem scan_induction (language : Language) {motive : List Char → Prop} (nil : motive [])
    (cons : ∀ first following, motive (recognize language first following).rest →
      motive (first :: following)) (text : List Char) : motive text :=
  scan.induct language motive nil cons text

theorem flatMap_lexeme_scan (language : Language) (text : List Char) :
    (scan language text).flatMap (·.lexeme.toList) = text := by
  induction text using scan_induction language with
  | nil => simp
  | cons first following ih =>
      rw [scan_cons, List.flatMap_cons, toList_lexeme_token, ih, List.cons_append,
        body_append_rest_recognize]

/-- Each token is recognized where it starts, behind the lexemes of the tokens before it. -/
theorem exists_recognize_of_scan_eq {language : Language} {text : List Char}
    {before after : List Token} {token : Token}
    (tokens : scan language text = before ++ token :: after) :
    ∃ first following, text = before.flatMap (·.lexeme.toList) ++ first :: following ∧
      token = (recognize language first following).token first ∧
      after = scan language (recognize language first following).rest := by
  induction text using scan_induction language generalizing before with
  | nil => simp at tokens
  | cons first following ih =>
      rw [scan_cons] at tokens
      cases before with
      | nil =>
          rcases List.cons.inj tokens with ⟨rfl, rfl⟩
          exact ⟨first, following, rfl, rfl, rfl⟩
      | cons earlier before =>
          rcases List.cons.inj tokens with ⟨rfl, later⟩
          rcases ih later with ⟨start, behind, rest, recognized, others⟩
          refine ⟨start, behind, ?_, recognized, others⟩
          rw [List.flatMap_cons, toList_lexeme_token, List.append_assoc, ← rest, List.cons_append,
            body_append_rest_recognize]

theorem lexeme_ne_empty_of_mem_scan {language : Language} {text : List Char} {token : Token}
    (member : token ∈ scan language text) : token.lexeme ≠ "" := by
  induction text using scan_induction language with
  | nil => simp at member
  | cons first following ih =>
      rw [scan_cons] at member
      rcases List.mem_cons.mp member with rfl | later
      · intro empty
        have characters := toList_lexeme_token (recognize language first following) first
        simp [empty] at characters
      · exact ih later

/-- Every place in front of a character is where a token starts, or lies within one. -/
theorem exists_token_of_append (language : Language) (left : List Char) {right : List Char}
    (more : right ≠ []) :
    ∃ before token after start rest,
      scan language (left ++ right) = before ++ token :: after ∧
      token.lexeme.toList = start ++ rest ∧ rest ≠ [] ∧
      left = before.flatMap (·.lexeme.toList) ++ start ∧
      right = rest ++ after.flatMap (·.lexeme.toList) := by
  have whole := flatMap_lexeme_scan language (left ++ right)
  have nonempty : ∀ token ∈ scan language (left ++ right), token.lexeme ≠ "" :=
    fun _ => lexeme_ne_empty_of_mem_scan
  generalize scan language (left ++ right) = tokens at whole nonempty
  rw [List.flatMap_def] at whole
  rcases List.flatten_eq_append_iff.mp whole with
    ⟨leading, trailing, parts, atLeft, atRight⟩ |
      ⟨leading, start, c, rest, trailing, parts, atLeft, atRight⟩
  · -- The place is a boundary, and a token starts there.
    rcases List.map_eq_append_iff.mp parts with ⟨before, later, rfl, rfl, rfl⟩
    cases later with
    | nil => exact absurd atRight more
    | cons token after =>
        have lexeme : token.lexeme ≠ "" := nonempty token (by simp)
        refine ⟨before, token, after, [], token.lexeme.toList, rfl, rfl, by simpa using lexeme,
          ?_, ?_⟩
        · simp [atLeft, List.flatMap_def]
        · simp [atRight, List.flatMap_def]
  · rcases List.map_eq_append_iff.mp parts with ⟨before, later, rfl, rfl, laterParts⟩
    rcases List.map_eq_cons_iff.mp laterParts with ⟨token, after, rfl, lexeme, rfl⟩
    refine ⟨before, token, after, start, c :: rest, rfl, lexeme, by simp, ?_, ?_⟩
    · simp [atLeft, List.flatMap_def]
    · simp [atRight, List.flatMap_def]

theorem length_scan_le (language : Language) (text : List Char) :
    (scan language text).length ≤ text.length := by
  induction text using scan_induction language with
  | nil => simp
  | cons first following ih =>
      have shorter := length_rest_recognize_le language first following
      rw [scan_cons, List.length_cons, List.length_cons]
      omega

theorem head?_scan (language : Language) (text : List Char) :
    (scan language text).head? = (next? language text).map (·.1) := by
  cases text <;> simp [next?, scan_cons]

/-- Decides whether a text is taken up by the tokens, one after the other. -/
def isScan (language : Language) : List Char → List Token → Bool
  | text, [] => text.isEmpty
  | text, token :: tokens => match next? language text with
    | none => false
    | some (taken, rest) => taken = token && isScan language rest tokens

theorem isScan_iff (language : Language) (text : List Char) (tokens : List Token) :
    isScan language text tokens ↔ scan language text = tokens := by
  induction tokens generalizing text with
  | nil => cases text <;> simp [isScan, scan_cons]
  | cons token tokens ih =>
      cases text with
      | nil => simp [isScan, next?]
      | cons first following => simp [isScan, next?, scan_cons, ih]

end Scanner

/-- The scan is decided by taking one token after the other. -/
theorem Language.tokenize_eq_iff {language : Language} {source : String} {tokens : List Token} :
    language.tokenize source = tokens ↔ Scanner.isScan language source.toList tokens :=
  (Scanner.isScan_iff language source.toList tokens).symm

theorem Language.joinLexemes_tokenize (language : Language) (source : String) :
    Token.joinLexemes (language.tokenize source) = source := by
  apply String.toList_injective
  rw [Token.toList_joinLexemes, tokenize, Scanner.flatMap_lexeme_scan]

end Highlighter
