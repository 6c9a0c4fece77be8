import Highlighter.Proofs.Scanner.Locality

/-!
# Neighbouring tokens

Whether a list of tokens is what a scan gives of the text that they cover can be told by looking at
each token with the one character behind it. That character decides whether the token ends where it
does, whatever comes later, and nothing in front of a token has a say in it. So the lists of tokens
that scans give are exactly those whose neighbours stand apart and whose last token stands on its
own.
-/

namespace Highlighter

/-- In front of the first character of the next token, the token is recognized as it is. -/
def Language.Separates (language : Language) (token next : Token) : Prop :=
  (language.tokenize (token.lexeme ++ String.ofList (next.lexeme.toList.take 1))).head? =
    some token

namespace Scanner

/-- Of the text behind a token only the first character matters. -/
theorem recognize_append_cons_iff {language : Language} {first c : Char} {kind : TokenKind}
    {body : List Char} (extra : List Char) :
    recognize language first (body ++ c :: extra) = ⟨kind, body, c :: extra⟩ ↔
      recognize language first (body ++ [c]) = ⟨kind, body, [c]⟩ := by
  constructor
  · intro longer
    have withExtra : recognize language first (body ++ [c] ++ extra) =
        ⟨kind, body, [c] ++ extra⟩ := by
      simpa using longer
    exact recognize_truncate withExtra
  · intro shorter
    have behind : (recognize language first (body ++ [c])).rest ≠ [] := by simp [shorter]
    have settled := recognize_append_of_rest_ne_nil extra behind
    simpa [shorter] using settled

/-- A scan starts with a token exactly if the token is recognized with all that follows its lexeme
as the rest. -/
theorem head?_scan_eq_some_iff {language : Language} {first : Char} {body text : List Char}
    {token : Token} (lexeme : token.lexeme.toList = first :: body) :
    (scan language (token.lexeme.toList ++ text)).head? = some token ↔
      recognize language first (body ++ text) = ⟨token.kind, body, text⟩ := by
  rw [lexeme, List.cons_append, scan_cons, List.head?_cons, Option.some.injEq]
  constructor
  · intro same
    have sameKind : (recognize language first (body ++ text)).kind = token.kind :=
      congrArg Token.kind same
    have sameLexeme : first :: (recognize language first (body ++ text)).body = first :: body := by
      rw [← toList_lexeme_token, same, lexeme]
    have sameBody := (List.cons.inj sameLexeme).2
    have whole := body_append_rest_recognize language first (body ++ text)
    rw [sameBody] at whole
    have sameRest := List.append_cancel_left whole
    calc recognize language first (body ++ text)
        = ⟨(recognize language first (body ++ text)).kind,
            (recognize language first (body ++ text)).body,
            (recognize language first (body ++ text)).rest⟩ := rfl
      _ = ⟨token.kind, body, text⟩ := by rw [sameKind, sameBody, sameRest]
  · intro recognized
    rw [recognized, Match.token, ← lexeme, String.ofList_toList]

theorem exists_toList_lexeme {token : Token} (nonempty : token.lexeme ≠ "") :
    ∃ first body, token.lexeme.toList = first :: body := by
  apply List.exists_cons_of_ne_nil
  simpa using nonempty

/-- The first token and the others can be told apart. -/
theorem scan_append_eq_cons_iff {language : Language} {token : Token} {tokens : List Token}
    {text : List Char} (nonempty : token.lexeme ≠ "") :
    scan language (token.lexeme.toList ++ text) = token :: tokens ↔
      (scan language (token.lexeme.toList ++ text)).head? = some token ∧
        scan language text = tokens := by
  rcases exists_toList_lexeme nonempty with ⟨first, body, lexeme⟩
  constructor
  · intro whole
    have starts : (scan language (token.lexeme.toList ++ text)).head? = some token := by
      rw [whole, List.head?_cons]
    have recognized := (head?_scan_eq_some_iff lexeme).mp starts
    rw [lexeme, List.cons_append, scan_cons, recognized] at whole
    exact ⟨starts, (List.cons.inj whole).2⟩
  · rintro ⟨starts, rfl⟩
    have recognized := (head?_scan_eq_some_iff lexeme).mp starts
    rw [lexeme, List.cons_append, scan_cons, recognized, Match.token, ← lexeme,
      String.ofList_toList]

/-- A token in front of another one is recognized exactly if the two stand apart. -/
theorem head?_scan_append_iff_separates {language : Language} {token next : Token}
    (text : List Char) (nonempty : token.lexeme ≠ "") (nextNonempty : next.lexeme ≠ "") :
    (scan language (token.lexeme.toList ++ (next.lexeme.toList ++ text))).head? = some token ↔
      language.Separates token next := by
  rcases exists_toList_lexeme nonempty with ⟨first, body, lexeme⟩
  rcases exists_toList_lexeme nextNonempty with ⟨c, nextBody, nextLexeme⟩
  rw [Language.Separates, Language.tokenize, String.toList_append, String.toList_ofList, nextLexeme,
    List.cons_append, List.take_succ_cons, List.take_zero, head?_scan_eq_some_iff lexeme,
    head?_scan_eq_some_iff lexeme, recognize_append_cons_iff]

end Scanner

/--
A list of tokens, none of them empty, is what the scan of its own text gives exactly if each token
stands apart from the next one, as far as the first character of that one shows, and the last token
is all that its own lexeme gives.
-/
theorem Language.tokenize_joinLexemes_eq_iff (language : Language) {tokens : List Token}
    (nonempty : ∀ token ∈ tokens, token.lexeme ≠ "") :
    language.tokenize (Token.joinLexemes tokens) = tokens ↔
      tokens.IsChain language.Separates ∧
        ∀ last ∈ tokens.getLast?, language.tokenize last.lexeme = [last] := by
  rw [tokenize, Token.toList_joinLexemes]
  induction tokens with
  | nil => simp
  | cons token tokens ih =>
      have rest := ih fun other member => nonempty other (List.mem_cons_of_mem token member)
      have first := nonempty token List.mem_cons_self
      cases tokens with
      | nil => simp [tokenize]
      | cons next later =>
          have second := nonempty next (List.mem_cons_of_mem token List.mem_cons_self)
          rw [List.flatMap_cons, Scanner.scan_append_eq_cons_iff first, rest, List.flatMap_cons,
            Scanner.head?_scan_append_iff_separates _ first second, List.isChain_cons_cons,
            List.getLast?_cons_cons, and_assoc]

/-- A slash, a literal with an escaped quote and a closed comment all end where they do because of
the character behind them. -/
theorem Language.tokenize_joinLexemes_of_neighbours :
    ∃ language,
      { name := "sample", operatorStart := "/*", operatorContinue := "=" : Definition }.build =
        .ok language ∧
      language.tokenize (Token.joinLexemes [⟨.identifier, "x"⟩, ⟨.operator, "/"⟩,
          ⟨.string, "\"é\\\"\""⟩, ⟨.operator, "/="⟩, ⟨.comment, "/**/"⟩, ⟨.operator, "*"⟩]) =
        [⟨.identifier, "x"⟩, ⟨.operator, "/"⟩, ⟨.string, "\"é\\\"\""⟩, ⟨.operator, "/="⟩,
          ⟨.comment, "/**/"⟩, ⟨.operator, "*"⟩] := by
  have built :
      { name := "sample", operatorStart := "/*", operatorContinue := "=" : Definition }.build =
        .ok _ := rfl
  refine ⟨_, built, (tokenize_joinLexemes_eq_iff _ (by decide)).mpr ⟨?_, ?_⟩⟩
  · simp only [List.isChain_cons_cons, List.IsChain.singleton, and_true, Separates]
    simp only [tokenize, Scanner.head?_scan]
    decide
  · intro last isLast
    rcases Option.some.inj isLast with rfl
    exact tokenize_eq_iff.mpr (by decide)

end Highlighter
