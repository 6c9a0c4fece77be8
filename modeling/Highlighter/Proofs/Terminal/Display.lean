import Highlighter.Command.Highlight
import Highlighter.Proofs.Scanner.Coverage
import Highlighter.Proofs.Theme.Overrides
import Highlighter.Proofs.Toml.Text

/-!
# Coloured output on a terminal

A terminal takes an escape character, a bracket, a number and the letter `m` as a change of the
attribute, and shows every other character with the attribute that is active. Of painted text it
shows the characters with the attribute of the style, and no attribute is active behind it; so of
rendered tokens it shows the lexemes, each with the attribute of its kind.
-/

namespace Highlighter

theorem Style.code_ne_zero {style : Style} {code : Nat} (coded : style.code? = some code) :
    code ≠ 0 := by
  cases style with
  | plain => nomatch coded
  | bold | dim | italic | underline | colour shade | bright shade =>
      rcases Option.some.inj coded with rfl
      omega

namespace Terminal

/-- The attribute that a code selects. -/
def selected (code : Nat) : Option Nat :=
  if code = 0 then none else some code

/-- Reads a control sequence, which selects an attribute by its code. -/
def control? : List Char → Option (Nat × List Char)
  | '\x1b' :: '[' :: text =>
    match text.dropWhile Char.isDigit with
    | 'm' :: rest =>
      let digits := text.takeWhile Char.isDigit
      if digits = [] then none else some (Nat.ofDigitChars 10 digits 0, rest)
    | _ => none
  | _ => none

theorem length_lt_of_control? {text rest : List Char} {code : Nat}
    (sequence : control? text = some (code, rest)) : rest.length < text.length := by
  unfold control? at sequence
  split at sequence
  · next text =>
      split at sequence
      · next after final =>
          have shorter := (List.dropWhile_suffix Char.isDigit (l := text)).length_le
          simp only [Option.ite_none_left_eq_some, Option.some.injEq, Prod.mk.injEq] at sequence
          rcases sequence with ⟨-, -, rfl⟩
          simp only [final, List.length_cons] at shorter ⊢
          omega
      · nomatch sequence
  · nomatch sequence

/-- What is shown of a text, each character with its attribute, and the attribute that is active
behind the text. -/
def display (active : Option Nat) : List Char → List (Char × Option Nat) × Option Nat
  | [] => ([], active)
  | c :: text => match sequence : control? (c :: text) with
    | some (code, rest) =>
      have _ := length_lt_of_control? sequence
      display (selected code) rest
    | none =>
      let (shown, last) := display active text
      ((c, active) :: shown, last)
termination_by text => text.length
decreasing_by
  · assumption
  · exact Nat.lt_succ_self _

/-- The text that is left if the control sequences are taken out. -/
def strip (text : String) : String :=
  String.ofList ((display none text.toList).1.map Prod.fst)

/-! ### Painted text -/

theorem display_nil (active : Option Nat) : display active [] = ([], active) := by
  rw [display]

theorem display_of_control? {active : Option Nat} {text rest : List Char} {code : Nat}
    (sequence : control? text = some (code, rest)) :
    display active text = display (selected code) rest := by
  cases text with
  | nil => nomatch sequence
  | cons c text =>
      rw [display]
      split
      · next found =>
          rw [sequence] at found
          rcases Prod.mk.inj (Option.some.inj found) with ⟨rfl, rfl⟩
          rfl
      · next shown =>
          rw [sequence] at shown
          nomatch shown

theorem display_cons {c : Char} (visible : c ≠ '\x1b') (active : Option Nat) (text : List Char) :
    display active (c :: text) =
      ((c, active) :: (display active text).1, (display active text).2) := by
  have noSequence : control? (c :: text) = none := by
    unfold control?
    split
    · next equal => exact absurd (List.cons.inj equal).1 visible
    · rfl
  rw [display]
  split
  · next found =>
      rw [noSequence] at found
      nomatch found
  · rfl

theorem control?_select (code : Nat) (rest : List Char) :
    control? ((Ansi.select code).toList ++ rest) = some (code, rest) := by
  have digits : ∀ c ∈ Nat.toDigits 10 code, c.isDigit := fun _ member =>
    Nat.isDigit_of_mem_toDigits (by decide) (by decide) member
  have ends : ∀ c ∈ ('m' :: rest).head?, c.isDigit = false := by
    simp
  have written : (Ansi.select code).toList ++ rest =
      '\x1b' :: '[' :: (Nat.toDigits 10 code ++ 'm' :: rest) := by
    simp [Ansi.select]
  rw [written]
  simp only [control?, Toml.takeWhile_append_eq digits ends, Toml.dropWhile_append_eq digits ends,
    if_neg Nat.toDigits_ne_nil, Nat.ofDigitChars_ten_toDigits]

theorem display_append {body : List Char} (visible : '\x1b' ∉ body) (active : Option Nat)
    (rest : List Char) :
    display active (body ++ rest) =
      (body.map (·, active) ++ (display active rest).1, (display active rest).2) := by
  induction body with
  | nil => rfl
  | cons c body ih =>
      rw [List.mem_cons, not_or] at visible
      rw [List.cons_append, display_cons (Ne.symm visible.1), ih visible.2]
      rfl

theorem display_paint {text : String} (visible : '\x1b' ∉ text.toList) (style : Style)
    (rest : List Char) :
    display none ((Ansi.paint style text).toList ++ rest) =
      (text.toList.map (·, style.code?) ++ (display none rest).1, (display none rest).2) := by
  cases attributed : style.code? with
  | none =>
      rw [Ansi.paint, attributed]
      exact display_append visible none rest
  | some code =>
      have active : selected code = some code := if_neg (Style.code_ne_zero attributed)
      have plain : selected 0 = none := rfl
      simp only [Ansi.paint, attributed, String.toList_append, List.append_assoc]
      rw [display_of_control? (control?_select code _), display_append visible,
        display_of_control? (control?_select 0 _), active, plain]

/-! ### Rendered tokens -/

/-- The characters of the lexemes, each with the attribute of the kind of its token. -/
def attributed (attribute? : TokenKind → Option Nat) (tokens : List Token) :
    List (Char × Option Nat) :=
  tokens.flatMap fun token => token.lexeme.toList.map (·, attribute? token.kind)

theorem map_fst_attributed (attribute? : TokenKind → Option Nat) (tokens : List Token) :
    (attributed attribute? tokens).map Prod.fst = (Token.joinLexemes tokens).toList := by
  simp [attributed, Token.toList_joinLexemes, List.map_flatMap, Function.comp_def]

theorem display_render (theme : Theme) {tokens : List Token}
    (visible : ∀ token ∈ tokens, '\x1b' ∉ token.lexeme.toList) :
    display none (theme.render tokens).toList =
      (attributed (fun kind => (theme.written kind).code?) tokens, none) := by
  rw [Theme.render, String.toList_join, List.flatMap_map]
  induction tokens with
  | nil => exact display_nil none
  | cons token tokens ih =>
      rcases List.forall_mem_cons.mp visible with ⟨first, others⟩
      rw [List.flatMap_cons, display_paint first, ih others, attributed, attributed,
        List.flatMap_cons]

/-- The source of scanned tokens is left if the control sequences are taken out. -/
theorem strip_render_tokenize (theme : Theme) (language : Language) {source : String}
    (visible : '\x1b' ∉ source.toList) :
    strip (theme.render (language.tokenize source)) = source := by
  have joined := language.joinLexemes_tokenize source
  rw [strip, display_render, map_fst_attributed, joined, String.ofList_toList]
  intro token member escape
  apply visible
  rw [← joined, Token.toList_joinLexemes]
  exact List.mem_flatMap.mpr ⟨token, member, escape⟩

/-- The attribute in which tokens of a kind are to be shown, by a table of overrides and the styles
that were set after it. Text is shown in none, whatever was set. -/
def intended? (overrides : OrderedMap String String) (settings : List (TokenKind × Style))
    (kind : TokenKind) : Option Nat :=
  if kind = .text then none else (Theme.intended overrides settings kind).code?

theorem code?_written {overrides : OrderedMap String String} {start : Theme}
    (accepted : Theme.ofOverrides overrides = .ok start)
    (settings : List (TokenKind × Style)) (kind : TokenKind) :
    ((start.setAll settings).written kind).code? = intended? overrides settings kind := by
  rw [Theme.setAll_ofOverrides accepted]
  by_cases isText : kind = .text
  · simp only [Theme.written, intended?, if_pos isText]
    rfl
  · simp only [Theme.written, intended?, if_neg isText]
    rfl

/-- By a theme that was made from a table of overrides and changed afterwards, tokens without escape
characters are shown as their lexemes in the intended attributes, and no attribute is active behind
them. What is left of coloured output if the control sequences are taken out is what is written
without colours, which is the source. -/
theorem display_render_setAll {overrides : OrderedMap String String} {start : Theme}
    (accepted : Theme.ofOverrides overrides = .ok start)
    (settings : List (TokenKind × Style)) :
    (∀ tokens : List Token, (∀ token ∈ tokens, '\x1b' ∉ token.lexeme.toList) →
      display none ((start.setAll settings).render tokens).toList =
        (attributed (intended? overrides settings) tokens, none)) ∧
    ∀ (session : Session) (language : Language) (source : String), '\x1b' ∉ source.toList →
      strip ({ session with isColoured := true }.render (language.tokenize source)) =
          { session with isColoured := false }.render (language.tokenize source) ∧
        { session with isColoured := false }.render (language.tokenize source) = source := by
  constructor
  · intro tokens visible
    rw [display_render _ visible, funext (code?_written accepted settings)]
  · intro session language source visible
    have plain : { session with isColoured := false }.render (language.tokenize source) = source :=
      language.joinLexemes_tokenize source
    refine ⟨?_, plain⟩
    rw [plain]
    exact strip_render_tokenize session.theme language visible

/-- Overrides are replaced by later settings, and setting the style of text changes nothing. -/
theorem display_render_setAll_mixed :
    ∃ start, Theme.ofOverrides (.ofList [("keyword", "red"), ("number", "bold")]) = .ok start ∧
      display none ((start.setAll [(.number, .dim), (.text, .bold), (.number, .plain)]).render
          [⟨.keyword, "if"⟩, ⟨.text, " "⟩, ⟨.number, "1m"⟩]).toList =
        ([('i', some 31), ('f', some 31), (' ', none), ('1', none), ('m', none)], none) := by
  have accepted : Theme.ofOverrides (.ofList [("keyword", "red"), ("number", "bold")]) =
      .ok ((Theme.default.set .keyword (.colour .red)).set .number .bold) := rfl
  refine ⟨_, accepted, ?_⟩
  rw [(display_render_setAll accepted _).1 _ (by simp)]
  rfl

end Terminal

end Highlighter
