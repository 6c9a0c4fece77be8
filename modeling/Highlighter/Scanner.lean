import Highlighter.Language.Basic
import Highlighter.Text.Split

/-!
# Scanning

One generic scanner cuts the text of every language into tokens. At the start of each token the
first rule that applies to the remaining text decides both the kind of the token and where it
ends, in the order white space, line comment, block comment, literal, directive, number, word,
operator, punctuation; a character that no rule claims is a token of kind text. Every rule takes
the first character and perhaps some that follow, so scanning ends after at most as many tokens as
there are characters.
-/

namespace Highlighter

namespace Scanner

/-- One recognized token, given by what it takes behind its first character. -/
structure Match where
  /-- What was recognized. -/
  kind : TokenKind
  /-- The characters of the token behind its first one. -/
  body : List Char
  /-- The characters after the token. -/
  rest : List Char
deriving DecidableEq, Repr

/-- Takes characters while the predicate holds. -/
def run (kind : TokenKind) (p : Char → Bool) (following : List Char) : Match :=
  ⟨kind, following.takeWhile p, following.dropWhile p⟩

/-- Cuts the text behind an opening quote after the first unescaped quote of the same sort, or at
its end. A backslash escapes the one character that follows it. -/
def splitLiteral (quote : Char) : List Char → List Char × List Char
  | [] => ([], [])
  | [c] => ([c], [])
  | c :: next :: rest =>
    if c = quote then ([c], next :: rest)
    else if c = '\\' then
      let (taken, rest) := splitLiteral quote rest
      (c :: next :: taken, rest)
    else
      let (taken, rest) := splitLiteral quote (next :: rest)
      (c :: taken, rest)

/-- Cuts the text behind a comment opener after the first closer, or at its end. -/
def splitBlock (text : List Char) : List Char × List Char :=
  (Text.splitPast? ['*', '/'] text).getD (text, [])

/-- Recognizes a comment that runs to the end of its line, or a directive. -/
def line (kind : TokenKind) (following : List Char) : Match :=
  run kind (· ≠ '\n') following

/-- Recognizes a comment that runs to its closer, behind the slash that opens it. -/
def block (following : List Char) : Match :=
  let (taken, rest) := splitBlock following.tail
  ⟨.comment, '*' :: taken, rest⟩

/-- Recognizes a string or character literal behind its opening quote. -/
def literal (quote : Char) (following : List Char) : Match :=
  let (taken, rest) := splitLiteral quote following
  ⟨.string, taken, rest⟩

/-- Recognizes a word; a prefix character in front takes no part in its classification. -/
def word (language : Language) (first : Char) (following : List Char) : Match :=
  let body := following.takeWhile language.continuesWord
  let classified := if language.verbatimPrefix = some first then body else first :: body
  ⟨language.classify (String.ofList classified), body, following.dropWhile language.continuesWord⟩

/-- Recognizes the token that the character and the text after it start with. -/
def recognize (language : Language) (first : Char) (following : List Char) : Match :=
  if Character.isWhitespace first then run .text Character.isWhitespace following
  else if first = '/' ∧ following.head? = some '/' then line .comment following
  else if first = '/' ∧ following.head? = some '*' then block following
  else if Character.isQuote first then literal first following
  else if language.directiveMarker = some first then line .preprocessor following
  else if first.isDigit then run .number language.continuesNumber following
  else if language.startsWord first then word language first following
  else if language.operatorStart.contains first then
    run .operator language.operatorContinue.contains following
  else if language.punctuation.contains first then ⟨.punctuation, [], following⟩
  else ⟨.text, [], following⟩

/-! ### No rule loses or reorders characters -/

theorem splitLiteral_append (quote : Char) (text : List Char) :
    (splitLiteral quote text).1 ++ (splitLiteral quote text).2 = text := by
  fun_induction splitLiteral quote text <;> simp_all

theorem splitBlock_append (text : List Char) :
    (splitBlock text).1 ++ (splitBlock text).2 = text := by
  unfold splitBlock
  cases cut : Text.splitPast? ['*', '/'] text with
  | none => simp
  | some parts => exact Text.append_of_splitPast? cut

theorem body_append_rest_recognize (language : Language) (first : Char) (following : List Char) :
    (recognize language first following).body ++ (recognize language first following).rest =
      following := by
  unfold recognize
  split
  · exact List.takeWhile_append_dropWhile
  split
  · exact List.takeWhile_append_dropWhile
  split
  · next opener =>
      rcases List.head?_eq_some_iff.mp opener.2 with ⟨tail, rfl⟩
      simpa [block] using splitBlock_append tail
  split
  · exact splitLiteral_append first following
  split
  · exact List.takeWhile_append_dropWhile
  split
  · exact List.takeWhile_append_dropWhile
  split
  · exact List.takeWhile_append_dropWhile
  split
  · exact List.takeWhile_append_dropWhile
  split <;> rfl

theorem length_rest_recognize_le (language : Language) (first : Char) (following : List Char) :
    (recognize language first following).rest.length ≤ following.length := by
  have whole := congrArg List.length (body_append_rest_recognize language first following)
  simp only [List.length_append] at whole
  omega

/-- The token that a match stands for, given the first character. -/
def Match.token (found : Match) (first : Char) : Token :=
  ⟨found.kind, String.ofList (first :: found.body)⟩

/-- The token at the start of a text with the text after it, or nothing at the end. -/
def next? (language : Language) : List Char → Option (Token × List Char)
  | [] => none
  | first :: following =>
    let found := recognize language first following
    some (found.token first, found.rest)

/-- The tokens of a text from left to right. -/
def scan (language : Language) : List Char → List Token
  | [] => []
  | first :: following =>
    let found := recognize language first following
    found.token first :: scan language found.rest
termination_by text => text.length
decreasing_by
  have := length_rest_recognize_le language first following
  simp only [List.length_cons]
  omega

end Scanner

/-- The tokens of a source text in the given language. -/
def Language.tokenize (language : Language) (source : String) : List Token :=
  Scanner.scan language source.toList

end Highlighter
