import Highlighter.Listing
import Highlighter.Proofs.Json.Reader
import Highlighter.Proofs.Text.Quoted

/-!
# Reading token listings

A listing can be turned back into the tokens that it lists, in both of its forms. Of the lines, each
one ends with the only line break in it, so cutting the text at line breaks gives the lines and an
empty rest; a line is read as the name of a kind, a tab and a quoted text. The array is read as a
value, of which each item is an object with the two members of a token.
-/

namespace Highlighter.Listing

/-! ### Lines -/

/-- Reads a line: the name of a kind, a tab, and a quoted text. -/
def readLine? (line : List Char) : Option Token :=
  match line.dropWhile (· ≠ '\t') with
  | [] => none
  | _ :: quoted => do
    let kind ← TokenKind.ofName? (String.ofList (line.takeWhile (· ≠ '\t')))
    let lexeme ← Text.Quoted.read? quoted
    return ⟨kind, lexeme⟩

/-- The line for a token without its line break. -/
def lineText (token : Token) : List Char :=
  token.kind.name.toList ++ '\t' :: (Text.Quoted.string token.lexeme).toList

theorem toList_line (token : Token) : (line token).toList = lineText token ++ ['\n'] := by
  simp [line, lineText]

theorem tab_not_mem_name (kind : TokenKind) : ∀ c ∈ kind.name.toList, (c ≠ '\t' : Bool) := by
  cases kind <;> simp [TokenKind.name]

theorem newline_not_mem_name (kind : TokenKind) : '\n' ∉ kind.name.toList := by
  cases kind <;> simp [TokenKind.name]

theorem newline_not_mem_lineText (token : Token) : '\n' ∉ lineText token := by
  simp [lineText, newline_not_mem_name, Text.Quoted.newline_not_mem_string]

theorem readLine?_lineText (token : Token) : readLine? (lineText token) = some token := by
  have ends : ∀ c ∈ ('\t' :: (Text.Quoted.string token.lexeme).toList).head?,
      (c ≠ '\t' : Bool) = false := by
    simp
  have name := Toml.takeWhile_append_eq (tab_not_mem_name token.kind) ends
  have quoted := Toml.dropWhile_append_eq (tab_not_mem_name token.kind) ends
  simp only [readLine?, lineText, name, quoted, String.ofList_toList, TokenKind.ofName?_name,
    Text.Quoted.read?_string]
  rfl

/-- Text that consists of lines is cut at its line breaks into these lines and an empty rest. -/
theorem splitOn_lines {α : Type} {text : α → List Char} (single : ∀ a, '\n' ∉ text a)
    (items : List α) :
    (items.flatMap fun a => text a ++ ['\n']).splitOn '\n' = items.map text ++ [[]] := by
  have joined : ∀ items : List α, items.flatMap (fun a => text a ++ ['\n']) =
      ['\n'].intercalate (items.map text ++ [[]]) := by
    intro items
    induction items with
    | nil => rfl
    | cons first others ih =>
        rw [List.flatMap_cons, ih]
        cases others with
        | nil => simp [List.intercalate]
        | cons second others =>
            simp only [List.map_cons, List.cons_append, List.intercalate_cons_cons]
  rw [joined, List.splitOn_intercalate]
  · intro line member
    rcases List.mem_append.mp member with listed | last
    · rcases List.mem_map.mp listed with ⟨a, -, rfl⟩
      exact single a
    · rw [List.mem_singleton.mp last]
      exact List.not_mem_nil
  · simp

theorem splitOn_write_lines (tokens : List Token) :
    (write .lines tokens).toList.splitOn '\n' = tokens.map lineText ++ [[]] := by
  have text : (write .lines tokens).toList =
      tokens.flatMap fun token => lineText token ++ ['\n'] := by
    simp only [write, String.toList_join, List.flatMap_map, toList_line]
  rw [text, splitOn_lines newline_not_mem_lineText]

/-! ### The array -/

/-- The token that an object with exactly the two members of a token is about. -/
def ofValue? : Json.Value → Option Token
  | .object [(first, .string name), (second, .string lexeme)] =>
    if first = "kind" ∧ second = "lexeme" then
      (TokenKind.ofName? name).map fun kind => ⟨kind, lexeme⟩
    else none
  | _ => none

/-- The names and texts of the members of an object for a token. -/
def members (token : Token) : List (String × String) :=
  [("kind", token.kind.name), ("lexeme", token.lexeme)]

/-- The object for a token, as a value. -/
def value (token : Token) : Json.Value :=
  .object ((members token).map fun member => (member.1, Json.Value.string member.2))

theorem ofValue?_value (token : Token) : ofValue? (value token) = some token := by
  simp [ofValue?, value, members, TokenKind.ofName?_name]

/-- The members of an object stand on lines of their own. -/
theorem toList_object (token : Token) :
    (object token).toList = [' ', ' '] ++ '\x7b' :: (['\n', ' ', ' ', ' ', ' '] ++
      ([',', '\n', ' ', ' ', ' ', ' '].intercalate ((members token).map Json.writeMember) ++
        (['\n', ' ', ' '] ++ ['\x7d']))) := by
  have kind : (Json.string "kind").toList = ['"', 'k', 'i', 'n', 'd', '"'] := by
    simp [Json.string, Json.escape, Json.escapeLetter?]
  have lexeme : (Json.string "lexeme").toList = ['"', 'l', 'e', 'x', 'e', 'm', 'e', '"'] := by
    simp [Json.string, Json.escape, Json.escapeLetter?]
  -- The defining equation of a text this long is too much for `rw` and `simp`.
  delta object
  simp [Json.writeMember, members, kind, lexeme, List.intercalate]

theorem readValue?_object (depth : Nat) (token : Token) (rest : List Char) :
    Json.readValue? (depth + 2) ((object token).toList ++ rest) = some (value token, rest) := by
  have indent : ∀ c ∈ [' ', ' '], Json.isBlank c := by simp
  have between : ∀ c ∈ ['\n', ' ', ' ', ' ', ' '], Json.isBlank c := by simp
  have gap : ∀ c ∈ ['\n', ' ', ' '], Json.isBlank c := by simp
  have braceVisible : Json.isBlank '\x7d' = false := by decide
  have read := (Json.readsBack_writeMember depth).readList?_intercalate braceVisible (by decide)
    (Json.head?_dropBlanks_writeMember_ne (by decide)) between gap ("kind", token.kind.name)
    [("lexeme", token.lexeme)] between rest
  rw [toList_object, List.append_assoc, Json.readValue?_append indent, List.cons_append,
    Json.readValue?_brace]
  simp only [List.append_assoc, List.singleton_append]
  rw [members, read]
  rfl

theorem head?_dropBlanks_object_ne (token : Token) (rest : List Char) :
    (Json.dropBlanks ((object token).toList ++ rest)).head? ≠ some ']' := by
  have indent : ∀ c ∈ [' ', ' '], Json.isBlank c := by simp
  have braceVisible : Json.isBlank '\x7b' = false := by decide
  rw [toList_object, List.append_assoc, Json.dropBlanks_append indent, List.cons_append,
    Json.dropBlanks_cons braceVisible]
  simp

theorem readsBack_object (depth : Nat) :
    Json.ReadsBack (Json.readValue? (depth + 2)) (fun token => (object token).toList) value := by
  intro token lead blank rest
  rw [Json.readValue?_append blank, readValue?_object]

theorem toList_array (first : Token) (others : List Token) :
    (array (first :: others)).toList = '[' :: (['\n'] ++
      ([',', '\n'].intercalate ((first :: others).map fun token => (object token).toList) ++
        (['\n'] ++ [']']))) := by
  simp [array, String.toList_intercalate, Function.comp_def]

theorem readValue?_array (depth : Nat) (tokens : List Token) (rest : List Char) :
    Json.readValue? (depth + 3) ((array tokens).toList ++ rest) =
      some (.array (tokens.map value), rest) := by
  have newline : ∀ c ∈ ['\n'], Json.isBlank c := by simp
  have bracketVisible : Json.isBlank ']' = false := by decide
  cases tokens with
  | nil => rfl
  | cons first others =>
      have read := (readsBack_object depth).readList?_intercalate bracketVisible (by decide)
        head?_dropBlanks_object_ne newline newline first others newline rest
      rw [toList_array, List.cons_append, Json.readValue?_bracket]
      simp only [List.cons_append, List.nil_append, List.append_assoc] at read ⊢
      rw [read]
      rfl

/-- The array of the objects for some tokens is read as the array of their values. -/
theorem read?_array (tokens : List Token) :
    Json.read? (array tokens ++ "\n") = some (.array (tokens.map value)) := by
  rcases Nat.exists_eq_add_of_le' (show 3 ≤ Json.nestingLimit by decide) with ⟨depth, enough⟩
  have read := readValue?_array depth tokens ['\n']
  have newline : "\n".toList = ['\n'] := rfl
  rw [Json.read?, enough, String.toList_append, newline, read]
  rfl

/-! ### Both forms -/

/-- Reads lines of which each one ends with a line break. -/
def readLines? (text : String) : Option (List Token) :=
  let lines := text.toList.splitOn '\n'
  if lines.getLast? = some [] then lines.dropLast.mapM readLine? else none

/-- Reads an array with an object for each token. -/
def readArray? (text : String) : Option (List Token) :=
  match Json.read? text with
  | some (.array items) => items.mapM ofValue?
  | _ => none

/-- Reads the tokens that a text lists in a format. -/
def read? : ListingFormat → String → Option (List Token)
  | .lines => readLines?
  | .json => readArray?

/-- What is listed in a format is read back. -/
theorem read?_write (format : ListingFormat) (tokens : List Token) :
    read? format (write format tokens) = some tokens := by
  have kept : tokens.mapM some = some tokens := by
    simpa using List.mapM_pure (m := Option) (l := tokens) (f := id)
  cases format with
  | lines =>
      have lines := splitOn_write_lines tokens
      simp only [read?, readLines?, lines, List.getLast?_concat, if_pos, List.dropLast_concat,
        List.mapM_map, Function.comp_def, readLine?_lineText, kept]
  | json =>
      have array : write .json tokens = Listing.array tokens ++ "\n" := rfl
      simp only [read?, readArray?, array, read?_array, List.mapM_map, Function.comp_def,
        ofValue?_value, kept]

end Highlighter.Listing
