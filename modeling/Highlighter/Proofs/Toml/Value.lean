import Highlighter.Proofs.Toml.Numeral
import Highlighter.Proofs.Toml.StringForms

/-!
# Reading written keys and values

Keys, strings and lists of strings are read back in every form they are written in, together with
the text behind them.
-/

namespace Highlighter.Toml

/-! ### Keys -/

/-- The name needs no quotes as a key. -/
def IsBareName (name : String) : Prop :=
  name ≠ "" ∧ name.toList.all isBare
deriving Decidable

theorem IsBareName.keyPart?_eq {name : String} (isBareName : IsBareName name) {rest : List Char}
    (ends : ∀ c ∈ rest.head?, isBare c = false) :
    keyPart? (name.toList ++ rest) = some (name, rest) := by
  rcases isBareName with ⟨nonempty, allBare⟩
  have bare := List.all_eq_true.mp allBare
  have taken := takeWhile_append_eq bare ends
  have left := dropWhile_append_eq bare ends
  cases characters : name.toList with
  | nil => exact absurd (String.toList_eq_nil_iff.mp characters) nonempty
  | cons c others =>
      rw [characters] at bare taken left
      have notDouble : c ≠ '"' := ne_of_class (bare c List.mem_cons_self) (by decide)
      have notSingle : c ≠ '\'' := ne_of_class (bare c List.mem_cons_self) (by decide)
      have same : String.ofList (c :: others) = name := by rw [← characters, String.ofList_toList]
      rw [List.cons_append] at taken left ⊢
      simp only [keyPart?, taken, left, same]
      simp [notDouble, notSingle]

theorem keyPart?_writeKey (key : String) {rest : List Char}
    (ends : ∀ c ∈ rest.head?, isBare c = false) :
    keyPart? ((writeKey key).toList ++ rest) = some (key, rest) := by
  unfold writeKey
  split
  · next isBareName => exact IsBareName.keyPart?_eq isBareName ends
  · have read := basicString?_escaped key.toList 0 rest
    simp [inQuotes, keyPart?, read]

/-- A key starts with a quote or with a character that needs none. -/
theorem head_of_keyPart? {text : List Char} {read : String × List Char}
    (isKey : keyPart? text = some read) :
    ∃ c rest, text = c :: rest ∧ (c = '"' ∨ c = '\'' ∨ isBare c) := by
  unfold keyPart? at isKey
  split at isKey
  · exact ⟨_, _, rfl, Or.inl rfl⟩
  · exact ⟨_, _, rfl, Or.inr (Or.inl rfl)⟩
  · cases text with
    | nil => nomatch isKey
    | cons c rest =>
        by_cases bare : isBare c
        · exact ⟨c, rest, rfl, Or.inr (Or.inr bare)⟩
        · simp [bare] at isKey

theorem isVisible_of_keyPart? {text : List Char} {read : String × List Char}
    (isKey : keyPart? text = some read) : IsVisible text ∧ text.head? ≠ some '[' := by
  rcases head_of_keyPart? isKey with ⟨c, rest, rfl, rfl | rfl | bare⟩
  · exact ⟨isVisible_cons (by decide) rest, by simp⟩
  · exact ⟨isVisible_cons (by decide) rest, by simp⟩
  · have notSpace : c ≠ ' ' := ne_of_class bare (by decide)
    have notTab : c ≠ '\t' := ne_of_class bare (by decide)
    have notNewline : c ≠ '\n' := ne_of_class bare (by decide)
    have notReturn : c ≠ '\r' := ne_of_class bare (by decide)
    have notComment : c ≠ '#' := ne_of_class bare (by decide)
    have notBracket : c ≠ '[' := ne_of_class bare (by decide)
    refine ⟨isVisible_cons ⟨?_, notNewline, notReturn, notComment⟩ rest, by simpa⟩
    simp [isBlank, notSpace, notTab]

theorem key?_of_keyPart? {text after : List Char} {part : String}
    (read : keyPart? text = some (part, after))
    (single : ∀ c ∈ (dropBlanks after).head?, c ≠ '.') (limit : Nat) :
    key? (limit + 1) text = some (([], part), dropBlanks after) := by
  rw [key?, (isVisible_of_keyPart? read).1.dropBlanks_eq, read]
  simp only [Option.bind_eq_bind, Option.bind_some]
  split
  · next rest dotted => exact absurd rfl (single '.' (by rw [dotted]; rfl))
  · rfl

theorem dottedKey?_of_keyPart? {text after : List Char} {part : String}
    (read : keyPart? text = some (part, after))
    (single : ∀ c ∈ (dropBlanks after).head?, c ≠ '.') :
    dottedKey? text = some (([], part), dropBlanks after) :=
  key?_of_keyPart? read single (nestingLimit - 2)

/-! ### Strings -/

/-- A string starts with a quote. -/
theorem quote_of_string? {text : List Char} {read : String × List Char}
    (isString : string? text = some read) :
    ∃ quote rest, text = quote :: rest ∧ (quote = '"' ∨ quote = '\'') := by
  unfold string? at isString
  split at isString
  · exact ⟨_, _, rfl, Or.inl rfl⟩
  · exact ⟨_, _, rfl, Or.inl rfl⟩
  · exact ⟨_, _, rfl, Or.inr rfl⟩
  · exact ⟨_, _, rfl, Or.inr rfl⟩
  · nomatch isString

theorem isVisible_of_string? {text : List Char} {read : String × List Char}
    (isString : string? text = some read) : IsVisible text := by
  rcases quote_of_string? isString with ⟨quote, rest, rfl, rfl | rfl⟩
  all_goals exact isVisible_cons (by decide) rest

theorem nested?_of_string? (depth : Nat) {text after : List Char} {read : String}
    (isString : string? text = some (read, after)) :
    nested? depth text = some (.string read, after) := by
  rcases quote_of_string? isString with ⟨quote, rest, rfl, rfl | rfl⟩
  · rw [nested?, isString]
    rfl
  · rw [nested?, isString]
    rfl

theorem string?_writeString (text : String) {rest : List Char}
    (notDouble : rest.head? ≠ some '"') (notSingle : rest.head? ≠ some '\'') :
    string? (stringForm text.toList ++ rest) = some (text, rest) := by
  rw [string?_stringForm text.toList notDouble notSingle, String.ofList_toList]

/-! ### Lists of strings -/

theorem items?_of_close (item? : List Char → Option (Value × List Char)) (limit : Nat)
    {text rest : List Char} (closes : dropFiller false text = ']' :: rest) :
    items? item? limit text = some ([], rest) := by
  cases limit <;> simp [items?, closes]

theorem opens_of_string? {text : List Char} {read : String × List Char}
    (isString : string? text = some read) {after : List Char} : text ≠ ']' :: after := by
  rintro rfl
  nomatch isString

theorem items?_of_comma (depth : Nat) {limit : Nat} {text start after : List Char} {item : String}
    (starts : dropFiller false text = start)
    (isString : string? start = some (item, ',' :: after)) :
    items? (nested? depth) (limit + 1) text =
      (items? (nested? depth) limit after).map
        fun (items, after) => (.string item :: items, after) := by
  have comma := (isVisible_cons (by decide : isBlank ',' = false ∧ _) after).dropFiller_eq
  rw [items?, starts]
  split
  · exact absurd rfl (opens_of_string? isString)
  · simp only [nested?_of_string? depth isString, Option.bind_eq_bind, Option.bind_some, comma]
    cases items? (nested? depth) limit after <;> rfl

theorem items?_of_last (depth : Nat) {limit : Nat} {text start after : List Char} {item : String}
    (starts : dropFiller false text = start)
    (isString : string? start = some (item, ']' :: after)) :
    items? (nested? depth) (limit + 1) text = some ([.string item], after) := by
  have close := (isVisible_cons (by decide : isBlank ']' = false ∧ _) after).dropFiller_eq
  rw [items?, starts]
  split
  · exact absurd rfl (opens_of_string? isString)
  · simp only [nested?_of_string? depth isString, Option.bind_eq_bind, Option.bind_some, close]
    rfl

/-- A list with one string to a line, up to its closing bracket. -/
def itemLines (texts : List String) : List Char :=
  texts.flatMap fun text => [' ', ' ', ' ', ' '] ++ stringForm text.toList ++ [',', '\n']

theorem length_le_length_itemLines (texts : List String) :
    texts.length ≤ (itemLines texts).length := by
  induction texts with
  | nil => simp
  | cons text texts ih =>
      simp only [itemLines, List.flatMap_cons, List.length_append, List.length_cons] at ih ⊢
      omega

theorem items?_itemLines (depth : Nat) (texts : List String) (rest : List Char) {limit : Nat}
    (enough : texts.length ≤ limit) :
    items? (nested? depth) limit ('\n' :: (itemLines texts ++ ']' :: rest)) =
      some (texts.map .string, rest) := by
  induction texts generalizing limit with
  | nil => exact items?_of_close _ _ (by simp [itemLines, dropFiller, isBlank])
  | cons text texts ih =>
      rcases limit with _ | limit
      · exact absurd enough (Nat.not_succ_le_zero _)
      · have isString : string? (stringForm text.toList ++
            ',' :: '\n' :: (itemLines texts ++ ']' :: rest)) =
              some (text, ',' :: '\n' :: (itemLines texts ++ ']' :: rest)) :=
          string?_writeString text (by simp) (by simp)
        have starts : dropFiller false ('\n' :: (itemLines (text :: texts) ++ ']' :: rest)) =
            stringForm text.toList ++ ',' :: '\n' :: (itemLines texts ++ ']' :: rest) := by
          rw [dropFiller_newline]
          simpa [itemLines] using (isVisible_of_string? isString).dropFiller_eq
        rw [items?_of_comma depth starts isString, ih (Nat.le_of_succ_le_succ enough)]
        rfl

theorem value?_of_items? {text after : List Char} {items : List Value}
    (read : items? (nested? (nestingLimit - 2)) text.length text = some (items, after)) :
    value? ('[' :: text) = some (.array items, after) := by
  have deeper : nestingLimit - 1 = nestingLimit - 2 + 1 := rfl
  rw [value?, deeper, nested?]
  simp [read]

theorem toList_writeStrings (first second : String) (texts : List String) :
    (writeStrings (first :: second :: texts)).toList =
      '[' :: '\n' :: (itemLines (first :: second :: texts) ++ [']']) := by
  simp only [writeStrings, writeString, itemLines, String.toList_append, String.toList_join,
    List.flatMap_map, String.toList_ofList]
  rfl

theorem value?_writeStrings (texts : List String) (rest : List Char) :
    value? ((writeStrings texts).toList ++ rest) = some (.array (texts.map .string), rest) := by
  match texts with
  | [] =>
      have written : (writeStrings []).toList ++ rest = '[' :: ']' :: rest := by
        simp [writeStrings]
      rw [written]
      exact value?_of_items? (items?_of_close _ _ (by simp [dropFiller, isBlank]))
  | [text] =>
      have isString : string? (stringForm text.toList ++ ']' :: rest) = some (text, ']' :: rest) :=
        string?_writeString text (by simp) (by simp)
      have starts := (isVisible_of_string? isString).dropFiller_eq
      have written : (writeStrings [text]).toList ++ rest =
          '[' :: (stringForm text.toList ++ ']' :: rest) := by
        simp [writeStrings, writeString]
      have length : (stringForm text.toList ++ ']' :: rest).length =
          (stringForm text.toList ++ rest).length + 1 := by
        simp only [List.length_append, List.length_cons]
        omega
      rw [written]
      apply value?_of_items?
      rw [length, items?_of_last _ starts isString]
      rfl
  | first :: second :: texts =>
      have written : (writeStrings (first :: second :: texts)).toList ++ rest =
          '[' :: '\n' :: (itemLines (first :: second :: texts) ++ ']' :: rest) := by
        simp [toList_writeStrings]
      have enough := length_le_length_itemLines (first :: second :: texts)
      rw [written]
      apply value?_of_items?
      apply items?_itemLines
      simp only [List.length_cons, List.length_append] at enough ⊢
      omega

/-- Two strings can stand on one line. -/
theorem value?_two_strings (first second : String) (rest : List Char) :
    value? ('[' :: (stringForm first.toList ++ ',' :: ' ' :: (stringForm second.toList ++
        ']' :: rest))) = some (.array [.string first, .string second], rest) := by
  have isSecond : string? (stringForm second.toList ++ ']' :: rest) = some (second, ']' :: rest) :=
    string?_writeString second (by simp) (by simp)
  have isFirst := string?_writeString first
    (by simp : (',' :: ' ' :: (stringForm second.toList ++ ']' :: rest)).head? ≠ some '"') (by simp)
  have startsSecond : dropFiller false (' ' :: (stringForm second.toList ++ ']' :: rest)) =
      stringForm second.toList ++ ']' :: rest := by
    rw [dropFiller_space, (isVisible_of_string? isSecond).dropFiller_eq]
  have startsFirst := (isVisible_of_string? isFirst).dropFiller_eq
  apply value?_of_items?
  -- The text is longer than the list, which is all that the limit has to allow.
  simp only [List.length_append, List.length_cons, ← Nat.add_assoc]
  rw [items?_of_comma _ startsFirst isFirst, items?_of_last _ startsSecond isSecond]
  rfl

/-! ### Numbers -/

theorem nested?_of_isDigit (depth : Nat) {c : Char} (digit : c.isDigit) (rest : List Char) :
    nested? depth (c :: rest) = scalar? (c :: rest) := by
  have notDouble : c ≠ '"' := ne_of_class digit (by decide)
  have notSingle : c ≠ '\'' := ne_of_class digit (by decide)
  have notBracket : c ≠ '[' := ne_of_class digit (by decide)
  have notBrace : c ≠ '\x7b' := ne_of_class digit (by decide)
  cases depth <;> simp [nested?, notDouble, notSingle, notBracket, notBrace]

theorem value?_toString {number : Nat} (small : fits number) {rest : List Char}
    (ends : ∀ c ∈ rest.head?, isScalar c = false) :
    value? ((toString number).toList ++ rest) = some (.integer number, rest) := by
  have read := scalar?_toDigits small ends
  have digits := forall_isDigit_toDigits number
  rw [Nat.toString_eq_repr, Nat.toList_repr]
  cases written : Nat.toDigits 10 number with
  | nil => exact absurd written Nat.toDigits_ne_nil
  | cons c others =>
      rw [written] at read digits
      rw [List.cons_append] at read ⊢
      rw [value?, nested?_of_isDigit _ (digits c List.mem_cons_self), read]

end Highlighter.Toml
