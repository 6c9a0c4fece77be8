import Highlighter.Proofs.Toml.Value

/-!
# Reading written documents

A written document is a sequence of texts each of which spells some statements wherever it stands,
so the whole spells the statements of the parts one after the other. Adding the statements to an
empty document then builds its tables, because the keys of a table are set in order and only once.
-/

namespace Highlighter.Toml

/-! ### Statements -/

theorem dropBlanks_equals (rest : List Char) : dropBlanks ('=' :: rest) = '=' :: rest := by
  simp [dropBlanks, isBlank]

theorem dropBlanks_of_value? {text : List Char} {read : Value × List Char}
    (isValue : value? text = some read) : dropBlanks text = text := by
  cases text with
  | nil => rfl
  | cons c rest =>
      by_cases blank : isBlank c
      · have noDate : isDate [] = false := rfl
        have noScalar : scalarOf? [] = none := rfl
        have unread : value? (c :: rest) = none := by
          rcases Or.imp eq_of_beq eq_of_beq (Bool.or_eq_true_iff.mp blank) with rfl | rfl
          all_goals
            simp [value?, nestingLimit, nested?, scalar?, isScalar, noDate, noScalar]
        simp [unread] at isValue
      · simp [dropBlanks, blank]

theorem IsBareName.dottedKey?_eq {name : String} (isBareName : IsBareName name)
    (rest : List Char) :
    dottedKey? (name.toList ++ ']' :: rest) = some (([], name), ']' :: rest) := by
  have visible : dropBlanks (']' :: rest) = ']' :: rest := by simp [dropBlanks, isBlank]
  have isKey : keyPart? (name.toList ++ ']' :: rest) = some (name, ']' :: rest) :=
    isBareName.keyPart?_eq (by simp; decide)
  rw [dottedKey?_of_keyPart? isKey (by simp [visible]), visible]

theorem statement?_of_key {text : List Char} (noHeader : text.head? ≠ some '[') :
    statement? text = do
      let ((path, key), after) ← dottedKey? text
      let (value, after) ← value? (dropBlanks (← expect? '=' after))
      return (.pair path key value, ← lineEnd? after) := by
  unfold statement?
  split
  · exact absurd rfl noHeader
  · exact absurd rfl noHeader
  · rfl

theorem statements?_newline (limit : Nat) (text : List Char) :
    statements? limit ('\n' :: text) = statements? limit text := by
  rw [statements?, statements?, dropFiller_newline]

theorem statements?_of_statement? {text after : List Char} {statement : Statement}
    (visible : IsVisible text) (read : statement? text = some (statement, after)) (limit : Nat) :
    statements? (limit + 1) text = (statements? limit after).map (statement :: ·) := by
  rw [statements?, visible.dropFiller_eq]
  split
  · nomatch read
  · simp only [read, Option.bind_eq_bind, Option.bind_some]
    cases statements? limit after <;> rfl

/-- The text reads as the statements, whatever is written behind it. -/
structure Spells (text : List Char) (statements : List Statement) : Prop where
  /-- Every statement takes a character at least. -/
  short : statements.length ≤ text.length
  /-- The statements come first, and the rest is read as it would be alone. -/
  reads (limit : Nat) (rest : List Char) :
    statements? (limit + statements.length) (text ++ rest) =
      (statements? limit rest).map (statements ++ ·)

namespace Spells

theorem nil : Spells [] [] where
  short := Nat.le_refl 0
  reads limit rest := by simp

theorem append {first second : List Char} {before after : List Statement}
    (spellsFirst : Spells first before) (spellsSecond : Spells second after) :
    Spells (first ++ second) (before ++ after) where
  short := by
    have := spellsFirst.short
    have := spellsSecond.short
    simp only [List.length_append]
    omega
  reads limit rest := by
    have limits : limit + (before ++ after).length = limit + after.length + before.length := by
      simp only [List.length_append]
      omega
    rw [limits, List.append_assoc, spellsFirst.reads, spellsSecond.reads, Option.map_map]
    congr 1
    funext statements
    simp

theorem flatMap {α : Type} {text : α → List Char} {statements : α → List Statement}
    (items : List α) (spells : ∀ item, Spells (text item) (statements item)) :
    Spells (items.flatMap text) (items.flatMap statements) := by
  induction items with
  | nil => exact nil
  | cons item items ih => exact (spells item).append ih

theorem newline {text : List Char} {statements : List Statement} (spells : Spells text statements) :
    Spells ('\n' :: text) statements where
  short := Nat.le_succ_of_le spells.short
  reads limit rest := by
    rw [List.cons_append, statements?_newline, spells.reads]

theorem ofStatement {text : List Char} {statement : Statement}
    (visible : ∀ rest, IsVisible (text ++ rest))
    (read : ∀ rest, statement? (text ++ rest) = some (statement, rest)) :
    Spells text [statement] where
  short := by
    cases text with
    | nil => nomatch read []
    | cons c rest => simp
  reads limit rest := statements?_of_statement? (visible rest) (read rest) limit

/-- A line with a key and a value. -/
theorem pair {key : String} {value : Value} {keyText valueText : List Char}
    (isKey : ∀ rest, keyPart? (keyText ++ ' ' :: rest) = some (key, ' ' :: rest))
    (isValue : ∀ rest, value? (valueText ++ '\n' :: rest) = some (value, '\n' :: rest)) :
    Spells (keyText ++ ' ' :: '=' :: ' ' :: (valueText ++ ['\n'])) [.pair [] key value] := by
  apply ofStatement
  · intro rest
    simpa using (isVisible_of_keyPart? (isKey _)).1
  · intro rest
    have keyRead := isKey ('=' :: ' ' :: (valueText ++ '\n' :: rest))
    have key := dottedKey?_of_keyPart? keyRead (by simp [dropBlanks, isBlank])
    have value := dropBlanks_of_value? (isValue rest)
    have text : keyText ++ ' ' :: '=' :: ' ' :: (valueText ++ ['\n']) ++ rest =
        keyText ++ ' ' :: '=' :: ' ' :: (valueText ++ '\n' :: rest) := by
      simp
    rw [text, statement?_of_key (isVisible_of_keyPart? keyRead).2, key]
    simp [dropBlanks_equals, expect?, value, isValue]

/-- A header that opens a table. -/
theorem table {name : String} (isBareName : IsBareName name) :
    Spells ('[' :: (name.toList ++ [']', '\n'])) [.table [] name] := by
  apply ofStatement
  · intro rest
    exact isVisible_cons (by decide) _
  · intro rest
    have key := isBareName.dottedKey?_eq ('\n' :: rest)
    cases characters : name.toList with
    | nil => exact absurd (String.toList_eq_nil_iff.mp characters) isBareName.1
    | cons c others =>
        have bare : isBare c :=
          List.all_eq_true.mp isBareName.2 c (by rw [characters]; exact List.mem_cons_self)
        have notBracket : c ≠ '[' := ne_of_class bare (by decide)
        rw [characters, List.cons_append] at key
        simp [statement?, notBracket, key, expect?]

/-- A header that opens one more table of an array. -/
theorem tableItem {name : String} (isBareName : IsBareName name) :
    Spells ('[' :: '[' :: (name.toList ++ [']', ']', '\n'])) [.tableItem [] name] := by
  apply ofStatement
  · intro rest
    exact isVisible_cons (by decide) _
  · intro rest
    have key := isBareName.dottedKey?_eq (']' :: '\n' :: rest)
    simp [statement?, key, expect?]

theorem statements?_eq_some {text : List Char} {statements : List Statement}
    (spells : Spells text statements) : statements? text.length text = some statements := by
  have enough : text.length = text.length - statements.length + statements.length := by
    have := spells.short
    omega
  have read := spells.reads (text.length - statements.length) []
  rw [List.append_nil, ← enough] at read
  rw [read, statements?]
  simp [dropFiller]

/-- A document without a byte order mark is read by adding the statements that it spells. -/
theorem read?_eq {document : String} {statements : List Statement}
    (spells : Spells document.toList statements) (noMark : document.toList.head? ≠ some '\ufeff') :
    read? document = (statements.foldlM Draft.add? ⟨[], []⟩).map Draft.entries := by
  unfold read?
  split
  · next marked =>
      rw [marked] at noMark
      exact absurd rfl noMark
  · simp only [spells.statements?_eq_some, Option.bind_eq_bind, Option.bind_some]
    cases statements.foldlM Draft.add? ⟨[], []⟩ <;> rfl

end Spells

end Highlighter.Toml
