import Highlighter.Toml.Text

/-!
# Spans and the text between statements

A run of characters is read up to the first character outside of it, and written text has only
single blanks and line breaks between its parts.
-/

namespace Highlighter.Toml

theorem takeWhile_append_eq {p : Char → Bool} {text rest : List Char} (inside : ∀ c ∈ text, p c)
    (ends : ∀ c ∈ rest.head?, p c = false) : (text ++ rest).takeWhile p = text := by
  rw [List.takeWhile_append_of_pos inside]
  cases rest with
  | nil => simp
  | cons c rest => simp [ends c rfl]

theorem dropWhile_append_eq {p : Char → Bool} {text rest : List Char} (inside : ∀ c ∈ text, p c)
    (ends : ∀ c ∈ rest.head?, p c = false) : (text ++ rest).dropWhile p = rest := by
  rw [List.dropWhile_append_of_pos inside]
  cases rest with
  | nil => rfl
  | cons c rest => simp [ends c rfl]

/-- A character of a class is none of those outside of it. -/
theorem ne_of_class {p : Char → Bool} {mark c : Char} (holds : p c) (fails : p mark = false) :
    c ≠ mark := by
  rintro rfl
  simp [holds] at fails

/-- The text starts with a character that is no blank, line break or comment. -/
def IsVisible (text : List Char) : Prop :=
  ∀ c ∈ text.head?, isBlank c = false ∧ c ≠ '\n' ∧ c ≠ '\r' ∧ c ≠ '#'

theorem isVisible_cons {c : Char} (visible : isBlank c = false ∧ c ≠ '\n' ∧ c ≠ '\r' ∧ c ≠ '#')
    (rest : List Char) : IsVisible (c :: rest) := by
  intro first isFirst
  rcases Option.some.inj isFirst with rfl
  exact visible

theorem IsVisible.dropFiller_eq {text : List Char} (visible : IsVisible text) :
    dropFiller false text = text := by
  cases text with
  | nil => rfl
  | cons c rest =>
      rcases visible c rfl with ⟨notBlank, notNewline, notReturn, notComment⟩
      simp [dropFiller, notBlank, notNewline, notReturn, notComment]

theorem IsVisible.dropBlanks_eq {text : List Char} (visible : IsVisible text) :
    dropBlanks text = text := by
  cases text with
  | nil => rfl
  | cons c rest => simp [dropBlanks, (visible c rfl).1]

@[simp]
theorem dropFiller_newline (text : List Char) :
    dropFiller false ('\n' :: text) = dropFiller false text := by
  simp [dropFiller]

@[simp]
theorem dropFiller_space (text : List Char) :
    dropFiller false (' ' :: text) = dropFiller false text := by
  simp [dropFiller, isBlank]

@[simp]
theorem dropBlanks_space (text : List Char) : dropBlanks (' ' :: text) = dropBlanks text := by
  simp [dropBlanks, isBlank]

@[simp]
theorem lineEnd?_newline (text : List Char) : lineEnd? ('\n' :: text) = some text := by
  simp [lineEnd?, dropBlanks, isBlank, lineBreak?]

end Highlighter.Toml
