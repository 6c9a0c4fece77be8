import Highlighter.Text.Basic
import Mathlib.Data.List.Infix

/-!
# Trimmed text

Trimming takes white space off both ends and leaves none there, so trimmed text stays as it is. Of
a leading dot only one is removed, and what stood behind it may be another dot.
-/

namespace Highlighter.Text

/-- No white space stands at either end. -/
def IsTrimmed (text : String) : Prop :=
  (∀ c, text.toList.head? = some c → ¬Character.isWhitespace c) ∧
    ∀ c, text.toList.getLast? = some c → ¬Character.isWhitespace c

theorem not_of_head?_dropWhile {p : Char → Bool} {characters : List Char} {c : Char}
    (isHead : (characters.dropWhile p).head? = some c) : ¬p c := by
  have refused := List.head?_dropWhile_not p characters
  rw [isHead] at refused
  simpa using refused

theorem dropWhile_eq_self {p : Char → Bool} {characters : List Char}
    (start : ∀ c, characters.head? = some c → ¬p c) : characters.dropWhile p = characters := by
  cases characters with
  | nil => rfl
  | cons c rest => exact List.dropWhile_cons_of_neg (start c rfl)

theorem dropEndWhile_isPrefix (p : Char → Bool) (characters : List Char) :
    dropEndWhile p characters <+: characters := by
  have suffix := List.dropWhile_suffix p (l := characters.reverse)
  rw [← List.reverse_prefix, List.reverse_reverse] at suffix
  exact suffix

theorem isTrimmed_trim (text : String) : IsTrimmed (trim text) := by
  constructor
  · intro c isHead
    rw [trim, String.toList_ofList] at isHead
    apply not_of_head?_dropWhile
    rcases dropEndWhile_isPrefix Character.isWhitespace
      (text.toList.dropWhile Character.isWhitespace) with ⟨removed, whole⟩
    rw [← whole, List.head?_append, isHead]
    rfl
  · intro c isLast
    rw [trim, String.toList_ofList, dropEndWhile, List.getLast?_reverse] at isLast
    exact not_of_head?_dropWhile isLast

theorem trim_isInfix (text : String) : (trim text).toList <:+: text.toList := by
  rw [trim, String.toList_ofList]
  exact (dropEndWhile_isPrefix _ _).isInfix.trans (List.dropWhile_suffix _).isInfix

theorem trim_eq_self_iff {text : String} : trim text = text ↔ IsTrimmed text := by
  constructor
  · intro same
    rw [← same]
    exact isTrimmed_trim text
  · rintro ⟨start, stop⟩
    rw [← List.head?_reverse] at stop
    rw [trim, dropWhile_eq_self start, dropEndWhile, dropWhile_eq_self stop, List.reverse_reverse,
      String.ofList_toList]

theorem trim_trim (text : String) : trim (trim text) = trim text :=
  trim_eq_self_iff.mpr (isTrimmed_trim text)

/-! ### Leading dots -/

theorem dropLeadingDot_append (text : String) : dropLeadingDot ("." ++ text) = text := by
  simp [dropLeadingDot]

theorem dropLeadingDot_eq_self {text : String} (noDot : text.toList.head? ≠ some '.') :
    dropLeadingDot text = text := by
  unfold dropLeadingDot
  split
  · next rest characters => simp [characters] at noDot
  · rfl

theorem dropLeadingDot_isSuffix (text : String) : (dropLeadingDot text).toList <:+ text.toList := by
  unfold dropLeadingDot
  split
  · next rest characters =>
      rw [characters, String.toList_ofList]
      exact List.suffix_cons '.' rest
  · exact List.suffix_rfl

theorem dropLeadingDot_eq_self_iff {text : String} :
    dropLeadingDot text = text ↔ text.toList.head? ≠ some '.' := by
  refine ⟨?_, dropLeadingDot_eq_self⟩
  intro same isDot
  rcases List.head?_eq_some_iff.mp isDot with ⟨rest, characters⟩
  have shorter : (dropLeadingDot text).toList = rest := by simp [dropLeadingDot, characters]
  rw [same, characters] at shorter
  exact List.cons_ne_self '.' rest shorter

end Highlighter.Text
