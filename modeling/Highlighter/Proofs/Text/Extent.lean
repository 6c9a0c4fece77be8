import Highlighter.Text.Split
import Mathlib.Data.List.TakeWhile

/-!
# Longest and shortest prefixes

How far a piece of text reaches can be said without an algorithm: it is the longest prefix that has
some property, or the shortest one. Either is determined by the property and the text. The cuts
that the scanner is built from find these prefixes: taking characters while a predicate holds finds
the longest one, and cutting past a terminator the shortest.
-/

namespace Highlighter.Text

/-- A prefix with the property, such that no prefix with the property is longer. -/
structure IsLongestPrefix (P : List Char → Prop) (text taken : List Char) : Prop where
  isPrefix : taken <+: text
  holds : P taken
  longest : ∀ other, other <+: text → P other → other.length ≤ taken.length

/-- A prefix with the property, such that no prefix with the property is shorter. -/
structure IsShortestPrefix (P : List Char → Prop) (text taken : List Char) : Prop where
  isPrefix : taken <+: text
  holds : P taken
  shortest : ∀ other, other <+: text → P other → taken.length ≤ other.length

/-- The shortest prefix with the property, or the whole text where no prefix has the property. -/
def IsShortestPrefixOrAll (P : List Char → Prop) (text taken : List Char) : Prop :=
  IsShortestPrefix P text taken ∨ (∀ other, other <+: text → ¬P other) ∧ taken = text

/-! ### Uniqueness -/

theorem eq_of_isPrefix_of_length_eq {text left right : List Char} (leftPrefix : left <+: text)
    (rightPrefix : right <+: text) (equal : left.length = right.length) : left = right :=
  (List.prefix_of_prefix_length_le leftPrefix rightPrefix equal.le).eq_of_length equal

theorem IsLongestPrefix.unique {P : List Char → Prop} {text left right : List Char}
    (isLeft : IsLongestPrefix P text left) (isRight : IsLongestPrefix P text right) :
    left = right := by
  apply eq_of_isPrefix_of_length_eq isLeft.isPrefix isRight.isPrefix
  apply Nat.le_antisymm
  · exact isRight.longest left isLeft.isPrefix isLeft.holds
  · exact isLeft.longest right isRight.isPrefix isRight.holds

theorem IsShortestPrefix.unique {P : List Char → Prop} {text left right : List Char}
    (isLeft : IsShortestPrefix P text left) (isRight : IsShortestPrefix P text right) :
    left = right := by
  apply eq_of_isPrefix_of_length_eq isLeft.isPrefix isRight.isPrefix
  apply Nat.le_antisymm
  · exact isLeft.shortest right isRight.isPrefix isRight.holds
  · exact isRight.shortest left isLeft.isPrefix isLeft.holds

theorem IsShortestPrefixOrAll.unique {P : List Char → Prop} {text left right : List Char}
    (isLeft : IsShortestPrefixOrAll P text left) (isRight : IsShortestPrefixOrAll P text right) :
    left = right := by
  rcases isLeft with isLeft | ⟨leftNone, rfl⟩
  · rcases isRight with isRight | ⟨rightNone, rfl⟩
    · exact isLeft.unique isRight
    · exact absurd isLeft.holds (rightNone left isLeft.isPrefix)
  · rcases isRight with isRight | ⟨_, rfl⟩
    · exact absurd isRight.holds (leftNone right isRight.isPrefix)
    · rfl

theorem IsShortestPrefixOrAll.isPrefix {P : List Char → Prop} {text taken : List Char}
    (isShortest : IsShortestPrefixOrAll P text taken) : taken <+: text := by
  rcases isShortest with isShortest | ⟨_, rfl⟩
  · exact isShortest.isPrefix
  · exact List.prefix_rfl

/-! ### Taking characters while a predicate holds -/

theorem isLongestPrefix_takeWhile {P : List Char → Prop} {p : Char → Bool}
    (characters : ∀ taken, P taken ↔ ∀ c ∈ taken, p c) (text : List Char) :
    IsLongestPrefix P text (text.takeWhile p) where
  isPrefix := List.takeWhile_prefix p
  holds := (characters _).mpr fun _ member => List.mem_takeWhile_imp member
  longest := by
    rintro other ⟨rest, rfl⟩ holds
    simp [List.takeWhile_append_of_pos ((characters other).mp holds)]

theorem isLongestPrefix_cons_takeWhile {P : List Char → Prop} {p : Char → Bool}
    (characters : ∀ taken, P taken ↔ ∀ c ∈ taken, p c) {first : Char} (holds : p first)
    (following : List Char) :
    IsLongestPrefix P (first :: following) (first :: following.takeWhile p) := by
  simpa [holds] using isLongestPrefix_takeWhile characters (first :: following)

/-! ### Cutting past a terminator -/

/--
A character that every prefix with the property starts with can be split off, if what then remains
of these prefixes is described by another property.
-/
theorem IsShortestPrefixOrAll.cons {P Q : List Char → Prop} {c : Char} {text taken : List Char}
    (isShortest : IsShortestPrefixOrAll P text taken)
    (splits : ∀ other, other <+: c :: text → (Q other ↔ ∃ tail, other = c :: tail ∧ P tail)) :
    IsShortestPrefixOrAll Q (c :: text) (c :: taken) := by
  have splitsCons : ∀ tail, tail <+: text → (Q (c :: tail) ↔ P tail) := by
    intro tail tailPrefix
    simpa using splits (c :: tail) (by simpa using tailPrefix)
  rcases isShortest with isShortest | ⟨none, rfl⟩
  · left
    refine ⟨by simpa using isShortest.isPrefix, ?_, ?_⟩
    · exact (splitsCons taken isShortest.isPrefix).mpr isShortest.holds
    · intro other otherPrefix holds
      rcases (splits other otherPrefix).mp holds with ⟨tail, rfl, tailHolds⟩
      have tailPrefix : tail <+: text := by simpa using otherPrefix
      simpa using isShortest.shortest tail tailPrefix tailHolds
  · right
    refine ⟨?_, rfl⟩
    intro other otherPrefix holds
    rcases (splits other otherPrefix).mp holds with ⟨tail, rfl, tailHolds⟩
    exact none tail (by simpa using otherPrefix) tailHolds

/-- A text in front of everything is in front of the shortest prefix as well. -/
theorem IsShortestPrefixOrAll.append_left {P Q : List Char → Prop} {text taken : List Char}
    (lead : List Char) (isShortest : IsShortestPrefixOrAll P text taken)
    (splits : ∀ other, Q other ↔ ∃ tail, other = lead ++ tail ∧ P tail) :
    IsShortestPrefixOrAll Q (lead ++ text) (lead ++ taken) := by
  induction lead generalizing Q with
  | nil =>
      have sameProperty : Q = P := funext fun other => propext (by simpa using splits other)
      subst sameProperty
      exact isShortest
  | cons c lead ih =>
      apply (ih (Q := fun other => ∃ tail, other = lead ++ tail ∧ P tail) fun _ => Iff.rfl).cons
      intro other _
      rw [splits]
      constructor
      · rintro ⟨tail, rfl, holds⟩
        exact ⟨lead ++ tail, rfl, tail, rfl, holds⟩
      · rintro ⟨_, rfl, tail, rfl, holds⟩
        exact ⟨tail, rfl, holds⟩

theorem pair_isPrefix_cons_iff {first second third : Char} {following : List Char} :
    [second, third] <+: first :: following ↔ first = second ∧ following.head? = some third := by
  rcases following with _ | ⟨c, rest⟩
  · simp
  · simp [eq_comm]

theorem dropLead?_append (lead rest : List Char) : dropLead? lead (lead ++ rest) = some rest := by
  induction lead with
  | nil => simp [dropLead?]
  | cons c lead ih => simpa [dropLead?] using ih

theorem dropLead?_eq_none_iff {lead text : List Char} :
    dropLead? lead text = none ↔ ¬lead <+: text := by
  constructor
  · rintro failed ⟨rest, rfl⟩
    simp [dropLead?_append] at failed
  · intro noPrefix
    cases dropped : dropLead? lead text with
    | none => rfl
    | some rest => exact absurd ⟨rest, append_of_dropLead? dropped⟩ noPrefix

/-- Cutting past a terminator takes the shortest prefix that ends with it, or else everything. -/
theorem isShortestPrefixOrAll_splitPast (terminator text : List Char) :
    IsShortestPrefixOrAll (fun taken => ∃ inner, taken = inner ++ terminator) text
      ((splitPast? terminator text).getD (text, [])).1 := by
  induction text with
  | nil =>
      by_cases empty : terminator = []
      · left
        subst empty
        exact ⟨List.prefix_rfl, ⟨[], rfl⟩, by simp [splitPast?]⟩
      · right
        simp [splitPast?, empty]
  | cons c text ih =>
      simp only [splitPast?]
      cases dropped : dropLead? terminator (c :: text) with
      | some rest =>
          left
          refine ⟨⟨rest, append_of_dropLead? dropped⟩, ⟨[], rfl⟩, ?_⟩
          rintro _ _ ⟨inner, rfl⟩
          simp
      | none =>
          -- The terminator does not stand at the start, so the first character is in front of it.
          have noPrefix := dropLead?_eq_none_iff.mp dropped
          have whole : (((splitPast? terminator text).map fun cut => (c :: cut.1, cut.2)).getD
              (c :: text, [])).1 = c :: ((splitPast? terminator text).getD (text, [])).1 := by
            cases splitPast? terminator text <;> rfl
          rw [whole]
          apply ih.cons
          intro other otherPrefix
          constructor
          · rintro ⟨inner, rfl⟩
            rcases inner with _ | ⟨d, inner⟩
            · exact absurd otherPrefix noPrefix
            · have same : d = c := (List.cons_prefix_cons.mp otherPrefix).1
              exact ⟨inner ++ terminator, by simp [same], inner, rfl⟩
          · rintro ⟨_, rfl, inner, rfl⟩
            exact ⟨c :: inner, rfl⟩

/-- Cutting past a terminator fails exactly where it does not occur. -/
theorem splitPast?_eq_none_iff {terminator text : List Char} :
    splitPast? terminator text = none ↔ ¬terminator <:+: text := by
  induction text with
  | nil => simp [splitPast?]
  | cons c text ih =>
      simp only [splitPast?, List.infix_cons_iff, not_or]
      cases dropped : dropLead? terminator (c :: text) with
      | some rest => simp [← append_of_dropLead? dropped]
      | none => simp [ih, dropLead?_eq_none_iff.mp dropped]

theorem isShortestPrefix_of_splitPast? {terminator text : List Char}
    {parts : List Char × List Char} (cut : splitPast? terminator text = some parts) :
    IsShortestPrefix (fun taken => terminator <:+ taken) text parts.1 := by
  have sameProperty : (fun taken => terminator <:+ taken) =
      fun taken => ∃ inner, taken = inner ++ terminator := by
    funext taken
    simp [List.IsSuffix, eq_comm]
  rw [sameProperty]
  have isShortest := isShortestPrefixOrAll_splitPast terminator text
  rw [cut, Option.getD_some] at isShortest
  rcases isShortest with isShortest | ⟨nowhere, -⟩
  · exact isShortest
  · have occurs : terminator <:+: text := by
      by_contra absent
      rw [splitPast?_eq_none_iff.mpr absent] at cut
      nomatch cut
    rcases occurs with ⟨inner, rest, whole⟩
    exact absurd ⟨inner, rfl⟩ (nowhere (inner ++ terminator) ⟨rest, whole⟩)

end Highlighter.Text
