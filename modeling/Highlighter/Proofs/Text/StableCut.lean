import Highlighter.Proofs.Text.Extent

/-!
# Cuts that do not look ahead

A stable cut of a text in two is settled by the part that it takes and the one character behind it.
Text that is appended behind a non-empty rest changes nothing, and text that is appended where
nothing was left can only lengthen what is taken. It follows that taking away text behind the taken
part changes nothing either. Both cuts at the end of a run of characters and cuts behind a shortest
prefix are stable.
-/

namespace Highlighter.Text

/-- A cut that is not changed by what comes later in the text. -/
structure IsStableCut (cut : List Char → List Char × List Char) : Prop where
  /-- The two parts make up the text. -/
  append : ∀ text, (cut text).1 ++ (cut text).2 = text
  /-- Behind a non-empty rest more text is only more rest. -/
  settled : ∀ text extra, (cut text).2 ≠ [] →
    cut (text ++ extra) = ((cut text).1, (cut text).2 ++ extra)
  /-- More text never shortens what is taken. -/
  grows : ∀ text extra, (cut text).1 <+: (cut (text ++ extra)).1

/-- What follows the taken part can be removed without moving the cut. -/
theorem IsStableCut.truncate {cut : List Char → List Char × List Char} (stable : IsStableCut cut)
    {taken rest extra : List Char}
    (longer : cut (taken ++ rest ++ extra) = (taken, rest ++ extra)) :
    cut (taken ++ rest) = (taken, rest) := by
  have whole := stable.append (taken ++ rest)
  have grown := stable.grows (taken ++ rest) extra
  have sameTaken : (cut (taken ++ rest)).1 = taken := by
    by_cases exhausted : (cut (taken ++ rest)).2 = []
    · -- Everything was taken, which is no more than what is taken of the longer text.
      have all : (cut (taken ++ rest)).1 = taken ++ rest := by simpa [exhausted] using whole
      rw [all, longer] at grown
      rw [all]
      exact grown.eq_of_length_le (by simp)
    · have settled := stable.settled (taken ++ rest) extra exhausted
      rw [longer] at settled
      exact (congrArg Prod.fst settled).symm
  rw [sameTaken] at whole
  exact Prod.ext sameTaken (List.append_cancel_left whole)

/-- The cut at the end of the longest run of characters that satisfy a predicate is stable. -/
theorem isStableCut_run (p : Char → Bool) :
    IsStableCut fun text => (text.takeWhile p, text.dropWhile p) where
  append _ := List.takeWhile_append_dropWhile
  settled := by
    intro text extra rest
    have stopped : ¬(text.takeWhile p).length = text.length := by
      intro equal
      have all := (List.takeWhile_prefix p (l := text)).eq_of_length equal
      exact rest (List.dropWhile_eq_nil_iff.mpr (List.takeWhile_eq_self_iff.mp all))
    have someRest : (text.dropWhile p).isEmpty = false := by simpa using rest
    simp only [List.takeWhile_append, List.dropWhile_append, if_neg stopped, someRest,
      Bool.false_eq_true, if_false]
  grows := by
    intro text extra
    simp only [List.takeWhile_append]
    split
    · exact (List.takeWhile_prefix p).trans (List.prefix_append _ _)
    · exact List.prefix_rfl

/-- A cut behind the shortest prefix with a property is stable. -/
theorem isStableCut_of_shortest {P : List Char → Prop}
    {cut : List Char → List Char × List Char}
    (append : ∀ text, (cut text).1 ++ (cut text).2 = text)
    (shortest : ∀ text, IsShortestPrefixOrAll P text (cut text).1) : IsStableCut cut where
  append := append
  settled := by
    intro text extra rest
    have whole := append text
    have isShortest : IsShortestPrefix P text (cut text).1 := by
      rcases shortest text with isShortest | ⟨_, all⟩
      · exact isShortest
      · rw [all] at whole
        exact absurd (List.append_right_eq_self.mp whole) rest
    -- The prefix stays the shortest one, since those of the longer text are longer than the text.
    have stillShortest : IsShortestPrefix P (text ++ extra) (cut text).1 := by
      refine ⟨isShortest.isPrefix.trans (List.prefix_append _ _), isShortest.holds, ?_⟩
      intro other otherPrefix holds
      rcases List.prefix_or_prefix_of_prefix otherPrefix (List.prefix_append text extra) with
        inside | beyond
      · exact isShortest.shortest other inside holds
      · exact isShortest.isPrefix.length_le.trans beyond.length_le
    have sameTaken : (cut (text ++ extra)).1 = (cut text).1 :=
      (shortest (text ++ extra)).unique (Or.inl stillShortest)
    have wholeExtended := append (text ++ extra)
    rw [sameTaken] at wholeExtended
    refine Prod.ext sameTaken (List.append_cancel_left (wholeExtended.trans ?_))
    simp only [← List.append_assoc, whole]
  grows := by
    intro text extra
    have takenPrefix := (shortest text).isPrefix.trans (List.prefix_append text extra)
    apply List.prefix_of_prefix_length_le takenPrefix (shortest (text ++ extra)).isPrefix
    rcases shortest (text ++ extra) with extended | ⟨_, all⟩
    · rcases List.prefix_or_prefix_of_prefix extended.isPrefix (List.prefix_append text extra) with
        inside | beyond
      · rcases shortest text with isShortest | ⟨none, _⟩
        · exact isShortest.shortest _ inside extended.holds
        · exact absurd extended.holds (none _ inside)
      · exact (shortest text).isPrefix.length_le.trans beyond.length_le
    · rw [all]
      exact takenPrefix.length_le

end Highlighter.Text
