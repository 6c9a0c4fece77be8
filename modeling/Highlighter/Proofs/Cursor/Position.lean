import Highlighter.Cursor
import Highlighter.Proofs.Text.Extent

/-!
# Where a cursor stands

A cursor stands behind a number of whole characters of its source: its position is the byte length
of these characters, and what it keeps is the text after them. Moving past the first part of a cut
of that text leads behind more characters. Slices of the source between two such positions, and from
such a position to the end, exist and are the characters in between.
-/

namespace Highlighter

namespace Text

theorem byteLength_toList (text : String) : byteLength text.toList = text.utf8ByteSize := by
  have characters : ∀ characters : List Char,
      byteLength characters = (String.ofList characters).utf8ByteSize := by
    intro characters
    induction characters with
    | nil => rfl
    | cons c rest ih =>
        rw [byteLength_cons, ih, String.ofList_cons, String.utf8ByteSize_append,
          String.utf8ByteSize_singleton]
  rw [characters, String.ofList_toList]

theorem splitAtByte?_byteLength (before rest : List Char) :
    splitAtByte? (byteLength before) (before ++ rest) = some (before, rest) := by
  induction before with
  | nil => simp [splitAtByte?]
  | cons c before ih =>
      rcases Nat.exists_eq_add_one.mpr c.utf8Size_pos with ⟨size, positive⟩
      have offset : c.utf8Size + byteLength before = (size + byteLength before) + 1 := by omega
      have inside : c.utf8Size ≤ (size + byteLength before) + 1 := by omega
      have behind : (size + byteLength before) + 1 - c.utf8Size = byteLength before := by omega
      rw [byteLength_cons, offset, List.cons_append, splitAtByte?, if_pos inside, behind, ih]
      rfl

/-- The bytes between the ends of two prefixes are the characters between them. -/
theorem sliceBytes?_byteLength (before taken rest : List Char) :
    sliceBytes? (byteLength before) (byteLength (before ++ taken)) (before ++ (taken ++ rest)) =
      some taken := by
  have inOrder : byteLength before ≤ byteLength (before ++ taken) := by simp
  have span : byteLength (before ++ taken) - byteLength before = byteLength taken := by simp
  rw [sliceBytes?, if_pos inOrder, span]
  simp [splitAtByte?_byteLength]

end Text

namespace Cursor

/-- The cursor stands behind the given characters of its source. -/
def StandsBehind (cursor : Cursor) (before : List Char) : Prop :=
  cursor.source.toList = before ++ cursor.remaining ∧ cursor.position = Text.byteLength before

theorem standsBehind_atStart (source : String) : (atStart source).StandsBehind [] :=
  ⟨rfl, rfl⟩

theorem StandsBehind.movePast {cursor : Cursor} {before : List Char}
    (stands : cursor.StandsBehind before) (cut : List Char × List Char)
    (whole : cut.1 ++ cut.2 = cursor.remaining) :
    (cursor.movePast cut).StandsBehind (before ++ cut.1) := by
  rcases stands with ⟨source, position⟩
  constructor
  · simp [Cursor.movePast, source, whole]
  · simp [Cursor.movePast, position]

@[simp]
theorem movePast_movePast (cursor : Cursor) (left right : List Char × List Char) :
    (cursor.movePast left).movePast right = cursor.movePast (left.1 ++ right.1, right.2) := by
  simp [movePast, Nat.add_assoc]

@[simp]
theorem remaining_movePast (cursor : Cursor) (cut : List Char × List Char) :
    (cursor.movePast cut).remaining = cut.2 := rfl

theorem movePast_nil {cursor : Cursor} {rest : List Char} (text : cursor.remaining = rest) :
    cursor.movePast ([], rest) = cursor := by
  subst text
  rfl

/-! ### Single operations -/

theorem bump_of_isAtEnd {cursor : Cursor} (atEnd : cursor.remaining = []) :
    cursor.bump = (none, cursor) := by
  simp [bump, atEnd]

theorem bump_eq {cursor : Cursor} {first : Char} {following : List Char}
    (text : cursor.remaining = first :: following) :
    cursor.bump = (some first, cursor.movePast ([first], following)) := by
  simp [bump, text]

theorem StandsBehind.bump {cursor : Cursor} {before : List Char} {first : Char}
    {following : List Char} (stands : cursor.StandsBehind before)
    (text : cursor.remaining = first :: following) :
    (cursor.movePast ([first], following)).StandsBehind (before ++ [first]) :=
  stands.movePast ([first], following) text.symm

theorem eatWhile_of_pos {cursor : Cursor} {first : Char} {following : List Char}
    {p : Char → Bool} (text : cursor.remaining = first :: following) (holds : p first) :
    cursor.eatWhile p =
      cursor.movePast (first :: following.takeWhile p, following.dropWhile p) := by
  simp [eatWhile, text, holds]

theorem startsWith_iff {cursor : Cursor} {lead : String} :
    cursor.startsWith lead = true ↔ lead.toList <+: cursor.remaining := by
  rw [startsWith, Option.isSome_iff_ne_none, ne_eq, Text.dropLead?_eq_none_iff, not_not]

/-! ### Slices -/

/-- The slice from an earlier position of a cursor is what the cursor has moved past since. -/
theorem StandsBehind.sliceFrom?_movePast {cursor : Cursor} {before : List Char}
    (stands : cursor.StandsBehind before) (cut : List Char × List Char)
    (whole : cut.1 ++ cut.2 = cursor.remaining) :
    (cursor.movePast cut).sliceFrom? cursor.position = some (String.ofList cut.1) := by
  rcases stands.movePast cut whole with ⟨source, position⟩
  have slice := Text.sliceBytes?_byteLength before cut.1 cut.2
  rw [← stands.2, ← position, ← List.append_assoc] at slice
  simp only [remaining_movePast] at source
  rw [sliceFrom?, source, slice]
  rfl

/-- The slice of the source from the position of a cursor to the end. -/
def sliceToEnd? (cursor : Cursor) : Option (List Char) :=
  Text.sliceBytes? cursor.position (Text.byteLength cursor.source.toList) cursor.source.toList

theorem StandsBehind.sliceToEnd? {cursor : Cursor} {before : List Char}
    (stands : cursor.StandsBehind before) : cursor.sliceToEnd? = some cursor.remaining := by
  have slice := Text.sliceBytes?_byteLength before cursor.remaining []
  rw [List.append_nil, ← stands.1, ← stands.2] at slice
  exact slice

end Cursor

end Highlighter
