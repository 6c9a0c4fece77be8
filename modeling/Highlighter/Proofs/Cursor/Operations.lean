import Highlighter.Proofs.Cursor.Position
import Highlighter.Proofs.Text.ByteSearch

/-!
# Operations on a cursor

The operations of a cursor with what they tell, one at a time and one after the other. They are run
a second time on a cursor that keeps nothing but its source and a byte offset: it slices the source
anew for each operation, finds out by a search of bytes how far the operation goes, and adds a
number of bytes to the offset. As long as the cursor stands behind whole characters, the slice
exists, both operations tell the same and both cursors end at the same offset.
-/

namespace Highlighter

namespace Cursor

/-- What can be done with a cursor. -/
inductive Operation where
  /-- Take the next character. -/
  | bump
  /-- Move past a text that has been seen to come next. -/
  | bumpPast (lead : String)
  /-- Move past characters while a predicate holds. -/
  | eatWhile (p : Char → Bool)
  /-- Move up to the next newline. -/
  | eatLine
  /-- Move past the next occurrence of a text. -/
  | eatPast (terminator : String)

/-- What an operation tells. -/
inductive Answer where
  /-- Nothing. -/
  | done
  /-- The character that was taken, unless the text had come to its end. -/
  | character (c : Option Char)
  /-- Whether there was an occurrence. -/
  | found (isThere : Bool)

/-- The text behind the cursor is one that the operation may be used on. -/
def Operation.Fits (text : List Char) : Operation → Prop
  | bumpPast lead => lead.toList <+: text
  | bump | eatWhile _ | eatLine | eatPast _ => True

instance Operation.decidableFits (text : List Char) :
    (operation : Operation) → Decidable (operation.Fits text)
  | bumpPast lead => inferInstanceAs (Decidable (lead.toList <+: text))
  | bump | eatWhile _ | eatLine | eatPast _ => inferInstanceAs (Decidable True)

/-- What an operation tells, with the cursor behind it. -/
def perform (cursor : Cursor) : Operation → Answer × Cursor
  | .bump => (.character cursor.bump.1, cursor.bump.2)
  | .bumpPast lead => (.done, cursor.bumpPast lead)
  | .eatWhile p => (.done, cursor.eatWhile p)
  | .eatLine => (.done, cursor.eatLine)
  | .eatPast terminator => (.found (cursor.eatPast terminator).1, (cursor.eatPast terminator).2)

/-- What operations tell one after the other, with the cursor behind the last. -/
def performAll (cursor : Cursor) : List Operation → List Answer × Cursor
  | [] => ([], cursor)
  | operation :: rest =>
    let later := (cursor.perform operation).2.performAll rest
    ((cursor.perform operation).1 :: later.1, later.2)

/-- Each operation may be used where the ones before it have led. -/
def AllFit (cursor : Cursor) : List Operation → Prop
  | [] => True
  | operation :: rest =>
    operation.Fits cursor.remaining ∧ (cursor.perform operation).2.AllFit rest

instance decidableAllFit (cursor : Cursor) :
    (operations : List Operation) → Decidable (cursor.AllFit operations)
  | [] => inferInstanceAs (Decidable True)
  | operation :: rest =>
    have := decidableAllFit (cursor.perform operation).2 rest
    inferInstanceAs (Decidable (operation.Fits cursor.remaining ∧ _))

theorem performAll_append (cursor : Cursor) (earlier later : List Operation) :
    cursor.performAll (earlier ++ later) =
      ((cursor.performAll earlier).1 ++ ((cursor.performAll earlier).2.performAll later).1,
        ((cursor.performAll earlier).2.performAll later).2) := by
  induction earlier generalizing cursor with
  | nil => rfl
  | cons operation earlier ih => simp [performAll, ih]

theorem allFit_append {cursor : Cursor} {earlier later : List Operation} :
    cursor.AllFit (earlier ++ later) ↔
      cursor.AllFit earlier ∧ (cursor.performAll earlier).2.AllFit later := by
  induction earlier generalizing cursor with
  | nil => simp [AllFit, performAll]
  | cons operation earlier ih => simp [AllFit, performAll, ih, and_assoc]

end Cursor

/-- A cursor that keeps nothing but its source and a byte offset. -/
structure ByteCursor where
  /-- The whole text. -/
  source : String
  /-- The number of bytes before the cursor. -/
  position : Nat

namespace ByteCursor

open Cursor (Operation Answer)

/-- The characters from the offset to the end, unless no character starts at the offset. -/
def remaining? (cursor : ByteCursor) : Option (List Char) :=
  Text.sliceBytes? cursor.position (Text.byteLength cursor.source.toList) cursor.source.toList

/-- Moves past a number of bytes. -/
def skip (cursor : ByteCursor) (count : Nat) : ByteCursor :=
  { cursor with position := cursor.position + count }

/-- What an operation tells where the given text comes next, with the cursor behind it. -/
def performOn (cursor : ByteCursor) (rest : List Char) : Operation → Answer × ByteCursor
  | .bump => match Text.firstByByte? rest with
    | none => (.character none, cursor)
    | some c => (.character (some c), cursor.skip c.utf8Size)
  | .bumpPast lead => (.done, cursor.skip (Text.byteLength lead.toList))
  | .eatWhile p => (.done, cursor.skip (Text.lengthWhile p rest))
  | .eatLine =>
    let newline := Text.searchBytes? (Text.bytes ['\n']) (Text.bytes rest)
    (.done, cursor.skip (newline.getD (Text.byteLength rest)))
  | .eatPast terminator =>
    match Text.searchBytes? (Text.bytes terminator.toList) (Text.bytes rest) with
    | some offset => (.found true, cursor.skip (offset + Text.byteLength terminator.toList))
    | none => (.found false, { cursor with position := Text.byteLength cursor.source.toList })

/-- What an operation tells, with the cursor behind it, unless the source cannot be sliced. -/
def perform? (cursor : ByteCursor) (operation : Operation) : Option (Answer × ByteCursor) :=
  cursor.remaining?.map fun rest => cursor.performOn rest operation

/-- What operations tell one after the other, with the cursor behind the last. -/
def performAll? (cursor : ByteCursor) : List Operation → Option (List Answer × ByteCursor)
  | [] => some ([], cursor)
  | operation :: rest => do
    let (answer, behind) ← cursor.perform? operation
    let (answers, last) ← behind.performAll? rest
    return (answer :: answers, last)

end ByteCursor

namespace Cursor

/-- The cursor without the text that it keeps. -/
def inBytes (cursor : Cursor) : ByteCursor :=
  ⟨cursor.source, cursor.position⟩

theorem inBytes_movePast (cursor : Cursor) (cut : List Char × List Char) :
    (cursor.movePast cut).inBytes = cursor.inBytes.skip (Text.byteLength cut.1) := rfl

theorem StandsBehind.remaining? {cursor : Cursor} {before : List Char}
    (stands : cursor.StandsBehind before) :
    cursor.inBytes.remaining? = some cursor.remaining :=
  stands.sliceToEnd?

/-- Both cursors tell the same, and end at the same offset. -/
theorem StandsBehind.performOn {cursor : Cursor} {before : List Char}
    (stands : cursor.StandsBehind before) (operation : Operation) :
    cursor.inBytes.performOn cursor.remaining operation =
      ((cursor.perform operation).1, (cursor.perform operation).2.inBytes) := by
  cases operation with
  | bump =>
      simp only [ByteCursor.performOn, Text.firstByByte?_eq, perform]
      cases text : cursor.remaining with
      | nil => simp [bump_of_isAtEnd text]
      | cons c rest => simp [bump_eq text, inBytes_movePast]
  | bumpPast lead => rfl
  | eatWhile p =>
      rw [ByteCursor.performOn, Text.lengthWhile_eq]
      rfl
  | eatLine =>
      simp only [ByteCursor.performOn, Text.getD_searchBytes?_singleton]
      rfl
  | eatPast terminator =>
      have found := Text.map_searchBytes?_bytes terminator.toList cursor.remaining
      simp only [ByteCursor.performOn, perform, eatPast]
      cases cut : Text.splitPast? terminator.toList cursor.remaining with
      | none =>
          rw [cut] at found
          have total : cursor.position + Text.byteLength cursor.remaining =
              Text.byteLength cursor.source.toList := by
            rw [stands.1, Text.byteLength_append, stands.2]
          rw [Option.map_eq_none_iff.mp found, inBytes_movePast, ByteCursor.skip]
          simp only [inBytes, total]
      | some parts =>
          rw [cut] at found
          rcases Option.map_eq_some_iff.mp found with ⟨offset, atOffset, total⟩
          simp only at total
          rw [atOffset, inBytes_movePast, ← total]

theorem StandsBehind.perform? {cursor : Cursor} {before : List Char}
    (stands : cursor.StandsBehind before) (operation : Operation) :
    cursor.inBytes.perform? operation =
      some ((cursor.perform operation).1, (cursor.perform operation).2.inBytes) := by
  rw [ByteCursor.perform?, stands.remaining?, Option.map_some, stands.performOn]

end Cursor

end Highlighter
