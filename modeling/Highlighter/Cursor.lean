import Highlighter.Text.Split

/-!
# Byte cursor

A cursor stands at a byte offset of a source text and moves only forward, by whole characters. It
keeps the text after its position, so that no step has to look the position up again.
-/

namespace Highlighter

/-- A position in a source text. -/
structure Cursor where
  /-- The whole text. -/
  source : String
  /-- The number of bytes before the cursor. -/
  position : Nat
  /-- The characters after the cursor. -/
  remaining : List Char
deriving DecidableEq, Repr

namespace Cursor

/-- The cursor at the start of a text. -/
def atStart (source : String) : Cursor :=
  ⟨source, 0, source.toList⟩

/-- The character after the cursor. -/
def first? (cursor : Cursor) : Option Char :=
  cursor.remaining.head?

/-- Decides whether nothing comes after the cursor. -/
def isAtEnd (cursor : Cursor) : Bool :=
  cursor.remaining.isEmpty

/-- Decides whether the text after the cursor starts with `lead`. -/
def startsWith (cursor : Cursor) (lead : String) : Bool :=
  (Text.dropLead? lead.toList cursor.remaining).isSome

/-- Moves past the first part of a cut of the text after the cursor. -/
def movePast (cursor : Cursor) (cut : List Char × List Char) : Cursor :=
  { cursor with position := cursor.position + Text.byteLength cut.1, remaining := cut.2 }

/-- Takes the next character, or stays at the end of the text. -/
def bump (cursor : Cursor) : Option Char × Cursor :=
  match cursor.remaining with
  | [] => (none, cursor)
  | c :: rest => (some c, cursor.movePast ([c], rest))

/-- Moves past as many bytes as `lead` has, which the text after the cursor is taken to start
with. -/
def bumpPast (cursor : Cursor) (lead : String) : Cursor :=
  cursor.movePast (lead.toList, cursor.remaining.drop lead.length)

/-- Moves past characters while the predicate holds. -/
def eatWhile (cursor : Cursor) (p : Char → Bool) : Cursor :=
  cursor.movePast (cursor.remaining.takeWhile p, cursor.remaining.dropWhile p)

/-- Moves up to the next newline, or to the end of the text. -/
def eatLine (cursor : Cursor) : Cursor :=
  cursor.eatWhile (· ≠ '\n')

/-- Moves past the next occurrence of `terminator`, or to the end of the text if there is none;
tells which of the two it was. -/
def eatPast (cursor : Cursor) (terminator : String) : Bool × Cursor :=
  match Text.splitPast? terminator.toList cursor.remaining with
  | some cut => (true, cursor.movePast cut)
  | none => (false, cursor.movePast (cursor.remaining, []))

/-- The text from a byte offset up to the cursor, or nothing if the offset comes after the cursor
or lies inside a character. -/
def sliceFrom? (cursor : Cursor) (start : Nat) : Option String :=
  (Text.sliceBytes? start cursor.position cursor.source.toList).map String.ofList

end Cursor

end Highlighter
