import Highlighter.Text.Basic

/-!
# Cutting text in two

A cut takes a leading piece off a text and leaves the rest. Both the byte cursor and the token
rules are built from these cuts, and neither part of a cut ever loses a character.
-/

namespace Highlighter.Text

/-- Removes `lead` from the start of the text, or fails if the text does not start with it. -/
def dropLead? : (lead text : List Char) → Option (List Char)
  | [], text => some text
  | _ :: _, [] => none
  | a :: lead, c :: text => if a = c then dropLead? lead text else none

/-- Cuts the text after the first occurrence of `terminator`, or fails if there is none. -/
def splitPast? (terminator : List Char) : (text : List Char) → Option (List Char × List Char)
  | [] => if terminator = [] then some ([], []) else none
  | c :: text =>
    match dropLead? terminator (c :: text) with
    | some rest => some (terminator, rest)
    | none => (splitPast? terminator text).map fun (taken, rest) => (c :: taken, rest)

/-- Cuts the text at a byte offset, or fails if no character starts there and it is not the end. -/
def splitAtByte? : (offset : Nat) → (text : List Char) → Option (List Char × List Char)
  | 0, text => some ([], text)
  | _ + 1, [] => none
  | offset + 1, c :: text =>
    if c.utf8Size ≤ offset + 1 then
      (splitAtByte? (offset + 1 - c.utf8Size) text).map fun (taken, rest) => (c :: taken, rest)
    else
      none

/-- The characters between two byte offsets, or nothing if the offsets are out of order, out of
range or inside a character. -/
def sliceBytes? (start stop : Nat) (text : List Char) : Option (List Char) :=
  if start ≤ stop then do
    let (_, fromStart) ← splitAtByte? start text
    let (taken, _) ← splitAtByte? (stop - start) fromStart
    return taken
  else
    none

theorem append_of_dropLead? {lead text rest : List Char}
    (dropped : dropLead? lead text = some rest) : lead ++ rest = text := by
  fun_induction dropLead? lead text <;> simp_all

theorem append_of_splitPast? {terminator text : List Char} {parts : List Char × List Char}
    (cut : splitPast? terminator text = some parts) : parts.1 ++ parts.2 = text := by
  induction text generalizing parts with
  | nil =>
      simp only [splitPast?] at cut
      split at cut <;> simp_all
      simp [← cut]
  | cons c text ih =>
      simp only [splitPast?] at cut
      split at cut
      · next rest dropped =>
          simp only [Option.some.injEq] at cut
          simpa [← cut] using append_of_dropLead? dropped
      · rcases Option.map_eq_some_iff.mp cut with ⟨inner, found, rfl⟩
        simp [ih found]

end Highlighter.Text
