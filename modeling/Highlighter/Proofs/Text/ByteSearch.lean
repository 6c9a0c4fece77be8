import Highlighter.Proofs.Text.Extent

/-!
# Searching the bytes of a text

A text can be searched in its UTF-8 encoding: for a sequence of bytes from offset to offset, or for
a character from character to character while their sizes are added up. Since no byte inside a
character can start another one, a search of bytes finds what a search of characters finds, at the
byte offset where it starts.
-/

namespace Highlighter.Text

/-! ### The encoding -/

/-- The bytes that a text is encoded in. -/
def bytes (text : List Char) : List UInt8 :=
  text.flatMap String.utf8EncodeChar

theorem bytes_cons (c : Char) (text : List Char) :
    bytes (c :: text) = String.utf8EncodeChar c ++ bytes text := rfl

theorem bytes_append (left right : List Char) :
    bytes (left ++ right) = bytes left ++ bytes right :=
  List.flatMap_append

theorem bytes_eq_nil_iff {text : List Char} : bytes text = [] ↔ text = [] := by
  cases text with
  | nil => simp [bytes]
  | cons c text => simp [bytes_cons, String.utf8EncodeChar_ne_nil]

/-- The encoding of a text starts with that of another exactly if the text does. -/
theorem bytes_isPrefix_iff {lead text : List Char} : bytes lead <+: bytes text ↔ lead <+: text := by
  constructor
  · rintro ⟨tail, whole⟩
    apply List.isPrefix_of_utf8Encode_append_eq_utf8Encode tail.toByteArray
    have encoded : (bytes lead ++ tail).toByteArray = (bytes text).toByteArray := by rw [whole]
    rwa [List.toByteArray_append] at encoded
  · rintro ⟨rest, rfl⟩
    exact ⟨bytes rest, (bytes_append lead rest).symm⟩

/-- Inside a character no other text can start. -/
theorem not_isPrefix_drop_utf8EncodeChar {sought : List Char} (nonempty : sought ≠ []) (c : Char)
    {inside : Nat} (positive : 0 < inside) (short : inside < (String.utf8EncodeChar c).length)
    (rest : List UInt8) : ¬bytes sought <+: (String.utf8EncodeChar c ++ rest).drop inside := by
  cases sought with
  | nil => exact absurd rfl nonempty
  | cons first others =>
      rintro ⟨tail, whole⟩
      have firstLength : 0 < (String.utf8EncodeChar first).length :=
        List.length_pos_iff.mpr String.utf8EncodeChar_ne_nil
      have same : (String.utf8EncodeChar first)[0] = (String.utf8EncodeChar c)[inside] := by
        have atStart := congrArg (·[0]?) whole
        simp only [bytes_cons, List.append_assoc, List.getElem?_drop, Nat.add_zero] at atStart
        rw [List.getElem?_append_left firstLength, List.getElem?_append_left short,
          List.getElem?_eq_getElem firstLength, List.getElem?_eq_getElem short] at atStart
        exact Option.some.inj atStart
      have starts : (String.utf8EncodeChar first)[0].IsUTF8FirstByte :=
        UInt8.isUTF8FirstByte_getElem_zero_utf8EncodeChar
      rw [same, UInt8.isUTF8FirstByte_getElem_utf8EncodeChar] at starts
      omega

/-! ### The first character -/

/-- The first character of a text, which is read off the first byte where that is enough. -/
def firstByByte? (text : List Char) : Option Char :=
  match (bytes text).head? with
  | none => none
  | some byte => if byte < 128 then some (Char.ofNat byte.toNat) else text.head?

/-- The first byte of a character is its code point in ASCII, and is no ASCII byte beyond. -/
theorem exists_utf8EncodeChar_eq_cons (c : Char) :
    ∃ byte others, String.utf8EncodeChar c = byte :: others ∧
      (c.toNat < 128 → byte.toNat = c.toNat) ∧ (128 ≤ c.toNat → 128 ≤ byte.toNat) := by
  unfold Char.toNat
  rw [String.utf8EncodeChar.eq_1]
  -- There is one case for each number of bytes.
  split_ifs
  all_goals
    refine ⟨_, _, rfl, ?_, ?_⟩ <;> intro side <;> rw [UInt8.toNat_ofNat'] <;> omega

theorem firstByByte?_eq (text : List Char) : firstByByte? text = text.head? := by
  cases text with
  | nil => rfl
  | cons c text =>
      rcases exists_utf8EncodeChar_eq_cons c with ⟨byte, others, encoded, inAscii, beyond⟩
      have head : (bytes (c :: text)).head? = some byte := by
        rw [bytes_cons, encoded]
        rfl
      simp only [firstByByte?, head, UInt8.lt_iff_toNat_lt]
      split
      · next short =>
          have code : byte.toNat = c.toNat := by
            apply inAscii
            by_contra long
            have large := beyond (by omega)
            simp only [UInt8.reduceToNat] at short
            omega
          rw [code, Char.ofNat_toNat, List.head?_cons]
      · rfl

/-! ### Characters with their offsets -/

/-- The characters of a text, each with the offset of its first byte. -/
def placed (offset : Nat) : List Char → List (Nat × Char)
  | [] => []
  | c :: rest => (offset, c) :: placed (offset + c.utf8Size) rest

/-- The number of bytes in front of the first character for which a predicate does not hold. -/
def lengthWhile (p : Char → Bool) (text : List Char) : Nat :=
  ((placed 0 text).find? fun entry => !p entry.2).elim (byteLength text) (·.1)

theorem lengthWhile_eq (p : Char → Bool) (text : List Char) :
    lengthWhile p text = byteLength (text.takeWhile p) := by
  suffices behind : ∀ offset, ((placed offset text).find? fun entry => !p entry.2).elim
      (offset + byteLength text) (·.1) = offset + byteLength (text.takeWhile p) by
    simpa [lengthWhile] using behind 0
  induction text with
  | nil => simp [placed]
  | cons c text ih =>
      intro offset
      by_cases holds : p c
      · simpa [placed, holds, Nat.add_assoc] using ih (offset + c.utf8Size)
      · simp [placed, holds]

/-! ### Searching for bytes -/

/-- The offset of the first place where the sought bytes stand. -/
def searchBytes? (sought : List UInt8) : List UInt8 → Option Nat
  | [] => if sought = [] then some 0 else none
  | byte :: rest =>
    if sought <+: byte :: rest then some 0 else (searchBytes? sought rest).map (· + 1)

theorem searchBytes?_of_isPrefix {sought text : List UInt8} (starts : sought <+: text) :
    searchBytes? sought text = some 0 := by
  cases text with
  | nil => simp [searchBytes?, List.prefix_nil.mp starts]
  | cons byte rest => simp [searchBytes?, starts]

/-- Bytes at which what is sought does not start are passed over. -/
theorem searchBytes?_append {sought lead : List UInt8} (rest : List UInt8)
    (nowhere : ∀ offset < lead.length, ¬sought <+: (lead ++ rest).drop offset) :
    searchBytes? sought (lead ++ rest) = (searchBytes? sought rest).map (· + lead.length) := by
  induction lead with
  | nil => simp
  | cons byte lead ih =>
      have notHere : ¬sought <+: byte :: (lead ++ rest) := nowhere 0 (by simp)
      have later := ih fun offset inside => nowhere (offset + 1) (by simpa using inside)
      rw [List.cons_append, searchBytes?, if_neg notHere, later, Option.map_map]
      rfl

/-- A search of bytes finds the first occurrence of a terminator, at the byte where it starts. -/
theorem map_searchBytes?_bytes (terminator text : List Char) :
    (searchBytes? (bytes terminator) (bytes text)).map (· + byteLength terminator) =
      (splitPast? terminator text).map fun cut => byteLength cut.1 := by
  induction text with
  | nil =>
      by_cases empty : terminator = []
      · subst empty
        rfl
      · have someBytes : bytes terminator ≠ [] := fun none => empty (bytes_eq_nil_iff.mp none)
        have noBytes : bytes [] = [] := rfl
        simp [splitPast?, searchBytes?, noBytes, someBytes, empty]
  | cons c text ih =>
      simp only [splitPast?]
      cases dropped : dropLead? terminator (c :: text) with
      | some rest =>
          have starts : terminator <+: c :: text := ⟨rest, append_of_dropLead? dropped⟩
          rw [searchBytes?_of_isPrefix (bytes_isPrefix_iff.mpr starts)]
          simp
      | none =>
          have noPrefix := dropLead?_eq_none_iff.mp dropped
          have nonempty : terminator ≠ [] := by
            rintro rfl
            exact noPrefix List.nil_prefix
          have nowhere : ∀ offset < (String.utf8EncodeChar c).length,
              ¬bytes terminator <+: (String.utf8EncodeChar c ++ bytes text).drop offset := by
            intro offset inside
            rcases Nat.eq_zero_or_pos offset with rfl | positive
            · exact fun starts => noPrefix (bytes_isPrefix_iff.mp starts)
            · exact not_isPrefix_drop_utf8EncodeChar nonempty c positive inside _
          rw [bytes_cons, searchBytes?_append _ nowhere, String.length_utf8EncodeChar]
          cases found : searchBytes? (bytes terminator) (bytes text) with
          | none =>
              cases cut : splitPast? terminator text with
              | none => rfl
              | some parts => simp [found, cut] at ih
          | some offset =>
              cases cut : splitPast? terminator text with
              | none => simp [found, cut] at ih
              | some parts =>
                  simp only [found, cut, Option.map_some, Option.some.injEq] at ih
                  simp only [Option.map_some, Option.some.injEq, byteLength_cons]
                  omega

theorem splitPast?_singleton (stop : Char) (text : List Char) :
    splitPast? [stop] text = (text.dropWhile (· ≠ stop)).tail?.map fun rest =>
      (text.takeWhile (· ≠ stop) ++ [stop], rest) := by
  induction text with
  | nil => rfl
  | cons c text ih =>
      by_cases same : c = stop
      · simp [splitPast?, dropLead?, same]
      · simp [splitPast?, dropLead?, same, Ne.symm same, ih, Function.comp_def]

/-- The search for one character ends behind the characters that differ from it. -/
theorem getD_searchBytes?_singleton (stop : Char) (text : List Char) :
    (searchBytes? (bytes [stop]) (bytes text)).getD (byteLength text) =
      byteLength (text.takeWhile (· ≠ stop)) := by
  have found := map_searchBytes?_bytes [stop] text
  have whole := List.takeWhile_append_dropWhile (p := (· ≠ stop)) (l := text)
  rw [splitPast?_singleton] at found
  cases behind : text.dropWhile (· ≠ stop) with
  | nil =>
      rw [behind] at found
      have nothing : searchBytes? (bytes [stop]) (bytes text) = none := by simpa using found
      rw [behind, List.append_nil] at whole
      rw [nothing, whole, Option.getD_none]
  | cons c rest =>
      rw [behind] at found
      rcases Option.map_eq_some_iff.mp found with ⟨offset, atOffset, total⟩
      rw [atOffset, Option.getD_some]
      simpa using total

end Highlighter.Text
