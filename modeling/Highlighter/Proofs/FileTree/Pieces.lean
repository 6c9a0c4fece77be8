import Highlighter.Path

/-!
# Pieces of a path and of its parent

A path is its pieces with slashes between them. The parent of a path that ends in a name has the
pieces before that name, up to the last that leads somewhere.
-/

namespace Highlighter.Path

/-! ### Splitting and joining -/

theorem split_ne_nil (path : List Char) : split path ≠ [] := by
  cases path with
  | nil => simp [split]
  | cons c rest =>
      unfold split
      split
      · simp
      · split <;> simp

theorem split_append_slash {piece : List Char} (whole : '/' ∉ piece) (rest : List Char) :
    split (piece ++ '/' :: rest) = piece :: split rest := by
  induction piece with
  | nil => simp [split]
  | cons c piece ih =>
      have others : '/' ∉ piece := fun member => whole (List.mem_cons_of_mem c member)
      have notSlash : c ≠ '/' := fun same => whole (same ▸ List.mem_cons_self)
      simp [split, notSlash, ih others]

theorem split_eq_singleton {piece : List Char} (whole : '/' ∉ piece) : split piece = [piece] := by
  induction piece with
  | nil => rfl
  | cons c piece ih =>
      have others : '/' ∉ piece := fun member => whole (List.mem_cons_of_mem c member)
      have notSlash : c ≠ '/' := fun same => whole (same ▸ List.mem_cons_self)
      simp [split, notSlash, ih others]

theorem whole_of_mem_split {path piece : List Char} (member : piece ∈ split path) :
    '/' ∉ piece := by
  induction path generalizing piece with
  | nil => simp_all [split]
  | cons c rest ih =>
      unfold split at member
      split at member
      · rcases List.mem_cons.mp member with rfl | later
        · simp
        · exact ih later
      · next notSlash =>
          cases pieces : split rest with
          | nil => exact absurd pieces (split_ne_nil rest)
          | cons first others =>
              rw [pieces] at member
              rcases List.mem_cons.mp member with rfl | later
              · have wholeFirst := ih (pieces ▸ List.mem_cons_self)
                intro slash
                rcases List.mem_cons.mp slash with same | inside
                · exact notSlash same.symm
                · exact wholeFirst inside
              · exact ih (pieces ▸ List.mem_cons_of_mem first later)

theorem whole_of_mem_pieces {path piece : String} (member : piece ∈ pieces path) :
    '/' ∉ piece.toList := by
  rcases List.mem_map.mp member with ⟨characters, inSplit, rfl⟩
  rw [String.toList_ofList]
  exact whole_of_mem_split inSplit

/-- Joining pieces with slashes makes a path with these pieces. -/
theorem pieces_intercalate {parts : List String} (nonempty : parts ≠ [])
    (whole : ∀ part ∈ parts, '/' ∉ part.toList) : pieces ("/".intercalate parts) = parts := by
  induction parts with
  | nil => exact absurd rfl nonempty
  | cons part parts ih =>
      rcases List.forall_mem_cons.mp whole with ⟨wholePart, others⟩
      cases parts with
      | nil => simp [pieces, split_eq_singleton wholePart]
      | cons next parts =>
          have rest := ih (by simp) others
          have text : ("/".intercalate (part :: next :: parts)).toList =
              part.toList ++ '/' :: ("/".intercalate (next :: parts)).toList := by
            rw [String.intercalate_cons_cons, String.toList_append, String.toList_append,
              List.append_assoc]
            rfl
          rw [pieces, text, split_append_slash wholePart, List.map_cons, String.ofList_toList]
          exact congrArg (part :: ·) rest

/-! ### Absolute paths -/

/-- An absolute path starts with an empty piece in front of its first slash. -/
theorem isAbsolute_iff (path : String) :
    isAbsolute path ↔ ∃ rest, rest ≠ [] ∧ pieces path = "" :: rest := by
  unfold isAbsolute pieces
  generalize path.toList = characters
  cases characters with
  | nil => simp [split]
  | cons c characters =>
      by_cases slash : c = '/'
      · simp [slash, split, split_ne_nil]
      · have first : ∃ piece others, split (c :: characters) = (c :: piece) :: others := by
          simp only [split, if_neg slash]
          split <;> exact ⟨_, _, rfl⟩
        rcases first with ⟨piece, others, pieces⟩
        simp [slash, pieces]

/-! ### The parent -/

/-- The pieces in front of a name are those of the parent and idle ones. -/
theorem exists_parent {path name : String} {before : List String}
    (ends : pieces path = before ++ [name]) (proper : isIdle name = false) :
    ∃ directories idle, before = directories ++ idle ∧ (∀ piece ∈ idle, isIdle piece) ∧
      (∀ last ∈ directories.getLast?, isIdle last = false) ∧
      parent path = "/".intercalate directories := by
  refine ⟨(before.reverse.dropWhile isIdle).reverse, (before.reverse.takeWhile isIdle).reverse,
    ?_, ?_, ?_, ?_⟩
  · rw [← List.reverse_append, List.takeWhile_append_dropWhile, List.reverse_reverse]
  · intro piece member
    exact List.all_eq_true.mp List.all_takeWhile piece (List.mem_reverse.mp member)
  · intro last isLast
    have stopped := List.head?_dropWhile_not isIdle before.reverse
    rw [List.getLast?_reverse, Option.mem_def] at isLast
    rw [isLast] at stopped
    exact stopped
  · simp [parent, ends, proper]

theorem pieces_parent {path name : String} {directories idle : List String}
    (ends : pieces path = directories ++ idle ++ [name]) (nonempty : directories ≠ [])
    (parent : parent path = "/".intercalate directories) :
    pieces (Path.parent path) = directories := by
  rw [parent]
  apply pieces_intercalate nonempty
  intro part member
  apply whole_of_mem_pieces
  rw [ends]
  simp [member]

theorem isAbsolute_parent {path name : String} {directories idle : List String}
    (ends : pieces path = directories ++ idle ++ [name]) (nonempty : directories ≠ [])
    (visible : ∀ last ∈ directories.getLast?, isIdle last = false)
    (parent : parent path = "/".intercalate directories) :
    isAbsolute (Path.parent path) = isAbsolute path := by
  rw [Bool.eq_iff_iff, isAbsolute_iff, isAbsolute_iff, pieces_parent ends nonempty parent, ends]
  cases directories with
  | nil => exact absurd rfl nonempty
  | cons first rest =>
      constructor
      · rintro ⟨others, -, same⟩
        rcases List.cons.inj same with ⟨rfl, rfl⟩
        exact ⟨rest ++ idle ++ [name], by simp, by simp⟩
      · rintro ⟨others, -, same⟩
        have empty : first = "" := (List.cons.inj same).1
        refine ⟨rest, ?_, by rw [empty]⟩
        rintro rfl
        have notIdle := visible first (by simp)
        rw [empty] at notIdle
        nomatch notIdle

theorem parent_ne_empty {path name : String} {directories idle : List String}
    (ends : pieces path = directories ++ idle ++ [name]) (nonempty : directories ≠ [])
    (visible : ∀ last ∈ directories.getLast?, isIdle last = false)
    (parent : parent path = "/".intercalate directories) : Path.parent path ≠ "" := by
  intro empty
  have parts := pieces_parent ends nonempty parent
  rw [empty] at parts
  have notIdle := visible "" (by rw [← parts]; rfl)
  nomatch notIdle

end Highlighter.Path
