import Highlighter.Proofs.FileTree.Pieces

/-!
# The extension of a path

The extension of a path is what follows the last dot of its last component. It never holds a dot
itself, and a path that ends in a name of two parts with a dot between them has the second part for
its extension if that part holds neither dots nor slashes.
-/

namespace Highlighter.Path

theorem fileName?_eq_some {path : String} (whole : '/' ∉ path.toList)
    (proper : isIdle path = false) (notParent : path ≠ "..") : fileName? path = some path := by
  have single : pieces path = [path] := by
    rw [pieces, split_eq_singleton whole, List.map_singleton, String.ofList_toList]
  simp [fileName?, components, single, proper, notParent]

/-- The extension of a name is the part behind its last dot. -/
theorem extension?_eq_some {path : String} {stem extension : List Char}
    (parts : path.toList = stem ++ '.' :: extension) (whole : '/' ∉ path.toList)
    (nonempty : stem ≠ []) (notParent : path ≠ "..") (last : '.' ∉ extension) :
    extension? path = some (String.ofList extension) := by
  have proper : isIdle path = false := by
    have long : 2 ≤ path.toList.length := by
      have positive := List.length_pos_iff.mpr nonempty
      rw [parts, List.length_append, List.length_cons]
      omega
    simp only [isIdle, Bool.or_eq_false_iff, beq_eq_false_iff_ne]
    constructor
    · rintro rfl
      simp at long
    · rintro rfl
      simp at long
  have noDot : ∀ c ∈ extension.reverse, decide (c ≠ '.') = true := by
    intro c member
    have held : c ∈ extension := List.mem_reverse.mp member
    simp only [decide_eq_true_eq]
    rintro rfl
    exact last held
  have backwards : path.toList.reverse = extension.reverse ++ '.' :: stem.reverse := by
    simp [parts]
  rw [extension?, fileName?_eq_some whole proper notParent]
  simp only [bind, Option.bind, backwards, List.dropWhile_append_of_pos noDot,
    List.takeWhile_append_of_pos noDot]
  simp [nonempty]

theorem not_mem_of_extension?_eq_some {path extension : String}
    (found : extension? path = some extension) : '.' ∉ extension.toList := by
  unfold extension? at found
  simp only [bind, Option.bind_eq_some_iff] at found
  rcases found with ⟨name, -, stem, -, found⟩
  split at found
  · cases found
  · rw [← Option.some.inj found, String.toList_ofList, List.mem_reverse]
    intro member
    simpa using List.all_eq_true.mp List.all_takeWhile '.' member

end Highlighter.Path
