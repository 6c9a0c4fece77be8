import Highlighter.Proofs.FileTree.NewDirectories

/-!
# Writes that are cut short

A path that leads to no directory leads to a place right in one, since every piece but the last is
followed from a directory. Writing a file there changes what there is at this place and at no other,
whatever the file takes of its contents. Where there is no room for the contents as a whole, it
takes a proper beginning of them.
-/

namespace Highlighter

namespace FileNode

/-- A file that is put into a directory, in place of a file or where there is nothing, changes no
other place. -/
theorem map_surface_at?_put_file {node : FileNode} {place : Place} {name : String}
    (inDirectory : (node.at? place).any isDirectory)
    (notDirectory : (node.at? (place ++ [name])).any isDirectory = false) (contents : ByteArray)
    {other : Place} (different : other ≠ place ++ [name]) :
    ((node.put (place ++ [name]) (.file contents)).at? other).map surface =
      (node.at? other).map surface := by
  induction place generalizing node other with
  | nil =>
      cases node with
      | file contents => nomatch inDirectory
      | directory entries =>
          cases other with
          | nil => rfl
          | cons step other =>
              rw [List.nil_append, at?_put_cons]
              split
              · next same =>
                  subst same
                  -- Below a file there is nothing, neither before nor afterwards.
                  cases other with
                  | nil => exact absurd rfl different
                  | cons below other =>
                      rw [List.nil_append, at?_directory_cons] at notDirectory
                      rw [at?_directory_cons]
                      cases found : entries.lookup step with
                      | none => rfl
                      | some child =>
                          cases child with
                          | file replaced => rfl
                          | directory inner => simp [found, at?, isDirectory] at notDirectory
              · rfl
  | cons first place ih =>
      cases node with
      | file contents => rfl
      | directory entries =>
          cases other with
          | nil => rfl
          | cons step other =>
              rw [List.cons_append, at?_put_cons]
              split
              · next same =>
                  subst same
                  rw [List.cons_append, at?_directory_cons] at notDirectory
                  rw [at?_directory_cons] at inDirectory ⊢
                  cases found : entries.lookup step with
                  | none => simp [found] at inDirectory
                  | some child =>
                      rw [found] at inDirectory notDirectory
                      refine ih inDirectory notDirectory ?_
                      rintro rfl
                      exact different rfl
              · rfl

end FileNode

namespace FileTree

/-- From a directory a piece leads to a directory or to a place right in one. -/
theorem step_lies_in_directory {tree : FileTree} {place : Place} (isThere : tree.isDirectory place)
    (piece : String) :
    tree.isDirectory (step place piece) ∨
      ∃ directory name, step place piece = directory ++ [name] ∧ tree.isDirectory directory := by
  unfold step
  split
  · exact Or.inl isThere
  · split
    · exact Or.inl (FileNode.isDirectory_at?_dropLast isThere)
    · exact Or.inr ⟨place, piece, rfl, isThere⟩

theorem follow?_lies_in_directory {tree : FileTree} {place target : Place} {piece : String}
    {pieces : List String} (followed : tree.follow? place (piece :: pieces) = some target) :
    tree.isDirectory target ∨
      ∃ directory name, target = directory ++ [name] ∧ tree.isDirectory directory := by
  induction pieces generalizing place piece with
  | nil =>
      simp only [follow?, Option.ite_none_right_eq_some, Bool.and_eq_true] at followed
      rcases followed with ⟨⟨isThere, -⟩, later⟩
      rcases Option.some.inj later with rfl
      exact step_lies_in_directory isThere piece
  | cons next pieces ih =>
      rw [follow?, Option.ite_none_right_eq_some] at followed
      exact ih followed.2

theorem resolve?_lies_in_directory {tree : FileTree} {path : String} {place : Place}
    (leads : tree.resolve? path = some place) (notDirectory : tree.isDirectory place = false) :
    ∃ directory name, place = directory ++ [name] ∧ tree.isDirectory directory := by
  unfold resolve? at leads
  split at leads
  · cases parts : Path.pieces path with
    | nil => exact absurd (List.map_eq_nil_iff.mp parts) (Path.split_ne_nil path.toList)
    | cons piece pieces =>
        rw [parts] at leads
        rcases follow?_lies_in_directory leads with isThere | inDirectory
        · simp [notDirectory] at isThere
        · exact inDirectory
  · nomatch leads

/-- One tree differs from the other in nothing but the file that a path leads to, which is new or
has lost what it held, and holds a proper beginning of the contents. -/
structure CutShort (before after : FileTree) (path : String) (contents : ByteArray) : Prop where
  /-- Relative paths start at the same place. -/
  current : after.current = before.current
  /-- The path leads to a place where there was a file or nothing. -/
  surface? : ∃ place size, before.resolve? path = some place ∧ before.isDirectory place = false ∧
    before.room = some size ∧ size < contents.size ∧
    after.surface? place = some (.file (contents.extract 0 size)) ∧
    ∀ other, other ≠ place → after.surface? other = before.surface? other

/-- Without room for the contents as a whole, a write is cut short. -/
theorem cutShort_of_write? {before after : FileTree} {path : String} {contents : ByteArray}
    (wrote : before.write? path contents = some after)
    (noRoom : before.hasRoom contents = false) : before.CutShort after path contents := by
  rcases Option.bind_eq_some_iff.mp wrote with ⟨place, leads, put⟩
  split at put
  · nomatch put
  · next notDirectory =>
      rcases Option.some.inj put with rfl
      rw [Bool.not_eq_true] at notDirectory
      rcases resolve?_lies_in_directory leads notDirectory with ⟨directory, name, rfl, inDirectory⟩
      have limited : ∃ size, before.room = some size ∧ size < contents.size := by
        simpa [FileTree.hasRoom, Option.all_eq_false] using noRoom
      rcases limited with ⟨size, room, isShort⟩
      have takes : before.taken contents = contents.extract 0 size := by
        rw [taken, room]
        rfl
      rw [takes]
      refine ⟨rfl, _, size, leads, notDirectory, room, isShort, ?_, ?_⟩
      · have isThere := FileNode.at?_put_of_directory inDirectory name
          (.file (contents.extract 0 size))
        exact congrArg (Option.map FileNode.surface) isThere
      · intro other different
        exact FileNode.map_surface_at?_put_file inDirectory notDirectory _ different

end FileTree

end Highlighter
