import Highlighter.Proofs.FileTree.Directories

/-!
# Trees that gain directories

Making directories leaves what there is in a tree, and can put directories only at places where
there is nothing. A put of one directory is shown to do no more than this, and the run that makes
the directories of a path follows by induction, since gaining directories twice is gaining
directories. The places that gain one lie on the way of the path.
-/

namespace Highlighter

/-- What there can be at a place, without what is below it. -/
inductive FileSurface where
  /-- A file with its contents. -/
  | file (contents : ByteArray)
  /-- A directory. -/
  | directory

namespace FileNode

/-- What a node is, without what is below it. -/
def surface : FileNode → FileSurface
  | file contents => .file contents
  | directory _ => .directory

/-- In an empty directory, a new directory comes with those on the way to it and with nothing
else. -/
theorem map_surface_at?_put_empty (place other : Place) :
    (((directory []).put place (directory [])).at? other).map surface =
      if other <+: place then some .directory else none := by
  induction place generalizing other with
  | nil =>
      cases other with
      | nil => rfl
      | cons name other => rfl
  | cons name place ih =>
      cases other with
      | nil => rfl
      | cons step other =>
          rw [at?_put_cons]
          by_cases same : step = name
          · subst same
            simpa using ih other
          · simp [same, at?_directory_cons]

/-- Where there is nothing, putting a directory there makes it and those on the way to it, and
changes nothing else. -/
theorem map_surface_at?_put_directory {node : FileNode} {place : Place}
    (free : node.at? place = none) (other : Place) :
    ((node.put place (directory [])).at? other).map surface = (node.at? other).map surface ∨
      (node.at? other).map surface = none ∧
        ((node.put place (directory [])).at? other).map surface = some .directory ∧
        other <+: place := by
  induction place generalizing node other with
  | nil => nomatch free
  | cons name place ih =>
      cases node with
      | file contents => exact Or.inl rfl
      | directory entries =>
          cases other with
          | nil => exact Or.inl rfl
          | cons step other =>
              rw [at?_put_cons]
              split
              · next same =>
                  subst same
                  rw [at?_directory_cons] at free ⊢
                  cases found : entries.lookup step with
                  | none =>
                      have made := map_surface_at?_put_empty place other
                      by_cases onWay : other <+: place
                      · rw [if_pos onWay] at made
                        exact Or.inr ⟨rfl, made, by simpa using onWay⟩
                      · rw [if_neg onWay] at made
                        exact Or.inl made
                  | some child =>
                      rw [found] at free
                      simpa using ih free other
              · exact Or.inl rfl

end FileNode

namespace FileTree

/-- What there is at a place, without what is below it. -/
def surface? (tree : FileTree) (place : Place) : Option FileSurface :=
  (tree.node? place).map FileNode.surface

/-- Some first pieces of a path lead to a place or to one below it. -/
def LeadsThrough (tree : FileTree) (path : String) (place : Place) : Prop :=
  ∃ pieces, pieces <+: Path.pieces path ∧ place <+: pieces.foldl step (tree.start path)

/-- Every place holds in the one tree what it holds in the other, except that there are directories
at some of the given places, where there was nothing. -/
structure GainsDirectories (before after : FileTree) (isOnWay : Place → Prop) : Prop where
  /-- Relative paths start at the same place. -/
  current : after.current = before.current
  /-- Files can hold as much as before. -/
  room : after.room = before.room
  /-- What there was is there, and what is new is a directory. -/
  surface? : ∀ place, after.surface? place = before.surface? place ∨
    before.surface? place = none ∧ after.surface? place = some .directory ∧ isOnWay place

namespace GainsDirectories

variable {first second third : FileTree} {isOnWay isOnLongerWay : Place → Prop}

theorem refl (tree : FileTree) : GainsDirectories tree tree isOnWay :=
  ⟨rfl, rfl, fun _ => Or.inl rfl⟩

theorem mono (gains : GainsDirectories first second isOnWay)
    (longer : ∀ place, isOnWay place → isOnLongerWay place) :
    GainsDirectories first second isOnLongerWay := by
  refine ⟨gains.current, gains.room, ?_⟩
  intro place
  rcases gains.surface? place with kept | ⟨free, made, onWay⟩
  · exact Or.inl kept
  · exact Or.inr ⟨free, made, longer place onWay⟩

theorem trans (before : GainsDirectories first second isOnWay)
    (after : GainsDirectories second third isOnWay) : GainsDirectories first third isOnWay := by
  refine ⟨after.current.trans before.current, after.room.trans before.room, ?_⟩
  intro place
  rcases after.surface? place with kept | ⟨free, made, onWay⟩
  · rw [kept]
    exact before.surface? place
  · rcases before.surface? place with keptBefore | ⟨-, madeBefore, -⟩
    · exact Or.inr ⟨keptBefore.symm.trans free, made, onWay⟩
    · rw [free] at madeBefore
      nomatch madeBefore

end GainsDirectories

theorem gainsDirectories_put {tree : FileTree} {place : Place} (free : tree.node? place = none) :
    GainsDirectories tree (tree.put place (.directory [])) (· <+: place) :=
  ⟨rfl, rfl, FileNode.map_surface_at?_put_directory free⟩

theorem gainsDirectories_makeDirectories (tree : FileTree) (place : Place) (pieces : List String) :
    GainsDirectories tree (tree.makeDirectories place pieces).2
      fun other => ∃ first, first <+: pieces ∧ other <+: first.foldl step place := by
  induction pieces generalizing tree place with
  | nil => exact .refl tree
  | cons piece pieces ih =>
      -- What lies on the way of the other pieces lies on the way of all of them.
      have onward : ∀ next : FileTree,
          GainsDirectories next (next.makeDirectories (step place piece) pieces).2 fun other =>
            ∃ first, first <+: piece :: pieces ∧ other <+: first.foldl step place := by
        intro next
        refine (ih next (step place piece)).mono ?_
        rintro other ⟨first, isFirst, onWay⟩
        exact ⟨piece :: first, by simpa using isFirst, onWay⟩
      simp only [makeDirectories]
      split
      · split
        · exact onward tree
        · exact .refl tree
        · next free =>
            refine GainsDirectories.trans ((gainsDirectories_put free).mono ?_) (onward _)
            intro other onWay
            exact ⟨[piece], by simp, onWay⟩
      · exact .refl tree

theorem gainsDirectories_makeParents (tree : FileTree) (path : String) :
    GainsDirectories tree (tree.makeParents path).2 (tree.LeadsThrough (Path.parent path)) := by
  unfold makeParents makeDirectory
  split
  · exact .refl tree
  · split
    · exact gainsDirectories_makeDirectories tree _ _
    · exact .refl tree

theorem makeParents_of_parent_eq_empty {tree : FileTree} {path : String}
    (noParent : Path.parent path = "") : tree.makeParents path = (true, tree) := by
  rw [makeParents, noParent]
  rfl

end FileTree

end Highlighter
