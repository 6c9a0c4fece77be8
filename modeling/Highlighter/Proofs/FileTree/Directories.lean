import Highlighter.FileTree
import Highlighter.Proofs.FileTree.Pieces

/-!
# Making directories and writing files

Putting something where there is nothing leaves every directory a directory, so a path that can be
followed stays one. Making the parents of a path that ends in a name thus leads to a directory, in
which a file with that name can be written and is found again.
-/

namespace Highlighter

namespace FileNode

theorem at?_directory_cons (entries : List (String × FileNode)) (name : String) (place : Place) :
    (directory entries).at? (name :: place) =
      (entries.lookup name).bind fun child => child.at? place := rfl

/-- Putting something into a directory changes the child on the way and no other. -/
theorem at?_put_cons (entries : List (String × FileNode)) (name other : String)
    (place rest : Place) (new : FileNode) :
    ((directory entries).put (name :: place) new).at? (other :: rest) =
      if other = name then (((entries.lookup name).getD (directory [])).put place new).at? rest
      else (directory entries).at? (other :: rest) := by
  simp only [put, at?_directory_cons, OrderedMap.lookup_insertEntry]
  split <;> rfl

theorem at?_append (node : FileNode) (place rest : Place) :
    node.at? (place ++ rest) = (node.at? place).bind fun inner => inner.at? rest := by
  induction place generalizing node with
  | nil => rfl
  | cons name place ih =>
      rw [List.cons_append, at?, at?]
      cases node.child? name with
      | none => rfl
      | some child => exact ih child

/-- Whatever a directory is in is a directory. -/
theorem isDirectory_at?_dropLast {node : FileNode} {place : Place}
    (isThere : (node.at? place).any isDirectory) :
    (node.at? place.dropLast).any isDirectory := by
  rcases List.eq_nil_or_concat place with rfl | ⟨before, name, rfl⟩
  · exact isThere
  · rw [List.concat_eq_append] at isThere ⊢
    rw [List.dropLast_concat]
    rw [at?_append] at isThere
    cases found : node.at? before with
    | none => simp [found] at isThere
    | some inner =>
        cases inner with
        | file contents => simp [found, at?, child?] at isThere
        | directory entries => rfl

/-- Below a directory what is put is there afterwards. -/
theorem at?_put_of_directory {node : FileNode} {place : Place}
    (inDirectory : (node.at? place).any isDirectory) (name : String) (new : FileNode) :
    (node.put (place ++ [name]) new).at? (place ++ [name]) = some new := by
  induction place generalizing node with
  | nil =>
      cases node with
      | file contents => nomatch inDirectory
      | directory entries =>
          rw [List.nil_append, at?_put_cons, if_pos rfl]
          rfl
  | cons step place ih =>
      cases node with
      | file contents => nomatch inDirectory
      | directory entries =>
          rw [at?_directory_cons] at inDirectory
          cases found : entries.lookup step with
          | none => simp [found] at inDirectory
          | some child =>
              rw [found] at inDirectory
              rw [List.cons_append, at?_put_cons, if_pos rfl, found]
              exact ih inDirectory

/-- Putting something where there is nothing keeps the directories. -/
theorem isDirectory_at?_put {node : FileNode} {place : Place} (free : node.at? place = none)
    (new : FileNode) {other : Place} (isThere : (node.at? other).any isDirectory) :
    ((node.put place new).at? other).any isDirectory := by
  induction place generalizing node other with
  | nil => nomatch free
  | cons name place ih =>
      cases node with
      | file contents => exact isThere
      | directory entries =>
          cases other with
          | nil => rfl
          | cons step other =>
              rw [at?_put_cons]
              split
              · next same =>
                  subst same
                  rw [at?_directory_cons] at free isThere
                  cases found : entries.lookup step with
                  | none => simp [found] at isThere
                  | some child =>
                      rw [found] at free isThere
                      exact ih free isThere
              · exact isThere

end FileNode

namespace FileTree

/-! ### Keeping directories -/

/-- Every directory of the one tree is one of the other. -/
def Keeps (before after : FileTree) : Prop :=
  after.current = before.current ∧
    ∀ place, before.isDirectory place → after.isDirectory place

theorem Keeps.refl (tree : FileTree) : Keeps tree tree :=
  ⟨rfl, fun _ isThere => isThere⟩

theorem Keeps.trans {first second third : FileTree} (before : Keeps first second)
    (after : Keeps second third) : Keeps first third :=
  ⟨after.1.trans before.1, fun place isThere => after.2 place (before.2 place isThere)⟩

theorem keeps_put {tree : FileTree} {place : Place} (free : tree.node? place = none)
    (new : FileNode) : Keeps tree (tree.put place new) :=
  ⟨rfl, fun _ isThere => FileNode.isDirectory_at?_put free new isThere⟩

theorem Keeps.follow?_eq {before after : FileTree} (keeps : Keeps before after)
    {place target : Place} {pieces : List String}
    (followed : before.follow? place pieces = some target) :
    after.follow? place pieces = some target := by
  induction pieces generalizing place with
  | nil => exact followed
  | cons piece pieces ih =>
      simp only [follow?, Option.ite_none_right_eq_some, Bool.and_eq_true] at followed ⊢
      rcases followed with ⟨⟨isThere, isName⟩, later⟩
      exact ⟨⟨keeps.2 place isThere, isName⟩, ih later⟩

theorem follow?_append (tree : FileTree) (place : Place) (first second : List String) :
    tree.follow? place (first ++ second) =
      (tree.follow? place first).bind fun place => tree.follow? place second := by
  induction first generalizing place with
  | nil => rfl
  | cons piece first ih =>
      simp only [List.cons_append, follow?]
      split
      · exact ih _
      · rfl

/-- Idle pieces lead from a directory to itself. -/
theorem follow?_idle {tree : FileTree} {place : Place} (isThere : tree.isDirectory place)
    {pieces : List String} (idle : ∀ piece ∈ pieces, Path.isIdle piece) :
    tree.follow? place pieces = some place := by
  induction pieces with
  | nil => rfl
  | cons piece pieces ih =>
      rcases List.forall_mem_cons.mp idle with ⟨idlePiece, others⟩
      have stays : isName piece ∧ step place piece = place := by
        rcases (by simpa [Path.isIdle] using idlePiece : piece = "" ∨ piece = ".") with rfl | rfl
        · exact ⟨by decide, rfl⟩
        · exact ⟨by decide, rfl⟩
      simp [follow?, isThere, stays, ih others]

/-! ### Making directories -/

theorem isDirectory_put_step {tree : FileTree} {place : Place} {piece : String}
    (isThere : tree.isDirectory place) (free : tree.node? (step place piece) = none) :
    (tree.put (step place piece) (.directory [])).isDirectory (step place piece) := by
  unfold step at free ⊢
  split at free
  · simp [isDirectory, free] at isThere
  · next notIdle =>
      split at free
      · have above : (tree.node? place.dropLast).any FileNode.isDirectory :=
          FileNode.isDirectory_at?_dropLast isThere
        simp [free] at above
      · next notUp =>
          have put := FileNode.at?_put_of_directory isThere piece (.directory [])
          rw [if_neg notIdle, if_neg notUp]
          exact (congrArg (Option.any FileNode.isDirectory) put).trans rfl

/-- Directories that could be made are there, and the path leads through them. -/
theorem follow?_makeDirectories {tree after : FileTree} {place : Place} {pieces : List String}
    (isThere : tree.isDirectory place)
    (made : tree.makeDirectories place pieces = (true, after)) :
    Keeps tree after ∧ ∃ directory, after.follow? place pieces = some directory ∧
      after.isDirectory directory := by
  induction pieces generalizing tree place with
  | nil =>
      rcases Prod.mk.inj made with ⟨-, rfl⟩
      exact ⟨Keeps.refl tree, place, rfl, isThere⟩
  | cons piece pieces ih =>
      -- The next piece leads to a directory, in the tree at hand or in one with a directory more.
      have onward : isName piece ∧ ∃ next, Keeps tree next ∧ next.isDirectory (step place piece) ∧
          next.makeDirectories (step place piece) pieces = (true, after) := by
        simp only [makeDirectories] at made
        split at made
        · next isName =>
            refine ⟨isName, ?_⟩
            split at made
            · next entries found =>
                exact ⟨tree, Keeps.refl tree, by simp [isDirectory, found, FileNode.isDirectory],
                  made⟩
            · nomatch made
            · next free =>
                exact ⟨_, keeps_put free _, isDirectory_put_step isThere free, made⟩
        · nomatch made
      rcases onward with ⟨isName, next, keepsNext, isThereNext, madeNext⟩
      rcases ih isThereNext madeNext with ⟨keeps, directory, followed, isDirectory⟩
      have keepsAll := keepsNext.trans keeps
      refine ⟨keepsAll, directory, ?_, isDirectory⟩
      simp [follow?, keepsAll.2 place isThere, isName, followed]

/-- A path to a directory passes through directories only, so nothing has to be made. -/
theorem makeDirectories_of_follow? {tree : FileTree} {place directory : Place}
    {pieces : List String} (followed : tree.follow? place pieces = some directory)
    (isThere : tree.isDirectory directory) :
    tree.isDirectory place ∧ tree.makeDirectories place pieces = (true, tree) := by
  induction pieces generalizing place with
  | nil =>
      rcases Option.some.inj followed with rfl
      exact ⟨isThere, rfl⟩
  | cons piece pieces ih =>
      simp only [follow?, Option.ite_none_right_eq_some, Bool.and_eq_true] at followed
      rcases followed with ⟨⟨startThere, isName⟩, later⟩
      rcases ih later with ⟨nextThere, made⟩
      refine ⟨startThere, ?_⟩
      rw [makeDirectories, if_pos isName]
      cases found : tree.node? (step place piece) with
      | none => simp [isDirectory, found] at nextThere
      | some node =>
          cases node with
          | file contents => simp [isDirectory, found, FileNode.isDirectory] at nextThere
          | directory entries => simp only [found, made]

theorem makeParents_of_find? {tree : FileTree} {path : String} {entries : List (String × FileNode)}
    (found : tree.find? (Path.parent path) = some (.directory entries)) :
    tree.makeParents path = (true, tree) := by
  rcases Option.bind_eq_some_iff.mp found with ⟨directory, place, isThere⟩
  unfold resolve? at place
  split at place
  · next isPath =>
      have made := makeDirectories_of_follow? place (by
        simp [isDirectory, isThere, FileNode.isDirectory])
      rw [makeParents, makeDirectory, if_pos isPath, made.2, ite_self]
  · nomatch place

/-! ### Writing a new file -/

/-- The path names a file that is not there, in a directory that is there or can be made. -/
structure IsNewFile (tree : FileTree) (path : String) : Prop where
  /-- The working directory is one. -/
  current : tree.isDirectory tree.current
  /-- Paths have bounded length and no null character. -/
  isPath : isPath path
  /-- The path ends in a proper name. -/
  endsInName : ∃ name, (Path.pieces path).getLast? = some name ∧ isName name ∧
    Path.isIdle name = false ∧ name ≠ ".."
  /-- The directories on the way are there or can be made. -/
  makeable : (tree.makeParents path).1
  /-- Once they are there, nothing else is at the path. -/
  free : (tree.makeParents path).2.contains path = false

theorem isDirectory_start {tree : FileTree} (current : tree.isDirectory tree.current)
    (path : String) : tree.isDirectory (tree.start path) := by
  unfold start
  split
  · rcases tree with ⟨root, place⟩
    cases root with
    | directory entries => rfl
    | file contents => cases place <;> nomatch current
  · exact current

/-- Making the parents of a path makes the directory that its pieces lead to. -/
theorem follow?_makeParents {tree : FileTree} {path name : String} {before : List String}
    (current : tree.isDirectory tree.current) (ends : Path.pieces path = before ++ [name])
    (proper : Path.isIdle name = false) (makeable : (tree.makeParents path).1) :
    ∃ directory, (tree.makeParents path).2.follow? ((tree.makeParents path).2.start path) before =
      some directory ∧ (tree.makeParents path).2.isDirectory directory := by
  have starts := isDirectory_start current path
  rcases Path.exists_parent ends proper with ⟨directories, idle, rfl, allIdle, visible, parent⟩
  by_cases nonempty : directories = []
  · subst nonempty
    have unchanged : tree.makeParents path = (true, tree) := by
      rw [makeParents, parent]
      rfl
    rw [unchanged]
    exact ⟨tree.start path, follow?_idle starts allIdle, starts⟩
  · have notEmpty := Path.parent_ne_empty ends nonempty visible parent
    have parts := Path.pieces_parent ends nonempty parent
    have sameStart : tree.start (Path.parent path) = tree.start path := by
      rw [start, start, Path.isAbsolute_parent ends nonempty visible parent]
    have made : tree.makeDirectories (tree.start path) directories = tree.makeParents path := by
      rw [makeParents, makeDirectory, if_neg notEmpty] at makeable ⊢
      split at makeable
      · next isPath => rw [if_pos isPath, sameStart, parts]
      · nomatch makeable
    have succeeded : tree.makeParents path = (true, (tree.makeParents path).2) := by
      rw [← makeable]
    rcases follow?_makeDirectories starts (made.trans succeeded) with
      ⟨keeps, directory, followed, isThere⟩
    refine ⟨directory, ?_, isThere⟩
    have startThere : (tree.makeParents path).2.start path = tree.start path := by
      rw [start, start, keeps.1]
    rw [startThere, follow?_append, followed]
    exact follow?_idle isThere allIdle

theorem taken_of_hasRoom {tree : FileTree} {contents : ByteArray}
    (hasRoom : tree.hasRoom contents) : tree.taken contents = contents := by
  unfold FileTree.hasRoom at hasRoom
  unfold taken
  cases limit : tree.room with
  | none => rfl
  | some room =>
      have fits : contents.size ≤ room := by simpa [limit] using hasRoom
      apply ByteArray.ext
      simp [ByteArray.data_extract, Array.extract_eq_self_of_le fits]

/-- A new file can be written once its directories are made, and is there afterwards. -/
theorem IsNewFile.write?_eq_some {tree : FileTree} {path : String} (new : tree.IsNewFile path)
    {contents : ByteArray} (hasRoom : (tree.makeParents path).2.hasRoom contents) :
    ∃ after, (tree.makeParents path).2.write? path contents = some after ∧
      after.find? path = some (.file contents) := by
  rcases new.endsInName with ⟨name, isLast, isName, proper, notUp⟩
  rcases List.getLast?_eq_some_iff.mp isLast with ⟨before, ends⟩
  rcases follow?_makeParents new.current ends proper new.makeable with
    ⟨directory, followed, isThere⟩
  have free := new.free
  generalize (tree.makeParents path).2 = made at followed isThere free hasRoom ⊢
  have notIdle : ¬(name = "" ∨ name = ".") := by simpa [Path.isIdle] using proper
  have leads : made.follow? (made.start path) (Path.pieces path) = some (directory ++ [name]) := by
    rw [ends, follow?_append, followed]
    simp [follow?, isThere, isName, step, notIdle, notUp]
  have place : made.resolve? path = some (directory ++ [name]) := by
    rw [resolve?, if_pos new.isPath, leads]
  have nothing : made.node? (directory ++ [name]) = none := by
    simpa [contains, find?, place] using free
  refine ⟨made.put (directory ++ [name]) (.file contents), ?_, ?_⟩
  · simp [write?, place, isDirectory, nothing, taken_of_hasRoom hasRoom]
  · have placeAfter : (made.put (directory ++ [name]) (.file contents)).resolve? path =
        some (directory ++ [name]) := by
      rw [resolve?, if_pos new.isPath]
      exact (keeps_put nothing _).follow?_eq leads
    rw [find?, placeAfter]
    exact FileNode.at?_put_of_directory isThere name (.file contents)

end FileTree

end Highlighter
