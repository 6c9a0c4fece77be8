import Highlighter.Command.Basic
import Highlighter.Proofs.FileTree.CutShort

/-!
# Saves that fail

Saving makes the directories on the way first, so a save that fails afterwards can leave them
behind. The file itself is opened last, and a write that is cut short after that leaves a beginning
of the document in it. There is no other trace: no other file is made or changed, nothing is
removed, and nothing at all happens where the directory of the path is there already and the file
was not opened.
-/

namespace Highlighter

/-- One tree differs from the other in nothing but directories on the way to a path, and in nothing
at all if the directory of the path is there already. -/
structure FileTree.GainsParents (before after : FileTree) (path : String) : Prop where
  /-- Where there was nothing, the parent of the path may lead through new directories. -/
  gains : GainsDirectories before after (before.LeadsThrough (Path.parent path))
  /-- A parent that is there, as it is for the bare name of a file, needs no new directories. -/
  unchanged : Path.parent path = "" ∨ (before.find? (Path.parent path)).any FileNode.isDirectory →
    after = before

theorem FileTree.gainsParents_makeParents (tree : FileTree) (path : String) :
    tree.GainsParents (tree.makeParents path).2 path where
  gains := tree.gainsDirectories_makeParents path
  unchanged := by
    rintro (noParent | isThere)
    · rw [makeParents_of_parent_eq_empty noParent]
    · cases found : tree.find? (Path.parent path) with
      | none => simp [found] at isThere
      | some node =>
          cases node with
          | file contents => simp [found, FileNode.isDirectory] at isThere
          | directory entries => rw [makeParents_of_find? found]

namespace Config

/-- What a save that fails can leave behind: directories on the way to the path, and a proper
beginning of the document in the file, if that was opened. -/
def LeftByFailure (config : Config) (before after : FileTree) (path : String) : Prop :=
  ∃ made, before.GainsParents made path ∧
    (after = made ∨ ∃ document, config.toText? = some document ∧
      made.CutShort after path document.toUTF8)

/-- A save that fails ends with the tree in which the directories on the way have been made, or with
a write in it that is cut short. -/
theorem files_of_save_eq_error {config : Config} {files : FileTree} {path : String} {error : Error}
    (failed : (config.save files path).1 = .error error) :
    (config.save files path).2 = (files.makeParents path).2 ∨
      ∃ document, config.toText? = some document ∧
        (files.makeParents path).2.CutShort (config.save files path).2 path document.toUTF8 := by
  unfold save at failed ⊢
  -- The text is made opaque here so that nothing below computes it.
  generalize config.toText? = text at failed ⊢
  generalize files.makeParents path = parents at failed ⊢
  rcases parents with ⟨_ | _, parents⟩
  · exact Or.inl rfl
  · rcases text with _ | document
    · exact Or.inl rfl
    · cases wrote : parents.write? path document.toUTF8 with
      | none =>
          simp only [wrote, true_or]
      | some after =>
          simp only [wrote] at failed ⊢
          cases hasRoom : parents.hasRoom document.toUTF8 with
          | true =>
              rw [hasRoom, if_pos rfl] at failed
              nomatch failed
          | false => exact Or.inr ⟨document, rfl, FileTree.cutShort_of_write? wrote hasRoom⟩

theorem run_config_some (session : Session) (inputs : Inputs) (path : String) :
    (Command.config (some path)).run session inputs =
      ⟨"", (session.config.save inputs.files path).1,
        (session.config.save inputs.files path).2⟩ := by
  rw [Command.run]

/-- A save that fails, on its own or as a command, leaves every file and directory as it was, but
for directories on the way to the path, where the directory of the path is missing, and for the file
at the path, which holds a proper beginning of the document if the write was cut short. -/
theorem leftByFailure_of_save_fails (path : String) :
    (∀ (config : Config) (files : FileTree) (error : Error),
        (config.save files path).1 = .error error →
          config.LeftByFailure files (config.save files path).2 path) ∧
      ∀ (session : Session) (inputs : Inputs) (error : Error),
        ((Command.config (some path)).run session inputs).result = .error error →
          session.config.LeftByFailure inputs.files
            ((Command.config (some path)).run session inputs).files path := by
  have leaves : ∀ (config : Config) (files : FileTree) (error : Error),
      (config.save files path).1 = .error error →
        config.LeftByFailure files (config.save files path).2 path := by
    intro config files error failed
    exact ⟨_, files.gainsParents_makeParents path, files_of_save_eq_error failed⟩
  refine ⟨leaves, ?_⟩
  intro session inputs error failed
  rw [run_config_some] at failed ⊢
  exact leaves session.config inputs.files error failed

/-- A configuration whose number of jobs fits into no integer of a document. -/
def tooManyJobs : Config where
  jobs := 0x8000000000000000

/-- A working directory on a system that has room for three more bytes. -/
def almostFull : FileTree :=
  { FileTree.withWorkingDirectory ["home"] with room := some 3 }

theorem leftByFailure_of_save_almostFull :
    ((tooManyJobs.save almostFull "settings/tinct.toml").1 = .error (.configuration .unwritable) ∧
      tooManyJobs.LeftByFailure almostFull
        (tooManyJobs.save almostFull "settings/tinct.toml").2 "settings/tinct.toml") ∧
    ((standard 4).save almostFull "settings/tinct.toml").1 = .error .inputOutput ∧
      (standard 4).LeftByFailure almostFull
        ((standard 4).save almostFull "settings/tinct.toml").2 "settings/tinct.toml" := by
  have unwritable : (tooManyJobs.save almostFull "settings/tinct.toml").1 =
      .error (.configuration .unwritable) := rfl
  have cutShort : ((standard 4).save almostFull "settings/tinct.toml").1 = .error .inputOutput :=
    rfl
  have leaves := (leftByFailure_of_save_fails "settings/tinct.toml").1
  exact ⟨⟨unwritable, leaves _ _ _ unwritable⟩, cutShort, leaves _ _ _ cutShort⟩

/-- A save that fails can leave a directory behind that was not there before, and so can it leave
the beginning of a file. -/
theorem surface?_save_leaves_traces :
    ((tooManyJobs.save (.withWorkingDirectory ["home"]) "settings/tinct.toml").1 =
        .error (.configuration .unwritable) ∧
      (FileTree.withWorkingDirectory ["home"]).surface? ["home", "settings"] = none ∧
      (tooManyJobs.save (.withWorkingDirectory ["home"]) "settings/tinct.toml").2.surface?
        ["home", "settings"] = some .directory) ∧
    ((standard 4).save almostFull "tinct.toml").1 = .error .inputOutput ∧
      almostFull.surface? ["home", "tinct.toml"] = none ∧
      ((standard 4).save almostFull "tinct.toml").2.surface? ["home", "tinct.toml"] =
        some (.file "job".toUTF8) :=
  ⟨⟨by rfl, by rfl, by rfl⟩, by rfl, by rfl, by rfl⟩

end Config

end Highlighter
