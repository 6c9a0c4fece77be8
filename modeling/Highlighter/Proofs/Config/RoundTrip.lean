import Highlighter.Config.File
import Highlighter.Proofs.Config.Document
import Highlighter.Proofs.FileTree.NewDirectories
import Highlighter.Proofs.Language.WellFormed

/-!
# Saving and loading a configuration

A valid configuration that has a written form survives being saved to a new file and loaded from it
unchanged, if the file can hold it. Only its number of jobs can keep it from having a written form.
-/

namespace Highlighter

namespace Config

theorem toText?_eq_none_iff (config : Config) :
    config.toText? = none ↔ 0x7FFFFFFFFFFFFFFF < config.jobs := by
  unfold toText?
  split
  · next small =>
      simp only [Toml.fits, Bool.and_eq_true, decide_eq_true_eq] at small
      simp only [reduceCtorEq, false_iff]
      omega
  · next large =>
      simp only [Toml.fits, Bool.and_eq_true, decide_eq_true_eq] at large
      simp only [true_iff]
      omega

theorem save_eq_ok {config : Config} {document path : String} {files after : FileTree}
    (written : config.toText? = some document) (makeable : (files.makeParents path).1)
    (hasRoom : (files.makeParents path).2.hasRoom document.toUTF8)
    (wrote : (files.makeParents path).2.write? path document.toUTF8 = some after) :
    config.save files path = (.ok (), after) := by
  unfold save
  -- The text is made opaque here so that nothing below computes it.
  generalize config.toText? = text at written
  generalize files.makeParents path = parents at makeable hasRoom wrote
  rcases written with rfl
  rcases parents with ⟨succeeded, parents⟩
  rcases makeable with rfl
  simp only [wrote, hasRoom, if_true]

theorem readText_eq_ok {files : FileTree} {path document : String}
    (found : files.find? path = some (.file document.toUTF8)) :
    files.readText path = .ok document := by
  have decoded : String.fromUTF8? document.toUTF8 = some document := by
    unfold String.fromUTF8?
    rw [String.toUTF8_eq_toByteArray, dif_pos document.isValidUTF8]
    rfl
  simp only [FileTree.readText, found, decoded]

theorem load_eq_ok {config : Config} {document path : String} {files : FileTree} {processors : Nat}
    (valid : config.validate = .ok ()) (read : ofText? processors document = some config)
    (found : files.find? path = some (.file document.toUTF8)) :
    load files path processors = .ok config := by
  have isThere : files.contains path := by simp [FileTree.contains, found]
  have checked : config.validate.mapError Error.configuration = .ok () := by
    rw [valid]
    rfl
  unfold load
  simp only [isThere, Bool.not_true, Bool.false_eq_true, if_false]
  refine Definition.bind_eq_ok_iff.mpr ⟨document, readText_eq_ok found, ?_⟩
  rw [read]
  exact Definition.bind_eq_ok_iff.mpr ⟨(), checked, rfl⟩

/-- A valid configuration has no written form exactly if its number of jobs does not fit into a
signed 64-bit integer. Otherwise it can be saved to any new file that can hold its written form and
whose directories are there or can be made, and loading that file gives an equal configuration,
however many processors there are. -/
theorem load_save {config : Config} (valid : config.validate = .ok ()) :
    (config.toText? = none ↔ 0x7FFFFFFFFFFFFFFF < config.jobs) ∧
      (config.jobs ≤ 0x7FFFFFFFFFFFFFFF → ∃ document, config.toText? = some document ∧
        ∀ files path, FileTree.IsNewFile files path → files.hasRoom document.toUTF8 →
          ∃ after, config.save files path = (.ok (), after) ∧
            ∀ processors, load after path processors = .ok config) := by
  refine ⟨config.toText?_eq_none_iff, ?_⟩
  intro small
  cases written : config.toText? with
  | none =>
      have large := config.toText?_eq_none_iff.mp written
      omega
  | some document =>
      refine ⟨document, rfl, ?_⟩
      intro files path new hasRoom
      have hasRoomStill : (files.makeParents path).2.hasRoom document.toUTF8 := by
        rwa [FileTree.hasRoom, (files.gainsDirectories_makeParents path).room]
      rcases new.write?_eq_some hasRoomStill with ⟨after, wrote, found⟩
      refine ⟨after, save_eq_ok written new.makeable hasRoomStill wrote, ?_⟩
      intro processors
      exact load_eq_ok valid (ofText?_toText? written processors) found

/-- A configuration with a string for each form that strings are written in. -/
def mixedSettings : Config where
  jobs := 4
  defaultLanguage := some "a'''b\""
  theme := .ofList [("keyword", "red"), ("comment", "blue")]
  languages := [{
    name := "x\n\x07"
    aliases := ["", "\\"]
    extensions := [".x"]
    operatorStart := "'\""
    operatorContinue := "'\\"
    punctuation := "\x07"
    wordExtra := "é"
    directiveMarker := some '#' }]

theorem load_save_mixedSettings :
    ∃ after, mixedSettings.save (.withWorkingDirectory ["home"]) "settings/tinct.toml" =
        (.ok (), after) ∧
      ∀ processors, load after "settings/tinct.toml" processors = .ok mixedSettings := by
  have valid : mixedSettings.validate = .ok () := rfl
  rcases (load_save valid).2 (by decide) with ⟨document, -, saved⟩
  exact saved _ _ ⟨by decide, by decide, ⟨"tinct.toml", by decide⟩, by decide, by decide⟩ rfl

end Config

end Highlighter
