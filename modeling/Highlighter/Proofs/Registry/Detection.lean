import Highlighter.Proofs.Path.Extension
import Highlighter.Proofs.Registry.ListModel
import Highlighter.Proofs.Text.Trimming

/-!
# Finding a language by its extensions

Once a language is registered, its extensions lead to it and to no earlier language. An extension is
looked up without one leading dot, so the language is found under each of its extensions with a dot
in front, and under the bare extension if that does not start with a dot itself. The extension of a
path never holds dots or slashes, so an extension that does is found under no path.
-/

namespace Highlighter

theorem Language.listsExtension_of_mem {language : Language} {extension : String}
    (listed : extension ∈ language.extensions) : language.listsExtension extension :=
  List.any_eq_true.mpr ⟨extension, listed, beq_self_eq_true _⟩

theorem Path.dropLeadingDot_of_extension? {path extension : String}
    (found : extension? path = some extension) : Text.dropLeadingDot extension = extension := by
  apply Text.dropLeadingDot_eq_self
  intro head
  exact not_mem_of_extension?_eq_some found (List.mem_of_head? head)

namespace Registry

variable {registry next : Registry} {language : Language}

theorem IsConsistent.mem_of_extensions_eq_some (consistent : registry.IsConsistent) {key : String}
    {owner : Language} (found : registry.extensions[key]? = some owner) :
    owner ∈ registry.languages := by
  rw [← consistent.extensions key] at found
  exact (List.mem_filter.mp (List.mem_of_getLast? found)).1

/-- A language that can be registered is not registered yet. -/
theorem IsConsistent.not_mem_of_register (consistent : registry.IsConsistent)
    (accepted : registry.register language = .ok next) : language ∉ registry.languages := by
  intro held
  have own : Text.foldCase language.name ∈ foldedNames language := by simp [foldedNames]
  have free := (adds_of_register accepted).2 _ own
  exact consistent.names_eq_none_iff.mp free language held own

/-- Right after a registration exactly the extensions of the new language lead to it. -/
theorem findByExtension?_eq_some_iff_of_register (reachable : registry.Reachable)
    (accepted : registry.register language = .ok next) (extension : String) :
    next.findByExtension? extension = some language ↔
      language.listsExtension (Text.dropLeadingDot extension) := by
  have consistent := reachable.isConsistent
  have extensions := (adds_of_register accepted).1.extensions
  rw [findByExtension?, extensions, Language.listsExtension_eq_decide, decide_eq_true_eq]
  by_cases own : Text.foldCase (Text.dropLeadingDot extension) ∈ foldedExtensions language
  · simp [own]
  · rw [if_neg own]
    refine iff_of_false ?_ own
    intro found
    exact consistent.not_mem_of_register accepted (consistent.mem_of_extensions_eq_some found)

/-- Right after a registration exactly the paths whose extension the new language lists are detected
as being in it. -/
theorem detect?_eq_some_iff_of_register (reachable : registry.Reachable)
    (accepted : registry.register language = .ok next) (path : String) :
    next.detect? path = some language ↔
      ∃ extension, Path.extension? path = some extension ∧ language.listsExtension extension := by
  rw [detect?, Option.bind_eq_some_iff]
  refine exists_congr fun extension => and_congr_right fun found => ?_
  rw [findByExtension?_eq_some_iff_of_register reachable accepted,
    Path.dropLeadingDot_of_extension? found]

/-- The name of a file whose extension is the given text, which has to hold neither dots nor
slashes. -/
theorem extension?_file {extension : String} (noDot : '.' ∉ extension.toList)
    (noSlash : '/' ∉ extension.toList) :
    Path.extension? ("file." ++ extension) = some extension := by
  have parts : ("file." ++ extension).toList = "file".toList ++ '.' :: extension.toList := by simp
  have whole : '/' ∉ ("file." ++ extension).toList := by
    rw [parts]
    simp [noSlash]
  have notParent : "file." ++ extension ≠ ".." := by
    intro same
    have characters := congrArg String.toList same
    simp at characters
  rw [Path.extension?_eq_some parts whole (by simp) notParent noDot, String.ofList_toList]

/--
Right after a registration each extension that the language lists leads to it with a dot in front.
The bare extension leads to it exactly if the language lists what remains without one leading dot,
as it does if there is none; and a file name that ends in the extension is detected exactly if the
language lists the extension of this path, as it does if there are no dots or slashes in it.
-/
theorem findByExtension?_of_register (reachable : registry.Reachable)
    (accepted : registry.register language = .ok next) {extension : String}
    (listed : extension ∈ language.extensions) :
    next.findByExtension? ("." ++ extension) = some language ∧
      (next.findByExtension? extension = some language ↔
        language.listsExtension (Text.dropLeadingDot extension)) ∧
      (extension.toList.head? ≠ some '.' →
        next.findByExtension? extension = some language) ∧
      (next.detect? ("file." ++ extension) = some language ↔
        ∃ found, Path.extension? ("file." ++ extension) = some found ∧
          language.listsExtension found) ∧
      ('.' ∉ extension.toList → '/' ∉ extension.toList →
        next.detect? ("file." ++ extension) = some language) := by
  have byExtension := findByExtension?_eq_some_iff_of_register reachable accepted
  have byPath := detect?_eq_some_iff_of_register reachable accepted
  have lists := Language.listsExtension_of_mem listed
  refine ⟨?_, byExtension extension, ?_, byPath _, ?_⟩
  · rw [byExtension, Text.dropLeadingDot_append]
    exact lists
  · intro noDot
    rw [byExtension, Text.dropLeadingDot_eq_self noDot]
    exact lists
  · intro noDot noSlash
    exact (byPath _).mpr ⟨extension, extension?_file noDot noSlash, lists⟩

/-- The definition of a language whose extensions have dots in unusual places. -/
def dottedDefinition : Definition where
  name := "sample"
  extensions := [".X", "..x", "tar.gz", "..y"]

theorem exists_register_dotted :
    ∃ language next, dottedDefinition.build = .ok language ∧
      empty.register language = .ok next ∧
      language.extensions = ["X", ".x", "tar.gz", ".y"] := by
  have built : ∃ language, dottedDefinition.build = .ok language ∧
      language.extensions = ["X", ".x", "tar.gz", ".y"] := ⟨_, rfl, by decide⟩
  rcases built with ⟨language, built, extensions⟩
  have free : ∀ name ∈ foldedNames language, empty.names[name]? = none := by simp [empty]
  rcases register_of_free free with ⟨next, accepted, _⟩
  exact ⟨language, next, built, accepted, extensions⟩

/-- An extension with a dot in front is found bare if it is listed without the dot as well. -/
theorem findByExtension?_dotted :
    ∃ language next, dottedDefinition.build = .ok language ∧
      empty.register language = .ok next ∧
      next.findByExtension? "..x" = some language ∧ next.findByExtension? ".x" = some language ∧
      next.findByExtension? "tar.gz" = some language ∧ next.detect? "file.X" = some language := by
  rcases exists_register_dotted with ⟨language, next, built, accepted, extensions⟩
  have plain := findByExtension?_of_register .empty accepted
    (by simp [extensions] : "X" ∈ language.extensions)
  have dotted := findByExtension?_of_register .empty accepted
    (by simp [extensions] : ".x" ∈ language.extensions)
  have inner := findByExtension?_of_register .empty accepted
    (by simp [extensions] : "tar.gz" ∈ language.extensions)
  refine ⟨language, next, built, accepted, dotted.1, dotted.2.1.mpr ?_, inner.2.2.1 ?_,
    plain.2.2.2.2 ?_ ?_⟩
  · rw [Language.listsExtension, extensions]
    decide
  · decide
  · decide
  · decide

/-- A language lists extensions under which no look-up and no path leads to it. -/
theorem findByExtension?_dotted_eq_none :
    ∃ language next, dottedDefinition.build = .ok language ∧
      empty.register language = .ok next ∧
      ".y" ∈ language.extensions ∧ next.findByExtension? ".y" = none ∧
      "tar.gz" ∈ language.extensions ∧ next.detect? "file.tar.gz" = none := by
  rcases exists_register_dotted with ⟨language, next, built, accepted, extensions⟩
  have lookUp := (adds_of_register accepted).1.extensions
  have own : foldedExtensions language = ["x", ".x", "tar.gz", ".y"] := by
    rw [foldedExtensions, extensions]
    decide
  refine ⟨language, next, built, accepted, by simp [extensions], ?_, by simp [extensions], ?_⟩
  · rw [findByExtension?, lookUp, own, if_neg (by decide)]
    simp [empty]
  · have path : Path.extension? "file.tar.gz" = some "gz" := by decide
    rw [detect?, path, Option.bind_some, findByExtension?, lookUp, own, if_neg (by decide)]
    simp [empty]

end Registry

end Highlighter
