import Highlighter.Proofs.Registry.InPlace

/-!
# Registries as lists

For everything that one can ask of it, a registry is the list of its languages in the order of
their registration: a name is looked up as the one language of the list that has it, and an
extension as the last language that lists it. This holds however many registrations led to the
registry and whichever of them failed.
-/

namespace Highlighter

namespace Language

/-- The name or an alias of the language is the given text, but for the case of ASCII letters. -/
def isCalled (language : Language) (name : String) : Bool :=
  (language.name :: language.aliases).any fun own => Text.foldCase own == Text.foldCase name

/-- The language lists the given extension, but for the case of ASCII letters. -/
def listsExtension (language : Language) (extension : String) : Bool :=
  language.extensions.any fun own => Text.foldCase own == Text.foldCase extension

theorem isCalled_eq_decide (language : Language) (name : String) :
    language.isCalled name = decide (Text.foldCase name ∈ Registry.foldedNames language) := by
  apply Bool.eq_iff_iff.mpr
  simp only [isCalled, Registry.foldedNames, List.any_eq_true, beq_iff_eq, decide_eq_true_eq,
    List.mem_map]

theorem listsExtension_eq_decide (language : Language) (extension : String) :
    language.listsExtension extension =
      decide (Text.foldCase extension ∈ Registry.foldedExtensions language) := by
  apply Bool.eq_iff_iff.mpr
  simp only [listsExtension, Registry.foldedExtensions, List.any_eq_true, beq_iff_eq,
    decide_eq_true_eq, List.mem_map]

end Language

namespace Registry

/-- The registry answers every question as the list of languages would. -/
structure RefinesList (registry : Registry) (held : List Language) : Prop where
  languages : registry.languages = held
  size : registry.size = held.length
  /-- No two languages have a name in common, and a name finds the one that has it. -/
  find : ∀ name, held.filter (·.isCalled (Text.trim name)) = (registry.find? name).toList
  get : ∀ name, registry.get name =
    match held.find? (·.isCalled (Text.trim name)) with
    | some language => .ok language
    | none => .error (.unknownLanguage name)
  findByExtension : ∀ extension, registry.findByExtension? extension =
    (held.filter (·.listsExtension (Text.dropLeadingDot extension))).getLast?
  detect : ∀ path, registry.detect? path =
    match Path.extension? path with
    | some extension =>
      (held.filter (·.listsExtension (Text.dropLeadingDot extension))).getLast?
    | none => none

theorem IsConsistent.refinesList {registry : Registry} (consistent : registry.IsConsistent) :
    registry.RefinesList registry.languages := by
  have find : ∀ name, registry.languages.filter (·.isCalled (Text.trim name)) =
      (registry.find? name).toList := by
    intro name
    simp only [Language.isCalled_eq_decide, consistent.names, find?]
  have findByExtension : ∀ extension, registry.findByExtension? extension =
      (registry.languages.filter
        (·.listsExtension (Text.dropLeadingDot extension))).getLast? := by
    intro extension
    simp only [Language.listsExtension_eq_decide, consistent.extensions, findByExtension?]
  refine ⟨rfl, rfl, find, ?_, findByExtension, ?_⟩
  · intro name
    have first : registry.languages.find? (·.isCalled (Text.trim name)) = registry.find? name := by
      rw [← List.head?_filter, find name, Option.head?_toList]
    rw [first]
    rfl
  · intro path
    rw [detect?]
    cases Path.extension? path with
    | none => rfl
    | some extension => exact findByExtension extension

theorem IsConsistent.find?_eq_some_iff {registry : Registry} (consistent : registry.IsConsistent)
    {name : String} {language : Language} :
    registry.find? name = some language ↔
      language ∈ registry.languages ∧ language.isCalled (Text.trim name) := by
  rw [find?, consistent.names_eq_some_iff, Language.isCalled_eq_decide, decide_eq_true_eq]

theorem get_eq_ok_iff {registry : Registry} {name : String} {language : Language} :
    registry.get name = .ok language ↔ registry.find? name = some language := by
  rw [get]
  cases registry.find? name <;> simp

end Registry

/-- Where registrations start from. -/
inductive Registry.Start where
  /-- No language is registered. -/
  | empty
  /-- The built-in languages are registered. -/
  | builtins

namespace Registry.Start

/-- The languages that are registered at the start. -/
def languages : Start → List Language
  | empty => []
  | builtins => Builtin.languages

/-- The registry at the start. -/
def registry : Start → Registry
  | empty => .empty
  | builtins => Builtin.registry

theorem registerEach_languages (start : Start) :
    Registry.empty.registerEach start.languages = (start.registry, start.languages) := by
  cases start with
  | empty => rfl
  | builtins => exact Builtin.registerEach_languages

end Registry.Start

/--
A registry to which any registrations led, some of which may have failed, answers every question as
the list of the languages at the start and of those whose registration succeeded, in this order. The
same registrations on a registry that is kept in place never lead astray, and it holds the same
languages and answers the same.
-/
theorem Registry.registerEach_refinesList (start : Registry.Start) (calls : List Language) :
    (start.registry.registerEach calls).1.RefinesList
        (start.languages ++ (start.registry.registerEach calls).2) ∧
      ∃ placed, PlacedRegistry.empty.registerEach (start.languages ++ calls) = some placed ∧
        placed.languages.map (·.2) = start.languages ++ (start.registry.registerEach calls).2 ∧
        (∀ name, placed.find? name = (start.registry.registerEach calls).1.find? name) ∧
        ∀ extension, placed.findByExtension? extension =
          (start.registry.registerEach calls).1.findByExtension? extension := by
  have run := Registry.empty.registerEach_append start.languages calls
  rw [start.registerEach_languages] at run
  have reachable := Reachable.empty.registerEach (start.languages ++ calls)
  have held := Registry.empty.languages_registerEach (start.languages ++ calls)
  have represented := PlacedRegistry.represents_empty.registerEach .empty (start.languages ++ calls)
  simp only [run] at reachable held represented
  have refines := reachable.isConsistent.refinesList
  rw [held] at refines
  refine ⟨refines, ?_⟩
  rcases represented with ⟨placed, reached, represents⟩
  exact ⟨placed, reached, represents.languages.trans held, represents.find?,
    represents.findByExtension?⟩

end Highlighter
