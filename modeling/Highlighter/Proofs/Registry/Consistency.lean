import Highlighter.Builtin.Registry
import Highlighter.Proofs.Language.Checks
import Highlighter.Proofs.Registry.Step

/-!
# Registries that calls lead to

A registry is reached from the empty one by registrations, of which some may fail. In every registry
so reached the two maps say what the list of languages says: a folded name leads to the one language
that has it, and a folded extension to the last language that lists it. One registration keeps this,
and so any number of them does.
-/

namespace Highlighter

namespace Registry

/-- The registry is reached from the empty one by successful registrations; one that fails leaves
the registry as it is. -/
inductive Reachable : Registry → Prop
  | empty : Reachable empty
  | register {registry next : Registry} {language : Language} :
      Reachable registry → registry.register language = .ok next → Reachable next

/-- Registers languages one after the other, each that fails with no effect, and tells the registry
at the end and the languages whose registration succeeded. -/
def registerEach (registry : Registry) : List Language → Registry × List Language
  | [] => (registry, [])
  | language :: rest =>
    match registry.register language with
    | .error _ => registry.registerEach rest
    | .ok next => ((next.registerEach rest).1, language :: (next.registerEach rest).2)

theorem registerEach_append (registry : Registry) (left right : List Language) :
    registry.registerEach (left ++ right) =
      (((registry.registerEach left).1.registerEach right).1,
        (registry.registerEach left).2 ++
          ((registry.registerEach left).1.registerEach right).2) := by
  induction left generalizing registry with
  | nil => rfl
  | cons language rest ih =>
      simp only [List.cons_append, registerEach]
      cases registry.register language with
      | error error => exact ih registry
      | ok next =>
          simp only [ih next]
          rfl

theorem languages_registerEach (registry : Registry) (calls : List Language) :
    (registry.registerEach calls).1.languages =
      registry.languages ++ (registry.registerEach calls).2 := by
  induction calls generalizing registry with
  | nil => simp [registerEach]
  | cons language rest ih =>
      simp only [registerEach]
      cases outcome : registry.register language with
      | error error => exact ih registry
      | ok next =>
          have added := (adds_of_register outcome).1.languages
          simp only [ih next, added, List.append_assoc, List.singleton_append]

theorem Reachable.registerEach {registry : Registry} (reachable : registry.Reachable)
    (calls : List Language) : (registry.registerEach calls).1.Reachable := by
  induction calls generalizing registry with
  | nil => exact reachable
  | cons language rest ih =>
      simp only [Registry.registerEach]
      cases outcome : registry.register language with
      | error error => exact ih reachable
      | ok next => exact ih (reachable.register outcome)

/-! ### What the maps say -/

/-- The maps say what the list of languages says. -/
structure IsConsistent (registry : Registry) : Prop where
  /-- At most one language has a folded name, and the name leads to it. -/
  names : ∀ key, registry.languages.filter (fun language => key ∈ foldedNames language) =
    registry.names[key]?.toList
  /-- A folded extension leads to the last language that lists it. -/
  extensions : ∀ key,
    (registry.languages.filter fun language => key ∈ foldedExtensions language).getLast? =
      registry.extensions[key]?

theorem isConsistent_empty : empty.IsConsistent where
  names key := by simp [empty]
  extensions key := by simp [empty]

/-- Adding a language whose names are free keeps the maps consistent. -/
theorem IsConsistent.adds {registry next : Registry} {language : Language}
    (consistent : registry.IsConsistent) (adds : registry.Adds language next)
    (free : ∀ name ∈ foldedNames language, registry.names[name]? = none) :
    next.IsConsistent where
  names := by
    intro key
    rw [adds.languages, adds.names key, List.filter_append, consistent.names key]
    by_cases own : key ∈ foldedNames language
    · simp [own, free key own]
    · simp [own]
  extensions := by
    intro key
    rw [adds.languages, adds.extensions key, List.filter_append, ← consistent.extensions key]
    by_cases own : key ∈ foldedExtensions language
    · simp [own]
    · simp [own]

theorem Reachable.isConsistent {registry : Registry} (reachable : registry.Reachable) :
    registry.IsConsistent := by
  induction reachable with
  | empty => exact isConsistent_empty
  | register _ accepted ih =>
      rcases adds_of_register accepted with ⟨adds, free⟩
      exact ih.adds adds free

theorem IsConsistent.names_eq_some_iff {registry : Registry} (consistent : registry.IsConsistent)
    {key : String} {owner : Language} :
    registry.names[key]? = some owner ↔
      owner ∈ registry.languages ∧ key ∈ foldedNames owner := by
  have member : owner ∈ registry.languages.filter (fun language => key ∈ foldedNames language) ↔
      owner ∈ registry.languages ∧ key ∈ foldedNames owner := by simp
  rw [← member, consistent.names key, Option.mem_toList]

theorem IsConsistent.names_eq_none_iff {registry : Registry} (consistent : registry.IsConsistent)
    {key : String} :
    registry.names[key]? = none ↔ ∀ owner ∈ registry.languages, key ∉ foldedNames owner := by
  rw [Option.eq_none_iff_forall_ne_some]
  simp only [ne_eq, consistent.names_eq_some_iff, not_and]

/-- Languages that have no names in common can all be registered. -/
theorem IsConsistent.accepted_registerEach {registry : Registry}
    (consistent : registry.IsConsistent) {calls : List Language}
    (apart : (registry.languages ++ calls).Pairwise fun earlier later =>
      ∀ name ∈ foldedNames later, name ∉ foldedNames earlier) :
    (registry.registerEach calls).2 = calls := by
  induction calls generalizing registry with
  | nil => rfl
  | cons language rest ih =>
      have behind := List.pairwise_append.mp apart
      have free : ∀ name ∈ foldedNames language, registry.names[name]? = none := by
        intro name own
        rw [consistent.names_eq_none_iff]
        intro owner held
        exact behind.2.2 owner held language List.mem_cons_self name own
      rcases register_of_free free with ⟨next, accepted, adds⟩
      have nextApart : (next.languages ++ rest).Pairwise fun earlier later =>
          ∀ name ∈ foldedNames later, name ∉ foldedNames earlier := by
        rw [adds.languages, List.append_assoc, List.singleton_append]
        exact apart
      simp only [registerEach, accepted, ih (consistent.adds adds free) nextApart]

theorem registerEach_eq_foldl (registry : Registry) (calls : List Language) :
    (registry.registerEach calls).1 =
      calls.foldl (fun registry language => (registry.register language).toOption.getD registry)
        registry := by
  induction calls generalizing registry with
  | nil => rfl
  | cons language rest ih =>
      simp only [registerEach, List.foldl_cons]
      cases registry.register language with
      | error error => exact ih registry
      | ok next => exact ih next

end Registry

/-! ### The built-in languages -/

namespace Builtin

/-- All built-in definitions are accepted. -/
theorem build_of_mem {definition : Definition} (member : definition ∈ definitions) :
    definition.build = .ok definition.described := by
  have noneFound : ∀ definition ∈ definitions,
      Definition.Check.all.findSome? (Definition.Check.find? definition) = none := by
    decide +kernel
  have passes := Definition.findSome?_find?_eq_none_iff.mp (noneFound definition member)
  exact Definition.build_eq_ok_iff_described.mpr ⟨passes, rfl⟩

theorem languages_eq_map : languages = definitions.map Definition.described := by
  rw [languages, ← List.filterMap_eq_map]
  apply List.filterMap_congr
  intro definition member
  rw [build_of_mem member]
  rfl

theorem foldedNames_languages :
    languages.map Registry.foldedNames =
      [["csharp", "cs", "c#"], ["c"], ["cpp", "c++", "cxx", "cc"], ["java"],
        ["javascript", "js", "node"], ["typescript", "ts"]] := by
  rw [languages_eq_map]
  decide

theorem fst_registerEach_languages : (Registry.empty.registerEach languages).1 = registry :=
  Registry.registerEach_eq_foldl .empty languages

theorem snd_registerEach_languages : (Registry.empty.registerEach languages).2 = languages := by
  have apart : (languages.map Registry.foldedNames).Pairwise fun earlier later =>
      ∀ name ∈ later, name ∉ earlier := by
    rw [foldedNames_languages]
    decide
  have behindNone : Registry.empty.languages ++ languages = languages :=
    List.nil_append languages
  apply Registry.isConsistent_empty.accepted_registerEach
  rw [behindNone]
  exact List.pairwise_map.mp apart

/-- All built-in languages are registered. -/
theorem registerEach_languages :
    Registry.empty.registerEach languages = (registry, languages) := by
  rw [← Prod.eta (Registry.empty.registerEach languages), fst_registerEach_languages,
    snd_registerEach_languages]

theorem languages_registry : registry.languages = languages := by
  have held := Registry.languages_registerEach .empty languages
  rw [fst_registerEach_languages, snd_registerEach_languages] at held
  exact held.trans (List.nil_append languages)

theorem reachable_registry : registry.Reachable := by
  have reached := Registry.Reachable.empty.registerEach languages
  rwa [fst_registerEach_languages] at reached

end Builtin

end Highlighter
