import Highlighter.Proofs.Registry.InPlace

/-!
# When a registration fails

A registration fails exactly if a folded name of the language is one of a registered language. It
then tells about the first such name and its owner and changes nothing; if it succeeds, all names
that were found before still lead to the same languages.
-/

namespace Highlighter.Registry

/-- The languages have a name or an alias in common, but for the case of ASCII letters. -/
def ShareName (left right : Language) : Prop :=
  ∃ name ∈ foldedNames left, name ∈ foldedNames right

/-- The error is about the first folded name of the language that a registered language has, and
about the one language that has it. -/
def TellsFirstClash (registry : Registry) (language : Language) (error : RegistryError) : Prop :=
  ∃ earlier name later owner, foldedNames language = earlier ++ name :: later ∧
    (∀ other ∈ earlier, ∀ held ∈ registry.languages, other ∉ foldedNames held) ∧
    (∀ held ∈ registry.languages, name ∈ foldedNames held ↔ held = owner) ∧
    owner ∈ registry.languages ∧
    error = if Text.foldCase owner.name = name then .duplicateName owner.name
      else .duplicateAlias name owner.name

variable {registry : Registry}

theorem IsConsistent.register_eq_error_iff (consistent : registry.IsConsistent)
    (language : Language) :
    (∃ error, registry.register language = .error error) ↔
      ∃ held ∈ registry.languages, ShareName language held := by
  constructor
  · rintro ⟨error, refused⟩
    rcases registry.register_cases language with
      ⟨next, accepted, _⟩ | ⟨earlier, name, later, owner, _, split, _, taken⟩
    · rw [refused] at accepted
      nomatch accepted
    · rcases consistent.names_eq_some_iff.mp taken with ⟨held, owned⟩
      exact ⟨owner, held, name, by simp [split], owned⟩
  · rintro ⟨held, member, name, own, shared⟩
    rcases registry.register_cases language with ⟨_, _, _, free⟩ | ⟨_, _, _, _, refused, _⟩
    · exact absurd shared (consistent.names_eq_none_iff.mp (free name own) held member)
    · exact ⟨_, refused⟩

theorem IsConsistent.tellsFirstClash (consistent : registry.IsConsistent) {language : Language}
    {error : RegistryError} (refused : registry.register language = .error error) :
    registry.TellsFirstClash language error := by
  rcases registry.register_cases language with
    ⟨next, accepted, _⟩ | ⟨earlier, name, later, owner, refusedBy, split, free, taken⟩
  · rw [refused] at accepted
    nomatch accepted
  · rcases consistent.names_eq_some_iff.mp taken with ⟨held, owned⟩
    refine ⟨earlier, name, later, owner, split, ?_, ?_, held, ?_⟩
    · intro other before
      exact consistent.names_eq_none_iff.mp (free other before)
    · intro other member
      constructor
      · intro has
        have alsoTaken := consistent.names_eq_some_iff.mpr ⟨member, has⟩
        rw [taken] at alsoTaken
        exact (Option.some.inj alsoTaken).symm
      · rintro rfl
        exact owned
    · rw [refused] at refusedBy
      exact Except.error.inj refusedBy

/-- A name that leads to a language still does when another language has been added. -/
theorem find?_of_register {next : Registry} {language owner : Language}
    (accepted : registry.register language = .ok next) {name : String}
    (found : registry.find? name = some owner) : next.find? name = some owner := by
  rcases adds_of_register accepted with ⟨adds, free⟩
  rw [find?] at found ⊢
  have notOwn : Text.foldCase (Text.trim name) ∉ foldedNames language := by
    intro own
    rw [free _ own] at found
    cases found
  rw [adds.names, if_neg notOwn, found]

/--
A registration fails exactly if a registered language has a name or an alias of the language. The
error then tells the first of these names and its owner, and a registry that is kept in place is
left as it was. Where a registration succeeds, every name found before is found with the same
language.
-/
theorem register_fails_iff_clash (reachable : registry.Reachable) (language : Language) :
    ((∃ error, registry.register language = .error error) ↔
        ∃ held ∈ registry.languages, ShareName language held) ∧
      (∀ error, registry.register language = .error error →
        registry.TellsFirstClash language error) ∧
      (∀ next, registry.register language = .ok next →
        next.languages = registry.languages ++ [language] ∧
          ∀ name owner, registry.find? name = some owner → next.find? name = some owner) ∧
      (∃ placed : PlacedRegistry, placed.Represents registry) ∧
      ∀ placed : PlacedRegistry, placed.Represents registry →
        (∀ error, registry.register language = .error error →
          (PlacedRegistry.register language).run placed = .error (.refused error) placed) ∧
        ∀ next, registry.register language = .ok next →
          ∃ changed, (PlacedRegistry.register language).run placed = .ok () changed ∧
            changed.Represents next := by
  have consistent := reachable.isConsistent
  refine ⟨consistent.register_eq_error_iff language, ?_, ?_,
    PlacedRegistry.exists_represents reachable, ?_⟩
  · intro error refused
    exact consistent.tellsFirstClash refused
  · intro next accepted
    refine ⟨(adds_of_register accepted).1.languages, ?_⟩
    intro name owner found
    exact find?_of_register accepted found
  · intro placed represents
    exact PlacedRegistry.run_register represents consistent language

/-- The last alias of a language is taken, so that nothing of the language is registered. -/
theorem register_fails_with_taken_alias :
    ∃ toy other registry, { name := "toy", aliases := ["t"] : Definition }.build = .ok toy ∧
      { name := "other", aliases := ["o", "T"] : Definition }.build = .ok other ∧
      Reachable registry ∧ registry.languages = [toy] ∧
      registry.register other = .error (.duplicateAlias "t" "toy") := by
  have toyExists : ∃ toy, { name := "toy", aliases := ["t"] : Definition }.build = .ok toy ∧
      foldedNames toy = ["toy", "t"] ∧ toy.name = "toy" := ⟨_, rfl, by decide, by decide⟩
  have otherExists : ∃ other,
      { name := "other", aliases := ["o", "T"] : Definition }.build = .ok other ∧
        foldedNames other = ["other", "o", "t"] := ⟨_, rfl, by decide⟩
  rcases toyExists with ⟨toy, toyBuilt, toyNames, toyName⟩
  rcases otherExists with ⟨other, otherBuilt, otherNames⟩
  have free : ∀ name ∈ foldedNames toy, empty.names[name]? = none := by simp [empty]
  rcases register_of_free free with ⟨registry, accepted, adds⟩
  have reachable := Reachable.empty.register accepted
  have held : registry.languages = [toy] := adds.languages
  refine ⟨toy, other, registry, toyBuilt, otherBuilt, reachable, held, ?_⟩
  have outcome := register_fails_iff_clash reachable other
  have shared : ∃ held ∈ registry.languages, ShareName other held :=
    ⟨toy, by simp [held], "t", by simp [otherNames], by simp [toyNames]⟩
  rcases outcome.1.mpr shared with ⟨error, refused⟩
  rcases outcome.2.1 error refused with ⟨_, name, _, owner, split, _, owned, member, rfl⟩
  have ownerIsToy : owner = toy := by simpa [held] using member
  have nameOfToy : name ∈ foldedNames toy :=
    (owned toy (by simp [held])).mpr ownerIsToy.symm
  have nameOfOther : name ∈ foldedNames other := by simp [split]
  have nameIsT : name = "t" := by
    rw [toyNames] at nameOfToy
    rw [otherNames] at nameOfOther
    have isEither : name = "toy" ∨ name = "t" := by simpa using nameOfToy
    rcases isEither with rfl | rfl
    · simp at nameOfOther
    · rfl
  rw [refused, ownerIsToy, nameIsT, toyName]
  rfl

end Highlighter.Registry
