import Highlighter.Proofs.Registry.InPlace

/-!
# Reports of a registration

When a registration in place takes over an extension, it can report from whom, and for this it looks
up the language at the position that the extension led to before. The new language is stored last,
so there is nothing at its own position yet, and a language that lists an extension twice leads its
own report astray. Every other registration is the same with reports as without them, and the
reports name the languages that the extensions led to.
-/

namespace Highlighter

/-- A report that an extension goes over from one language to another. -/
structure Takeover where
  /-- The folded extension. -/
  extension : String
  /-- The name of the language that had it before. -/
  previous : String
  /-- The name of the language that takes it over. -/
  next : String
deriving DecidableEq, Repr

namespace Registry

/-- What there is to report when a language takes a folded extension. -/
def takeover? (registry : Registry) (language : Language) (extension : String) :
    Option Takeover :=
  registry.extensions[extension]?.map fun owner => ⟨extension, owner.name, language.name⟩

/-- The reports of the extensions of a language that lead to languages of the registry. -/
def takeovers (registry : Registry) (language : Language) : List Takeover :=
  (foldedExtensions language).filterMap (registry.takeover? language)

end Registry

namespace PlacedRegistry

/-- The name of the language at a position. -/
def nameAt (position : Nat) : Change String := do
  match (← get).languages[position]? with
  | some (_, owner) => return owner.name
  | none => throw .astray

/-- Makes a folded extension of a language lead to a position, and reports from which language it is
taken over. -/
def takeExtension (language : Language) (position : Nat) (extension : String) :
    Change (Option Takeover) := do
  let before := (← get).extensions[extension]?
  setExtension position extension
  -- The new language is not stored yet, so `before` may be a position without a language.
  match before with
  | some owner => return some ⟨extension, ← nameAt owner, language.name⟩
  | none => return none

/-- Makes folded extensions of a language lead to a position one after the other, with reports. -/
def takeExtensions (language : Language) (position : Nat) : List String → Change (List Takeover)
  | [] => return []
  | extension :: rest => do
    let report ← takeExtension language position extension
    return report.toList ++ (← takeExtensions language position rest)

/-- Adds a language as `register` does, with a report of every extension that it takes over. -/
def registerReporting (language : Language) : Change (List Takeover) := do
  let names ← claimNames [] (Registry.foldedNames language)
  let position := (← get).languages.length
  forM names (setName position)
  let reports ← takeExtensions language position (Registry.foldedExtensions language)
  store (Text.foldCase language.name) language
  return reports

/-! ### Taking over extensions -/

/-- The registry in which names and extensions lead to the position behind all languages. -/
def leading (placed : PlacedRegistry) (names extensions : List String) : PlacedRegistry :=
  { placed with
    names := names.foldl (fun index key => index.insert key placed.languages.length) placed.names
    extensions := extensions.foldl (fun index key => index.insert key placed.languages.length)
      placed.extensions }

@[simp]
theorem languages_leading (placed : PlacedRegistry) (names extensions : List String) :
    (placed.leading names extensions).languages = placed.languages :=
  rfl

theorem getElem?_extensions_leading (placed : PlacedRegistry) (names extensions : List String)
    (key : String) :
    (placed.leading names extensions).extensions[key]? =
      if key ∈ extensions then some placed.languages.length else placed.extensions[key]? :=
  Registry.getElem?_foldl_insert placed.extensions extensions placed.languages.length key

theorem run_setExtension_leading (placed : PlacedRegistry) (names taken : List String)
    (extension : String) :
    (setExtension placed.languages.length extension).run (placed.leading names taken) =
      .ok () (placed.leading names (taken ++ [extension])) := by
  simp [setExtension, leading]

theorem run_nameAt (placed : PlacedRegistry) (position : Nat) :
    (nameAt position).run placed =
      match placed.languages[position]? with
      | some (_, owner) => .ok owner.name placed
      | none => .error .astray placed := by
  simp only [nameAt, EStateM.run_bind, EStateM.run_get]
  cases placed.languages[position]? <;> rfl

section

variable {placed : PlacedRegistry} {registry : Registry}

/-- The position that an extension leads to holds the language that it leads to. -/
theorem Represents.exists_of_extensions (represents : placed.Represents registry) {key : String}
    {owner : Language} (found : registry.extensions[key]? = some owner) :
    ∃ position name, placed.extensions[key]? = some position ∧
      placed.languages[position]? = some (name, owner) := by
  have leads := represents.extensions key
  rw [found] at leads
  rcases Option.map_eq_some_iff.mp leads with ⟨position, taken, holds⟩
  rw [← represents.getElem? position] at holds
  rcases Option.map_eq_some_iff.mp holds with ⟨⟨name, language⟩, stored, rfl⟩
  exact ⟨position, name, taken, stored⟩

theorem Represents.extensions_eq_none (represents : placed.Represents registry) {key : String}
    (free : registry.extensions[key]? = none) : placed.extensions[key]? = none := by
  have leads := represents.extensions key
  rw [free] at leads
  simpa using leads

/-- An extension that has not been taken yet goes over from the language that it leads to. -/
theorem Represents.run_takeExtension_new (represents : placed.Represents registry)
    (language : Language) (names : List String) {taken : List String} {extension : String}
    (new : extension ∉ taken) :
    (takeExtension language placed.languages.length extension).run (placed.leading names taken) =
      .ok (registry.takeover? language extension)
        (placed.leading names (taken ++ [extension])) := by
  have before := placed.getElem?_extensions_leading names taken extension
  rw [if_neg new] at before
  cases found : registry.extensions[extension]? with
  | none =>
      rw [represents.extensions_eq_none found] at before
      simp only [takeExtension, EStateM.run_bind, EStateM.run_get, before,
        run_setExtension_leading, EStateM.run_pure, Registry.takeover?, found, Option.map_none]
  | some owner =>
      rcases represents.exists_of_extensions found with ⟨position, name, leads, stored⟩
      rw [leads] at before
      simp only [takeExtension, EStateM.run_bind, EStateM.run_get, before,
        run_setExtension_leading, run_nameAt, languages_leading, stored, EStateM.run_pure,
        Registry.takeover?, found, Option.map_some]

/-- There is no language yet where an extension leads that is taken a second time. -/
theorem run_takeExtension_again (placed : PlacedRegistry) (language : Language)
    (names : List String) {taken : List String} {extension : String} (again : extension ∈ taken) :
    (takeExtension language placed.languages.length extension).run (placed.leading names taken) =
      .error .astray (placed.leading names (taken ++ [extension])) := by
  have before := placed.getElem?_extensions_leading names taken extension
  rw [if_pos again] at before
  have vacant : placed.languages[placed.languages.length]? = none := by simp
  simp only [takeExtension, EStateM.run_bind, EStateM.run_get, before, run_setExtension_leading,
    run_nameAt, languages_leading, vacant]

/-- Extensions that are listed once each all go over from the languages that they lead to. -/
theorem Represents.run_takeExtensions_of_nodup (represents : placed.Represents registry)
    (language : Language) (names taken extensions : List String)
    (distinct : (taken ++ extensions).Nodup) :
    (takeExtensions language placed.languages.length extensions).run
        (placed.leading names taken) =
      .ok (extensions.filterMap (registry.takeover? language))
        (placed.leading names (taken ++ extensions)) := by
  -- What is taken already grows with every step, up to all that the language lists.
  induction extensions generalizing taken with
  | nil => simp [takeExtensions]
  | cons extension rest ih =>
      have new : extension ∉ taken := fun member =>
        (List.nodup_append.mp distinct).2.2 extension member extension (by simp) rfl
      have others := ih (taken ++ [extension]) (by simpa using distinct)
      simp only [takeExtensions, EStateM.run_bind,
        represents.run_takeExtension_new language names new, others, EStateM.run_pure,
        List.filterMap_cons]
      cases registry.takeover? language extension <;> simp

/-- The first extension that is listed again leads astray. -/
theorem Represents.run_takeExtensions_of_not_nodup (represents : placed.Represents registry)
    (language : Language) (names taken extensions : List String) (distinct : taken.Nodup)
    (again : ¬(taken ++ extensions).Nodup) :
    ∃ left, (takeExtensions language placed.languages.length extensions).run
      (placed.leading names taken) = .error .astray left := by
  induction extensions generalizing taken with
  | nil => simp [distinct] at again
  | cons extension rest ih =>
      by_cases member : extension ∈ taken
      · refine ⟨placed.leading names (taken ++ [extension]), ?_⟩
        simp only [takeExtensions, EStateM.run_bind,
          placed.run_takeExtension_again language names member]
      · have longer : (taken ++ [extension]).Nodup := by
          refine List.nodup_append.mpr ⟨distinct, by simp, ?_⟩
          intro earlier isEarlier last isLast same
          rcases List.mem_singleton.mp isLast with rfl
          exact member (same ▸ isEarlier)
        rcases ih (taken ++ [extension]) longer (by simpa using again) with ⟨left, astray⟩
        refine ⟨left, ?_⟩
        simp only [takeExtensions, EStateM.run_bind,
          represents.run_takeExtension_new language names member, astray]

/-! ### Registrations -/

/-- The names of a language that is accepted are claimed, and the run goes on with its
extensions. -/
theorem Represents.run_registerReporting (represents : placed.Represents registry)
    {language : Language} {next : Registry} (accepted : registry.register language = .ok next) :
    ∃ names, (claimNames [] (Registry.foldedNames language)).run placed = .ok names placed ∧
      (registerReporting language).run placed =
        (do
          let reports ← takeExtensions language placed.languages.length
            (Registry.foldedExtensions language)
          store (Text.foldCase language.name) language
          return reports : Change (List Takeover)).run (placed.leading names []) := by
  rcases Registry.claimNames_of_free [] (Registry.adds_of_register accepted).2 with
    ⟨names, claimed, -⟩
  have claims := run_claimNames represents [] (Registry.foldedNames language)
  rw [claimed] at claims
  refine ⟨names, claims, ?_⟩
  simp only [registerReporting, EStateM.run_bind, EStateM.run_get, claims, run_forM_setName]
  rfl

/-- A registration is refused with reports as it is without them. -/
theorem Represents.run_registerReporting_of_refused (represents : placed.Represents registry)
    {language : Language} {error : RegistryError}
    (refused : registry.register language = .error error) :
    (registerReporting language).run placed = .error (.refused error) placed := by
  have claims := run_claimNames represents [] (Registry.foldedNames language)
  rw [Registry.claimNames_of_refused refused] at claims
  simp only [registerReporting, EStateM.run_bind, claims]

/-- An accepted registration of a language that lists its extensions once each does with reports
what it does without them, and reports from which languages the extensions go over. -/
theorem Represents.run_registerReporting_of_nodup (represents : placed.Represents registry)
    (consistent : registry.IsConsistent) {language : Language} {next : Registry}
    (accepted : registry.register language = .ok next)
    (distinct : (Registry.foldedExtensions language).Nodup) :
    ∃ placedNext, (register language).run placed = .ok () placedNext ∧
      (registerReporting language).run placed = .ok (registry.takeovers language) placedNext := by
  have free := (Registry.adds_of_register accepted).2
  have fresh := represents.keys_ne_of_free consistent free
  rcases represents.run_registerReporting accepted with ⟨names, claimed, run⟩
  have taken := represents.run_takeExtensions_of_nodup language names []
    (Registry.foldedExtensions language) distinct
  have stored := run_store (placed.leading names ([] ++ Registry.foldedExtensions language))
    language fresh
  refine ⟨_, run_register_of_claimed claimed fresh, ?_⟩
  simp only [run, EStateM.run_bind, taken, stored]
  rfl

/-- An accepted registration of a language that lists an extension twice leads its reports
astray. -/
theorem Represents.run_registerReporting_of_not_nodup (represents : placed.Represents registry)
    {language : Language} {next : Registry} (accepted : registry.register language = .ok next)
    (repeated : ¬(Registry.foldedExtensions language).Nodup) :
    ∃ left, (registerReporting language).run placed = .error .astray left := by
  rcases represents.run_registerReporting accepted with ⟨names, -, run⟩
  rcases represents.run_takeExtensions_of_not_nodup language names []
    (Registry.foldedExtensions language) List.nodup_nil repeated with ⟨left, astray⟩
  exact ⟨left, by simp only [run, EStateM.run_bind, astray]⟩

/-- With reports, a registration goes astray exactly if it is accepted and its language lists an
extension twice; without them, none does. -/
theorem Represents.run_registerReporting_astray_iff (represents : placed.Represents registry)
    (consistent : registry.IsConsistent) (language : Language) :
    (∃ left, (registerReporting language).run placed = .error .astray left) ↔
      (∃ next, registry.register language = .ok next) ∧
        ¬(Registry.foldedExtensions language).Nodup := by
  cases outcome : registry.register language with
  | error error => simp [represents.run_registerReporting_of_refused outcome]
  | ok next =>
      by_cases distinct : (Registry.foldedExtensions language).Nodup
      · rcases represents.run_registerReporting_of_nodup consistent outcome distinct with
          ⟨placedNext, _, reported⟩
        simp [reported, distinct]
      · simp [represents.run_registerReporting_of_not_nodup outcome distinct, distinct]

theorem Represents.run_register_ne_astray (represents : placed.Represents registry)
    (consistent : registry.IsConsistent) (language : Language) (left : PlacedRegistry) :
    (register language).run placed ≠ .error .astray left := by
  rcases run_register represents consistent language with ⟨refuses, accepts⟩
  cases outcome : registry.register language with
  | error error => simp [refuses error outcome]
  | ok next =>
      rcases accepts next outcome with ⟨placedNext, accepted, _⟩
      simp [accepted]

end

end PlacedRegistry

namespace Builtin

/-- All registrations of built-in languages can be reported. -/
theorem nodup_foldedExtensions :
    ∀ language ∈ languages, (Registry.foldedExtensions language).Nodup := by
  rw [languages_eq_map]
  decide

end Builtin

end Highlighter
