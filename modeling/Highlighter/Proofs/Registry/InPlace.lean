import Highlighter.Proofs.Registry.Consistency

/-!
# Registries that are changed in place

A registry can be kept in place, with its languages in a row and with maps to their positions in it.
A registration then changes one entry after the other, and what was written before a failure would
stay. Here such a registration is run beside the one on registries as values. Both accept and refuse
alike, every position leads to a language, and a registration that is refused has written nothing.
-/

namespace Highlighter

/-- A registry that is kept in place. -/
structure PlacedRegistry where
  /-- The languages under their folded names, in the order of their registration. -/
  languages : List (String × Language)
  /-- The position of the language that each folded name or alias belongs to. -/
  names : Std.HashMap String Nat
  /-- The position of the language that claimed each folded extension last. -/
  extensions : Std.HashMap String Nat

/-- What cuts a change short. -/
inductive Interruption where
  /-- A registration is refused. -/
  | refused (error : RegistryError)
  /-- There is no language at a position. -/
  | astray

namespace PlacedRegistry

/-- A change in place, which an interruption does not undo. -/
abbrev Change := EStateM Interruption PlacedRegistry

/-- The registry without languages. -/
def empty : PlacedRegistry := ⟨[], ∅, ∅⟩

/-- Refuses a folded name on account of the language at a position. -/
def refuse {α : Type} (name : String) (position : Nat) : Change α := do
  match (← get).languages[position]? with
  | some (_, owner) => throw (.refused (Registry.clash name owner))
  | none => throw .astray

/-- Goes through folded names in order and adds those that are new to `claimed`; a name that belongs
to a registered language is refused. -/
def claimNames (claimed : List String) : List String → Change (List String)
  | [] => return claimed
  | name :: rest => do
    if name ∈ claimed then claimNames claimed rest
    else match (← get).names[name]? with
      | some position => refuse name position
      | none => claimNames (claimed ++ [name]) rest

/-- Makes a folded name lead to a position. -/
def setName (position : Nat) (name : String) : Change Unit :=
  modify fun registry => { registry with names := registry.names.insert name position }

/-- Makes a folded extension lead to a position. -/
def setExtension (position : Nat) (extension : String) : Change Unit :=
  modify fun registry =>
    { registry with extensions := registry.extensions.insert extension position }

/-- Stores a language in the place of the one under the same key, or else behind all others. -/
def store (key : String) (language : Language) : Change Unit :=
  modify fun registry =>
    if registry.languages.any (·.1 == key) then
      { registry with
        languages := registry.languages.map fun entry =>
          if entry.1 = key then (key, language) else entry }
    else { registry with languages := registry.languages ++ [(key, language)] }

/-- Adds a language: its names are claimed first, then the maps are led to the position at which
the language is stored last. -/
def register (language : Language) : Change Unit := do
  let names ← claimNames [] (Registry.foldedNames language)
  let position := (← get).languages.length
  forM names (setName position)
  forM (Registry.foldedExtensions language) (setExtension position)
  store (Text.foldCase language.name) language

/-- Registers languages one after the other, whether or not one is refused; gives nothing if a
position leads astray. -/
def registerEach (registry : PlacedRegistry) : List Language → Option PlacedRegistry
  | [] => some registry
  | language :: rest =>
    match (register language).run registry with
    | .ok () next => next.registerEach rest
    | .error (.refused _) next => next.registerEach rest
    | .error .astray _ => none

/-- The language with the given name or alias, if there is one. -/
def find? (registry : PlacedRegistry) (name : String) : Option Language :=
  registry.names[Text.foldCase (Text.trim name)]?.bind fun position =>
    registry.languages[position]?.map (·.2)

/-- The language that claimed the extension last. -/
def findByExtension? (registry : PlacedRegistry) (extension : String) : Option Language :=
  registry.extensions[Text.foldCase (Text.dropLeadingDot extension)]?.bind fun position =>
    registry.languages[position]?.map (·.2)

/-- The registry in place holds the same languages, and its positions lead to those that the maps
of the registry as a value hold. -/
structure Represents (placed : PlacedRegistry) (registry : Registry) : Prop where
  languages : placed.languages.map (·.2) = registry.languages
  keys : ∀ entry ∈ placed.languages, entry.1 = Text.foldCase entry.2.name
  names : ∀ key : String,
    placed.names[key]?.map (registry.languages[·]?) = registry.names[key]?.map some
  extensions : ∀ key : String,
    placed.extensions[key]?.map (registry.languages[·]?) = registry.extensions[key]?.map some

theorem represents_empty : empty.Represents .empty where
  languages := rfl
  keys := by simp [empty]
  names key := by simp [empty, Registry.empty]
  extensions key := by simp [empty, Registry.empty]

/-! ### Running a registration -/

section

variable {placed : PlacedRegistry} {registry : Registry}

theorem Represents.getElem? (represents : placed.Represents registry) (position : Nat) :
    placed.languages[position]?.map (·.2) = registry.languages[position]? := by
  rw [← represents.languages, List.getElem?_map]

theorem run_refuse {α : Type} (represents : placed.Represents registry) {name : String}
    {position : Nat} {owner : Language} (found : placed.names[name]? = some position)
    (owned : registry.names[name]? = some owner) :
    (refuse name position : Change α).run placed =
      .error (.refused (Registry.clash name owner)) placed := by
  have leads := represents.names name
  rw [found, owned] at leads
  have atPosition : placed.languages[position]?.map (·.2) = some owner := by
    rw [represents.getElem? position]
    simpa using leads
  rcases Option.map_eq_some_iff.mp atPosition with ⟨⟨key, language⟩, stored, rfl⟩
  simp only [refuse, EStateM.run_bind, EStateM.run_get, stored]
  rfl

/-- Names are claimed in place as they are on the registry as a value, and nothing is written. -/
theorem run_claimNames (represents : placed.Represents registry) (claimed names : List String) :
    (claimNames claimed names).run placed =
      match registry.claimNames claimed names with
      | .ok result => .ok result placed
      | .error error => .error (.refused error) placed := by
  induction names generalizing claimed with
  | nil => rfl
  | cons name rest ih =>
      by_cases repeated : name ∈ claimed
      · simpa [claimNames, Registry.claimNames, repeated] using ih claimed
      · have leads := represents.names name
        cases holder : registry.names[name]? with
        | none =>
            have free : placed.names[name]? = none := by simpa [holder] using leads
            simpa [claimNames, Registry.claimNames, repeated, holder, free] using
              ih (claimed ++ [name])
        | some owner =>
            rw [holder] at leads
            rcases Option.map_eq_some_iff.mp leads with ⟨position, taken, _⟩
            have refused := run_refuse (α := List String) represents taken holder
            simpa [claimNames, Registry.claimNames, repeated, holder, taken] using refused

theorem run_forM_setName (placed : PlacedRegistry) (position : Nat) (names : List String) :
    (forM names (setName position)).run placed =
      .ok () { placed with
        names := names.foldl (fun index key => index.insert key position) placed.names } := by
  induction names generalizing placed with
  | nil => rfl
  | cons name rest ih => simp [setName, ih]

theorem run_forM_setExtension (placed : PlacedRegistry) (position : Nat)
    (extensions : List String) :
    (forM extensions (setExtension position)).run placed =
      .ok () { placed with
        extensions :=
          extensions.foldl (fun index key => index.insert key position) placed.extensions } := by
  induction extensions generalizing placed with
  | nil => rfl
  | cons extension rest ih => simp [setExtension, ih]

/-- A key that is free of languages is stored behind all others. -/
theorem run_store (placed : PlacedRegistry) {key : String} (language : Language)
    (free : ∀ entry ∈ placed.languages, entry.1 ≠ key) :
    (store key language).run placed =
      .ok () { placed with languages := placed.languages ++ [(key, language)] } := by
  have noEntry : placed.languages.any (·.1 == key) = false := by simpa using free
  simp [store, noEntry]

theorem Represents.keys_ne_of_free (represents : placed.Represents registry)
    (consistent : registry.IsConsistent) {language : Language}
    (free : ∀ name ∈ Registry.foldedNames language, registry.names[name]? = none) :
    ∀ entry ∈ placed.languages, entry.1 ≠ Text.foldCase language.name := by
  intro entry member same
  have own : Text.foldCase language.name ∈ Registry.foldedNames language := by
    simp [Registry.foldedNames]
  have held : entry.2 ∈ registry.languages := by
    rw [← represents.languages]
    exact List.mem_map_of_mem member
  have names : Text.foldCase language.name ∈ Registry.foldedNames entry.2 := by
    rw [← same, represents.keys entry member]
    simp [Registry.foldedNames]
  exact consistent.names_eq_none_iff.mp (free _ own) entry.2 held names

/-- A position that is led to keeps its language when one more is stored behind. -/
theorem map_getElem?_append {found : Option Nat} {languages : List Language}
    {held : Option Language} (language : Language)
    (leads : found.map (languages[·]?) = held.map some) :
    found.map ((languages ++ [language])[·]?) = held.map some := by
  cases found with
  | none => exact leads
  | some position =>
      cases held with
      | none => simp at leads
      | some owner =>
          have stored : languages[position]? = some owner := by simpa using leads
          have inside := (List.getElem?_eq_some_iff.mp stored).1
          simp [List.getElem?_append_left inside, stored]

theorem run_register_of_claimed {language : Language} {names : List String}
    (claimed : (claimNames [] (Registry.foldedNames language)).run placed = .ok names placed)
    (fresh : ∀ entry ∈ placed.languages, entry.1 ≠ Text.foldCase language.name) :
    (register language).run placed =
      .ok () {
        languages := placed.languages ++ [(Text.foldCase language.name, language)]
        names := names.foldl (fun index key => index.insert key placed.languages.length)
          placed.names
        extensions := (Registry.foldedExtensions language).foldl
          (fun index key => index.insert key placed.languages.length) placed.extensions } := by
  simp only [register, EStateM.run_bind, EStateM.run_get, claimed, run_forM_setName,
    run_forM_setExtension]
  exact run_store _ language fresh

/-- A registration in place does what it does on the registry as a value, and nothing at all where
it is refused. -/
theorem run_register (represents : placed.Represents registry)
    (consistent : registry.IsConsistent) (language : Language) :
    (∀ error, registry.register language = .error error →
        (register language).run placed = .error (.refused error) placed) ∧
      ∀ next, registry.register language = .ok next →
        ∃ placedNext, (register language).run placed = .ok () placedNext ∧
          placedNext.Represents next := by
  have claims := run_claimNames represents [] (Registry.foldedNames language)
  constructor
  · intro error refused
    rw [Registry.claimNames_of_refused refused] at claims
    simp [register, claims]
  · intro next accepted
    rcases Registry.adds_of_register accepted with ⟨adds, free⟩
    rcases Registry.claimNames_of_free [] free with ⟨names, claimed, members⟩
    have fresh := represents.keys_ne_of_free consistent free
    have position : placed.languages.length = registry.languages.length := by
      rw [← represents.languages, List.length_map]
    rw [claimed] at claims
    refine ⟨_, run_register_of_claimed claims fresh, ?_, ?_, ?_, ?_⟩
    · simp [adds.languages, represents.languages]
    · intro entry member
      rcases List.mem_append.mp member with before | last
      · exact represents.keys entry before
      · simp [List.mem_singleton.mp last]
    · intro key
      rw [Registry.getElem?_foldl_insert, adds.names key, adds.languages, position]
      by_cases own : key ∈ Registry.foldedNames language
      · simp [own, members key]
      · simpa [own, members key] using map_getElem?_append language (represents.names key)
    · intro key
      rw [Registry.getElem?_foldl_insert, adds.extensions key, adds.languages, position]
      by_cases own : key ∈ Registry.foldedExtensions language
      · simp [own]
      · simpa [own] using map_getElem?_append language (represents.extensions key)

end

/-! ### Runs and queries -/

/-- A run in place never goes astray and ends with what the run on values ends with. -/
theorem Represents.registerEach {placed : PlacedRegistry} {registry : Registry}
    (represents : placed.Represents registry) (reachable : registry.Reachable)
    (calls : List Language) :
    ∃ last, placed.registerEach calls = some last ∧
      last.Represents (registry.registerEach calls).1 := by
  induction calls generalizing placed registry with
  | nil => exact ⟨placed, rfl, represents⟩
  | cons language rest ih =>
      rcases run_register represents reachable.isConsistent language with ⟨refuses, accepts⟩
      cases outcome : registry.register language with
      | error error =>
          simp only [PlacedRegistry.registerEach, Registry.registerEach, refuses error outcome,
            outcome]
          exact ih represents reachable
      | ok next =>
          rcases accepts next outcome with ⟨placedNext, accepted, representsNext⟩
          simp only [PlacedRegistry.registerEach, Registry.registerEach, accepted, outcome]
          exact ih representsNext (reachable.register outcome)

theorem exists_represents {registry : Registry} (reachable : registry.Reachable) :
    ∃ placed : PlacedRegistry, placed.Represents registry := by
  induction reachable with
  | empty => exact ⟨empty, represents_empty⟩
  | register reachable accepted ih =>
      rcases ih with ⟨placed, represents⟩
      rcases (run_register represents reachable.isConsistent _).2 _ accepted with
        ⟨placedNext, _, representsNext⟩
      exact ⟨placedNext, representsNext⟩

theorem bind_getElem?_of_leads {found : Option Nat} {languages : List Language}
    {held : Option Language} (leads : found.map (languages[·]?) = held.map some) :
    found.bind (languages[·]?) = held := by
  cases found <;> cases held <;> simp_all

theorem Represents.find? {placed : PlacedRegistry} {registry : Registry}
    (represents : placed.Represents registry) (name : String) :
    placed.find? name = registry.find? name := by
  simp only [PlacedRegistry.find?, Registry.find?, represents.getElem?]
  exact bind_getElem?_of_leads (represents.names _)

theorem Represents.findByExtension? {placed : PlacedRegistry} {registry : Registry}
    (represents : placed.Represents registry) (extension : String) :
    placed.findByExtension? extension = registry.findByExtension? extension := by
  simp only [PlacedRegistry.findByExtension?, Registry.findByExtension?, represents.getElem?]
  exact bind_getElem?_of_leads (represents.extensions _)

end PlacedRegistry

end Highlighter
