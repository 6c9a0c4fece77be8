import Highlighter.Registry

/-!
# One registration

A registration first claims the folded names of the language in order and then makes every name and
extension lead to it. The claim fails at the first name that belongs to a registered language; a
name that the language lists twice counts once. What a lookup finds afterwards is the new language
for its own names and extensions and the same as before for all others.
-/

namespace Highlighter.Registry

/-! ### Claiming names -/

theorem claimNames_of_free {registry : Registry} (claimed : List String) {names : List String}
    (free : ∀ name ∈ names, registry.names[name]? = none) :
    ∃ result, registry.claimNames claimed names = .ok result ∧
      ∀ name, name ∈ result ↔ name ∈ claimed ∨ name ∈ names := by
  induction names generalizing claimed with
  | nil => exact ⟨claimed, rfl, by simp⟩
  | cons name rest ih =>
      have freeRest : ∀ other ∈ rest, registry.names[other]? = none := by
        intro other later
        exact free other (List.mem_cons_of_mem name later)
      by_cases repeated : name ∈ claimed
      · rcases ih claimed freeRest with ⟨result, accepted, members⟩
        refine ⟨result, by simp [claimNames, repeated, accepted], ?_⟩
        intro other
        rw [members other, List.mem_cons]
        constructor
        · rintro (held | later)
          · exact Or.inl held
          · exact Or.inr (Or.inr later)
        · rintro (held | rfl | later)
          · exact Or.inl held
          · exact Or.inl repeated
          · exact Or.inr later
      · rcases ih (claimed ++ [name]) freeRest with ⟨result, accepted, members⟩
        refine ⟨result, by simp [claimNames, repeated, free name List.mem_cons_self, accepted], ?_⟩
        intro other
        rw [members other, List.mem_append, List.mem_singleton, List.mem_cons, or_assoc]

/-- The claim fails at the first name that is taken, unless that was claimed before. -/
theorem claimNames_of_taken {registry : Registry} {claimed earlier : List String}
    {name : String} {owner : Language}
    (free : ∀ other ∈ earlier, registry.names[other]? = none)
    (freeClaimed : ∀ other ∈ claimed, registry.names[other]? = none)
    (taken : registry.names[name]? = some owner) (later : List String) :
    registry.claimNames claimed (earlier ++ name :: later) = .error (clash name owner) := by
  induction earlier generalizing claimed with
  | nil =>
      have notClaimed : name ∉ claimed := by
        intro member
        simp [freeClaimed name member] at taken
      simp [claimNames, notClaimed, taken]
  | cons other rest ih =>
      have freeRest : ∀ name ∈ rest, registry.names[name]? = none := by
        intro name later
        exact free name (List.mem_cons_of_mem other later)
      have freeOther := free other List.mem_cons_self
      by_cases repeated : other ∈ claimed
      · simpa [claimNames, repeated] using ih freeRest freeClaimed
      · have freeNow : ∀ name ∈ claimed ++ [other], registry.names[name]? = none := by
          intro name member
          rcases List.mem_append.mp member with before | now
          · exact freeClaimed name before
          · rw [List.mem_singleton.mp now, freeOther]
        simpa [claimNames, repeated, freeOther] using ih freeRest freeNow

/-- Names in which none is taken, or the first one that is. -/
theorem free_or_first_taken (registry : Registry) (names : List String) :
    (∀ name ∈ names, registry.names[name]? = none) ∨
      ∃ earlier name later owner, names = earlier ++ name :: later ∧
        (∀ other ∈ earlier, registry.names[other]? = none) ∧
        registry.names[name]? = some owner := by
  induction names with
  | nil => simp
  | cons name rest ih =>
      cases holder : registry.names[name]? with
      | some owner => exact Or.inr ⟨[], name, rest, owner, rfl, by simp, holder⟩
      | none =>
          rcases ih with free | ⟨earlier, taken, later, owner, rfl, free, holds⟩
          · left
            intro other member
            rcases List.mem_cons.mp member with rfl | later
            · exact holder
            · exact free other later
          · right
            refine ⟨name :: earlier, taken, later, owner, rfl, ?_, holds⟩
            intro other member
            rcases List.mem_cons.mp member with rfl | before
            · exact holder
            · exact free other before

/-! ### Leading names and extensions to the language -/

theorem getElem?_foldl_insert {β : Type} (index : Std.HashMap String β) (keys : List String)
    (value : β) (key : String) :
    (keys.foldl (fun index key => index.insert key value) index)[key]? =
      if key ∈ keys then some value else index[key]? := by
  induction keys generalizing index with
  | nil => simp
  | cons first rest ih =>
      rw [List.foldl_cons, ih, Std.HashMap.getElem?_insert]
      by_cases later : key ∈ rest
      · simp [later]
      · by_cases same : first = key
        · simp [later, same]
        · simp [later, same, Ne.symm same]

theorem getElem?_assign (index : Std.HashMap String Language) (keys : List String)
    (language : Language) (key : String) :
    (assign index keys language)[key]? = if key ∈ keys then some language else index[key]? :=
  getElem?_foldl_insert index keys language key

/-! ### The whole registration -/

/-- The registry that a registration leads to holds the language behind the others, and what its
names and extensions led to before is forgotten. -/
structure Adds (registry : Registry) (language : Language) (next : Registry) : Prop where
  languages : next.languages = registry.languages ++ [language]
  names : ∀ key, next.names[key]? =
    if key ∈ foldedNames language then some language else registry.names[key]?
  extensions : ∀ key, next.extensions[key]? =
    if key ∈ foldedExtensions language then some language else registry.extensions[key]?

theorem register_of_free {registry : Registry} {language : Language}
    (free : ∀ name ∈ foldedNames language, registry.names[name]? = none) :
    ∃ next, registry.register language = .ok next ∧ registry.Adds language next := by
  rcases claimNames_of_free [] free with ⟨names, accepted, members⟩
  refine ⟨_, by rw [register, accepted]; rfl, rfl, ?_, ?_⟩
  · intro key
    rw [getElem?_assign]
    simp [members key]
  · intro key
    rw [getElem?_assign]

theorem claimNames_of_refused {registry : Registry} {language : Language} {error : RegistryError}
    (refused : registry.register language = .error error) :
    registry.claimNames [] (foldedNames language) = .error error := by
  rw [register] at refused
  cases claimed : registry.claimNames [] (foldedNames language) with
  | ok names =>
      rw [claimed] at refused
      nomatch refused
  | error other =>
      rw [claimed] at refused
      exact congrArg Except.error (Except.error.inj refused)

theorem register_of_taken {registry : Registry} {language : Language}
    {earlier later : List String} {name : String} {owner : Language}
    (split : foldedNames language = earlier ++ name :: later)
    (free : ∀ other ∈ earlier, registry.names[other]? = none)
    (taken : registry.names[name]? = some owner) :
    registry.register language = .error (clash name owner) := by
  have noneClaimed : ∀ other ∈ ([] : List String), registry.names[other]? = none := by simp
  have refused := claimNames_of_taken free noneClaimed taken later
  rw [register, split, refused]
  rfl

/-- All that a registration can do: with free names it adds the language, and else it fails at the
first name that is taken. -/
theorem register_cases (registry : Registry) (language : Language) :
    (∃ next, registry.register language = .ok next ∧ registry.Adds language next ∧
        ∀ name ∈ foldedNames language, registry.names[name]? = none) ∨
      ∃ earlier name later owner, registry.register language = .error (clash name owner) ∧
        foldedNames language = earlier ++ name :: later ∧
        (∀ other ∈ earlier, registry.names[other]? = none) ∧
        registry.names[name]? = some owner := by
  rcases registry.free_or_first_taken (foldedNames language) with
    free | ⟨earlier, name, later, owner, split, free, taken⟩
  · rcases register_of_free free with ⟨next, accepted, adds⟩
    exact Or.inl ⟨next, accepted, adds, free⟩
  · exact Or.inr ⟨earlier, name, later, owner, register_of_taken split free taken, split, free,
      taken⟩

theorem adds_of_register {registry next : Registry} {language : Language}
    (accepted : registry.register language = .ok next) :
    registry.Adds language next ∧ ∀ name ∈ foldedNames language, registry.names[name]? = none := by
  rcases registry.register_cases language with
    ⟨other, acceptedOther, adds, free⟩ | ⟨_, _, _, _, refused, _⟩
  · rcases Except.ok.inj (accepted.symm.trans acceptedOther) with rfl
    exact ⟨adds, free⟩
  · rw [accepted] at refused
    nomatch refused

end Highlighter.Registry
