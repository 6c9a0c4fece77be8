import Highlighter.Proofs.Registry.Clash
import Highlighter.Proofs.Registry.ListModel

/-!
# Registering several languages

Several languages are registered one after the other, up to the first failure. All of them are
registered exactly if no two of them have a name in common and none has one in common with a
language that was registered before. This description does not mention their order, so one order
succeeds if any does.

The order can be seen only in the extensions. No two registered languages share a name, so a name
leads to the same language in every order, and an extension that only one of the languages lists
leads to that language, behind whatever was registered before. An extension that several of them
list leads to the last of these.
-/

namespace Highlighter.Registry

theorem ShareName.symm {left right : Language} (shared : ShareName left right) :
    ShareName right left := by
  rcases shared with ⟨name, ofLeft, ofRight⟩
  exact ⟨name, ofRight, ofLeft⟩

/-- Registers languages one after the other, up to the first failure. -/
def registerAll (registry : Registry) (languages : List Language) :
    Except RegistryError Registry :=
  languages.foldlM register registry

/-- None of the languages has a name in common with another one or with a registered one. -/
def Admits (registry : Registry) (languages : List Language) : Prop :=
  (∀ language ∈ languages, ∀ held ∈ registry.languages, ¬ShareName language held) ∧
    languages.Pairwise fun earlier later => ¬ShareName earlier later

variable {registry next last : Registry} {language : Language} {languages : List Language}

theorem registerAll_cons_of_register (accepted : registry.register language = .ok next) :
    registry.registerAll (language :: languages) = next.registerAll languages := by
  rw [registerAll, List.foldlM_cons, accepted]
  rfl

theorem registerAll_cons_of_refused {error : RegistryError}
    (refused : registry.register language = .error error) :
    registry.registerAll (language :: languages) = .error error := by
  rw [registerAll, List.foldlM_cons, refused]
  rfl

/-- Once the first of several languages is registered, it counts as a registered one for the
others. -/
theorem Adds.admits_cons_iff (adds : registry.Adds language next)
    (apart : ∀ held ∈ registry.languages, ¬ShareName language held) :
    registry.Admits (language :: languages) ↔ next.Admits languages := by
  simp only [Admits, adds.languages, List.mem_append, List.mem_singleton, List.pairwise_cons]
  constructor
  · rintro ⟨apartFromHeld, apartFromFirst, others⟩
    refine ⟨?_, others⟩
    intro later member held registered
    rcases registered with before | rfl
    · exact apartFromHeld later (List.mem_cons_of_mem language member) held before
    · intro shared
      exact apartFromFirst later member shared.symm
  · rintro ⟨apartFromHeld, others⟩
    refine ⟨?_, ?_, others⟩
    · intro later member held before
      rcases List.mem_cons.mp member with rfl | behind
      · exact apart held before
      · exact apartFromHeld later behind held (Or.inl before)
    · intro later member shared
      exact apartFromHeld later member language (Or.inr rfl) shared.symm

/-- All languages are registered exactly if their names keep them apart. -/
theorem IsConsistent.registerAll_isOk_iff (consistent : registry.IsConsistent) :
    (∃ last, registry.registerAll languages = .ok last) ↔ registry.Admits languages := by
  induction languages generalizing registry with
  | nil =>
      refine iff_of_true ⟨registry, rfl⟩ ⟨?_, List.Pairwise.nil⟩
      intro language member
      nomatch member
  | cons language rest ih =>
      have fails := consistent.register_eq_error_iff language
      cases outcome : registry.register language with
      | error error =>
          rcases fails.mp ⟨error, outcome⟩ with ⟨held, member, shared⟩
          rw [registerAll_cons_of_refused outcome]
          apply iff_of_false
          · rintro ⟨last, accepted⟩
            nomatch accepted
          · rintro ⟨apartFromHeld, _⟩
            exact apartFromHeld language List.mem_cons_self held member shared
      | ok next =>
          rcases adds_of_register outcome with ⟨adds, free⟩
          have apart : ∀ held ∈ registry.languages, ¬ShareName language held := by
            intro held member shared
            rcases fails.mpr ⟨held, member, shared⟩ with ⟨error, refused⟩
            rw [outcome] at refused
            nomatch refused
          rw [registerAll_cons_of_register outcome, adds.admits_cons_iff apart]
          exact ih (consistent.adds adds free)

/-- The registry that several registrations lead to holds the languages behind the others, and
every name found before is found with the same language. -/
structure AddsAll (registry : Registry) (languages : List Language) (last : Registry) : Prop where
  languages : last.languages = registry.languages ++ languages
  consistent : last.IsConsistent
  find : ∀ name owner, registry.find? name = some owner → last.find? name = some owner

theorem IsConsistent.addsAll (consistent : registry.IsConsistent)
    (accepted : registry.registerAll languages = .ok last) :
    registry.AddsAll languages last := by
  induction languages generalizing registry with
  | nil =>
      rcases Except.ok.inj accepted with rfl
      exact ⟨(List.append_nil _).symm, consistent, fun _ _ found => found⟩
  | cons language rest ih =>
      cases outcome : registry.register language with
      | error error =>
          rw [registerAll_cons_of_refused outcome] at accepted
          nomatch accepted
      | ok next =>
          rw [registerAll_cons_of_register outcome] at accepted
          rcases adds_of_register outcome with ⟨adds, free⟩
          have behind := ih (consistent.adds adds free) accepted
          refine ⟨?_, behind.consistent, ?_⟩
          · rw [behind.languages, adds.languages, List.append_assoc, List.singleton_append]
          · intro name owner found
            exact behind.find name owner (find?_of_register outcome found)

theorem AddsAll.refinesList (adds : registry.AddsAll languages last) :
    last.RefinesList (registry.languages ++ languages) := by
  have refines := adds.consistent.refinesList
  rwa [adds.languages] at refines

/-! ### Other orders -/

theorem Admits.perm {others : List Language} (admits : registry.Admits languages)
    (permuted : languages.Perm others) : registry.Admits others := by
  refine ⟨?_, ?_⟩
  · intro language member
    exact admits.1 language (permuted.mem_iff.mpr member)
  · apply (permuted.pairwise_iff _).mp admits.2
    intro left right apart shared
    exact apart shared.symm

theorem RefinesList.find?_eq_of_perm {other : Registry} {held permutedHeld : List Language}
    (refines : registry.RefinesList held) (otherRefines : other.RefinesList permutedHeld)
    (permuted : held.Perm permutedHeld) (name : String) :
    other.find? name = registry.find? name := by
  have same := permuted.filter (·.isCalled (Text.trim name))
  rw [refines.find, otherRefines.find] at same
  cases found : registry.find? name with
  | none =>
      rw [found] at same
      exact Option.toList_eq_nil_iff.mp (List.nil_perm.mp same)
  | some owner =>
      rw [found] at same
      apply Option.mem_toList.mp
      exact same.mem_iff.mp List.mem_cons_self

/-- Among languages in any order, those that list an extension come to the same list if there are
no two different ones. -/
theorem filter_listsExtension_eq_of_perm {others : List Language} {extension : String}
    (permuted : languages.Perm others)
    (uncontested : ∀ one ∈ languages, ∀ other ∈ languages, one.listsExtension extension →
      other.listsExtension extension → one = other) :
    others.filter (·.listsExtension extension) =
      languages.filter (·.listsExtension extension) := by
  have allEqual : ∀ listed : List Language, listed.Perm languages →
      (listed.filter (·.listsExtension extension)).Pairwise (· = ·) := by
    intro listed order
    apply List.pairwise_of_forall_mem_list
    intro one oneListed other otherListed
    rcases List.mem_filter.mp oneListed with ⟨oneMember, oneLists⟩
    rcases List.mem_filter.mp otherListed with ⟨otherMember, otherLists⟩
    exact uncontested one (order.mem_iff.mp oneMember) other (order.mem_iff.mp otherMember)
      oneLists otherLists
  apply List.Perm.eq_of_pairwise (fun _ _ _ _ same _ => same)
  · exact allEqual others permuted.symm
  · exact allEqual languages (List.Perm.refl languages)
  · exact permuted.symm.filter _

end Highlighter.Registry
