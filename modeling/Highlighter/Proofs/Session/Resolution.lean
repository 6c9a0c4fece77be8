import Highlighter.Proofs.Registry.Detection
import Highlighter.Proofs.Session.LanguageOrder

/-!
# Which language a file is in

A session that was opened finds its default language, if one is set, since its registry was checked
for it after the last registration. So a file is without a language only if one was asked for that
is not known, or if no registered language lists its extension and there is no default language.
-/

namespace Highlighter

/-- The language lists the extension of the path. -/
def Language.ListsExtensionOf (language : Language) (path : String) : Prop :=
  ∃ extension, Path.extension? path = some extension ∧ language.listsExtension extension

/-- The error is about a language that is not known, in its message and in its report. -/
def RegistryError.IsUnknownLanguage (error : RegistryError) : Prop :=
  ∃ subject, error.message = "unknown language: " ++ subject ∧
    (Error.registry error).report = "Registry(" ++ Error.quote "UnknownLanguage" subject ++ ")"

theorem RegistryError.isUnknownLanguage_unknownLanguage (name : String) :
    (unknownLanguage name).IsUnknownLanguage :=
  ⟨name, rfl, rfl⟩

theorem RegistryError.isUnknownLanguage_undetected (path : String) :
    (undetected path).IsUnknownLanguage := by
  refine ⟨"cannot detect language of " ++ path, ?_, rfl⟩
  rw [← String.append_assoc]
  rfl

/-! ### Look-ups -/

namespace Registry

variable {registry : Registry} {language : Language} {path : String}

/-- A path is detected as being in the last language that lists its extension. -/
theorem IsConsistent.detect?_eq_getLast? (consistent : registry.IsConsistent) {extension : String}
    (found : Path.extension? path = some extension) :
    registry.detect? path =
      (registry.languages.filter (·.listsExtension extension)).getLast? := by
  have detected := consistent.refinesList.detect path
  simp only [found, Path.dropLeadingDot_of_extension? found] at detected
  exact detected

theorem IsConsistent.listsExtensionOf_of_detect? (consistent : registry.IsConsistent)
    (detected : registry.detect? path = some language) :
    language ∈ registry.languages ∧ language.ListsExtensionOf path := by
  rcases Option.bind_eq_some_iff.mp detected with ⟨extension, found, -⟩
  rw [consistent.detect?_eq_getLast? found] at detected
  rcases List.mem_filter.mp (List.mem_of_getLast? detected) with ⟨held, lists⟩
  exact ⟨held, extension, found, lists⟩

theorem IsConsistent.detect?_eq_none_iff (consistent : registry.IsConsistent) :
    registry.detect? path = none ↔
      ∀ language ∈ registry.languages, ¬language.ListsExtensionOf path := by
  constructor
  · rintro undetected language held ⟨extension, found, lists⟩
    rw [consistent.detect?_eq_getLast? found, List.getLast?_eq_none_iff] at undetected
    exact List.filter_eq_nil_iff.mp undetected language held lists
  · intro unlisted
    cases detected : registry.detect? path with
    | none => rfl
    | some language =>
        rcases consistent.listsExtensionOf_of_detect? detected with ⟨held, lists⟩
        exact absurd lists (unlisted language held)

end Registry

/-! ### Sessions -/

namespace Session

variable {session : Session} {config : Config} {isColoured reported : Bool}

theorem ofConfig_eq_ok_iff :
    ofConfig config isColoured reported = .ok session ↔
      config.registry reported = .ok session.registry ∧ config.styles = .ok session.theme ∧
        session.config = config ∧ session.isColoured = isColoured := by
  rw [ofConfig, Definition.bind_eq_ok_iff]
  constructor
  · rintro ⟨registry, established, further⟩
    cases styled : config.styles with
    | error fault =>
        rw [styled] at further
        cases further
    | ok theme =>
        rw [styled] at further
        rcases Except.ok.inj further with rfl
        exact ⟨established, rfl, rfl, rfl⟩
  · rcases session with ⟨_, registry, theme, _⟩
    rintro ⟨established, styled, rfl, rfl⟩
    refine ⟨registry, established, ?_⟩
    rw [styled]
    rfl

/-- The registry says what its list of languages says, and finds the default language. -/
structure IsCoherent (session : Session) : Prop where
  consistent : session.registry.IsConsistent
  findsDefault : session.config.FindsDefault session.registry

theorem isCoherent_of_ofConfig (opened : ofConfig config isColoured reported = .ok session) :
    session.IsCoherent := by
  rcases ofConfig_eq_ok_iff.mp opened with ⟨established, -, sameConfig, -⟩
  rcases Config.registry_eq_ok_iff.mp established with ⟨languages, establishes⟩
  constructor
  · exact (Builtin.reachable_registry.isConsistent.addsAll establishes.registered).consistent
  · -- The default language was looked up in the very registry that the session holds.
    rw [sameConfig]
    exact establishes.findsDefault

theorem resolve_of_detect? {path : String} {language : Language}
    (detected : session.registry.detect? path = some language) :
    session.resolve none path = .ok language := by
  simp only [resolve, detected]

/-- The default language is used where none is detected, and it is found. -/
theorem IsCoherent.exists_resolve_of_default (coherent : session.IsCoherent) {path name : String}
    (undetected : session.registry.detect? path = none)
    (set : session.config.defaultLanguage = some name) :
    ∃ language ∈ session.registry.languages, language.isCalled (Text.trim name) ∧
      session.registry.get name = .ok language ∧ session.resolve none path = .ok language := by
  rcases Option.ne_none_iff_exists'.mp (coherent.findsDefault name set) with ⟨language, found⟩
  rcases coherent.consistent.find?_eq_some_iff.mp found with ⟨held, called⟩
  have got := Registry.get_eq_ok_iff.mpr found
  refine ⟨language, held, called, got, ?_⟩
  simp only [resolve, undetected, set]
  exact got

theorem resolve_of_undetected {path : String} (undetected : session.registry.detect? path = none)
    (unset : session.config.defaultLanguage = none) :
    session.resolve none path = .error (.undetected path) := by
  simp only [resolve, undetected, unset]

/-- Without a name a language is found, unless none is detected and there is no default language. -/
theorem IsCoherent.resolve_none_cases (coherent : session.IsCoherent) (path : String) :
    (∃ language ∈ session.registry.languages, session.resolve none path = .ok language) ∨
      (session.registry.detect? path = none ∧ session.config.defaultLanguage = none) := by
  cases detected : session.registry.detect? path with
  | some language =>
      have held := (coherent.consistent.listsExtensionOf_of_detect? detected).1
      exact Or.inl ⟨language, held, resolve_of_detect? detected⟩
  | none =>
      cases set : session.config.defaultLanguage with
      | some name =>
          rcases coherent.exists_resolve_of_default detected set with
            ⟨language, held, -, -, resolved⟩
          exact Or.inl ⟨language, held, resolved⟩
      | none => exact Or.inr ⟨rfl, rfl⟩

theorem IsCoherent.resolve_none_isError_iff (coherent : session.IsCoherent) (path : String) :
    (∃ error, session.resolve none path = .error error) ↔
      session.registry.detect? path = none ∧ session.config.defaultLanguage = none := by
  constructor
  · rintro ⟨error, failed⟩
    rcases coherent.resolve_none_cases path with ⟨language, -, resolved⟩ | unresolved
    · rw [resolved] at failed
      cases failed
    · exact unresolved
  · rintro ⟨undetected, unset⟩
    exact ⟨_, resolve_of_undetected undetected unset⟩

/-- Whatever is asked for, the answer is a registered language, or no language is known. -/
theorem IsCoherent.resolve_cases (coherent : session.IsCoherent) (explicit : Option String)
    (path : String) :
    (∃ language ∈ session.registry.languages, session.resolve explicit path = .ok language) ∨
      ∃ error, session.resolve explicit path = .error error ∧ error.IsUnknownLanguage := by
  cases explicit with
  | some name =>
      cases found : session.registry.find? name with
      | some language =>
          have held := (coherent.consistent.find?_eq_some_iff.mp found).1
          exact Or.inl ⟨language, held, Registry.get_eq_ok_iff.mpr found⟩
      | none =>
          refine Or.inr ⟨_, ?_, RegistryError.isUnknownLanguage_unknownLanguage name⟩
          simp only [resolve, Registry.get, found]
  | none =>
      rcases coherent.resolve_none_cases path with resolved | ⟨undetected, unset⟩
      · exact Or.inl resolved
      · exact Or.inr ⟨_, resolve_of_undetected undetected unset,
          RegistryError.isUnknownLanguage_undetected path⟩

/--
In a session that was opened, a name asks for the language that the registry has under this name and
for no other. Without a name, a file is in the language that is detected, and if there is none, in
the default language, which is always found. So this fails exactly if no registered language lists
the extension of the path and no default language is set.
-/
theorem resolve_of_ofConfig (opened : ofConfig config isColoured reported = .ok session)
    (path : String) :
    (∀ explicit,
        (∃ language ∈ session.registry.languages,
          session.resolve explicit path = .ok language) ∨
        ∃ error, session.resolve explicit path = .error error ∧ error.IsUnknownLanguage) ∧
      (∀ name, session.resolve (some name) path = session.registry.get name) ∧
      (∀ language, session.registry.detect? path = some language →
        language.ListsExtensionOf path ∧ session.resolve none path = .ok language) ∧
      (session.registry.detect? path = none → ∀ name, config.defaultLanguage = some name →
        ∃ language ∈ session.registry.languages, language.isCalled (Text.trim name) ∧
          session.registry.get name = .ok language ∧ session.resolve none path = .ok language) ∧
      ((∃ error, session.resolve none path = .error error) ↔
        (∀ language ∈ session.registry.languages, ¬language.ListsExtensionOf path) ∧
          config.defaultLanguage = none) ∧
      (config.defaultLanguage ≠ none →
        ∃ language, session.resolve none path = .ok language) := by
  have coherent := isCoherent_of_ofConfig opened
  have sameConfig := (ofConfig_eq_ok_iff.mp opened).2.2.1
  have fails := coherent.resolve_none_isError_iff path
  rw [coherent.consistent.detect?_eq_none_iff, sameConfig] at fails
  refine ⟨?_, ?_, ?_, ?_, fails, ?_⟩
  · intro explicit
    exact coherent.resolve_cases explicit path
  · intro name
    rfl
  · intro language detected
    exact ⟨(coherent.consistent.listsExtensionOf_of_detect? detected).2,
      resolve_of_detect? detected⟩
  · intro undetected name set
    rw [← sameConfig] at set
    exact coherent.exists_resolve_of_default undetected set
  · intro set
    rw [← sameConfig] at set
    rcases coherent.resolve_none_cases path with ⟨language, -, resolved⟩ | ⟨-, unset⟩
    · exact ⟨language, resolved⟩
    · exact absurd unset set

/-- The default language is set by its alias in other letters and with white space around it. -/
theorem resolve_of_ofConfig_sharedExtension :
    ∃ session, ofConfig Config.sharedExtension false false = .ok session ∧
      session.registry.detect? "-" = none ∧
      ∃ language ∈ session.registry.languages, language.isCalled "uno" ∧
        session.resolve none "-" = .ok language := by
  rcases Config.exists_establishes_sharedExtension with ⟨one, two, registry, establishes, -⟩
  have established := Config.registry_eq_ok_iff.mpr ⟨_, establishes⟩
  have opened : ofConfig Config.sharedExtension false false =
      .ok ⟨Config.sharedExtension, registry, .default, false⟩ :=
    ofConfig_eq_ok_iff.mpr ⟨established, rfl, rfl, rfl⟩
  have undetected : registry.detect? "-" = none := by
    have noExtension : Path.extension? "-" = none := by decide
    rw [Registry.detect?, noExtension, Option.bind_none]
  have byDefault := (resolve_of_ofConfig opened "-").2.2.2.1
  rcases byDefault undetected " UNO " rfl with ⟨language, held, called, -, resolved⟩
  have sameName : language.isCalled "uno" = language.isCalled (Text.trim " UNO ") := by
    have folded : Text.foldCase "uno" = Text.foldCase (Text.trim " UNO ") := by decide
    rw [Language.isCalled_eq_decide, Language.isCalled_eq_decide, folded]
  exact ⟨_, opened, undetected, language, held, sameName.trans called, resolved⟩

end Session

end Highlighter
