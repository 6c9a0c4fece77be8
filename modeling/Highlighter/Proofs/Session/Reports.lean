import Highlighter.Command.Basic

/-!
# Reports of a session

A session that is opened with reports has the languages of one that is opened without them, unless
one of the configured languages that are registered lists an extension twice. Without reports no
command ever ends with the error about a report.
-/

namespace Highlighter

namespace Registry

/-- Among definitions that are registered one after the other, as long as none of them fails, there
is one whose language takes an extension from itself. -/
inductive TakesOwnExtension : Registry → List Definition → Prop where
  | first {registry next : Registry} {definition : Definition} {rest : List Definition}
      {language : Language} (built : definition.build = .ok language)
      (accepted : registry.register language = .ok next)
      (repeated : ¬(foldedExtensions language).Nodup) :
      TakesOwnExtension registry (definition :: rest)
  | later {registry next : Registry} {definition : Definition} {rest : List Definition}
      (defined : registry.define false definition = .ok next)
      (further : TakesOwnExtension next rest) :
      TakesOwnExtension registry (definition :: rest)

theorem takesOwnExtension_singleton_iff {registry : Registry} {definition : Definition} :
    registry.TakesOwnExtension [definition] ↔
      ∃ language next, definition.build = .ok language ∧
        registry.register language = .ok next ∧ ¬(foldedExtensions language).Nodup := by
  constructor
  · intro takes
    cases takes with
    | first built accepted repeated => exact ⟨_, _, built, accepted, repeated⟩
    | later _ further => nomatch further
  · rintro ⟨language, next, built, accepted, repeated⟩
    exact .first built accepted repeated

theorem canReport_eq_true_iff (language : Language) :
    canReport language = true ↔ (foldedExtensions language).Nodup := by
  simp [canReport]

section

variable {registry next : Registry} {definition : Definition} {language : Language}

theorem define_of_build (built : definition.build = .ok language) (reported : Bool) :
    registry.define reported definition = do
      let next ← (registry.register language).mapError Error.registry
      if reported && !canReport language then throw (.unreportable language.name)
      return next := by
  rw [define, built]
  rfl

theorem define_of_register (built : definition.build = .ok language)
    (accepted : registry.register language = .ok next) (reported : Bool) :
    registry.define reported definition =
      if reported && !canReport language then .error (.unreportable language.name)
      else .ok next := by
  rw [define_of_build built, accepted]
  cases reported && !canReport language <;> rfl

end

/-- Reports keep only those definitions from being registered whose language takes an extension
from itself. -/
theorem define_cases (registry : Registry) (definition : Definition) :
    (∃ language next, definition.build = .ok language ∧ registry.register language = .ok next ∧
        ¬(foldedExtensions language).Nodup ∧
        registry.define true definition = .error (.unreportable language.name)) ∨
      registry.define true definition = registry.define false definition := by
  cases built : definition.build with
  | error error => exact Or.inr (by simp only [define, built]; rfl)
  | ok language =>
      cases accepted : registry.register language with
      | error error =>
          exact Or.inr (by rw [define_of_build built, define_of_build built, accepted]; rfl)
      | ok next =>
          have defined := define_of_register built accepted
          by_cases reportable : canReport language
          · exact Or.inr (by simp [defined, reportable])
          · refine Or.inl ⟨language, next, rfl, accepted, ?_, by simp [defined, reportable]⟩
            rwa [canReport_eq_true_iff] at reportable

/-- A language that takes an extension from itself keeps definitions from being registered with
reports. -/
theorem TakesOwnExtension.foldlM_define {registry : Registry} {definitions : List Definition}
    (takes : registry.TakesOwnExtension definitions) :
    ∃ name, definitions.foldlM (define · true) registry = .error (.unreportable name) := by
  induction takes with
  | @first registry next definition rest language built accepted repeated =>
      have unreportable : canReport language = false := by simpa [canReport] using repeated
      refine ⟨language.name, ?_⟩
      simp [define_of_register built accepted, unreportable]
      rfl
  | @later registry next definition rest defined further ih =>
      -- With reports, the run may fail before it comes to the language in question.
      rcases registry.define_cases definition with ⟨language, _, _, _, _, unreportable⟩ | same
      · exact ⟨language.name, by rw [List.foldlM_cons, unreportable]; rfl⟩
      · rw [List.foldlM_cons, same, defined]
        exact ih

theorem foldlM_define_of_not_takesOwnExtension {registry : Registry}
    {definitions : List Definition} (keeps : ¬registry.TakesOwnExtension definitions) :
    definitions.foldlM (define · true) registry = definitions.foldlM (define · false) registry := by
  induction definitions generalizing registry with
  | nil => rw [List.foldlM_nil, List.foldlM_nil]
  | cons definition rest ih =>
      rcases registry.define_cases definition with
        ⟨language, next, built, accepted, repeated, _⟩ | same
      · exact absurd (.first built accepted repeated) keeps
      · rw [List.foldlM_cons, List.foldlM_cons, same]
        cases defined : registry.define false definition with
        | error error => simp only [bind, Except.bind]
        | ok next => exact ih fun further => keeps (.later defined further)

end Registry

namespace Config

section

variable {config : Config}

theorem registry_of_takesOwnExtension
    (takes : Builtin.registry.TakesOwnExtension config.languages) :
    ∃ name, config.registry true = .error (.unreportable name) := by
  rcases takes.foldlM_define with ⟨name, failed⟩
  refine ⟨name, ?_⟩
  rw [registry, failed]
  rfl

theorem registry_of_not_takesOwnExtension
    (keeps : ¬Builtin.registry.TakesOwnExtension config.languages) :
    config.registry true = config.registry false := by
  rw [registry, registry, Registry.foldlM_define_of_not_takesOwnExtension keeps]

end

end Config

/-! ### Without reports -/

/-- The result is not the error about a report. -/
def IsReportable {α : Type} (result : Except Error α) : Prop :=
  ∀ name, result ≠ .error (.unreportable name)

theorem isReportable_ok {α : Type} (value : α) : IsReportable (.ok value : Except Error α) :=
  fun _ same => nomatch same

theorem isReportable_mapError {ε α : Type} {wrap : ε → Error}
    (ordinary : ∀ error name, wrap error ≠ .unreportable name) (result : Except ε α) :
    IsReportable (result.mapError wrap) := by
  intro name same
  cases result with
  | ok value => nomatch same
  | error error => exact ordinary error name (Except.error.inj same)

theorem IsReportable.bind {α β : Type} {result : Except Error α} {next : α → Except Error β}
    (reportable : IsReportable result) (further : ∀ value, IsReportable (next value)) :
    IsReportable (result >>= next) := by
  intro name same
  cases result with
  | ok value => exact further value name same
  | error error => exact reportable name (congrArg Except.error (Except.error.inj same))

theorem IsReportable.map {α β : Type} {result : Except Error α} (reportable : IsReportable result)
    (change : α → β) : IsReportable (result.map change) :=
  reportable.bind fun value => isReportable_ok (change value)

theorem Registry.isReportable_define (registry : Registry) (definition : Definition) :
    IsReportable (registry.define false definition) :=
  (isReportable_mapError (by simp) definition.build).bind fun language =>
    (isReportable_mapError (by simp) (registry.register language)).bind isReportable_ok

theorem isReportable_foldlM {α β : Type} {step : β → α → Except Error β}
    (reportable : ∀ state item, IsReportable (step state item)) (items : List α) (state : β) :
    IsReportable (items.foldlM step state) := by
  induction items generalizing state with
  | nil => exact isReportable_ok state
  | cons item rest ih =>
      rw [List.foldlM_cons]
      exact (reportable state item).bind ih

theorem Config.isReportable_registry (config : Config) : IsReportable (config.registry false) := by
  have defined := isReportable_foldlM Registry.isReportable_define config.languages Builtin.registry
  refine defined.bind fun registry => ?_
  cases config.defaultLanguage with
  | none => exact isReportable_ok registry
  | some name =>
      dsimp only
      split
      · nofun
      · exact isReportable_ok registry

theorem Config.isReportable_load (files : FileTree) (path : String) (processors : Nat) :
    IsReportable (Config.load files path processors) := by
  have read : IsReportable (files.readText path) := by
    unfold FileTree.readText
    split
    · split <;> nofun
    · nofun
  unfold Config.load
  split
  · nofun
  · refine read.bind fun text => ?_
    split
    · nofun
    · exact (isReportable_mapError (by simp) _).bind fun _ => isReportable_ok _

theorem Config.isReportable_find (files : FileTree) (home settings : Option String)
    (processors : Nat) : IsReportable (Config.find files home settings processors) := by
  unfold Config.find
  split
  · exact isReportable_load files _ processors
  · exact isReportable_ok _

namespace Session

theorem isReportable_ofConfig (config : Config) (isColoured : Bool) :
    IsReportable (ofConfig config isColoured false) :=
  config.isReportable_registry.bind fun _ =>
    (isReportable_mapError (by simp) config.styles).bind fun _ => isReportable_ok _

theorem isReportable_source (inputs : Inputs) (path : String) :
    IsReportable (inputs.source path) := by
  unfold Inputs.source
  split
  · split <;> nofun
  · split
    · nofun
    · nofun
    · split <;> nofun

theorem isReportable_scan (session : Session) (inputs : Inputs) (language : Option String)
    (path : String) : IsReportable (session.scan inputs language path) :=
  (isReportable_source inputs path).bind fun _ =>
    (isReportable_mapError (by simp) _).bind fun _ => isReportable_ok _

theorem isReportable_completion (failed : List String) : IsReportable (completion failed) := by
  unfold completion
  split <;> nofun

theorem isReportable_document (session : Session) : IsReportable session.document := by
  unfold document
  -- The text is made opaque so that nothing computes it.
  generalize session.config.toText? = text
  cases text with
  | none => nofun
  | some text => exact isReportable_ok text

end Session

theorem Config.isReportable_save (config : Config) (files : FileTree) (path : String) :
    IsReportable (config.save files path).1 := by
  unfold Config.save
  generalize config.toText? = text
  generalize files.makeParents path = parents
  rcases parents with ⟨succeeded, parents⟩
  cases succeeded with
  | false => nofun
  | true =>
      cases text with
      | none => nofun
      | some text =>
          dsimp only
          split
          · nofun
          · split <;> nofun

theorem Effect.isReportable_ofOutput {output : Except Error String}
    (reportable : IsReportable output) (files : FileTree) :
    IsReportable (Effect.ofOutput files output).result := by
  cases output with
  | ok text => exact isReportable_ok ()
  | error error => exact fun name same => reportable name (congrArg _ (Except.error.inj same))

/-- No command ends with the error about a report. -/
theorem Command.isReportable_run (command : Command) (session : Session) (inputs : Inputs) :
    IsReportable (command.run session inputs).result := by
  cases command with
  | tokens path language format =>
      have listed := (session.isReportable_scan inputs language path).map (Listing.write format)
      exact Effect.isReportable_ofOutput listed inputs.files
  | highlight paths language jobs =>
      simp only [run, Session.highlight]
      split
      · next failed =>
          split at failed
          · rcases Except.error.inj failed with rfl
            nofun
          · nomatch failed
      · exact Session.isReportable_completion _
  | languages => exact isReportable_ok ()
  | config target =>
      cases target with
      | none => exact Effect.isReportable_ofOutput session.isReportable_document inputs.files
      | some path =>
          have saves := session.config.isReportable_save inputs.files path
          rcases saved : session.config.save inputs.files path with ⟨result, files⟩
          rw [saved] at saves
          simpa only [run, saved] using saves

end Highlighter
