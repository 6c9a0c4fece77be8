import Highlighter.CommandLine.Run
import Highlighter.Proofs.CommandLine.LeadingSetting
import Highlighter.Proofs.Config.RoundTrip
import Highlighter.Proofs.Registry.Reports
import Highlighter.Proofs.Session.Reports

/-!
# Runs with reports

Reports that are asked for in front of a command line change neither its output nor its exit code,
with one exception: where a configured language lists an extension twice, the run fails, and without
reports it does not fail in this way.
-/

namespace Highlighter.CommandLine

/-- The configuration that counts for a command line has a language that takes an extension from
itself when it is registered. -/
def StumblesOverReports (environment : Environment) (words : List String) (files : FileTree) :
    Prop :=
  ∃ arguments config, Arguments.ofWords environment words = .ok arguments ∧
    arguments.loadConfig environment files = .ok config ∧
    Builtin.registry.TakesOwnExtension config.languages

namespace Arguments

variable {arguments : Arguments} {environment : Environment} {files : FileTree} {config : Config}

theorem openSession_of_loadConfig (loaded : arguments.loadConfig environment files = .ok config) :
    arguments.openSession environment files =
      Session.ofConfig config arguments.isColoured arguments.isVerbose := by
  rw [openSession, loaded]
  rfl

theorem openSession_of_loadConfig_error {error : Error}
    (failed : arguments.loadConfig environment files = .error error) :
    arguments.openSession environment files = .error error := by
  rw [openSession, failed]
  rfl

theorem openSession_withReports_of_takesOwnExtension
    (loaded : arguments.loadConfig environment files = .ok config)
    (takes : Builtin.registry.TakesOwnExtension config.languages) :
    ∃ name, arguments.withReports.openSession environment files = .error (.unreportable name) := by
  rcases Config.registry_of_takesOwnExtension takes with ⟨name, failed⟩
  have loadedToo : arguments.withReports.loadConfig environment files = .ok config := loaded
  refine ⟨name, ?_⟩
  rw [openSession_of_loadConfig loadedToo, withReports, Session.ofConfig, failed]
  rfl

theorem openSession_withReports_of_not_takesOwnExtension (silent : arguments.isVerbose = false)
    (keeps : ∀ config, arguments.loadConfig environment files = .ok config →
      ¬Builtin.registry.TakesOwnExtension config.languages) :
    arguments.withReports.openSession environment files =
      arguments.openSession environment files := by
  have loadedToo : arguments.withReports.loadConfig environment files =
      arguments.loadConfig environment files := rfl
  cases loaded : arguments.loadConfig environment files with
  | error error =>
      rw [openSession_of_loadConfig_error loaded,
        openSession_of_loadConfig_error (loadedToo.trans loaded)]
  | ok config =>
      have same := Config.registry_of_not_takesOwnExtension (keeps config loaded)
      rw [openSession_of_loadConfig loaded, openSession_of_loadConfig (loadedToo.trans loaded),
        Session.ofConfig, Session.ofConfig, silent, withReports, same]

theorem isReportable_openSession (silent : arguments.isVerbose = false) :
    IsReportable (arguments.openSession environment files) := by
  have loads : IsReportable (arguments.loadConfig environment files) := by
    unfold loadConfig
    split
    · exact Config.isReportable_load files _ _
    · exact Config.isReportable_find files _ _ _
  refine loads.bind fun config => ?_
  rw [silent]
  exact Session.isReportable_ofConfig config arguments.isColoured

end Arguments

namespace Status

theorem code_failed_ne {α : Type} {error : Error}
    (reportable : IsReportable (.error error : Except Error α)) : (failed error).code ≠ 101 := by
  cases error with
  | unreportable language => exact absurd rfl (reportable language)
  | inputOutput | definition _ | registry _ | configuration _ | inputMissing _ | inputNotFile _
  | inputNotText _ | noJobs | filesFailed _ => exact (by decide : 1 ≠ 101)

theorem code_ofResult_ne {result : Except Error Unit} (reportable : IsReportable result) :
    (ofResult result).code ≠ 101 := by
  cases result with
  | ok value => exact (by decide : success.code ≠ 101)
  | error error => exact code_failed_ne reportable

end Status

section

variable {environment : Environment} {words : List String}

theorem run_of_openSession_error {inputs : Inputs} {arguments : Arguments} {error : Error}
    (understood : Arguments.ofWords environment words = .ok arguments)
    (failed : arguments.openSession environment inputs.files = .error error) :
    run words environment inputs = ⟨"", .failed error, inputs.files⟩ := by
  simp only [run, understood, failed]

theorem run_of_openSession_ok {inputs : Inputs} {arguments : Arguments} {session : Session}
    (understood : Arguments.ofWords environment words = .ok arguments)
    (opened : arguments.openSession environment inputs.files = .ok session) :
    run words environment inputs =
      ⟨(arguments.command.run session inputs).output,
        .ofResult (arguments.command.run session inputs).result,
        (arguments.command.run session inputs).files⟩ := by
  simp only [run, understood, opened]

theorem run_verbose_of_stumblesOverReports (quiet : ¬Arguments.SetsVerbose environment words)
    {inputs : Inputs} (stumbles : StumblesOverReports environment words inputs.files) :
    ∃ name, run ("-v" :: words) environment inputs =
      ⟨"", .failed (.unreportable name), inputs.files⟩ := by
  rcases stumbles with ⟨arguments, config, understood, loaded, takes⟩
  rcases Arguments.openSession_withReports_of_takesOwnExtension loaded takes with ⟨name, failed⟩
  have asked : Arguments.ofWords environment ("-v" :: words) = .ok arguments.withReports := by
    rw [Arguments.ofWords_verbose quiet, understood]
    rfl
  exact ⟨name, run_of_openSession_error asked failed⟩

theorem run_verbose_of_not_stumblesOverReports (quiet : ¬Arguments.SetsVerbose environment words)
    {inputs : Inputs} (steady : ¬StumblesOverReports environment words inputs.files) :
    run ("-v" :: words) environment inputs = run words environment inputs := by
  have asked := Arguments.ofWords_verbose quiet
  cases understood : Arguments.ofWords environment words with
  | error stop =>
      rw [understood] at asked
      rw [run, run, asked, understood]
      rfl
  | ok arguments =>
      -- The request for reports is read when the session is opened, and nowhere else.
      have same := Arguments.openSession_withReports_of_not_takesOwnExtension
        (Arguments.isVerbose_eq_false quiet understood)
        fun config loaded takes => steady ⟨arguments, config, understood, loaded, takes⟩
      rw [understood] at asked
      simp only [run, asked, understood, Except.map, same]
      rfl

/-- Without reports, the program never ends with the code that tells of them. -/
theorem code_run_ne (quiet : ¬Arguments.SetsVerbose environment words) (inputs : Inputs) :
    (run words environment inputs).status.code ≠ 101 := by
  cases understood : Arguments.ofWords environment words with
  | error stop => cases stop <;> simp [run, understood, Status.code]
  | ok arguments =>
      have opens : IsReportable (arguments.openSession environment inputs.files) :=
        Arguments.isReportable_openSession (Arguments.isVerbose_eq_false quiet understood)
      cases opened : arguments.openSession environment inputs.files with
      | error error =>
          rw [run_of_openSession_error understood opened]
          exact Status.code_failed_ne (opened ▸ opens)
      | ok session =>
          rw [run_of_openSession_ok understood opened]
          exact Status.code_ofResult_ne (arguments.command.isReportable_run session inputs)

end

/-! ### Configurations with one language -/

/-- A language with the extension `x` and one more. -/
def twoExtensions (other : String) : Definition where
  name := "mini"
  extensions := ["x", other]

/-- A configuration file with that language. -/
def twoExtensionsDocument (other : String) : String :=
  "[[language]]\nname = \"mini\"\nextensions = [\"x\", \"" ++ other ++ "\"]\n"

/-- The inputs with that configuration file in the working directory. -/
def twoExtensionsInputs (other : String) : Inputs where
  files := (FileTree.withWorkingDirectory ["home"]).put ["home", "tinct.toml"]
    (.file (twoExtensionsDocument other).toUTF8)

theorem toList_twoExtensionsDocument (other : String) :
    (twoExtensionsDocument other).toList =
      '[' :: '[' :: ("language".toList ++ [']', ']', '\n']) ++
        ((Config.line "name" "\"mini\"").toList ++
          (Config.line "extensions" ("[\"x\", \"" ++ other ++ "\"]")).toList) := by
  have text : twoExtensionsDocument other =
      "[[language]]\nname = \"mini\"\nextensions = [\"x\", \"" ++ other ++ "\"]\n" := rfl
  have opens : "[[language]]\nname = \"mini\"\nextensions = [\"x\", \"".toList =
      '[' :: '[' :: ("language".toList ++ [']', ']', '\n']) ++
        ("name".toList ++ ' ' :: '=' :: ' ' :: ("\"mini\"".toList ++ ['\n'])) ++
        ("extensions".toList ++ ' ' :: '=' :: ' ' :: "[\"x\", \"".toList) := rfl
  have closes : "\"]\n".toList = "\"]".toList ++ ['\n'] := rfl
  rw [text, String.toList_append, String.toList_append, opens, closes]
  simp only [Config.toList_line, String.toList_append, List.append_assoc, List.cons_append,
    List.nil_append]

/-- The document spells the header of one table and its two pairs, if the other extension needs no
escape. -/
theorem spells_twoExtensionsDocument {other : String}
    (plain : Toml.stringForm other.toList = '"' :: (other.toList ++ ['"'])) :
    Toml.Spells (twoExtensionsDocument other).toList
      (Toml.Statement.ofItem "language"
        [("name", .string "mini"), ("extensions", .array [.string "x", .string other])]) := by
  have header := Toml.Spells.tableItem (by decide : Toml.IsBareName "language")
  have name := Config.spells_textLine (by decide : Toml.IsBareName "name") "mini"
  have list (rest : List Char) :
      Toml.value? (("[\"x\", \"" ++ other ++ "\"]").toList ++ rest) =
        some (.array [.string "x", .string other], rest) := by
    have read := Toml.value?_two_strings "x" other rest
    have plainToo : Toml.stringForm "x".toList = ['"', 'x', '"'] := by decide
    rw [plain, plainToo] at read
    simpa using read
  have extensions := Config.spells_line
    (fun rest => Toml.IsBareName.keyPart?_eq (by decide : Toml.IsBareName "extensions")
      (by simp; decide)) fun rest => list ('\n' :: rest)
  have mini : Toml.writeString "mini" = "\"mini\"" := by decide
  rw [Config.textLine, mini] at name
  rw [toList_twoExtensionsDocument]
  exact header.append (name.append extensions)

theorem ofText?_twoExtensions {other : String}
    (plain : Toml.stringForm other.toList = '"' :: (other.toList ++ ['"'])) :
    Config.ofText? 1 (twoExtensionsDocument other) =
      some { languages := [twoExtensions other] } := by
  have noMark : (twoExtensionsDocument other).toList.head? ≠ some '\ufeff' := by
    rw [toList_twoExtensionsDocument]
    simp
  rw [Config.ofText?, (spells_twoExtensionsDocument plain).read?_eq noMark]
  rfl

/-- The meaning of the name of the command alone. -/
def listingLanguages : Arguments := ⟨false, none, true, .languages⟩

theorem ofWords_languages : Arguments.ofWords {} ["languages"] = .ok listingLanguages :=
  rfl

theorem not_setsVerbose_languages : ¬Arguments.SetsVerbose {} ["languages"] := by
  have items : Item.ofWords false ["languages"] = [.command .languages] := rfl
  rintro (set | ⟨lead, reading, isLead, read, given⟩)
  · nomatch set
  · rw [items, List.prefix_cons_iff] at isLead
    rcases isLead with rfl | ⟨rest, rfl, isRest⟩
    · cases read
      nomatch given
    · rcases List.prefix_nil.mp isRest with rfl
      cases read
      nomatch given

theorem loadConfig_twoExtensions (other : String)
    (plain : Toml.stringForm other.toList = '"' :: (other.toList ++ ['"'])) :
    listingLanguages.loadConfig {} (twoExtensionsInputs other).files =
      .ok { languages := [twoExtensions other] } := by
  have found : (twoExtensionsInputs other).files.find? Config.fileName =
      some (.file (twoExtensionsDocument other).toUTF8) := rfl
  exact Config.load_eq_ok rfl (ofText?_twoExtensions plain) found

/-- The configured language can be registered behind the built-in ones. -/
theorem exists_register_mini {language : Language}
    (named : Registry.foldedNames language = ["mini"]) :
    ∃ next, Builtin.registry.register language = .ok next := by
  have apart : ∀ names ∈ Builtin.languages.map Registry.foldedNames, "mini" ∉ names := by
    rw [Builtin.foldedNames_languages]
    decide
  have free : ∀ name ∈ Registry.foldedNames language, Builtin.registry.names[name]? = none := by
    intro name own
    rw [named, List.mem_singleton] at own
    rw [Builtin.reachable_registry.isConsistent.names_eq_none_iff, Builtin.languages_registry, own]
    exact fun owner member => apart _ (List.mem_map_of_mem member)
  rcases Registry.register_of_free free with ⟨next, accepted, _⟩
  exact ⟨next, accepted⟩

end Highlighter.CommandLine
