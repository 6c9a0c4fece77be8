import Highlighter.Command.Basic
import Highlighter.Proofs.Command.Inputs
import Highlighter.Proofs.Scanner.Coverage

/-!
# The highlight command

Files are highlighted each on its own: only what stands at the path of a file decides about its
result. The texts are shown in the order of the paths, and the paths of the files that failed are
named in this order in a single error.
-/

namespace Highlighter

namespace Session

variable {session : Session} {inputs others : Inputs} {explicit : Option String} {path : String}

/-- The result of a file is the one that it has alone, among whatever other files. Without colours,
it is the text that the file holds, if it holds one and its language is found. -/
structure IsOwnResult (session : Session) (inputs : Inputs) (explicit : Option String)
    (jobs : Option Nat) (path : String) (result : Except Error String) : Prop where
  alone : ∀ others : Inputs, others.files.find? path = inputs.files.find? path →
    session.highlight others explicit jobs [path] = .ok [result]
  verbatim : session.isColoured = false → ∀ text, result = .ok text ↔
    inputs.Holds path text.toUTF8 ∧ ∃ language, session.resolve explicit path = .ok language

/-- The paths of the files that cannot be highlighted. -/
def failing (session : Session) (inputs : Inputs) (explicit : Option String)
    (paths : List String) : List String :=
  paths.filter fun path => (session.highlightInput inputs explicit path).toOption.isNone

theorem mem_failing_iff {paths : List String} :
    path ∈ session.failing inputs explicit paths ↔
      path ∈ paths ∧ ¬∃ text, session.highlightInput inputs explicit path = .ok text := by
  rw [failing, List.mem_filter]
  cases session.highlightInput inputs explicit path <;> simp [Except.toOption]

/-! ### One file -/

theorem highlightInput_congr (notStandard : path ≠ Inputs.standardPath)
    (same : others.files.find? path = inputs.files.find? path) :
    session.highlightInput others explicit path = session.highlightInput inputs explicit path := by
  have sameSource : others.source path = inputs.source path := by
    rw [Inputs.source, Inputs.source, if_neg notStandard, if_neg notStandard, same]
  rw [highlightInput, highlightInput, scan, scan, sameSource]

/-- Without colours, highlighting gives the text that the input holds if it has a language. -/
theorem highlightInput_eq_ok_iff (plain : session.isColoured = false) {text : String} :
    session.highlightInput inputs explicit path = .ok text ↔
      inputs.Holds path text.toUTF8 ∧ ∃ language, session.resolve explicit path = .ok language := by
  have verbatim : ∀ language source,
      session.render (Language.tokenize language source) = source := by
    intro language source
    rw [render, plain]
    exact language.joinLexemes_tokenize source
  rw [highlightInput]
  constructor
  · intro highlighted
    cases scanned : session.scan inputs explicit path with
    | error error =>
        rw [scanned] at highlighted
        nomatch highlighted
    | ok tokens =>
        rw [scanned] at highlighted
        rcases scan_eq_ok_iff.mp scanned with ⟨source, language, holds, resolved, rfl⟩
        have same := Except.ok.inj highlighted
        rw [verbatim] at same
        rw [← same]
        exact ⟨holds, language, resolved⟩
  · rintro ⟨holds, language, resolved⟩
    rw [scan_eq_ok_iff.mpr ⟨text, language, holds, resolved, rfl⟩]
    exact congrArg Except.ok (verbatim language text)

/-! ### All files -/

theorem highlightEach_eq_map {paths : List String} (noStandard : Inputs.standardPath ∉ paths) :
    session.highlightEach inputs explicit paths =
      paths.map (session.highlightInput inputs explicit) := by
  induction paths with
  | nil => rfl
  | cons path paths ih =>
      rw [List.mem_cons, not_or] at noStandard
      have kept : inputs.after path = inputs := if_neg (Ne.symm noStandard.1)
      rw [highlightEach, kept, ih noStandard.2, List.map_cons]

theorem failedPaths_map (paths : List String) :
    failedPaths paths (paths.map (session.highlightInput inputs explicit)) =
      session.failing inputs explicit paths := by
  induction paths with
  | nil => rfl
  | cons path paths ih =>
      rw [List.map_cons, failing, List.filter_cons, ← failing, ← ih]
      cases session.highlightInput inputs explicit path <;> rfl

theorem highlight_eq_map {jobs : Option Nat} {paths : List String}
    (allowed : jobs.getD session.config.jobs ≠ 0) (noStandard : Inputs.standardPath ∉ paths) :
    session.highlight inputs explicit jobs paths =
      .ok (paths.map (session.highlightInput inputs explicit)) := by
  rw [highlight, if_neg allowed, highlightEach_eq_map noStandard]

theorem completion_eq_error {failed : List String} {error : Error}
    (notDone : completion failed = .error error) : error = .filesFailed failed := by
  by_cases empty : failed = []
  · rw [completion, if_pos empty] at notDone
    nomatch notDone
  · rw [completion, if_neg empty] at notDone
    exact (Except.error.inj notDone).symm

theorem completion_failing_eq_ok_iff {paths : List String} :
    completion (session.failing inputs explicit paths) = .ok () ↔
      ∀ path ∈ paths, ∃ text, session.highlightInput inputs explicit path = .ok text := by
  have done : completion (session.failing inputs explicit paths) = .ok () ↔
      session.failing inputs explicit paths = [] := by
    rw [completion]
    split <;> simp [*]
  rw [done, List.eq_nil_iff_forall_not_mem]
  simp only [mem_failing_iff, not_and, Classical.not_not]

theorem isOwnResult_highlightInput {jobs : Option Nat} (allowed : jobs.getD session.config.jobs ≠ 0)
    (notStandard : path ≠ Inputs.standardPath) :
    session.IsOwnResult inputs explicit jobs path
      (session.highlightInput inputs explicit path) where
  alone := by
    intro others same
    rw [highlight, if_neg allowed, highlightEach, highlightEach, highlightInput_congr notStandard same]
  verbatim := by
    intro plain text
    exact highlightInput_eq_ok_iff plain

end Session

namespace Command

theorem run_highlight {session : Session} {inputs : Inputs} {explicit : Option String}
    {jobs : Option Nat} {paths : List String} (allowed : jobs.getD session.config.jobs ≠ 0)
    (noStandard : Inputs.standardPath ∉ paths) :
    run session inputs (.highlight paths explicit jobs) =
      ⟨String.join (paths.filterMap fun path =>
          (session.highlightInput inputs explicit path).toOption),
        Session.completion (session.failing inputs explicit paths), inputs.files⟩ := by
  simp only [run, Session.highlight_eq_map allowed noStandard, Session.shown, List.filterMap_map,
    Function.comp_def, Session.failedPaths_map]

/-- Every file has its own result, in the order of the paths. The texts of those that succeeded are
shown one after the other, and the command succeeds if all of them did; or else the error names
those that failed. If no file may be scanned at a time, nothing is shown. -/
theorem run_highlight_each (session : Session) (inputs : Inputs) (explicit : Option String)
    (jobs : Option Nat) {paths : List String} (noStandard : Inputs.standardPath ∉ paths) :
    (jobs.getD session.config.jobs ≠ 0 →
      session.highlight inputs explicit jobs paths =
          .ok (paths.map (session.highlightInput inputs explicit)) ∧
        (∀ path ∈ paths, session.IsOwnResult inputs explicit jobs path
          (session.highlightInput inputs explicit path)) ∧
        ∃ result, run session inputs (.highlight paths explicit jobs) =
            ⟨String.join (paths.filterMap fun path =>
              (session.highlightInput inputs explicit path).toOption), result, inputs.files⟩ ∧
          (result = .ok () ↔
            ∀ path ∈ paths, ∃ text, session.highlightInput inputs explicit path = .ok text) ∧
          ∀ error, result = .error error →
            error = .filesFailed (session.failing inputs explicit paths) ∧
            error.message = "Command execution failed: " ++
              (toString (session.failing inputs explicit paths).length ++
                " file(s) failed to highlight: " ++
                ", ".intercalate (session.failing inputs explicit paths))) ∧
    (jobs.getD session.config.jobs = 0 →
      run session inputs (.highlight paths explicit jobs) = ⟨"", .error .noJobs, inputs.files⟩ ∧
        Error.noJobs.message = "Validation error: jobs must be at least 1") := by
  constructor
  · intro allowed
    refine ⟨Session.highlight_eq_map allowed noStandard, ?_, _, run_highlight allowed noStandard,
      Session.completion_failing_eq_ok_iff, ?_⟩
    · intro path member
      apply Session.isOwnResult_highlightInput allowed
      rintro rfl
      exact noStandard member
    · intro error notDone
      rw [Session.completion_eq_error notDone]
      exact ⟨rfl, rfl⟩
  · intro forbidden
    refine ⟨?_, rfl⟩
    simp only [run, Session.highlight, if_pos forbidden]

/-- A working directory with one file. -/
def soleFile : Inputs where
  files := { root := .directory [("a.c", .file "x=1;".toUTF8)], current := [] }

theorem highlightInput_soleFile :
    Session.initial.highlightInput soleFile (some "C") "a.c" = .ok "x=1;" := by
  apply (Session.highlightInput_eq_ok_iff rfl).mpr
  constructor
  · rw [Inputs.Holds, if_neg (by decide)]
    rfl
  · apply Session.exists_resolve_initial
    rw [Builtin.foldedNames_languages]
    decide

theorem run_highlight_each_soleFile :
    run .initial soleFile (.highlight ["a.c", "b.c", "a.c"] (some "C") none) =
        ⟨"x=1;x=1;", .error (.filesFailed ["b.c"]), soleFile.files⟩ ∧
      run .initial soleFile (.highlight ["a.c"] (some "C") (some 0)) =
        ⟨"", .error .noJobs, soleFile.files⟩ := by
  have noStandard : Inputs.standardPath ∉ ["a.c", "b.c", "a.c"] := by decide
  have present := highlightInput_soleFile
  have missing : Session.initial.highlightInput soleFile (some "C") "b.c" =
      .error (.inputMissing "b.c") := rfl
  constructor
  · rcases (run_highlight_each .initial soleFile (some "C") none noStandard).1 (by decide) with
      ⟨-, -, result, ran, succeeds, fails⟩
    rw [ran]
    cases result with
    | ok =>
        rcases succeeds.mp rfl "b.c" (by decide) with ⟨text, succeeded⟩
        nomatch missing.symm.trans succeeded
    | error error =>
        rw [(fails error rfl).1]
        simp [Session.failing, present, missing, Except.toOption, String.join]
  · exact ((run_highlight_each .initial soleFile (some "C") (some 0) (by decide)).2 rfl).1

end Command

end Highlighter
