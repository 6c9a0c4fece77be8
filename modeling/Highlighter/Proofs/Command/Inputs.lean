import Highlighter.Command.Tokens
import Highlighter.Proofs.Language.WellFormed
import Highlighter.Proofs.Registry.ListModel

/-!
# What inputs hold

An input has a source exactly if it holds the bytes of a text, which is then the source. An input
that can be read and whose language is found is scanned.
-/

namespace Highlighter

/-- Bytes are decoded to the one text that they encode. -/
theorem Text.fromUTF8?_eq_some_iff {bytes : ByteArray} {text : String} :
    String.fromUTF8? bytes = some text ↔ bytes = text.toUTF8 := by
  constructor
  · intro decoded
    unfold String.fromUTF8? at decoded
    split at decoded
    · rcases Option.some.inj decoded with rfl
      rfl
    · nomatch decoded
  · rintro rfl
    unfold String.fromUTF8?
    rw [String.toUTF8_eq_toByteArray, dif_pos text.isValidUTF8]
    rfl

namespace Inputs

variable {inputs : Inputs} {path source : String}

/-- The input with the path is there and has the contents. -/
def Holds (inputs : Inputs) (path : String) (contents : ByteArray) : Prop :=
  if path = standardPath then inputs.standard = contents
  else inputs.files.find? path = some (.file contents)

theorem source_eq_ok_iff :
    inputs.source path = .ok source ↔ inputs.Holds path source.toUTF8 := by
  by_cases standard : path = standardPath
  · rw [Inputs.source, Holds, if_pos standard, if_pos standard, ← Text.fromUTF8?_eq_some_iff]
    cases String.fromUTF8? inputs.standard <;> simp
  · rw [Inputs.source, Holds, if_neg standard, if_neg standard]
    cases found : inputs.files.find? path with
    | none => simp
    | some node =>
        cases node with
        | directory entries => simp
        | file contents =>
            simp only [Option.some.injEq, FileNode.file.injEq, ← Text.fromUTF8?_eq_some_iff]
            cases String.fromUTF8? contents <;> simp

end Inputs

namespace Session

/-- An input is scanned exactly if it is the text of the source and has a language. -/
theorem scan_eq_ok_iff {session : Session} {inputs : Inputs} {explicit : Option String}
    {path : String} {tokens : List Token} :
    session.scan inputs explicit path = .ok tokens ↔
      ∃ source language, inputs.Holds path source.toUTF8 ∧
        session.resolve explicit path = .ok language ∧ language.tokenize source = tokens := by
  simp only [← Inputs.source_eq_ok_iff]
  rw [scan, Definition.bind_eq_ok_iff]
  constructor
  · rintro ⟨source, read, found⟩
    rcases Definition.bind_eq_ok_iff.mp found with ⟨language, resolved, scanned⟩
    cases outcome : session.resolve explicit path with
    | error error =>
        rw [outcome] at resolved
        nomatch resolved
    | ok found =>
        rw [outcome] at resolved
        rcases Except.ok.inj resolved with rfl
        exact ⟨source, found, read, rfl, Except.ok.inj scanned⟩
  · rintro ⟨source, language, read, resolved, rfl⟩
    refine ⟨source, read, ?_⟩
    rw [resolved]
    rfl

/-! ### A session without a configuration -/

/-- The session without a configuration and without colours. -/
def initial : Session := ⟨{}, Builtin.registry, .default, false⟩

/-- Every folded name of a built-in language leads to one in a session without a configuration. -/
theorem exists_resolve_initial {name : String} (path : String)
    (known : Text.foldCase (Text.trim name) ∈
      (Builtin.languages.map Registry.foldedNames).flatten) :
    ∃ language, initial.resolve (some name) path = .ok language := by
  rcases List.mem_flatten.mp known with ⟨names, listed, member⟩
  rcases List.mem_map.mp listed with ⟨language, held, rfl⟩
  rw [← Builtin.languages_registry] at held
  have called : language.isCalled (Text.trim name) := by
    rw [Language.isCalled_eq_decide]
    exact decide_eq_true member
  have consistent := Builtin.reachable_registry.isConsistent
  have found := consistent.find?_eq_some_iff.mpr ⟨held, called⟩
  refine ⟨language, ?_⟩
  simp only [resolve, initial, Registry.get_eq_ok_iff, found]

end Session

end Highlighter
