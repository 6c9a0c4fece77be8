import Highlighter.Command.Basic
import Highlighter.Proofs.Command.Inputs
import Highlighter.Proofs.Listing.Decoding
import Highlighter.Proofs.Scanner.Coverage

/-!
# The tokens command

What the tokens command writes about an input is read back as the tokens of its source, in both
forms, and their lexemes make up the source again.
-/

namespace Highlighter

namespace Command

variable {session : Session} {inputs : Inputs} {explicit : Option String} {path source : String}
  {language : Language}

/-- The tokens of an input that can be read and has a language are listed, and nothing else
happens. -/
theorem run_tokens (format : ListingFormat) (readable : inputs.Holds path source.toUTF8)
    (resolved : session.resolve explicit path = .ok language) :
    run session inputs (.tokens path explicit format) =
      ⟨Listing.write format (language.tokenize source), .ok (), inputs.files⟩ := by
  have scanned : session.scan inputs explicit path = .ok (language.tokenize source) :=
    Session.scan_eq_ok_iff.mpr ⟨source, language, readable, resolved, rfl⟩
  simp only [run, Session.listTokens, scanned]
  rfl

/-- Listing the tokens of an input that can be read and has a language succeeds. The output is read
back as the tokens, of which every line or every object holds one, and the lexemes make up the
input. -/
theorem run_tokens_decodes (format : ListingFormat)
    (readable : inputs.Holds path source.toUTF8)
    (resolved : session.resolve explicit path = .ok language) :
    ∃ output, run session inputs (.tokens path explicit format) =
        ⟨output, .ok (), inputs.files⟩ ∧
      Listing.read? format output = some (language.tokenize source) ∧
      (format = .lines → ∃ lines, output.toList.splitOn '\n' = lines ++ [[]] ∧
        lines.map Listing.readLine? = (language.tokenize source).map some) ∧
      (format = .json → ∃ items, Json.read? output = some (.array items) ∧
        items.map Listing.ofValue? = (language.tokenize source).map some) ∧
      Token.joinLexemes (language.tokenize source) = source := by
  refine ⟨_, run_tokens format readable resolved, Listing.read?_write format _, ?_, ?_,
    language.joinLexemes_tokenize source⟩
  · rintro rfl
    refine ⟨_, Listing.splitOn_write_lines _, ?_⟩
    simp only [List.map_map, Function.comp_def, Listing.readLine?_lineText]
  · rintro rfl
    refine ⟨_, Listing.read?_array _, ?_⟩
    simp only [List.map_map, Function.comp_def, Listing.ofValue?_value]

/-- A file whose tokens hold quotes, line breaks and what looks like an escape. -/
def greeting : Inputs where
  files := {
    root := .directory [("main.c", .file "/* \"\n\\n */ puts(\"\\t\");\n".toUTF8)]
    current := [] }

theorem run_tokens_decodes_greeting :
    ∃ language output, Session.initial.resolve (some "C") "main.c" = .ok language ∧
      run .initial greeting (.tokens "main.c" (some "C") .json) =
        ⟨output, .ok (), greeting.files⟩ ∧
      Listing.read? .json output =
        some (Language.tokenize language "/* \"\n\\n */ puts(\"\\t\");\n") := by
  have readable : greeting.Holds "main.c" "/* \"\n\\n */ puts(\"\\t\");\n".toUTF8 := by
    rw [Inputs.Holds, if_neg (by decide)]
    rfl
  have known : Text.foldCase (Text.trim "C") ∈
      (Builtin.languages.map Registry.foldedNames).flatten := by
    rw [Builtin.foldedNames_languages]
    decide
  rcases Session.exists_resolve_initial "main.c" known with ⟨language, resolved⟩
  rcases run_tokens_decodes .json readable resolved with ⟨output, ran, read, -⟩
  exact ⟨language, output, resolved, ran, read⟩

end Command

end Highlighter
