import Highlighter.Config.Document
import Highlighter.Proofs.Toml.Document
import Highlighter.Proofs.Toml.Table

/-!
# Reading written configurations

The written form of a configuration spells one statement for each setting, style and part of a
language. The tables built from these statements hold the settings again, so reading a written
configuration gives it back as it was.
-/

namespace Highlighter

open Toml (Value Entries Statement Spells Draft IsBareName)

namespace Config

/-! ### What is written -/

/-- The parts of a definition as they are written, without the characters that it lacks. -/
def partsOf (definition : Definition) : Entries :=
  [("name", .string definition.name),
    ("aliases", .array (definition.aliases.map .string)),
    ("extensions", .array (definition.extensions.map .string)),
    ("keywords", .array (definition.keywords.map .string)),
    ("types", .array (definition.types.map .string)),
    ("operator_start", .string definition.operatorStart),
    ("operator_continue", .string definition.operatorContinue),
    ("punctuation", .string definition.punctuation),
    ("number_chars", .string definition.numberChars),
    ("ident_extra", .string definition.wordExtra)] ++
  definition.directiveMarker.toList.map
    (fun c => ("directive_marker", .string (String.singleton c))) ++
  definition.verbatimPrefix.toList.map
    (fun c => ("verbatim_prefix", .string (String.singleton c)))

/-- The settings in front of the tables. -/
def settingsOf (config : Config) : Entries :=
  ("jobs", .integer config.jobs) ::
    config.defaultLanguage.toList.map fun name => ("default_language", .string name)

/-- The styles by the names of token kinds. -/
def styleEntriesOf (config : Config) : Entries :=
  config.theme.toList.map fun (kind, style) => (kind, .string style)

/-- The statements that a configuration is written as. -/
def statementsOf (config : Config) : List Statement :=
  config.settingsOf.map .ofEntry ++
    (.table [] "theme" :: config.styleEntriesOf.map .ofEntry) ++
    config.languages.flatMap fun definition => Statement.ofItem "language" (partsOf definition)

/-- The entries of a written configuration. -/
def entriesOf (config : Config) : Entries :=
  config.settingsOf ++ [("theme", .table .header config.styleEntriesOf)] ++
    Toml.arrayEntry "language" (config.languages.map partsOf)

/-! ### Lines -/

theorem toList_line (key value : String) :
    (line key value).toList = key.toList ++ ' ' :: '=' :: ' ' :: (value.toList ++ ['\n']) := by
  simp [line]

theorem spells_line {key : String} {value : Value} {keyText valueText : String}
    (isKey : ∀ rest, Toml.keyPart? (keyText.toList ++ ' ' :: rest) = some (key, ' ' :: rest))
    (isValue : ∀ rest,
      Toml.value? (valueText.toList ++ '\n' :: rest) = some (value, '\n' :: rest)) :
    Spells (line keyText valueText).toList [.ofEntry (key, value)] := by
  rw [toList_line]
  exact Spells.pair isKey isValue

theorem value?_writeString (text : String) (rest : List Char) :
    Toml.value? ((Toml.writeString text).toList ++ '\n' :: rest) =
      some (.string text, '\n' :: rest) := by
  rw [Toml.writeString, String.toList_ofList]
  exact Toml.nested?_of_string? _ (Toml.string?_writeString text (by simp) (by simp))

theorem spells_textLine {key : String} (bare : IsBareName key) (text : String) :
    Spells (textLine key text).toList [.ofEntry (key, .string text)] :=
  spells_line (fun rest => bare.keyPart?_eq (by simp; decide)) (value?_writeString text)

theorem spells_textsLines {key : String} (bare : IsBareName key) (texts : List String) :
    Spells (textsLines key texts).toList [.ofEntry (key, .array (texts.map .string))] :=
  spells_line (fun rest => bare.keyPart?_eq (by simp; decide))
    fun rest => Toml.value?_writeStrings texts ('\n' :: rest)

theorem spells_characterLine {key : String} (bare : IsBareName key) (character : Option Char) :
    Spells (characterLine key character).toList
      (character.toList.map fun c => .ofEntry (key, .string (String.singleton c))) := by
  cases character with
  | none => exact Spells.nil
  | some c => exact spells_textLine bare (String.singleton c)

theorem spells_styleLine (kind style : String) :
    Spells (line (Toml.writeKey kind) (Toml.writeString style)).toList
      [.ofEntry (kind, .string style)] :=
  spells_line (fun rest => Toml.keyPart?_writeKey kind (by simp; decide)) (value?_writeString style)

theorem spells_jobsLine {jobs : Nat} (small : Toml.fits jobs) :
    Spells (line "jobs" (toString jobs)).toList [.ofEntry ("jobs", .integer jobs)] :=
  spells_line (fun rest => IsBareName.keyPart?_eq (by decide) (by simp; decide))
    fun rest => Toml.value?_toString small (by simp; decide)

/-! ### Tables -/

theorem spells_languageTable (definition : Definition) :
    Spells (languageTable definition).toList
      (Statement.ofItem "language" (partsOf definition)) := by
  have header := (Spells.tableItem (by decide : IsBareName "language")).newline
  have written : '\n' :: '[' :: '[' :: ("language".toList ++ [']', ']', '\n']) =
      "\n[[language]]\n".toList := by decide
  rw [written] at header
  have name := spells_textLine (by decide : IsBareName "name") definition.name
  have aliases := spells_textsLines (by decide : IsBareName "aliases") definition.aliases
  have extensions := spells_textsLines (by decide : IsBareName "extensions") definition.extensions
  have keywords := spells_textsLines (by decide : IsBareName "keywords") definition.keywords
  have types := spells_textsLines (by decide : IsBareName "types") definition.types
  have operatorStart :=
    spells_textLine (by decide : IsBareName "operator_start") definition.operatorStart
  have operatorContinue :=
    spells_textLine (by decide : IsBareName "operator_continue") definition.operatorContinue
  have punctuation := spells_textLine (by decide : IsBareName "punctuation") definition.punctuation
  have numberChars := spells_textLine (by decide : IsBareName "number_chars") definition.numberChars
  have wordExtra := spells_textLine (by decide : IsBareName "ident_extra") definition.wordExtra
  have marker :=
    spells_characterLine (by decide : IsBareName "directive_marker") definition.directiveMarker
  have verbatim :=
    spells_characterLine (by decide : IsBareName "verbatim_prefix") definition.verbatimPrefix
  have table := header.append <| name.append <| aliases.append <| extensions.append <|
    keywords.append <| types.append <| operatorStart.append <| operatorContinue.append <|
    punctuation.append <| numberChars.append <| wordExtra.append <| marker.append verbatim
  unfold languageTable
  simp only [String.toList_append, List.append_assoc]
  simpa only [Statement.ofItem, partsOf, List.map_append, List.map_map, List.map_cons,
    List.cons_append, List.nil_append, Function.comp_def] using table

theorem spells_stylesTable (config : Config) :
    Spells ("\n[theme]\n" ++ String.join (config.theme.toList.map fun (kind, style) =>
        line (Toml.writeKey kind) (Toml.writeString style))).toList
      (.table [] "theme" :: config.styleEntriesOf.map .ofEntry) := by
  have header := (Spells.table (by decide : IsBareName "theme")).newline
  have written : '\n' :: '[' :: ("theme".toList ++ [']', '\n']) = "\n[theme]\n".toList := by decide
  rw [written] at header
  have styles := Spells.flatMap config.theme.toList fun entry =>
    spells_styleLine entry.1 entry.2
  have entries : config.styleEntriesOf.map .ofEntry = config.theme.toList.flatMap fun entry =>
      [Statement.ofEntry (entry.1, .string entry.2)] := by
    rw [styleEntriesOf, List.map_map, List.map_eq_flatMap]
    rfl
  rw [entries, String.toList_append, String.toList_join, List.flatMap_map]
  exact header.append styles

theorem spells_defaultLine (default : Option String) :
    Spells (match default with
        | some name => textLine "default_language" name
        | none => "").toList
      (default.toList.map fun name => .ofEntry ("default_language", .string name)) := by
  cases default with
  | none => exact Spells.nil
  | some name => exact spells_textLine (by decide : IsBareName "default_language") name

theorem spells_toText? {config : Config} {document : String}
    (written : config.toText? = some document) :
    Spells document.toList config.statementsOf := by
  unfold toText? at written
  split at written
  · next small =>
      rcases Option.some.inj written with rfl
      have jobs := spells_jobsLine small
      have default := spells_defaultLine config.defaultLanguage
      have styles := spells_stylesTable config
      have languages := Spells.flatMap config.languages spells_languageTable
      have document := (jobs.append default).append <| styles.append languages
      simp only [statementsOf, settingsOf, String.toList_append, String.toList_join,
        List.flatMap_map, List.append_assoc, List.map_cons, List.map_map, Function.comp_def,
        List.cons_append, List.nil_append] at document ⊢
      exact document
  · cases written

/-! ### The tables of a document -/

theorem nodup_partsOf (definition : Definition) : ((partsOf definition).map (·.1)).Nodup := by
  rcases definition with ⟨_, _, _, _, _, _, _, _, _, _, _ | _, _ | _⟩
  all_goals
    simp only [partsOf, List.map_append, List.map_cons, List.map_nil, Option.toList]
    decide

theorem nodup_styleEntriesOf (config : Config) : (config.styleEntriesOf.map (·.1)).Nodup := by
  have ascending := config.theme.ascending
  simp only [styleEntriesOf, List.map_map]
  refine List.pairwise_map.mpr (ascending.imp ?_)
  intro first second less same
  have equal : first.1 = second.1 := same
  rw [equal] at less
  exact String.lt_irrefl second.1 less

theorem lookup_settingsOf {config : Config} {name : String} (notJobs : name ≠ "jobs")
    (notDefault : name ≠ "default_language") : config.settingsOf.lookup name = none := by
  unfold settingsOf
  cases config.defaultLanguage with
  | none => simp [lookup_cons_eq_ite, notJobs]
  | some default => simp [lookup_cons_eq_ite, notJobs, notDefault]

theorem foldlM_settingsOf (config : Config) :
    (config.settingsOf.map .ofEntry).foldlM Draft.add? ⟨[], []⟩ =
      some ⟨config.settingsOf, []⟩ := by
  have distinct : (config.settingsOf.map (·.1)).Nodup := by
    unfold settingsOf
    cases config.defaultLanguage with
    | none => simp
    | some default => simp
  exact Toml.Leads.document.foldlM_pairs distinct

theorem foldlM_statementsOf (config : Config) :
    (config.statementsOf.foldlM Draft.add? ⟨[], []⟩).map Draft.entries =
      some config.entriesOf := by
  have noTheme : config.settingsOf.lookup "theme" = none :=
    lookup_settingsOf (by decide) (by decide)
  have noLanguage : (config.settingsOf ++
      [("theme", Value.table .header config.styleEntriesOf)]).lookup "language" = none := by
    rw [List.lookup_append, lookup_settingsOf (by decide) (by decide)]
    rfl
  have settings := config.foldlM_settingsOf
  have theme := Toml.foldlM_table noTheme config.nodup_styleEntriesOf []
  have distinct : ∀ pairs ∈ config.languages.map partsOf, (pairs.map (·.1)).Nodup := by
    intro pairs member
    rcases List.mem_map.mp member with ⟨definition, -, rfl⟩
    exact nodup_partsOf definition
  have languages := Toml.foldlM_items noLanguage distinct [] ["theme"]
  have noneYet : Toml.arrayEntry "language" [] = [] := rfl
  rw [List.flatMap_map, List.nil_append, noneYet, List.append_nil] at languages
  rw [statementsOf, List.append_assoc, List.foldlM_append, settings]
  simp only [Option.bind_eq_bind, Option.bind_some, List.foldlM_append, theme]
  exact languages

/-! ### Reading back -/

theorem mapM_map_eq_some {α β : Type} (write : α → β) (read : β → Option α)
    (inverse : ∀ item, read (write item) = some item) (items : List α) :
    (items.map write).mapM read = some items := by
  induction items with
  | nil => rfl
  | cons item items ih => simp [inverse, ih]

theorem textsOf?_map (texts : List String) : textsOf? (.array (texts.map .string)) = some texts :=
  mapM_map_eq_some Value.string textOf? (fun _ => rfl) texts

theorem definitionOf?_partsOf (definition : Definition) :
    definitionOf? (partsOf definition) = some definition := by
  rcases definition with ⟨_, _, _, _, _, _, _, _, _, _, _ | _, _ | _⟩
  all_goals
    simp [definitionOf?, partsOf, setPart?, textOf?, textsOf?_map, characterOf?]

theorem stylesOf?_styleEntriesOf (config : Config) (origin : Toml.TableOrigin) :
    stylesOf? (.table origin config.styleEntriesOf) = some config.theme := by
  rw [stylesOf?, styleEntriesOf, mapM_map_eq_some]
  · exact congrArg some (OrderedMap.ofList_toList config.theme)
  · intro entry
    rfl

theorem languagesOf?_map (definitions : List Definition) :
    languagesOf? (.tableArray (definitions.map partsOf)) = some definitions :=
  mapM_map_eq_some partsOf definitionOf? definitionOf?_partsOf definitions

theorem ofEntries?_entriesOf (config : Config) (processors : Nat) :
    ofEntries? processors config.entriesOf = some config := by
  have theme := stylesOf?_styleEntriesOf config .header
  have languages := languagesOf?_map config.languages
  rcases config with ⟨jobs, _ | name, styles, _ | ⟨definition, definitions⟩⟩
  all_goals
    simp_all [ofEntries?, standard, entriesOf, Toml.arrayEntry, settingsOf, set?, countOf?, textOf?]

theorem head_toText? {config : Config} {document : String}
    (written : config.toText? = some document) : document.toList.head? = some 'j' := by
  unfold toText? at written
  split at written
  · rcases Option.some.inj written with rfl
    simp [line]
  · nomatch written

theorem read?_toText? {config : Config} {document : String}
    (written : config.toText? = some document) :
    Toml.read? document = some config.entriesOf := by
  have noMark : document.toList.head? ≠ some '\ufeff' := by
    rw [head_toText? written]
    decide
  rw [(spells_toText? written).read?_eq noMark, config.foldlM_statementsOf]

/-- A written configuration is read back as it was. -/
theorem ofText?_toText? {config : Config} {document : String}
    (written : config.toText? = some document) (processors : Nat) :
    ofText? processors document = some config := by
  rw [ofText?, read?_toText? written]
  exact config.ofEntries?_entriesOf processors

end Config

end Highlighter
