import Highlighter.CommandLine.Arguments
import Highlighter.OrderedMap

/-!
# A setting in front of a command line

A setting that takes no value can be put in front of all words. As long as no part of the command
line gives it, every part is then taken as before, and ends the reading in the same way if it does,
with the setting in front of those of the outer level. Where the setting asks for reports and
nothing else does, all else that the command line means stays as it is.
-/

namespace Highlighter.CommandLine

section

variable {first name : Setting} {level outer inner : Level}

namespace Level

/-- Puts a setting without a value in front of the others. -/
def setFirst (first : Setting) (level : Level) : Level :=
  { level with settings := (first, "") :: level.settings }

theorem has_eq_any (level : Level) (name : Setting) :
    level.has name = level.settings.any (name = ·.1) := by
  rcases level with ⟨settings, operands⟩
  induction settings with
  | nil => rfl
  | cons setting rest ih =>
      rw [List.any_cons, ← ih]
      by_cases same : name = setting.1 <;> simp [has, value?, lookup_cons_eq_ite, same]

@[simp] theorem has_setFirst (level : Level) (first : Setting) :
    (level.setFirst first).has first = true := by
  simp [has_eq_any, setFirst]

theorem value?_setFirst (other : name ≠ first) :
    (level.setFirst first).value? name = level.value? name := by
  simp [value?, setFirst, lookup_cons_eq_ite, other]

theorem has_setFirst_of_ne (other : name ≠ first) :
    (level.setFirst first).has name = level.has name := by
  rw [has, has, value?_setFirst other]

/-- A setting in front of the others does not change how another one is added. -/
theorem set_setFirst (other : name ≠ first) (value : String) :
    (level.setFirst first).set name value = (level.set name value).map (setFirst first) := by
  rw [set, set, has_setFirst_of_ne other]
  split <;> rfl

theorem addOperand_setFirst (level : Level) (first : Setting) (topic : Topic) (text : String) :
    (level.setFirst first).addOperand topic text =
      (level.addOperand topic text).map (setFirst first) := by
  unfold addOperand
  rw [setFirst]
  split <;> rfl

/-- A level with one more setting gives that one and those it gave before. -/
theorem has_of_set {next : Level} {value : String} (added : level.set name value = .ok next)
    (other : Setting) : next.has other = (level.has other || name = other) := by
  unfold set at added
  split at added
  · nomatch added
  · rcases Except.ok.inj added with rfl
    simp [has_eq_any, eq_comm]

theorem set_cases (level : Level) (name : Setting) (value : String) :
    (∃ next, level.set name value = .ok next ∧ next.has name = true) ∨
      level.set name value = .error .misused := by
  cases added : level.set name value with
  | ok next => exact Or.inl ⟨next, rfl, by simp [has_of_set added]⟩
  | error stop =>
      unfold set at added
      split at added
      · exact Or.inr (added ▸ rfl)
      · nomatch added

end Level

namespace Progress

/-- Decides whether a setting has been read, with its value or without. -/
def gives (progress : Progress) (name : Setting) : Bool :=
  progress.level.has name || progress.unsettled.any (·.1 = name)

/-- Puts a setting without a value in front of those read so far. -/
def setFirst (first : Setting) (progress : Progress) : Progress :=
  { progress with level := progress.level.setFirst first }

theorem has_of_settle {progress : Progress} (settled : progress.settle = .ok level)
    (name : Setting) : level.has name = progress.gives name := by
  rcases progress with ⟨before, _ | ⟨last, _ | value⟩⟩
  · rcases Except.ok.inj settled with rfl
    simp [gives]
  · nomatch settled
  · simpa [gives] using Level.has_of_set settled name

/-- A setting in front of the others does not change whether the level is complete. -/
theorem settle_setFirst {progress : Progress} (silent : progress.gives first = false) :
    (progress.setFirst first).settle = progress.settle.map (Level.setFirst first) := by
  rcases progress with ⟨before, _ | ⟨last, _ | value⟩⟩
  · rfl
  · rfl
  · have other : last ≠ first := by
      rintro rfl
      simp [gives] at silent
    exact Level.set_setFirst other value

/-- A setting in front of the others does not change what one more part does, as long as the level
does not give it afterwards. -/
theorem ofItem_setFirst {topic : Topic} {item : Item}
    (silentAfter : ∀ next, ofItem topic level item = .ok next → next.gives first = false) :
    ofItem topic (level.setFirst first) item = (ofItem topic level item).map (setFirst first) := by
  cases item with
  | setting name value =>
      simp only [ofItem] at silentAfter ⊢
      by_cases same : name = first
      · subst same
        rcases level.set_cases name value with ⟨next, added, given⟩ | refused
        · have notGiven := silentAfter ⟨next, none⟩ (by rw [added]; rfl)
          simp [gives, given] at notGiven
        · have refusedToo : (level.setFirst name).set name value = .error .misused := by
            simp [Level.set]
          rw [refused, refusedToo]
          rfl
      · rw [Level.set_setFirst same]
        cases level.set name value <;> rfl
  | operand text =>
      simp only [ofItem, Level.addOperand_setFirst]
      cases level.addOperand topic text <;> rfl
  | pending _ | terminator | command _ | help _ | version | manual _ | unknown => rfl

/-- A part is the value that is to come, or is taken once the last setting is settled. -/
theorem accept_cases (topic : Topic) (unsettled : Option (Setting × Option String)) (item : Item) :
    (∃ name value, unsettled = some (name, none) ∧ item = .operand value) ∨
      ∀ level, accept topic ⟨level, unsettled⟩ item =
        (settle ⟨level, unsettled⟩).bind (ofItem topic · item) := by
  rcases unsettled with _ | ⟨name, _ | value⟩
  · exact Or.inr fun _ => rfl
  · cases item with
    | operand value => exact Or.inl ⟨name, value, rfl, rfl⟩
    | setting _ _ | pending _ | terminator | command _ | help _ | version | manual _ | unknown =>
        exact Or.inr fun _ => rfl
  · exact Or.inr fun _ => rfl

/-- A setting in front of the others does not change what becomes of a level with one more part, if
that level does not give it, neither before nor afterwards. -/
theorem accept_setFirst {topic : Topic} {progress : Progress} {item : Item}
    (silent : progress.gives first = false)
    (silentAfter : ∀ next, progress.accept topic item = .ok next → next.gives first = false) :
    (progress.setFirst first).accept topic item =
      (progress.accept topic item).map (setFirst first) := by
  have settles := settle_setFirst silent
  rcases progress with ⟨level, unsettled⟩
  rcases accept_cases topic unsettled item with ⟨name, value, rfl, rfl⟩ | taken
  · rfl
  · rw [taken] at silentAfter ⊢
    rw [setFirst] at settles ⊢
    rw [taken, settles]
    cases settled : settle ⟨level, unsettled⟩ with
    | error stop => rfl
    | ok complete =>
        rw [settled] at silentAfter
        exact ofItem_setFirst silentAfter

end Progress

namespace Reading

/-- Decides whether a setting has been read at one of the levels. -/
def gives (reading : Reading) (name : Setting) : Bool :=
  reading.outer.gives name || reading.inner.any (·.2.gives name)

/-- Puts a setting without a value in front of those of the outer level. -/
def setFirst (first : Setting) (reading : Reading) : Reading :=
  { reading with outer := reading.outer.setFirst first }

/-- As long as the parts are taken, none of them gives the setting. -/
def NeverGives (name : Setting) (reading : Reading) (items : List Item) : Prop :=
  ∀ lead next, lead <+: items → lead.foldlM accept reading = .ok next → next.gives name = false

section

variable {reading : Reading} {item : Item} {items : List Item}

theorem NeverGives.now (never : reading.NeverGives name items) : reading.gives name = false :=
  never [] reading List.nil_prefix rfl

theorem NeverGives.later (never : reading.NeverGives name (item :: items)) {next : Reading}
    (accepted : reading.accept item = .ok next) : next.NeverGives name items := by
  intro lead last isLead read
  refine never (item :: lead) last (by simpa using isLead) ?_
  rw [List.foldlM_cons, accepted]
  exact read

/-- In front of the name of the command a part brings that name, asks for help, or belongs to the
outer level. -/
theorem accept_cases (item : Item) :
    (∃ verb, item = .command verb) ∨ (∃ words, item = .manual words) ∨
      ∀ outer, accept ⟨outer, none⟩ item = (outer.accept .program item).map (⟨·, none⟩) := by
  cases item with
  | command verb => exact Or.inl ⟨verb, rfl⟩
  | manual words => exact Or.inr <| Or.inl ⟨words, rfl⟩
  | setting _ _ | pending _ | operand _ | terminator | help _ | version | unknown =>
      exact Or.inr <| Or.inr fun _ => rfl

/-- A setting in front of the others does not change what one more part does. -/
theorem accept_setFirst (silent : reading.gives first = false)
    (silentAfter : ∀ next, reading.accept item = .ok next → next.gives first = false) :
    (reading.setFirst first).accept item = (reading.accept item).map (setFirst first) := by
  rcases reading with ⟨outer, _ | ⟨verb, inner⟩⟩
  · rcases accept_cases item with ⟨verb, rfl⟩ | ⟨words, rfl⟩ | taken
    · rfl
    · rfl
    · have silentOuter : outer.gives first = false := by simpa [gives] using silent
      have silentOuterAfter : ∀ next, outer.accept .program item = .ok next →
          next.gives first = false := by
        intro next accepted
        have silentNext := silentAfter ⟨next, none⟩ (by rw [taken, accepted]; rfl)
        simpa [gives] using silentNext
      rw [setFirst, taken, taken, Progress.accept_setFirst silentOuter silentOuterAfter]
      cases outer.accept .program item <;> rfl
  · have taken : ∀ outer, accept ⟨outer, some (verb, inner)⟩ item =
        (inner.accept (.command verb) item).map fun inner => ⟨outer, some (verb, inner)⟩ :=
      fun _ => rfl
    rw [setFirst, taken, taken]
    cases inner.accept (.command verb) item <;> rfl

/-- A setting in front of the others does not change what the parts do that follow. -/
theorem foldlM_accept_setFirst (never : reading.NeverGives first items) :
    items.foldlM accept (reading.setFirst first) =
      (items.foldlM accept reading).map (setFirst first) := by
  -- The steps commute only while the setting is not given, so that is carried along the parts.
  induction items generalizing reading with
  | nil => rfl
  | cons item rest ih =>
      have taken := accept_setFirst never.now fun next accepted => (never.later accepted).now
      rw [List.foldlM_cons, List.foldlM_cons, taken]
      cases accepted : reading.accept item with
      | error stop => rfl
      | ok next => exact ih (never.later accepted)

theorem finish_setFirst (silent : reading.gives first = false) :
    (reading.setFirst first).finish =
      reading.finish.map fun (outer, verb, inner) => (outer.setFirst first, verb, inner) := by
  rcases reading with ⟨outer, _ | ⟨verb, progress⟩⟩
  · rfl
  · have silentOuter : outer.gives first = false := by
      rw [gives, Bool.or_eq_false_iff] at silent
      exact silent.1
    have settles := Progress.settle_setFirst silentOuter
    unfold finish setFirst
    dsimp only
    rw [settles]
    cases progress.settle with
    | error stop => rfl
    | ok inner => cases outer.settle <;> rfl

/-- What is given at the levels is what has been read. -/
theorem has_of_finish {verb : Verb} (finished : reading.finish = .ok (outer, verb, inner))
    (name : Setting) : reading.gives name = (outer.has name || inner.has name) := by
  rcases reading with ⟨before, _ | ⟨named, progress⟩⟩
  · nomatch finished
  · simp only [finish] at finished
    cases settledInner : progress.settle with
    | error stop =>
        rw [settledInner] at finished
        nomatch finished
    | ok innerLevel =>
        cases settledOuter : before.settle with
        | error stop =>
            rw [settledInner, settledOuter] at finished
            nomatch finished
        | ok outerLevel =>
            rw [settledInner, settledOuter] at finished
            cases finished
            rw [gives, Progress.has_of_settle settledOuter, Progress.has_of_settle settledInner]
            rfl

end

theorem ofWords_eq (words : List String) :
    ofWords words = ((Item.ofWords false words).foldlM accept {}).bind finish := rfl

/-- The letter of the setting that asks for reports sets it first at the outer level. -/
theorem ofWords_verbose {words : List String}
    (never : NeverGives .verbose {} (Item.ofWords false words)) :
    ofWords ("-v" :: words) =
      (ofWords words).map fun (outer, verb, inner) => (outer.setFirst .verbose, verb, inner) := by
  have letter : ofWords ("-v" :: words) =
      ((Item.ofWords false words).foldlM accept (setFirst .verbose {})).bind finish := rfl
  rw [letter, ofWords_eq, foldlM_accept_setFirst never]
  cases read : (Item.ofWords false words).foldlM accept {} with
  | error stop => rfl
  | ok reading => exact finish_setFirst (never _ reading (List.prefix_refl _) read)

theorem silent_of_ofWords {words : List String} {verb : Verb}
    (never : NeverGives name {} (Item.ofWords false words))
    (read : ofWords words = .ok (outer, verb, inner)) :
    outer.has name = false ∧ inner.has name = false := by
  rw [ofWords_eq] at read
  cases taken : (Item.ofWords false words).foldlM accept {} with
  | error stop => simp [taken, Except.bind] at read
  | ok reading =>
      rw [taken] at read
      have silent := never _ reading (List.prefix_refl _) taken
      rwa [has_of_finish read, Bool.or_eq_false_iff] at silent

end Reading

end

namespace Arguments

/-- The arguments that ask for reports as well. -/
def withReports (arguments : Arguments) : Arguments :=
  { arguments with isVerbose := true }

/-- Whether the environment or the command line asks for reports: one of the parts that are taken
from left to right does, even if a later one ends the reading. -/
def SetsVerbose (environment : Environment) (words : List String) : Prop :=
  environment.value? "TINCT_VERBOSE" = some "true" ∨
    ∃ lead reading, lead <+: Item.ofWords false words ∧
      lead.foldlM Reading.accept {} = .ok reading ∧ reading.gives .verbose

/-- Help behind the setting does not undo it. -/
example (environment : Environment) : SetsVerbose environment ["-v", "--help"] :=
  Or.inr ⟨[.setting .verbose ""], _, by decide, rfl, by decide⟩

section

variable {environment : Environment} {outer inner : Level}

theorem isOn?_setFirst {name : Setting} (silent : inner.has name = false) (variableName : String) :
    isOn? environment variableName name (outer.setFirst name) inner =
      (isOn? environment variableName name outer inner).map fun _ => true := by
  -- As the inner level does not give the setting, the environment is consulted either way.
  have fallback (level : Level) :
      consulted environment variableName name level inner = environment.value? variableName := by
    simp [consulted, silent]
  rw [isOn?, isOn?, fallback, fallback, Level.has_setFirst]
  cases optional? Value.truth? (environment.value? variableName) <;> rfl

theorem consulted_setFirst {first name : Setting} (other : name ≠ first) (variableName : String) :
    consulted environment variableName name (outer.setFirst first) inner =
      consulted environment variableName name outer inner := by
  rw [consulted, consulted, Level.has_setFirst_of_ne other]

theorem isOn?_setFirst_of_ne {first name : Setting} (other : name ≠ first) (variableName : String) :
    isOn? environment variableName name (outer.setFirst first) inner =
      isOn? environment variableName name outer inner := by
  rw [isOn?, isOn?, consulted_setFirst other, Level.has_setFirst_of_ne other]

theorem configPath?_setFirst {first : Setting} (other : Setting.config ≠ first) :
    configPath? environment (outer.setFirst first) inner =
      configPath? environment outer inner := by
  rw [configPath?, configPath?, consulted_setFirst other, Level.value?_setFirst other]

theorem ofLevels?_setFirst (silent : inner.has .verbose = false) (verb : Verb) :
    ofLevels? environment (outer.setFirst .verbose) verb inner =
      (ofLevels? environment outer verb inner).map withReports := by
  simp only [ofLevels?, isOn?_setFirst silent,
    configPath?_setFirst (by decide : Setting.config ≠ .verbose),
    isOn?_setFirst_of_ne (by decide : Setting.noColor ≠ .verbose)]
  simp [Option.map_bind, Option.bind_map, Function.comp_def, withReports]

/-- A setting that is given at no level is on only if the environment says so. -/
theorem isOn?_ne_true {variableName : String} {name : Setting}
    (unset : environment.value? variableName ≠ some "true") (outerSilent : outer.has name = false)
    (innerSilent : inner.has name = false) :
    isOn? environment variableName name outer inner ≠ some true := by
  have notTrue : ∀ text, environment.value? variableName = some text →
      Value.truth? text ≠ some true := by
    intro text set
    rw [set] at unset
    unfold Value.truth?
    split <;> simp_all
  simp only [isOn?, consulted, outerSilent, innerSilent]
  cases set : environment.value? variableName with
  | none => simp [optional?]
  | some text =>
      have other := notTrue text set
      cases read : Value.truth? text <;> simp_all [optional?]

theorem neverGives_of_not_setsVerbose {words : List String}
    (quiet : ¬SetsVerbose environment words) :
    Reading.NeverGives .verbose {} (Item.ofWords false words) := by
  intro lead reading isLead read
  exact Bool.eq_false_iff.mpr fun given => quiet <| Or.inr ⟨lead, reading, isLead, read, given⟩

/-- With the setting in front, a command line that does not ask for reports is understood as
before, and asks for them. -/
theorem ofWords_verbose {words : List String} (quiet : ¬SetsVerbose environment words) :
    ofWords environment ("-v" :: words) = (ofWords environment words).map withReports := by
  have never := neverGives_of_not_setsVerbose quiet
  rw [ofWords, ofWords, Reading.ofWords_verbose never]
  cases read : Reading.ofWords words with
  | error stop => rfl
  | ok levels =>
      rcases levels with ⟨outer, verb, inner⟩
      have silent := (Reading.silent_of_ofWords never read).2
      simp only [Except.map, bind, Except.bind, ofLevels?_setFirst silent]
      cases ofLevels? environment outer verb inner <;> rfl

/-- A command line that is understood has levels, which give it its meaning. -/
theorem exists_levels_of_ofWords {words : List String} {arguments : Arguments}
    (understood : ofWords environment words = .ok arguments) :
    ∃ outer verb inner, Reading.ofWords words = .ok (outer, verb, inner) ∧
      ofLevels? environment outer verb inner = some arguments := by
  unfold ofWords at understood
  cases read : Reading.ofWords words with
  | error stop =>
      rw [read] at understood
      nomatch understood
  | ok levels =>
      rcases levels with ⟨outer, verb, inner⟩
      simp only [read, bind, Except.bind] at understood
      refine ⟨outer, verb, inner, rfl, ?_⟩
      cases meant : ofLevels? environment outer verb inner with
      | none => simp [meant] at understood
      | some meaning =>
          rw [meant] at understood
          exact congrArg some (Except.ok.inj understood)

theorem isOn?_of_ofLevels? {verb : Verb} {arguments : Arguments}
    (meant : ofLevels? environment outer verb inner = some arguments) :
    isOn? environment "TINCT_VERBOSE" .verbose outer inner = some arguments.isVerbose := by
  rcases Option.bind_eq_some_iff.mp meant with ⟨isVerbose, on, rest⟩
  rcases Option.bind_eq_some_iff.mp rest with ⟨_, _, rest⟩
  rcases Option.bind_eq_some_iff.mp rest with ⟨_, _, rest⟩
  rcases Option.bind_eq_some_iff.mp rest with ⟨_, _, rest⟩
  rcases Option.some.inj rest with rfl
  exact on

theorem isVerbose_eq_false {words : List String} (quiet : ¬SetsVerbose environment words)
    {arguments : Arguments} (understood : ofWords environment words = .ok arguments) :
    arguments.isVerbose = false := by
  rcases exists_levels_of_ofWords understood with ⟨outer, verb, inner, read, meant⟩
  rcases Reading.silent_of_ofWords (neverGives_of_not_setsVerbose quiet) read with
    ⟨outerSilent, innerSilent⟩
  have unset : environment.value? "TINCT_VERBOSE" ≠ some "true" := fun set => quiet (Or.inl set)
  have off := isOn?_ne_true unset outerSilent innerSilent
  exact Bool.eq_false_iff.mpr fun isOn =>
    off ((isOn?_of_ofLevels? meant).trans (congrArg some isOn))

end

end Arguments

end Highlighter.CommandLine
