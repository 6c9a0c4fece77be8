import Highlighter.Proofs.Language.WellFormed
import Highlighter.Theme

/-!
# The style of a kind

A theme is made from the default one by a table of overrides and then by setting the styles of some
kinds. A kind has the style that was set for it last, or else the one that the table gives it, or
else the default one.
-/

namespace Highlighter.Theme

variable {theme next : Theme}

theorem override_eq_ok_iff {kindName styleName : String} :
    theme.override kindName styleName = .ok next ↔
      ∃ kind style, kindName = kind.name ∧ kind ≠ .text ∧ Style.ofName? styleName = some style ∧
        theme.set kind style = next := by
  unfold override
  constructor
  · intro accepted
    split at accepted
    · nomatch accepted
    · next kind named =>
        split at accepted
        · nomatch accepted
        · next notText =>
            split at accepted
            · nomatch accepted
            · next style known =>
                exact ⟨kind, style, TokenKind.ofName?_eq_some_iff.mp named, notText, known,
                  Except.ok.inj accepted⟩
  · rintro ⟨kind, style, rfl, notText, known, rfl⟩
    simp only [TokenKind.ofName?_name, if_neg notText, known]

/-- The style that a table gives a kind. -/
def overriding? (entries : List (String × String)) (kind : TokenKind) : Option Style :=
  (entries.lookup kind.name).bind Style.ofName?

theorem foldlM_override {entries : List (String × String)}
    (ascending : entries.Pairwise (·.1 < ·.1))
    (accepted : entries.foldlM (fun theme entry => theme.override entry.1 entry.2) theme =
      .ok next) (kind : TokenKind) :
    next kind = (overriding? entries kind).getD (theme kind) := by
  induction entries generalizing theme with
  | nil =>
      rcases Except.ok.inj accepted with rfl
      rfl
  | cons entry entries ih =>
      rcases List.pairwise_cons.mp ascending with ⟨below, others⟩
      rw [List.foldlM_cons] at accepted
      rcases Definition.bind_eq_ok_iff.mp accepted with ⟨overridden, first, further⟩
      rcases override_eq_ok_iff.mp first with ⟨own, style, named, -, known, rfl⟩
      rw [ih others further, overriding?, overriding?, lookup_cons_eq_ite, named]
      by_cases same : kind = own
      · -- No other entry is about the same kind.
        have unique : entries.lookup own.name = none := by
          apply List.lookup_eq_none_iff.mpr
          intro other member
          apply bne_iff_ne.mpr
          intro equal
          apply StrictOrder.irrefl own.name
          simpa [named, equal] using below other member
        rw [same, unique, if_pos rfl]
        simp [known, set]
      · have different : kind.name ≠ own.name := fun equal =>
          same (TokenKind.name_eq_name_iff.mp equal)
        simp only [if_neg different, set, if_neg same]

/-- Sets the styles of kinds one after the other. -/
def setAll (theme : Theme) (settings : List (TokenKind × Style)) : Theme :=
  settings.foldl (fun theme setting => theme.set setting.1 setting.2) theme

theorem setAll_apply (settings : List (TokenKind × Style)) (kind : TokenKind) :
    theme.setAll settings kind = (settings.reverse.lookup kind).getD (theme kind) := by
  induction settings generalizing theme with
  | nil => rfl
  | cons setting settings ih =>
      have further : theme.setAll (setting :: settings) =
          (theme.set setting.1 setting.2).setAll settings := rfl
      rw [further, ih, List.reverse_cons, List.lookup_append, lookup_cons_eq_ite, set]
      cases settings.reverse.lookup kind with
      | some style => rfl
      | none =>
          by_cases same : kind = setting.1
          · simp [same]
          · simp [same]

/-- The style that a kind has by a table of overrides and the styles that were set after it: the one
that was set last, or else the one in the table, or else the default one. -/
def intended (overrides : OrderedMap String String) (settings : List (TokenKind × Style))
    (kind : TokenKind) : Style :=
  ((settings.reverse.lookup kind).or (overriding? overrides.toList kind)).getD (default kind)

/-- A theme made from a table of overrides and changed afterwards has the intended styles. -/
theorem setAll_ofOverrides {overrides : OrderedMap String String} {start : Theme}
    (accepted : ofOverrides overrides = .ok start) (settings : List (TokenKind × Style)) :
    start.setAll settings = intended overrides settings := by
  funext kind
  rw [setAll_apply, foldlM_override overrides.ascending accepted kind, intended]
  cases settings.reverse.lookup kind <;> rfl

end Highlighter.Theme
