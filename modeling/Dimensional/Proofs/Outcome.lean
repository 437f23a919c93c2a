/-!
Outcomes: which step of a sequence has failed, and when two sequences come to the same outcome.
-/

set_option autoImplicit false

namespace Dimensional.Except

variable {ε ε' β γ δ ζ : Type}

theorem bind_ok {action : Except ε β} {next : β → Except ε γ} {result : γ}
    (done : action.bind next = .ok result) :
    ∃ value, action = .ok value ∧ next value = .ok result := by
  cases action with
  | error error => cases done
  | ok value => exact ⟨value, rfl, done⟩

theorem bind_error {action : Except ε β} {next : β → Except ε γ} {error : ε}
    (failed : action.bind next = .error error) :
    action = .error error ∨ ∃ value, action = .ok value ∧ next value = .error error := by
  cases action with
  | error cause =>
    cases failed
    exact Or.inl rfl
  | ok value => exact Or.inr ⟨value, rfl, failed⟩

theorem mapError_ok {action : Except ε β} {name : ε → ε'} {value : β}
    (done : action.mapError name = .ok value) : action = .ok value := by
  cases action with
  | error cause => cases done
  | ok other =>
    cases done
    rfl

theorem mapError_error {action : Except ε β} {name : ε → ε'} {error : ε'}
    (failed : action.mapError name = .error error) :
    ∃ cause, action = .error cause ∧ error = name cause := by
  cases action with
  | error cause =>
    cases failed
    exact ⟨cause, rfl, rfl⟩
  | ok value => cases failed

section Report

variable {report : β → γ} {first second : Except ε β}

/-- Outcomes with the same report. -/
theorem map_eq_map (same : first.map report = second.map report) :
    (∃ error, first = .error error ∧ second = .error error) ∨
      ∃ a b, first = .ok a ∧ second = .ok b ∧ report a = report b := by
  cases first with
  | error error =>
    cases second with
    | error other =>
      cases same
      exact Or.inl ⟨error, rfl, rfl⟩
    | ok b => cases same
  | ok a =>
    cases second with
    | error other => cases same
    | ok b => exact Or.inr ⟨a, b, rfl, rfl, Except.ok.inj same⟩

theorem mapError_congr (same : first.map report = second.map report) (name : ε → ε') :
    (first.mapError name).map report = (second.mapError name).map report := by
  rcases map_eq_map same with ⟨error, rfl, rfl⟩ | ⟨a, b, rfl, rfl, equal⟩
  · rfl
  · exact congrArg Except.ok equal

/-- A step that sees no more than the report has the same outcome after both. -/
theorem bind_congr {next next' : β → Except ε δ} (same : first.map report = second.map report)
    (blind : ∀ a b, report a = report b → next a = next' b) :
    first.bind next = second.bind next' := by
  rcases map_eq_map same with ⟨error, rfl, rfl⟩ | ⟨a, b, rfl, rfl, equal⟩
  · rfl
  · exact blind a b equal

theorem map_bind_congr {next next' : β → Except ε δ} {later : δ → ζ}
    (same : first.map report = second.map report)
    (blind : ∀ a b, report a = report b → (next a).map later = (next' b).map later) :
    (first.bind next).map later = (second.bind next').map later := by
  rcases map_eq_map same with ⟨error, rfl, rfl⟩ | ⟨a, b, rfl, rfl, equal⟩
  · rfl
  · exact blind a b equal

end Report

end Dimensional.Except
