/-!
# Outcomes of stages

What is done in stages comes to a value exactly if every stage does, and else to the first failure.
-/
namespace CredentialWatch

variable {ε ε' α β : Type}

theorem bind_eq_ok_iff {outcome : Except ε α} {next : α → Except ε β} {last : β} :
    (outcome >>= next) = .ok last ↔ ∃ value, outcome = .ok value ∧ next value = .ok last := by
  cases outcome with
  | ok value => simp [bind, Except.bind]
  | error defect => simp [bind, Except.bind]

/-- What is done in stages fails with the first stage that does. -/
theorem bind_eq_error_iff {outcome : Except ε α} {next : α → Except ε β} {error : ε} :
    (outcome >>= next) = .error error ↔
      outcome = .error error ∨ ∃ value, outcome = .ok value ∧ next value = .error error := by
  cases outcome with
  | ok value => simp [bind, Except.bind]
  | error defect => simp [bind, Except.bind]

@[simp] theorem pure_eq_ok_iff {value last : α} :
    (pure value : Except ε α) = .ok last ↔ value = last := by
  simp [pure, Except.pure]

@[simp] theorem throw_ne_ok {error : ε} {last : α} : (throw error : Except ε α) ≠ .ok last := by
  simp [throw, throwThe, MonadExceptOf.throw]

theorem mapError_eq_ok_iff {outcome : Except ε α} {change : ε → ε'} {value : α} :
    outcome.mapError change = .ok value ↔ outcome = .ok value := by
  cases outcome with
  | ok other => constructor <;> (intro h; cases h; rfl)
  | error defect => constructor <;> (intro h; cases h)

theorem mapError_eq_error_iff {outcome : Except ε α} {change : ε → ε'} {error : ε'} :
    outcome.mapError change = .error error ↔
      ∃ defect, outcome = .error defect ∧ change defect = error := by
  cases outcome with
  | ok value =>
    constructor
    · intro h
      cases h
    · rintro ⟨defect, hdefect, -⟩
      cases hdefect
  | error defect =>
    constructor
    · intro h
      cases h
      exact ⟨defect, rfl, rfl⟩
    · rintro ⟨other, hother, rfl⟩
      cases hother
      rfl

end CredentialWatch
