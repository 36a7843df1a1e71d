namespace ExpertAdvisor.Outcome

/-!
# Chains of steps that may fail

A chain of steps goes on with what a step yields and ends with the first fault.
-/

variable {Fault OtherFault : Type}

theorem ok_bind
    (value : α)
    (next : α → Except Fault β) :
    (Except.ok value >>= next) = next value := rfl

theorem error_bind
    (fault : Fault)
    (next : α → Except Fault β) :
    (Except.error fault >>= next) = Except.error fault := rfl

/-- A chain yields something when each of its steps does. -/
theorem bind_eq_ok_iff
    {attempt : Except Fault α}
    {next : α → Except Fault β}
    {result : β} :
    (attempt >>= next) = .ok result ↔
      ∃ value, attempt = .ok value ∧ next value = .ok result := by
  cases attempt with
  | error fault => simp [error_bind]
  | ok value => simp [ok_bind]

/-- A changed result is the change of a result. -/
theorem map_eq_ok_iff
    {attempt : Except Fault α}
    {change : α → β}
    {result : β} :
    attempt.map change = .ok result ↔ ∃ value, attempt = .ok value ∧ change value = result := by
  cases attempt <;> simp [Except.map]

/-- Changing faults changes no result. -/
theorem mapError_eq_ok_iff
    {attempt : Except Fault α}
    {change : Fault → OtherFault}
    {result : α} :
    attempt.mapError change = .ok result ↔ attempt = .ok result := by
  constructor
  · intro changed
    cases attempt with
    | error fault => cases changed
    | ok value => exact congrArg Except.ok (Except.ok.inj changed)
  · rintro rfl
    rfl

/-- An attempt that succeeds has a result. -/
theorem exists_of_isOk
    {attempt : Except Fault α}
    (isOk : attempt.isOk = true) :
    ∃ value, attempt = .ok value := by
  cases attempt with
  | error fault => cases isOk
  | ok value => exact ⟨value, rfl⟩

end ExpertAdvisor.Outcome
