import ExpertAdvisor.Payload.Fault

namespace ExpertAdvisor

/-!
# Checked values

Checking a document either accepts it with what it means or refuses it with the
faults found, of which there is at least one.  Checks of separate parts are
combined so that no fault of either part is lost and the faults keep their order.
-/

/-- What a check makes of a value. -/
inductive Checked (α : Type) where
  | accepted (value : α)
  | refused (fault : Fault) (more : List Fault)
  deriving DecidableEq, Repr

namespace Checked

/-- The faults that a check found. -/
def faults : Checked α → List Fault
  | .accepted _ => []
  | .refused fault more => fault :: more

/-- The value that a check accepted. -/
def value? : Checked α → Option α
  | .accepted value => some value
  | .refused _ _ => none

/-- Changes what was accepted. -/
def map
    (change : α → β) :
    Checked α → Checked β
  | .accepted value => .accepted (change value)
  | .refused fault more => .refused fault more

/-- Refuses what was accepted when there are further faults, which come last. -/
def withFaults
    (checked : Checked α)
    (further : List Fault) : Checked α :=
  match checked, further with
  | .accepted value, [] => .accepted value
  | .accepted _, fault :: more => .refused fault more
  | .refused fault more, later => .refused fault (more ++ later)

/-- Applies one part's meaning to the next part's, or collects the faults of both. -/
def and
    (first : Checked (α → β))
    (second : Checked α) : Checked β :=
  match first, second with
  | .accepted change, .accepted value => .accepted (change value)
  | .accepted _, .refused fault more => .refused fault more
  | .refused fault more, later => .refused fault (more ++ later.faults)

/-- Goes on with a further check of what is accepted. -/
def andThen
    (first : Checked α)
    (next : α → Checked β) : Checked β :=
  match first with
  | .accepted value => next value
  | .refused fault more => .refused fault more

/-- Refuses a value with one problem of its own. -/
def fail
    (problem : Problem)
    (input : Value) : Checked α :=
  .refused ⟨[], problem, input⟩ []

/-- Puts every fault under a step. -/
def under
    (step : Step) :
    Checked α → Checked α
  | .accepted value => .accepted value
  | .refused fault more => .refused (fault.under step) (more.map (Fault.under step))

/-- Checks the items of a list, each under its position counted from `position`. -/
def itemsFrom
    (check : Value → Checked α)
    (position : Nat) :
    List Value → Checked (List α)
  | [] => .accepted []
  | item :: rest =>
      ((check item).under (.index position)).map List.cons
        |>.and (itemsFrom check (position + 1) rest)

/-- Combining parts collects the faults of both in order. -/
@[simp]
theorem faults_and
    (first : Checked (α → β))
    (second : Checked α) :
    (first.and second).faults = first.faults ++ second.faults := by
  cases first <;> cases second <;> simp [and, faults]

/-- Further faults come after the faults of the check. -/
@[simp]
theorem faults_withFaults
    (checked : Checked α)
    (further : List Fault) :
    (checked.withFaults further).faults = checked.faults ++ further := by
  cases checked <;> cases further <;> simp [withFaults, faults]

/-- A combination is accepted exactly when both parts are. -/
theorem and_eq_accepted_iff
    (first : Checked (α → β))
    (second : Checked α)
    (value : β) :
    first.and second = .accepted value ↔
      ∃ change part, first = .accepted change ∧ second = .accepted part ∧ change part = value := by
  cases first <;> cases second <;> simp [and]

end Checked

end ExpertAdvisor
