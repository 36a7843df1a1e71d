import ExpertAdvisor.Command.Generation
import ExpertAdvisor.Proofs.Number.ExactInteger
import ExpertAdvisor.Proofs.Payload.Acceptance

namespace ExpertAdvisor

/-!
# Native values

A value is native to a field when it is of the field's own type.  Where a
payload accepts a native value, the value means to the payload what it is, and
normalising it makes nothing else of it.
-/

namespace Value

/-- An integer of a size up to which binary64 numbers leave no integer out. -/
def IsInteger (value : Value) : Prop :=
  ∃ number : Int, value = .integer number ∧ number.natAbs ≤ Nat.pow 2 53

/-- A finite number; an integer is one too. -/
def IsNumber (value : Value) : Prop :=
  (∃ number : FiniteBinary64, value = number.toValue) ∨ value.IsInteger

variable {value : Value}

/-! What native values are accepted as. -/

end Value

/-! What native values are normalised to. -/

namespace Normalize

variable {value : Value}

theorem finiteNumber_integer
    {integer : Int}
    {number : FiniteBinary64}
    (rounded : Binary64.ofInt integer = .finite number) :
    finiteNumber (.integer integer) = .ok (some number) := by
  have read : Value.toReal (.integer integer) = .ok (.finite number) := by
    rw [Value.toReal, Value.realOfInteger, rounded]
    rfl
  rw [finiteNumber, read] <;> first | rfl | exact nofun

theorem finiteNumber_of_isNumber
    {number : FiniteBinary64}
    (isNumber : value.IsNumber)
    (accepted : Scalar.finiteNumber value = .accepted number) :
    finiteNumber value = .ok (some number) := by
  rcases isNumber with ⟨own, rfl⟩ | ⟨integer, rfl, bounded⟩
  · rw [← Checked.accepted.inj accepted]
    rfl
  · obtain ⟨own, rounded, _⟩ := Binary64.isExact_of_bounded bounded
    have acceptedOwn : Scalar.finiteNumber (.integer integer) = .accepted own := by
      have read : Scalar.real (.integer integer) = .accepted (.finite own) := by
        rw [Scalar.real, rounded]
        exact if_pos rfl
      rw [Scalar.finiteNumber, read]
      rfl
    rw [finiteNumber_integer rounded,
      Checked.accepted.inj (acceptedOwn.symm.trans accepted)]

/-- An integer that binary64 holds stands for itself. -/
theorem wholeNumber_integer
    {integer : Int}
    (exact : Binary64.IsExact integer) :
    wholeNumber (.integer integer) = .ok (some integer) := by
  obtain ⟨number, rounded, truncated, _⟩ := exact
  rw [wholeNumber, finiteNumber_integer rounded, Except.map, Option.map_some, truncated]

theorem points_natural
    {number : Nat}
    (exact : Binary64.IsExact number) :
    points (.integer number) = .ok number := by
  obtain ⟨finite, rounded, truncated, nonnegative⟩ := exact
  have valid : finite.isNonnegative = true := by
    rw [nonnegative]
    exact decide_eq_true (Int.natCast_nonneg number)
  rw [points, finiteNumber_integer rounded, Except.map, asPoints, Option.filter_some, if_pos valid]
  simp only [truncated, Int.toNat_natCast]

theorem bufferIndex_natural
    {number : Nat}
    (exact : Binary64.IsExact number) :
    bufferIndex (.integer number) = .ok number := by
  rw [bufferIndex, wholeNumber_integer exact]
  rfl

/-- A volume that is accepted is kept. -/
theorem lots_of_isNumber
    {lots : Lots}
    (isNumber : value.IsNumber)
    (accepted : Scalar.positiveNumber value = .accepted lots)
    (settings : Settings) :
    Normalize.lots settings value = .ok (.finite lots.val) := by
  obtain ⟨number, isFinite, checked⟩ := Checked.andThen_eq_accepted_iff.mp accepted
  split at checked
  case isTrue positive =>
    rw [Normalize.lots, finiteNumber_of_isNumber isNumber isFinite, Except.map, asLots,
      Option.filter_some, if_pos positive, ← Checked.accepted.inj checked]
  case isFalse => exact absurd checked nofun

end Normalize

/-- Risk settings whose integers are all exact come back from normalisation as they are. -/
theorem RawRisk.normalize_of_exact
    {settings : Settings}
    {lots : Value}
    {volume : Binary64}
    {slippage magicNumber : Int}
    {stopLoss takeProfit : Nat}
    (isVolume : Normalize.lots settings lots = .ok volume)
    (slippageExact : Binary64.IsExact slippage)
    (stopLossExact : Binary64.IsExact stopLoss)
    (takeProfitExact : Binary64.IsExact takeProfit)
    (magicNumberExact : Binary64.IsExact magicNumber) :
    RawRisk.normalize settings
        ⟨lots, .integer slippage, .integer stopLoss, .integer takeProfit, .integer magicNumber⟩ =
      .ok ⟨volume, slippage, stopLoss, takeProfit, magicNumber⟩ := by
  simp only [RawRisk.normalize, Normalize.wholeNumber_integer slippageExact,
    Normalize.wholeNumber_integer magicNumberExact, isVolume,
    Normalize.points_natural stopLossExact, Normalize.points_natural takeProfitExact,
    Outcome.ok_bind]
  rfl

end ExpertAdvisor
