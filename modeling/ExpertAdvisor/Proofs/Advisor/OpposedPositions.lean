import ExpertAdvisor.Proofs.Advisor.OpenPositions
import ExpertAdvisor.Proofs.Payload.Acceptance

namespace ExpertAdvisor

open Advisor Code

/-!
# Positions on both sides

A threshold strategy that does not stack positions notes what it holds before it
acts, and it acts on its two levels one after the other.  A number above the
upper level and below the lower one makes it buy and sell on the same tick, and
the note does not tell of the buy that the sell would have to close.  Where no
number does so, no position is ever against another.  A strategy that stacks
positions closes without a note, so it needs no such condition.
-/

/-- Entering a side without regard to the note leaves nothing on the other side. -/
theorem oneSided_stackingEntry
    {positions : List Side}
    (oneSided : OneSided positions)
    (noted : List Side)
    (side : Side) :
    ∀ current ∈ moments positions (entryOrders true true noted side), OneSided current := by
  have differs : side.opposite ≠ side := by
    cases side <;> decide
  have shape : entryOrders true true noted side = [.closing side.opposite, .opening side] := rfl
  intro current member
  simp only [shape, moments, List.mem_cons, List.not_mem_nil, or_false] at member
  rcases member with rfl | rfl | rfl
  · exact oneSided
  · exact oneSided.closing _
  · refine @OneSided.of_not_mem _ side.opposite fun held => ?_
    exact (mem_closing_iff.mp ((List.mem_cons.mp held).resolve_left differs)).2 rfl

namespace Code.Comparator

variable {first second : FiniteBinary64}

theorem holds_greater_iff :
    Comparator.greater.holds (.finite first) (.finite second) = true ↔
      second.signedMagnitude < first.signedMagnitude := by
  rw [← compare_gt_iff_gt]
  simp only [holds, Binary64.compare?]
  cases compare first.signedMagnitude second.signedMagnitude <;> simp

theorem holds_less_iff :
    Comparator.less.holds (.finite first) (.finite second) = true ↔
      first.signedMagnitude < second.signedMagnitude := by
  rw [← compare_lt_iff_lt]
  simp only [holds, Binary64.compare?]
  cases compare first.signedMagnitude second.signedMagnitude <;> simp

end Code.Comparator

namespace ThresholdStrategy

variable {strategy : ThresholdStrategy} {market : Market} {positions : List Side}

/-- A number is beyond both watched levels, above the upper one and below the lower one. -/
def BreachesBoth (strategy : ThresholdStrategy) (value : Binary64) : Prop :=
  ∃ upper lower, strategy.watchedUpper = some upper ∧ strategy.watchedLower = some lower ∧
    Comparator.greater.holds value (.finite upper) = true ∧
    Comparator.less.holds value (.finite lower) = true

/-- A number beyond both levels is finite, and the upper level lies below the lower one. -/
theorem BreachesBoth.levels_crossed
    {value : Binary64}
    (breaches : strategy.BreachesBoth value) :
    ∃ upper lower, strategy.watchedUpper = some upper ∧ strategy.watchedLower = some lower ∧
      upper.signedMagnitude < lower.signedMagnitude := by
  obtain ⟨upper, lower, isUpper, isLower, above, below⟩ := breaches
  cases value with
  | nan => exact nomatch above
  | infinite negative =>
      cases negative with
      | true => exact nomatch above
      | false => exact nomatch below
  | finite number =>
      exact ⟨upper, lower, isUpper, isLower,
        (Comparator.holds_greater_iff.mp above).trans (Comparator.holds_less_iff.mp below)⟩

/-! Ticks. -/

/-- A threshold strategy buys where the number is above the upper level, then likewise sells. -/
theorem orders_of_present
    (present : Comparator.equal.holds (strategy.value market) market.emptyValue = false)
    (consent : Bool)
    (positions : List Side) :
    let enter := entryOrders strategy.stacking consent positions
    strategy.orders market consent positions =
      (if strategy.breached market .buy then enter .buy else []) ++
        if strategy.breached market .sell then enter .sell else [] := by
  intro enter
  rw [strategy.orders_eq_flatMap_sides market consent positions present]
  cases upper : strategy.watchedUpper <;> cases lower : strategy.watchedLower <;>
    simp [sides, upper, lower, breached, watchedLevel?, enter]

/-- Both levels are breached by a number that is beyond both. -/
theorem breachesBoth_iff :
    strategy.BreachesBoth (strategy.value market) ↔
      strategy.breached market .buy = true ∧ strategy.breached market .sell = true := by
  simp only [BreachesBoth, breached, watchedLevel?]
  cases strategy.watchedUpper <;> cases strategy.watchedLower <;> simp

/-- A tick whose number is not beyond both levels enters one side at most. -/
theorem orders_cases_of_not_breachesBoth
    (notStacking : strategy.stacking = false)
    (notBoth : strategy.BreachesBoth (strategy.value market) →
      Comparator.equal.holds (strategy.value market) market.emptyValue = true)
    (consent : Bool)
    (positions : List Side) :
    strategy.orders market consent positions = [] ∨
      ∃ side, strategy.orders market consent positions =
        entryOrders false consent positions side := by
  cases missing : Comparator.equal.holds (strategy.value market) market.emptyValue with
  | true => exact .inl (if_pos missing)
  | false =>
      rw [missing] at notBoth
      rw [breachesBoth_iff] at notBoth
      rw [orders_of_present missing, notStacking]
      cases buys : strategy.breached market .buy with
      | false =>
          cases sells : strategy.breached market .sell with
          | false => exact .inl rfl
          | true => exact .inr ⟨.sell, rfl⟩
      | true =>
          cases sells : strategy.breached market .sell with
          | false => exact .inr ⟨.buy, List.append_nil _⟩
          | true => exact absurd (notBoth ⟨buys, sells⟩) Bool.false_ne_true

/-- A tick whose number is beyond both levels buys and sells when nothing is held. -/
theorem orders_of_breachesBoth
    (notStacking : strategy.stacking = false)
    (breaches : strategy.BreachesBoth (strategy.value market))
    (present : Comparator.equal.holds (strategy.value market) market.emptyValue = false)
    (consent : Bool) :
    strategy.orders market consent [] = [.opening .buy, .opening .sell] := by
  obtain ⟨buys, sells⟩ := breachesBoth_iff.mp breaches
  rw [orders_of_present present, notStacking, if_pos buys, if_pos sells]
  cases consent <;> rfl

/-! Runs. -/

/-- Where no number is beyond both levels, no position is against another at any moment. -/
theorem oneSided_moments
    (notStacking : strategy.stacking = false)
    {emptyValue : Binary64}
    (noneBoth : ∀ value, strategy.BreachesBoth value →
      Comparator.equal.holds value emptyValue = true)
    {markets : List Market}
    (sameEmptyValue : ∀ market ∈ markets, market.emptyValue = emptyValue) :
    ∃ orders, (Strategy.threshold strategy).fragment.runOrders? true [] markets = some orders ∧
      ∀ current ∈ moments [] orders, OneSided current := by
  refine run_preserves_on (fun market isMarket positions oneSided => ?_)
    fun both => absurd both.1 List.not_mem_nil
  have notBoth := noneBoth (strategy.value market)
  rw [← sameEmptyValue market isMarket] at notBoth
  exact ⟨_, strategy.tickOrders?_fragment market true positions,
    oneSided_entered oneSided (orders_cases_of_not_breachesBoth notStacking notBoth true positions)⟩

/-- A run of one tick whose number is beyond both levels ends with a position on each side. -/
theorem runOrders?_of_breachesBoth
    (notStacking : strategy.stacking = false)
    (breaches : strategy.BreachesBoth (strategy.value market))
    (present : Comparator.equal.holds (strategy.value market) market.emptyValue = false) :
    (Strategy.threshold strategy).fragment.runOrders? true [] [market] =
      some [.opening .buy, .opening .sell] := by
  have ticked := strategy.tickOrders?_fragment market true []
  rw [orders_of_breachesBoth notStacking breaches present] at ticked
  simp [Fragment.runOrders?, ticked]

/-- A stacking strategy closes without looking at its note, and so it never holds both sides. -/
theorem oneSided_moments_of_stacking
    (stacking : strategy.stacking = true)
    (markets : List Market) :
    ∃ orders, (Strategy.threshold strategy).fragment.runOrders? true [] markets = some orders ∧
      ∀ current ∈ moments [] orders, OneSided current := by
  have entered {positions : List Side} (oneSided : OneSided positions) (enters : Bool)
      (noted : List Side) (side : Side) :
      ∀ current ∈ moments positions (if enters then entryOrders true true noted side else []),
        OneSided current := by
    cases enters with
    | false => exact of_mem_moments_nil oneSided
    | true => exact oneSided_stackingEntry oneSided noted side
  refine run_preserves (fun market positions oneSided => ?_)
    (fun both => absurd both.1 List.not_mem_nil) markets
  refine ⟨_, strategy.tickOrders?_fragment market true positions, ?_⟩
  cases missing : Comparator.equal.holds (strategy.value market) market.emptyValue with
  | true =>
      have nothing : strategy.orders market true positions = [] := if_pos missing
      rw [nothing]
      exact of_mem_moments_nil oneSided
  | false =>
      rw [orders_of_present missing, stacking]
      intro current member
      rcases mem_moments_append.mp member with inBuying | inSelling
      · exact entered oneSided _ positions .buy current inBuying
      · exact entered (entered oneSided _ positions .buy _ (applyAll_mem_moments _ _)) _ positions
          .sell current inSelling

/-- Opening both sides leaves both held. -/
theorem not_oneSided_opened :
    ¬ OneSided (Order.applyAll [] [.opening .buy, .opening .sell]) := by
  rw [OneSided, not_not]
  decide

/--
A threshold strategy that does not stack positions, whose user consents to
closing, holds one side at most after every tick exactly when every number beyond
both levels is the one that stands for a missing number.  Then it holds one side
at most at every moment, and no number is beyond both levels unless the upper one
lies below the lower one.
-/
theorem oneSided_run_iff
    (notStacking : strategy.stacking = false)
    (emptyValue : Binary64) :
    ((∀ markets : List Market, (∀ market ∈ markets, market.emptyValue = emptyValue) →
        ∃ orders, (Strategy.threshold strategy).fragment.runOrders? true [] markets =
            some orders ∧
          OneSided (Order.applyAll [] orders)) ↔
      ∀ value, strategy.BreachesBoth value → Comparator.equal.holds value emptyValue = true) ∧
    ((∀ value, strategy.BreachesBoth value → Comparator.equal.holds value emptyValue = true) →
      ∀ markets : List Market, (∀ market ∈ markets, market.emptyValue = emptyValue) →
        ∃ orders, (Strategy.threshold strategy).fragment.runOrders? true [] markets =
            some orders ∧
          ∀ current ∈ moments [] orders, OneSided current) ∧
    ((∃ value, strategy.BreachesBoth value) →
      ∃ upper lower, strategy.watchedUpper = some upper ∧ strategy.watchedLower = some lower ∧
        upper.signedMagnitude < lower.signedMagnitude) := by
  refine ⟨⟨fun staysOneSided value breaches => ?_, fun noneBoth markets sameEmptyValue => ?_⟩,
    fun noneBoth _ sameEmptyValue => oneSided_moments notStacking noneBoth sameEmptyValue,
    fun ⟨_, breaches⟩ => breaches.levels_crossed⟩
  · by_contra present
    let market : Market := ⟨fun _ _ => value, emptyValue⟩
    obtain ⟨orders, ran, oneSided⟩ :=
      staysOneSided [market] (List.forall_mem_singleton.mpr rfl)
    have opened := @runOrders?_of_breachesBoth _ market notStacking breaches
      (Bool.eq_false_iff.mpr present)
    rw [Option.some.inj (ran.symm.trans opened)] at oneSided
    exact not_oneSided_opened oneSided
  · obtain ⟨orders, ran, oneSided⟩ := oneSided_moments notStacking noneBoth sameEmptyValue
    exact ⟨orders, ran, oneSided _ (applyAll_mem_moments [] orders)⟩

end ThresholdStrategy

/-! Strategies whose levels are zero and two. -/

/-- The number two. -/
def levelOfTwo : FiniteBinary64 :=
  ⟨false, Nat.pow 2 52, 1023, by decide, .inr (Nat.le_refl _), by decide⟩

/-- The upper level lies above the lower one, so no number is beyond both. -/
def orderedStrategy : ThresholdStrategy :=
  ⟨0, some levelOfTwo, some (.zero false), .band, false⟩

/-- The upper level lies below the lower one, and one is beyond both. -/
def crossedStrategy : ThresholdStrategy :=
  ⟨0, some (.zero false), some levelOfTwo, .band, false⟩

/-- A strategy whose upper level lies above the lower one never holds both sides. -/
theorem oneSided_run_iff_ordered :
    orderedStrategy.stacking = false ∧
      ∀ markets : List Market, (∀ market ∈ markets, market.emptyValue = .ofInt 2147483647) →
        ∃ orders, (Strategy.threshold orderedStrategy).fragment.runOrders? true [] markets =
            some orders ∧
          ∀ current ∈ moments [] orders, OneSided current := by
  obtain ⟨_, atEveryMoment, levelsCrossed⟩ :=
    @ThresholdStrategy.oneSided_run_iff orderedStrategy rfl (.ofInt 2147483647)
  refine ⟨rfl, atEveryMoment fun value breaches => ?_⟩
  obtain ⟨upper, lower, isUpper, isLower, crossed⟩ := levelsCrossed ⟨value, breaches⟩
  obtain rfl : levelOfTwo = upper := Option.some.inj isUpper
  obtain rfl : FiniteBinary64.zero false = lower := Option.some.inj isLower
  exact absurd crossed (by decide +kernel)

/-- An accepted strategy without stacking holds both sides after its first tick. -/
theorem opposed_run_crossed :
    ThresholdStrategy.ofRecord ((Strategy.threshold crossedStrategy).toRecord .camel) =
        .accepted crossedStrategy ∧
      crossedStrategy.stacking = false ∧
      ∃ orders,
        (Strategy.threshold crossedStrategy).fragment.runOrders? true [] [.moving 1 1 1] =
            some orders ∧
          Side.buy ∈ Order.applyAll [] orders ∧ Side.sell ∈ Order.applyAll [] orders := by
  have breaches : crossedStrategy.BreachesBoth
      (crossedStrategy.value (.moving 1 1 1)) :=
    ⟨.zero false, levelOfTwo, rfl, rfl, by decide +kernel, by decide +kernel⟩
  have ran := ThresholdStrategy.runOrders?_of_breachesBoth rfl breaches (by decide +kernel)
  exact ⟨crossedStrategy.ofRecord_toRecord .camel, rfl, _, ran, by decide, by decide⟩

end ExpertAdvisor
