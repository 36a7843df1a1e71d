import ExpertAdvisor.Proofs.Advisor.TickOrders

namespace ExpertAdvisor

open Advisor

/-!
# Open positions over whole runs

A run goes from tick to tick, each on a market of its own, and orders take
effect one at a time.  What every order of a tick preserves holds at every
moment of a run.  A strategy that does not stack positions never holds two on
one side, although its flags tell only what was held when the tick began.
-/

/-- The positions after orders. -/
def Order.applyAll
    (positions : List Side)
    (orders : List Order) : List Side :=
  orders.foldl apply positions

/-- What is open at each moment: before the orders, and after each of them. -/
def moments
    (positions : List Side) : List Order → List (List Side)
  | [] => [positions]
  | order :: rest => positions :: moments (order.apply positions) rest

/-- The orders of a run over markets, from the positions that are open when it begins. -/
def Advisor.Fragment.runOrders?
    (fragment : Fragment)
    (consent : Bool) :
    List Side → List Market → Option (List Order)
  | _, [] => some []
  | positions, market :: later => do
      let orders ← fragment.tickOrders? market consent positions
      let more ← fragment.runOrders? consent (Order.applyAll positions orders) later
      return orders ++ more

/-! Moments of orders given one after the other. -/

theorem mem_moments_append
    {positions current : List Side}
    {first second : List Order} :
    current ∈ moments positions (first ++ second) ↔
      current ∈ moments positions first ∨
        current ∈ moments (Order.applyAll positions first) second := by
  induction first generalizing positions with
  | nil =>
      cases second <;> simp [moments, Order.applyAll]
  | cons order rest inductionHypothesis =>
      have goesOn := @inductionHypothesis (order.apply positions)
      simp only [List.cons_append, moments, List.mem_cons, goesOn, or_assoc]
      rfl

theorem applyAll_append
    (positions : List Side)
    (first second : List Order) :
    Order.applyAll positions (first ++ second) =
      Order.applyAll (Order.applyAll positions first) second :=
  List.foldl_append

/-- The end of a run is one of its moments. -/
theorem applyAll_mem_moments
    (positions : List Side)
    (orders : List Order) :
    Order.applyAll positions orders ∈ moments positions orders := by
  induction orders generalizing positions with
  | nil => exact List.mem_singleton_self positions
  | cons order rest inductionHypothesis =>
      exact List.mem_cons_of_mem _ (inductionHypothesis (order.apply positions))

theorem of_mem_moments_nil
    {Invariant : List Side → Prop}
    {positions : List Side}
    (holds : Invariant positions) :
    ∀ current ∈ moments positions [], Invariant current := by
  intro current member
  rwa [List.mem_singleton.mp member]

/-- What each of a run's ticks preserves at all its moments holds at all moments of the run. -/
theorem run_preserves_on
    {fragment : Fragment}
    {consent : Bool}
    {Invariant : List Side → Prop}
    {markets : List Market}
    (tick : ∀ market ∈ markets, ∀ positions, Invariant positions →
      ∃ orders, fragment.tickOrders? market consent positions = some orders ∧
        ∀ current ∈ moments positions orders, Invariant current)
    {positions : List Side}
    (holds : Invariant positions) :
    ∃ orders, fragment.runOrders? consent positions markets = some orders ∧
      ∀ current ∈ moments positions orders, Invariant current := by
  induction markets generalizing positions with
  | nil => exact ⟨[], rfl, of_mem_moments_nil holds⟩
  | cons market later inductionHypothesis =>
      obtain ⟨tickNow, tickLater⟩ := List.forall_mem_cons.mp tick
      obtain ⟨orders, ticked, kept⟩ := tickNow positions holds
      have holdsAfter := kept _ (applyAll_mem_moments positions orders)
      obtain ⟨more, ran, keptLater⟩ := inductionHypothesis tickLater holdsAfter
      refine ⟨orders ++ more, by simp [Fragment.runOrders?, ticked, ran], fun current member => ?_⟩
      exact (mem_moments_append.mp member).elim (kept current) (keptLater current)

/-- What every tick preserves at all its moments holds at all moments of a run. -/
theorem run_preserves
    {fragment : Fragment}
    {consent : Bool}
    {Invariant : List Side → Prop}
    (tick : ∀ market positions, Invariant positions →
      ∃ orders, fragment.tickOrders? market consent positions = some orders ∧
        ∀ current ∈ moments positions orders, Invariant current)
    {positions : List Side}
    (holds : Invariant positions)
    (markets : List Market) :
    ∃ orders, fragment.runOrders? consent positions markets = some orders ∧
      ∀ current ∈ moments positions orders, Invariant current :=
  run_preserves_on (fun market _ => tick market) holds

/-! What one tick preserves. -/

/-- No side has two positions. -/
def Single (positions : List Side) : Prop :=
  ∀ side, positions.count side ≤ 1

/-- No position is against another. -/
def OneSided (positions : List Side) : Prop :=
  ¬ (Side.buy ∈ positions ∧ Side.sell ∈ positions)

/-- Closing a side leaves none of its positions and all of the other side's. -/
theorem count_closing
    (positions : List Side)
    (closed side : Side) :
    ((Order.closing closed).apply positions).count side =
      if side = closed then 0 else positions.count side := by
  by_cases same : side = closed
  · simp [Order.apply, same, List.count_eq_zero]
  · rw [if_neg same, Order.apply, List.count_filter (by simpa using same)]

/-- Opening a side adds one position to it. -/
theorem count_opening
    (positions : List Side)
    (opened side : Side) :
    ((Order.opening opened).apply positions).count side =
      positions.count side + if opened = side then 1 else 0 := by
  simp [Order.apply, List.count_cons]

/-- The sides that are held after a closing are the others held before. -/
theorem mem_closing_iff
    {positions : List Side}
    {closed side : Side} :
    side ∈ (Order.closing closed).apply positions ↔ side ∈ positions ∧ side ≠ closed := by
  simp [Order.apply]

theorem Single.closing
    {positions : List Side}
    (single : Single positions)
    (closed : Side) :
    Single ((Order.closing closed).apply positions) := by
  intro side
  rw [count_closing]
  split
  · exact Nat.zero_le 1
  · exact single side

theorem Single.opening
    {positions : List Side}
    {side : Side}
    (single : Single positions)
    (notHeld : side ∉ positions) :
    Single ((Order.opening side).apply positions) := by
  intro other
  rw [count_opening]
  split
  case isTrue same => rw [← same, List.count_eq_zero_of_not_mem notHeld]
  case isFalse => exact single other

theorem mem_moments_ite
    {condition : Bool}
    {order : Order}
    {positions current : List Side} :
    current ∈ moments positions (if condition then [order] else []) ↔
      current = positions ∨ condition = true ∧ current = order.apply positions := by
  cases condition <;> simp [moments]

section Entry

variable {start positions : List Side} {side : Side} {consent : Bool}

/-- The positions after the opposite side has been closed, where it is to be closed. -/
theorem applyAll_closing
    (condition : Bool) :
    Order.applyAll positions (if condition then [.closing side] else []) =
      if condition then (Order.closing side).apply positions else positions := by
  cases condition <;> rfl

/-- Entering a side opens no second position, even when other orders came before in the tick. -/
theorem single_entry
    (single : Single positions)
    (noted : side ∈ positions → side ∈ start) :
    ∀ current ∈ moments positions (entryOrders false consent start side), Single current := by
  intro current member
  rw [entryOrders, mem_moments_append, mem_moments_ite, applyAll_closing, mem_moments_ite] at member
  rcases member with (rfl | ⟨_, rfl⟩) | (rfl | ⟨notNoted, rfl⟩)
  · exact single
  · exact single.closing _
  · split
    · exact single.closing _
    · exact single
  · have notHeld : side ∉ positions := fun held => by
      simp [noted held] at notNoted
    split
    · exact (single.closing _).opening fun held => notHeld (mem_closing_iff.mp held).1
    · exact single.opening notHeld

/-- Entering a side opens no position on the other. -/
theorem mem_of_mem_entry
    (held : side.opposite ∈ Order.applyAll positions (entryOrders false consent start side)) :
    side.opposite ∈ positions := by
  have differs : side.opposite ≠ side := by
    cases side <;> decide
  have notOpened {before : List Side} {condition : Bool}
      (heldAfter : side.opposite ∈
        Order.applyAll before (if condition then [.opening side] else [])) :
      side.opposite ∈ before := by
    cases condition with
    | false => exact heldAfter
    | true => exact (List.mem_cons.mp heldAfter).resolve_left differs
  rw [entryOrders, applyAll_append] at held
  have heldBefore := notOpened held
  rw [applyAll_closing] at heldBefore
  split at heldBefore
  case isTrue => exact (mem_closing_iff.mp heldBefore).1
  case isFalse => exact heldBefore

/-- Positions are on one side when the other side is not held. -/
theorem OneSided.of_not_mem
    (notHeld : side ∉ positions) :
    OneSided positions := by
  rintro ⟨buy, sell⟩
  cases side with
  | buy => exact notHeld buy
  | sell => exact notHeld sell

theorem OneSided.closing
    (oneSided : OneSided positions)
    (closed : Side) :
    OneSided ((Order.closing closed).apply positions) := fun both =>
  oneSided ⟨(mem_closing_iff.mp both.1).1, (mem_closing_iff.mp both.2).1⟩

/-- With the user's consent, entering a side leaves nothing on the other. -/
theorem oneSided_entry
    (oneSided : OneSided start) :
    ∀ current ∈ moments start (entryOrders false true start side), OneSided current := by
  have differs : side.opposite ≠ side := by
    cases side <;> decide
  intro current member
  rw [entryOrders, mem_moments_append, mem_moments_ite, applyAll_closing, mem_moments_ite] at member
  rcases member with (rfl | ⟨_, rfl⟩) | (rfl | ⟨_, rfl⟩)
  · exact oneSided
  · exact oneSided.closing _
  · split
    · exact oneSided.closing _
    · exact oneSided
  · refine @OneSided.of_not_mem _ side.opposite fun held => ?_
    have heldBefore := (List.mem_cons.mp held).resolve_left differs
    split at heldBefore
    case isTrue => exact (mem_closing_iff.mp heldBefore).2 rfl
    case isFalse notNoted => exact notNoted (by simpa using heldBefore)

/-- With the user's consent, entering one side or none leaves nothing on both. -/
theorem oneSided_entered
    {orders : List Order}
    (oneSided : OneSided start)
    (entered : orders = [] ∨ ∃ side, orders = entryOrders false true start side) :
    ∀ current ∈ moments start orders, OneSided current := by
  rcases entered with rfl | ⟨side, rfl⟩
  · exact of_mem_moments_nil oneSided
  · exact oneSided_entry oneSided

end Entry

/-- A crossover tick without stacking has no orders, or those of one entry. -/
theorem CrossoverStrategy.orders_cases
    {strategy : CrossoverStrategy}
    (notStacking : strategy.stacking = false)
    (market : Market)
    (consent : Bool)
    (positions : List Side) :
    strategy.orders market consent positions = [] ∨
      ∃ side, strategy.orders market consent positions =
        entryOrders false consent positions side := by
  simp only [CrossoverStrategy.orders, notStacking]
  split
  · exact .inl rfl
  · split
    · exact .inr ⟨_, rfl⟩
    · split
      · exact .inr ⟨_, rfl⟩
      · exact .inl rfl

/-- A threshold strategy enters the buy side, the sell side, both in this order, or none. -/
theorem ThresholdStrategy.orders_cases
    {strategy : ThresholdStrategy}
    (notStacking : strategy.stacking = false)
    (market : Market)
    (consent : Bool)
    (positions : List Side) :
    ∃ buys sells : Bool, strategy.orders market consent positions =
      (if buys then entryOrders false consent positions .buy else []) ++
        (if sells then entryOrders false consent positions .sell else []) := by
  simp only [ThresholdStrategy.orders, notStacking]
  split
  · exact ⟨false, false, rfl⟩
  · exact ⟨_, _, rfl⟩

/-- The orders of a crossover tick keep at most one position a side, at every moment. -/
theorem CrossoverStrategy.single_orders
    {strategy : CrossoverStrategy}
    (notStacking : strategy.stacking = false)
    (market : Market)
    (consent : Bool)
    {positions : List Side}
    (single : Single positions) :
    ∀ current ∈ moments positions (strategy.orders market consent positions), Single current := by
  rcases strategy.orders_cases notStacking market consent positions with none | ⟨side, entered⟩
  · rw [none]
    exact of_mem_moments_nil single
  · rw [entered]
    exact single_entry single id

/-- The orders of a crossover tick keep the positions on one side, at every moment. -/
theorem CrossoverStrategy.oneSided_orders
    {strategy : CrossoverStrategy}
    (notStacking : strategy.stacking = false)
    (market : Market)
    {positions : List Side}
    (oneSided : OneSided positions) :
    ∀ current ∈ moments positions (strategy.orders market true positions), OneSided current :=
  oneSided_entered oneSided (strategy.orders_cases notStacking market true positions)

/-- The orders of a threshold tick keep at most one position a side, at every moment. -/
theorem ThresholdStrategy.single_orders
    {strategy : ThresholdStrategy}
    (notStacking : strategy.stacking = false)
    (market : Market)
    (consent : Bool)
    {positions : List Side}
    (single : Single positions) :
    ∀ current ∈ moments positions (strategy.orders market consent positions), Single current := by
  obtain ⟨buys, sells, shape⟩ := strategy.orders_cases notStacking market consent positions
  let buying := if buys then entryOrders false consent positions .buy else []
  have singleBuying : ∀ current ∈ moments positions buying, Single current := by
    cases buys with
    | false => exact of_mem_moments_nil single
    | true => exact single_entry single id
  -- The flags still tell about the sell side, which buying can only have closed.
  have noted : Side.sell ∈ Order.applyAll positions buying → Side.sell ∈ positions := by
    cases buys with
    | false => exact id
    | true => exact mem_of_mem_entry
  have singleBefore : Single (Order.applyAll positions buying) :=
    singleBuying _ (applyAll_mem_moments positions buying)
  rw [shape]
  intro current member
  rcases mem_moments_append.mp member with inBuying | inSelling
  · exact singleBuying current inBuying
  · revert current
    cases sells with
    | false => exact fun current _ => of_mem_moments_nil singleBefore current
    | true => exact fun current _ => single_entry singleBefore noted current

/--
From no positions, over any ticks: a strategy without stacking never has two
positions on one side, and a crossover strategy whose user consents to closing
never has positions on both.
-/
theorem single_positions_run
    (consent : Bool)
    (markets : List Market) :
    (∀ strategy : CrossoverStrategy, strategy.stacking = false →
      ∃ orders,
        (Strategy.crossover strategy).fragment.runOrders? consent [] markets = some orders ∧
          ∀ current ∈ moments [] orders,
            (∀ side, current.count side ≤ 1) ∧
              (consent = true → ¬ (Side.buy ∈ current ∧ Side.sell ∈ current))) ∧
    ∀ strategy : ThresholdStrategy, strategy.stacking = false →
      ∃ orders,
        (Strategy.threshold strategy).fragment.runOrders? consent [] markets = some orders ∧
          ∀ current ∈ moments [] orders, ∀ side, current.count side ≤ 1 := by
  constructor
  · intro strategy notStacking
    refine run_preserves (fun market positions holds => ?_) ?_ markets
    · refine ⟨_, strategy.tickOrders?_fragment market consent positions, fun current member => ?_⟩
      refine ⟨strategy.single_orders notStacking market consent holds.1 current member, ?_⟩
      rintro rfl
      exact strategy.oneSided_orders notStacking market (holds.2 rfl) current member
    · exact ⟨fun side => Nat.zero_le 1, fun _ both => absurd both.1 List.not_mem_nil⟩
  · intro strategy notStacking
    refine run_preserves (fun market positions single => ?_) (fun side => Nat.zero_le 1) markets
    exact ⟨_, strategy.tickOrders?_fragment market consent positions,
      strategy.single_orders notStacking market consent single⟩

/-- A market on which the first buffer has moved from one number to another, the second not. -/
def Market.moving (before now level : Int) : Market where
  indicator buffer shift :=
    .ofInt (if buffer = 0 then (if shift = 0 then now else before) else level)
  emptyValue := .ofInt 2147483647

/-- Both kinds of strategies on markets that rise and fall. -/
theorem single_positions_run_moving_markets :
    (∃ orders,
      (Strategy.crossover ⟨0, 1, false, true⟩).fragment.runOrders? true []
          [.moving 1 3 2, .moving 3 1 2] = some orders ∧
        ∀ current ∈ moments [] orders,
          (∀ side, current.count side ≤ 1) ∧
            ¬ (Side.buy ∈ current ∧ Side.sell ∈ current)) ∧
    ∃ orders,
      (Strategy.threshold ⟨0, some (.zero false), none, .band, false⟩).fragment.runOrders? true []
          [.moving 1 3 2, .moving 3 1 2] = some orders ∧
        ∀ current ∈ moments [] orders, ∀ side, current.count side ≤ 1 := by
  obtain ⟨crossovers, thresholds⟩ := single_positions_run true [.moving 1 3 2, .moving 3 1 2]
  obtain ⟨orders, ran, holds⟩ := crossovers ⟨0, 1, false, true⟩ rfl
  exact ⟨⟨orders, ran, fun current member =>
      ⟨(holds current member).1, (holds current member).2 rfl⟩⟩,
    thresholds ⟨0, some (.zero false), none, .band, false⟩ rfl⟩

end ExpertAdvisor
