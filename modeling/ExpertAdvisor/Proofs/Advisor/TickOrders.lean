import ExpertAdvisor.Number.Numeral
import ExpertAdvisor.Proofs.Advisor.TickInstructions
import ExpertAdvisor.Proofs.Code.Execution
import ExpertAdvisor.Proofs.Number.DecimalReading

namespace ExpertAdvisor

open Advisor Code

/-!
# Orders of a tick

The tick function runs on the inputs of its expert advisor, the user's consent
to closing, and the constants of the language.  Each statement's instructions do
what the statement stands for, and a whole tick gives the orders that the
strategy's settings call for.
-/

/-- The variable that an input declares; its literal is read as a decimal. -/
def Advisor.Input.binding? (input : Input) : Option (String × Datum) :=
  if input.type = "double" then
    (Number.real? Text.asciiDigit? input.value.toList).map fun number =>
      (input.name, .number number)
  else
    none

namespace Market

/-- The variables that every tick function finds. -/
def bindings
    (market : Market)
    (consent : Bool) : List (String × Datum) :=
  [("CloseOppositeSignal", .flag consent), ("EMPTY_VALUE", .number market.emptyValue),
    ("OP_BUY", .integer 0), ("OP_SELL", .integer 1)]

end Market

/-- The orders that a tick function gives, from its code and its inputs. -/
def Advisor.Fragment.tickOrders?
    (fragment : Fragment)
    (market : Market)
    (consent : Bool)
    (positions : List Side) : Option (List Order) := do
  let instructions ← read? fragment.body
  let inputs ← fragment.inputs.mapM Input.binding?
  let (_, session) ← runAll? market.indicator
    ⟨inputs ++ market.bindings consent, positions, []⟩ instructions
  return session.orders

/-! The orders that the settings call for. -/

/-- The orders of entering a side, from what was held when the tick began. -/
def entryOrders
    (stacking consent : Bool)
    (positions : List Side)
    (side : Side) : List Order :=
  (if consent && (stacking || positions.contains side.opposite) then
    [.closing side.opposite]
  else
    []) ++
  (if stacking || !positions.contains side then [.opening side] else [])

/-- A crossover strategy enters a side when the numbers cross, and the other one when reversed. -/
def CrossoverStrategy.orders
    (strategy : CrossoverStrategy)
    (market : Market)
    (consent : Bool)
    (positions : List Side) : List Order :=
  let fast := market.indicator strategy.fastBuffer 0
  let slow := market.indicator strategy.slowBuffer 0
  let fastBefore := market.indicator strategy.fastBuffer 1
  let slowBefore := market.indicator strategy.slowBuffer 1
  let enter := entryOrders strategy.stacking consent positions
  if [fast, slow, fastBefore, slowBefore].any (Comparator.equal.holds · market.emptyValue) then
    []
  else if Comparator.atMost.holds fastBefore slowBefore && Comparator.greater.holds fast slow then
    enter (if strategy.reversed then .sell else .buy)
  else if Comparator.atLeast.holds fastBefore slowBefore && Comparator.less.holds fast slow then
    enter (if strategy.reversed then .buy else .sell)
  else
    []

/-- A threshold strategy buys above the upper level, and sells below the lower one. -/
def ThresholdStrategy.orders
    (strategy : ThresholdStrategy)
    (market : Market)
    (consent : Bool)
    (positions : List Side) : List Order :=
  let value := market.indicator strategy.buffer 0
  let enter := entryOrders strategy.stacking consent positions
  let buys := (strategy.direction == .above || strategy.direction == .band) &&
    strategy.upper.any fun level => Comparator.greater.holds value (.finite level)
  let sells := (strategy.direction == .below || strategy.direction == .band) &&
    strategy.lower.any fun level => Comparator.less.holds value (.finite level)
  if Comparator.equal.holds value market.emptyValue then
    []
  else
    (if buys then enter .buy else []) ++ (if sells then enter .sell else [])

/-! What the instructions of a statement do. -/

namespace Code.Session

/-- The session after orders. -/
def giveAll
    (session : Session)
    (orders : List Order) : Session :=
  orders.foldl give session

theorem giveAll_append
    (session : Session)
    (first second : List Order) :
    session.giveAll (first ++ second) = (session.giveAll first).giveAll second :=
  List.foldl_append

@[simp]
theorem bindings_giveAll
    (session : Session)
    (orders : List Order) :
    (session.giveAll orders).bindings = session.bindings := by
  induction orders generalizing session with
  | nil => rfl
  | cons order rest inductionHypothesis => exact inductionHypothesis (session.give order)

@[simp]
theorem datum?_giveAll
    (session : Session)
    (orders : List Order)
    (name : String) :
    (session.giveAll orders).datum? name = session.datum? name := by
  rw [datum?, bindings_giveAll, datum?]

theorem orders_giveAll
    (session : Session)
    (orders : List Order) :
    (session.giveAll orders).orders = session.orders ++ orders := by
  induction orders generalizing session with
  | nil => exact (List.append_nil _).symm
  | cons order rest inductionHypothesis =>
      have goesOn := inductionHypothesis (session.give order)
      rwa [give, List.append_assoc, List.singleton_append] at goesOn

/-- What acting on a signal needs to know; guarded actions also need to know what is held. -/
structure Knows
    (session : Session)
    (consent guarded : Bool)
    (held : Side → Bool) : Prop where
  consent : session.datum? "CloseOppositeSignal" = some (.flag consent)
  orderType : ∀ side : Side, ∃ number, session.datum? side.orderType = some (.integer number) ∧
    orderedSide? number = some side
  held : guarded = true →
    ∀ side : Side, session.datum? side.heldFlag = some (.flag (held side))

/-- Orders change no variable. -/
theorem Knows.giveAll
    {session : Session}
    {consent guarded : Bool}
    {held : Side → Bool}
    (knows : session.Knows consent guarded held)
    (orders : List Order) :
    (session.giveAll orders).Knows consent guarded held where
  consent := by rw [datum?_giveAll, knows.consent]
  orderType side := by simpa using knows.orderType side
  held isGuarded side := by rw [datum?_giveAll, knows.held isGuarded side]

end Code.Session

section Running

variable {indicator : Int → Int → Binary64} {session : Session}

/-- The reading of a number binds its variable. -/
theorem run_readSeries
    (name : Series)
    (buffer shift : Nat) :
    runAll? indicator session (Statement.readSeries name buffer shift).instructions =
      some (.onward, session.declare name.variableName (.number (indicator buffer shift))) := by
  simp [Statement.instructions, runAll?, Instruction.run?, conditionValue?, decided?, Test.value?,
    Atom.value?, Term.value?, called?, ValueType.admits]

/-- The tick is left exactly where one of the numbers is missing. -/
theorem run_leaveIfEmpty
    {names : List Series}
    {value : Series → Binary64}
    {emptyValue : Binary64}
    (someNames : names ≠ [])
    (known : ∀ name ∈ names, session.datum? name.variableName = some (.number (value name)))
    (emptyKnown : session.datum? "EMPTY_VALUE" = some (.number emptyValue)) :
    runAll? indicator session
        (Statement.leaveIfEmpty names : Statement Nat).instructions =
      some (if names.any fun name => Comparator.equal.holds (value name) emptyValue then
          .finished
        else
          .onward, session) := by
  have tested : ∀ name ∈ names,
      decided? false (Test.value? indicator session) [name.emptyTest] =
        some (.flag (Comparator.equal.holds (value name) emptyValue)) := by
    intro name member
    simp [decided?, Series.emptyTest, Test.value?, Atom.value?, Term.value?, known name member,
      emptyKnown, Datum.number?]
  have condition :
      conditionValue? indicator session (names.map fun name => [name.emptyTest]) =
        some (.flag (names.any fun name => Comparator.equal.holds (value name) emptyValue)) := by
    rw [conditionValue?, decided?_map, decided?_eq_flag someNames tested]
    rfl
  rw [Statement.instructions, runAll?, Instruction.run?, condition]
  cases names.any fun name => Comparator.equal.holds (value name) emptyValue <;>
    simp [Datum.flag?, Instruction.run?, runAll?]

/-- What is noted of a side is whether it is held. -/
theorem run_noteHeld (side : Side) :
    runAll? indicator session (Statement.noteHeld side : Statement Nat).instructions =
      some (.onward,
        session.declare side.heldFlag (.flag (session.positions.contains side))) := by
  have directed : directedSide? side.direction = some side := by
    cases side <;> rfl
  simp [Statement.instructions, runAll?, Instruction.run?, conditionValue?, decided?, Test.value?,
    Atom.value?, Term.value?, called?, ValueType.admits, directed]

/-- The number of an operand, from those of the series and of the bounds. -/
def Advisor.Operand.value
    (series : Series → Binary64)
    (bound : Bound → Binary64) : Operand → Binary64
  | .series name => series name
  | .bound name => bound name

/-- Whether a comparison holds between values. -/
def Advisor.Comparison.holds
    (value : Operand → Binary64)
    (comparison : Comparison) : Bool :=
  comparison.relation.comparator.holds (value comparison.left) (value comparison.right)

/-- The definition of a signal binds whether all its conditions hold. -/
theorem run_define
    {signal : Signal}
    {conditions : List Comparison}
    {value : Operand → Binary64}
    (someConditions : conditions ≠ [])
    (known : ∀ comparison ∈ conditions, ∀ operand ∈ [comparison.left, comparison.right],
      session.datum? operand.code = some (.number (value operand))) :
    runAll? indicator session (Statement.define signal conditions : Statement Nat).instructions =
      some (.onward,
        session.declare signal.variableName (.flag (conditions.all (Comparison.holds value)))) := by
  have tested : ∀ comparison ∈ conditions,
      Test.value? indicator session comparison.test =
        some (.flag (comparison.holds value)) := by
    intro comparison member
    have leftKnown := known comparison member comparison.left (by simp)
    have rightKnown := known comparison member comparison.right (by simp)
    simp [Comparison.test, Operand.atom, Test.value?, Atom.value?, Term.value?, leftKnown,
      rightKnown, Datum.number?, Comparison.holds]
  have condition :
      conditionValue? indicator session [conditions.map Comparison.test] =
        some (.flag (conditions.all (Comparison.holds value))) := by
    rw [conditionValue?, decided?, decided?_map, decided?_eq_flag someConditions tested]
    rfl
  simp [Statement.instructions, runAll?, Instruction.run?, condition, ValueType.admits]

namespace Advisor

/-- The orders of an action, from what was held when the tick began. -/
def Action.orders
    (consent : Bool)
    (held : Side → Bool) : Action → List Order
  | .closeSide side onlyIfHeld =>
      if consent && (!onlyIfHeld || held side) then [.closing side] else []
  | .openSide side unlessHeld =>
      if !unlessHeld || !held side then [.opening side] else []

/-- Whether an action depends on what is held. -/
def Action.isGuarded : Action → Bool
  | .closeSide _ guarded | .openSide _ guarded => guarded

/-- An action gives its orders in a session that knows what guards it. -/
theorem Action.run?_instruction
    {action : Action}
    {consent : Bool}
    {held : Side → Bool}
    (knows : session.Knows consent action.isGuarded held) :
    action.instruction.run? indicator session =
      some (.onward, session.giveAll (action.orders consent held)) := by
  obtain ⟨consentKnown, typeKnown, heldKnown⟩ := knows
  cases action with
  | closeSide side onlyIfHeld =>
      have closing :
          Instruction.run? indicator session
              (.perform "ClosePositions" [.integer side.direction]) =
            some (.onward, session.give (.closing side)) := by
        cases side <;> rfl
      have condition :
          conditionValue? indicator session
              [.plain (.term (.name "CloseOppositeSignal")) ::
                if onlyIfHeld then [.plain (.term (.name side.heldFlag))] else []] =
            some (.flag (consent && (!onlyIfHeld || held side))) := by
        cases onlyIfHeld with
        | false =>
            simp [conditionValue?, decided?, Test.value?, Atom.value?, Term.value?, consentKnown]
        | true =>
            have sideKnown := heldKnown rfl side
            cases consent <;>
              simp [conditionValue?, decided?, Test.value?, Atom.value?, Term.value?,
                consentKnown, sideKnown, Datum.flag?]
      rw [instruction, run?_choose condition, closing, orders]
      cases consent && (!onlyIfHeld || held side) <;> rfl
  | openSide side unlessHeld =>
      obtain ⟨number, numberKnown, ordered⟩ := typeKnown side
      have opening :
          Instruction.run? indicator session (.perform "OpenOrder" [.name side.orderType]) =
            some (.onward, session.give (.opening side)) := by
        simp [Instruction.run?, Term.value?, numberKnown, ordered?, ordered]
      cases unlessHeld with
      | false => exact opening
      | true =>
          have condition :
              conditionValue? indicator session [[.negated (.term (.name side.heldFlag))]] =
                some (.flag !held side) := by
            simp [conditionValue?, decided?, Test.value?, Atom.value?, Term.value?,
              heldKnown rfl side, Datum.flag?]
          rw [instruction, if_pos rfl, run?_choose condition, opening, orders]
          cases held side <;> rfl

theorem Action.run?_instructions
    {actions : List Action}
    {consent : Bool}
    {held : Side → Bool}
    (knows : ∀ action ∈ actions, session.Knows consent action.isGuarded held) :
    runAll? indicator session (actions.map instruction) =
      some (.onward, session.giveAll (actions.flatMap (orders consent held))) := by
  induction actions generalizing session with
  | nil => rw [List.map_nil, runAll?, List.flatMap_nil, Session.giveAll, List.foldl_nil]
  | cons action rest inductionHypothesis =>
      obtain ⟨actionKnows, restKnows⟩ := List.forall_mem_cons.mp knows
      have later : ∀ other ∈ rest,
          (session.giveAll (action.orders consent held)).Knows consent other.isGuarded held :=
        fun other member => (restKnows other member).giveAll _
      rw [List.map_cons, runAll?_cons_of_onward (Action.run?_instruction actionKnows),
        inductionHypothesis later, List.flatMap_cons, Session.giveAll_append]

/-- The actions of the first reaction whose signal is raised. -/
def Reaction.chosen
    (raised : Signal → Bool)
    (reactions : List Reaction) : List Action :=
  ((reactions.find? fun reaction => raised reaction.signal).map Reaction.actions).getD []

/-- The block of a reaction gives the orders of its actions. -/
theorem Reaction.run?_block
    {reaction : Reaction}
    {consent : Bool}
    {held : Side → Bool}
    (knows : ∀ action ∈ reaction.actions, session.Knows consent action.isGuarded held) :
    reaction.block.run? indicator session =
      some (.onward, session.giveAll (reaction.actions.flatMap (Action.orders consent held))) := by
  have restored (orders : List Order) :
      { session.giveAll orders with bindings := session.bindings } = session.giveAll orders := by
    rw [← session.bindings_giveAll orders]
  simp [block, Instruction.run?, Action.run?_instructions knows, restored]

/-- A chain of reactions gives the orders of the first whose signal is raised. -/
theorem Reaction.run?_instruction
    {reaction : Reaction}
    {others : List Reaction}
    {raised : Signal → Bool}
    {consent : Bool}
    {held : Side → Bool}
    (raisedKnown : ∀ choice ∈ reaction :: others,
      session.datum? choice.signal.variableName = some (.flag (raised choice.signal)))
    (knows : ∀ choice ∈ reaction :: others, ∀ action ∈ choice.actions,
      session.Knows consent action.isGuarded held) :
    (reaction.instruction others).run? indicator session =
      some (.onward, session.giveAll
        ((chosen raised (reaction :: others)).flatMap (Action.orders consent held))) := by
  have condition (choice : Reaction) (known : session.datum? choice.signal.variableName =
      some (.flag (raised choice.signal))) :
      conditionValue? indicator session (flagCondition choice.signal.variableName) =
        some (.flag (raised choice.signal)) := by
    simpa [conditionValue?, flagCondition, decided?, Test.value?, Atom.value?, Term.value?]
      using known
  induction others generalizing reaction with
  | nil =>
      have raisedCondition := condition reaction (raisedKnown reaction (by simp))
      have ran : reaction.block.run? indicator session = _ :=
        run?_block (knows reaction (by simp))
      rw [instruction, run?_choose raisedCondition, ran]
      cases shape : raised reaction.signal <;> simp [chosen, shape, Session.giveAll]
  | cons next more inductionHypothesis =>
      have raisedCondition := condition reaction (raisedKnown reaction (by simp))
      have ran : reaction.block.run? indicator session = _ :=
        run?_block (knows reaction (by simp))
      have goesOn := @inductionHypothesis next
        (fun choice member => raisedKnown choice (List.mem_cons_of_mem _ member))
        (fun choice member => knows choice (List.mem_cons_of_mem _ member))
      rw [instruction, run?_chooseOr raisedCondition, ran, goesOn]
      cases shape : raised reaction.signal <;> simp [chosen, shape]

end Advisor

/-- Reactions give the orders of the first whose signal is raised, and the tick goes on. -/
theorem run_react
    {reactions : List Reaction}
    {raised : Signal → Bool}
    {consent : Bool}
    {held : Side → Bool}
    (raisedKnown : ∀ reaction ∈ reactions,
      session.datum? reaction.signal.variableName = some (.flag (raised reaction.signal)))
    (knows : ∀ reaction ∈ reactions, ∀ action ∈ reaction.actions,
      session.Knows consent action.isGuarded held) :
    runAll? indicator session (Statement.react reactions : Statement Nat).instructions =
      some (.onward, session.giveAll
        ((Reaction.chosen raised reactions).flatMap (Action.orders consent held))) := by
  cases reactions with
  | nil => rfl
  | cons first rest =>
      rw [Statement.instructions,
        runAll?_cons_of_onward (Reaction.run?_instruction raisedKnown knows), runAll?]

/-- Entering a side takes the actions that the settings call for. -/
theorem orders_enter
    (stacking consent : Bool)
    (positions : List Side)
    (side : Side) :
    (Action.enter side stacking).flatMap (Action.orders consent positions.contains) =
      entryOrders stacking consent positions side := by
  simp [Action.enter, Action.orders, entryOrders]

/-- An entry is guarded exactly where positions are not stacked. -/
theorem isGuarded_enter
    {side : Side}
    {stacking : Bool} :
    ∀ action ∈ Action.enter side stacking, action.isGuarded = !stacking := by
  simp [Action.enter, Action.isGuarded]

/-- Reactions that enter sides enter the side of the first signal that is raised. -/
theorem run_entering
    {entries : List (Signal × Side)}
    {raised : Signal → Bool}
    {stacking consent : Bool}
    {positions : List Side}
    (raisedKnown : ∀ entry ∈ entries,
      session.datum? entry.1.variableName = some (.flag (raised entry.1)))
    (knows : session.Knows consent (!stacking) positions.contains) :
    runAll? indicator session
        (Statement.react (entries.map fun entry => ⟨entry.1, Action.enter entry.2 stacking⟩) :
          Statement Nat).instructions =
      some (.onward, session.giveAll
        (((entries.find? fun entry => raised entry.1).map fun entry =>
          entryOrders stacking consent positions entry.2).getD [])) := by
  have reacting := @run_react indicator session
    (entries.map fun entry => ⟨entry.1, Action.enter entry.2 stacking⟩) raised consent
    positions.contains
    (by
      intro reaction member
      obtain ⟨entry, isEntry, rfl⟩ := List.mem_map.mp member
      exact raisedKnown entry isEntry)
    (by
      intro reaction member action isAction
      obtain ⟨entry, _, rfl⟩ := List.mem_map.mp member
      rwa [isGuarded_enter action isAction])
  have chosen :
      (Reaction.chosen raised
          (entries.map fun entry => ⟨entry.1, Action.enter entry.2 stacking⟩)).flatMap
          (Action.orders consent positions.contains) =
        ((entries.find? fun entry => raised entry.1).map fun entry =>
          entryOrders stacking consent positions entry.2).getD [] := by
    rw [Reaction.chosen, List.find?_map]
    cases found : entries.find? fun entry => raised entry.1 with
    | none => simp [found]
    | some entry => simp [found, orders_enter]
  rw [reacting, chosen]

end Running

/-! Whole ticks. -/

/-- The session of a tick that has noted what is held, unless it stacks positions. -/
def Code.Session.noted
    (stacking : Bool)
    (session : Session) : Session :=
  session.declareAll Side.heldFlag (fun side => .flag (session.positions.contains side))
    (if stacking then [] else [.buy, .sell])

theorem injective_variableName : Function.Injective Series.variableName := by
  intro first second same
  cases first <;> cases second <;> first | rfl | exact absurd same (by decide)

theorem injective_signalName : Function.Injective Signal.variableName := by
  intro first second same
  cases first <;> cases second <;> first | rfl | exact absurd same (by decide)

theorem injective_breachOf : Function.Injective Tick.breachOf := by
  intro first second same
  cases first <;> cases second <;> first | rfl | exact absurd same (by decide)

theorem injective_heldFlag : Function.Injective Side.heldFlag := by
  intro first second same
  cases first <;> cases second <;> first | rfl | exact absurd same (by decide)

namespace Code.Session

variable {session : Session} {stacking : Bool}

@[simp]
theorem positions_noted : (session.noted stacking).positions = session.positions :=
  positions_declareAll

@[simp]
theorem orders_noted : (session.noted stacking).orders = session.orders :=
  orders_declareAll

/-- Where positions are not stacked, a side's flag tells whether it is held. -/
theorem datum?_noted_heldFlag
    (notStacking : stacking = false)
    (side : Side) :
    (session.noted stacking).datum? side.heldFlag =
      some (.flag (session.positions.contains side)) := by
  refine datum?_declareAll injective_heldFlag ?_
  rw [notStacking]
  cases side <;> simp

theorem datum?_noted
    {name : String}
    (differs : ∀ side : Side, name ≠ side.heldFlag) :
    (session.noted stacking).datum? name = session.datum? name :=
  datum?_declareAll_of_ne fun side _ => differs side

/-- Signals are declared after all that acting on them needs to know. -/
theorem knows_noted_declareAll
    {consent : Bool}
    (name : α → Signal)
    {value : α → Datum}
    {signals : List α}
    (consentKnown : session.datum? "CloseOppositeSignal" = some (.flag consent))
    (buyKnown : session.datum? "OP_BUY" = some (.integer 0))
    (sellKnown : session.datum? "OP_SELL" = some (.integer 1)) :
    ((session.noted stacking).declareAll (fun item => (name item).variableName) value
      signals).Knows consent (!stacking) session.positions.contains := by
  have kept {other : String}
      (noSignal : ∀ signal : Signal, other ≠ signal.variableName) :
      ((session.noted stacking).declareAll (fun item => (name item).variableName) value
        signals).datum? other = (session.noted stacking).datum? other :=
    datum?_declareAll_of_ne fun item _ => noSignal (name item)
  refine ⟨?_, fun side => ?_, fun guarded side => ?_⟩
  · rw [kept (by rintro ⟨⟩ <;> decide), datum?_noted (by rintro ⟨⟩ <;> decide), consentKnown]
  · cases side with
    | buy =>
        refine ⟨0, ?_, rfl⟩
        rw [kept (by rintro ⟨⟩ <;> decide), datum?_noted (by rintro ⟨⟩ <;> decide)]
        exact buyKnown
    | sell =>
        refine ⟨1, ?_, rfl⟩
        rw [kept (by rintro ⟨⟩ <;> decide), datum?_noted (by rintro ⟨⟩ <;> decide)]
        exact sellKnown
  · rw [kept (by cases side <;> rintro ⟨⟩ <;> decide)]
    exact datum?_noted_heldFlag (by simpa using guarded) side

end Code.Session

/-- The statements that note the held sides do so where positions are not stacked. -/
theorem run_noteHeldSides
    (indicator : Int → Int → Binary64)
    (stacking : Bool)
    (session : Session) :
    runAll? indicator session
        ((if stacking then [] else Tick.noteHeldSides : List (Statement Nat)).flatMap
          Statement.instructions) =
      some (.onward, session.noted stacking) := by
  cases stacking with
  | true => rfl
  | false =>
      rw [if_neg Bool.false_ne_true, Tick.noteHeldSides, List.flatMap_cons,
        runAll?_append_of_onward (run_noteHeld .buy), List.flatMap_cons,
        runAll?_append_of_onward (run_noteHeld .sell)]
      rfl

/-- The body of a tick with a known run gives the orders of that run. -/
theorem tickOrders?_eq_some
    {statements : List (Statement Nat)}
    {inputs : List Input}
    {inputBindings : List (String × Datum)}
    {market : Market}
    {consent : Bool}
    {positions : List Side}
    {course : Course}
    {session : Session}
    (filled : ∀ statement ∈ statements, statement.IsFilled)
    (remarksPlain : ∀ statement ∈ statements, statement.RemarkPlain)
    (inputsRead : inputs.mapM Input.binding? = some inputBindings)
    (ran : runAll? market.indicator ⟨inputBindings ++ market.bindings consent, positions, []⟩
      (statements.flatMap Statement.instructions) = some (course, session)) :
    Fragment.tickOrders? ⟨inputs, Statement.body Number.naturalText statements⟩ market consent
        positions =
      some session.orders := by
  simp [Fragment.tickOrders?, Statement.read?_body filled remarksPlain, inputsRead, ran]

namespace CrossoverStrategy

variable (strategy : CrossoverStrategy) (market : Market) (consent : Bool) (positions : List Side)

/-- The numbers that a tick reads. -/
def value : Series → Binary64
  | .fast => market.indicator strategy.fastBuffer 0
  | .slow => market.indicator strategy.slowBuffer 0
  | .fastBefore => market.indicator strategy.fastBuffer 1
  | .slowBefore | .level => market.indicator strategy.slowBuffer 1

/-- The reasons to trade that a market gives to a crossover strategy. -/
def raised : Signal → Bool
  | .bullishCross =>
      Comparator.atMost.holds (strategy.value market .fastBefore)
          (strategy.value market .slowBefore) &&
        Comparator.greater.holds (strategy.value market .fast) (strategy.value market .slow)
  | .bearishCross =>
      Comparator.atLeast.holds (strategy.value market .fastBefore)
          (strategy.value market .slowBefore) &&
        Comparator.less.holds (strategy.value market .fast) (strategy.value market .slow)
  | .breachAbove | .breachBelow => false

/-- The session of a tick that has read its numbers. -/
def sessionRead : Session :=
  Session.declareAll ⟨market.bindings consent, positions, []⟩ Series.variableName
    (fun name => .number (strategy.value market name)) [.fast, .slow, .fastBefore, .slowBefore]

/-- The session of a tick that knows its signals. -/
def sessionRaised : Session :=
  ((strategy.sessionRead market consent positions).noted strategy.stacking).declareAll
    Signal.variableName (fun signal => .flag (strategy.raised market signal))
    [.bullishCross, .bearishCross]

theorem positions_sessionRead :
    (strategy.sessionRead market consent positions).positions = positions :=
  Session.positions_declareAll

theorem datum?_sessionRead
    {name : Series}
    (isRead : name ∈ [Series.fast, .slow, .fastBefore, .slowBefore]) :
    (strategy.sessionRead market consent positions).datum? name.variableName =
      some (.number (strategy.value market name)) :=
  Session.datum?_declareAll injective_variableName isRead

theorem datum?_sessionRead_of_ne
    {name : String}
    (differs : ∀ series : Series, name ≠ series.variableName) :
    (strategy.sessionRead market consent positions).datum? name =
      (market.bindings consent).lookup name :=
  Session.datum?_declareAll_of_ne fun series _ => differs series

/-- The first statements of a crossover tick read its numbers, or leave where one is missing. -/
theorem run_reading :
    runAll? market.indicator ⟨market.bindings consent, positions, []⟩
        (([.readSeries .fast strategy.fastBuffer 0, .readSeries .slow strategy.slowBuffer 0,
          .readSeries .fastBefore strategy.fastBuffer 1,
          .readSeries .slowBefore strategy.slowBuffer 1, .gap,
          .leaveIfEmpty [.fast, .slow, .fastBefore, .slowBefore], .gap] :
            List (Statement Nat)).flatMap Statement.instructions) =
      some (if [Series.fast, .slow, .fastBefore, .slowBefore].any fun name =>
          Comparator.equal.holds (strategy.value market name) market.emptyValue then
        .finished
      else
        .onward, strategy.sessionRead market consent positions) := by
  have emptyKnown := strategy.datum?_sessionRead_of_ne market consent positions
    (by rintro ⟨⟩ <;> decide : ∀ series : Series, "EMPTY_VALUE" ≠ series.variableName)
  have leaving := @run_leaveIfEmpty market.indicator _ _ _ _ (List.cons_ne_nil _ _)
    (fun name isRead => strategy.datum?_sessionRead market consent positions isRead) emptyKnown
  simp only [List.flatMap_cons, runAll?_append_of_onward (run_readSeries _ _ _), List.flatMap_nil]
  exact leaving

/-- The next statements define both signals. -/
theorem run_defining :
    runAll? market.indicator
        ((strategy.sessionRead market consent positions).noted strategy.stacking)
        (([.define .bullishCross Tick.bullishConditions,
          .define .bearishCross Tick.bearishConditions, .gap] : List (Statement Nat)).flatMap
            Statement.instructions) =
      some (.onward, strategy.sessionRaised market consent positions) := by
  let value := Operand.value (strategy.value market) fun _ => .nan
  have known {name : Series} (isRead : name ∈ [Series.fast, .slow, .fastBefore, .slowBefore]) :
      ((strategy.sessionRead market consent positions).noted strategy.stacking).datum?
          name.variableName =
        some (.number (strategy.value market name)) := by
    rw [Session.datum?_noted (by cases name <;> rintro ⟨⟩ <;> decide),
      strategy.datum?_sessionRead market consent positions isRead]
  have bullish := @run_define market.indicator
    ((strategy.sessionRead market consent positions).noted strategy.stacking)
    .bullishCross Tick.bullishConditions value (List.cons_ne_nil _ _)
    (by simp [Tick.bullishConditions, Operand.code, Operand.value, known, value])
  have bearish := @run_define market.indicator
    (((strategy.sessionRead market consent positions).noted strategy.stacking).declare
      Signal.bullishCross.variableName
        (.flag (Tick.bullishConditions.all (Comparison.holds value))))
    .bearishCross Tick.bearishConditions value (List.cons_ne_nil _ _) (by
      have apart (name : Series) : name.variableName ≠ Signal.bullishCross.variableName := by
        cases name <;> decide
      simp [Tick.bearishConditions, Session.datum?_declare, Operand.code, Operand.value, apart,
        known, value])
  rw [List.flatMap_cons, runAll?_append_of_onward bullish, List.flatMap_cons,
    runAll?_append_of_onward bearish]
  simp [Statement.instructions, runAll?, sessionRaised, Session.declareAll, raised,
    Tick.bullishConditions, Tick.bearishConditions, Comparison.holds, Relation.comparator,
    Operand.value, value]

/-- A session that knows its signals also knows what guards its entries. -/
theorem knows_sessionRaised :
    (strategy.sessionRaised market consent positions).Knows consent (!strategy.stacking)
      positions.contains := by
  have known {name : String} (differs : ∀ series : Series, name ≠ series.variableName) :=
    strategy.datum?_sessionRead_of_ne market consent positions differs
  rw [sessionRaised, ← positions_sessionRead strategy market consent positions]
  exact Session.knows_noted_declareAll id (known (by rintro ⟨⟩ <;> decide))
    (known (by rintro ⟨⟩ <;> decide)) (known (by rintro ⟨⟩ <;> decide))

/-- The sides that the crosses enter; the first cross that is seen counts. -/
def entries : List (Signal × Side) :=
  let bullishSide := if strategy.reversed then Side.sell else .buy
  [(.bullishCross, bullishSide), (.bearishCross, bullishSide.opposite)]

/-- The reference, as the entry of the first signal that is raised. -/
theorem orders_eq_entry
    (notMissing : ([Series.fast, .slow, .fastBefore, .slowBefore].any fun name =>
      Comparator.equal.holds (strategy.value market name) market.emptyValue) = false) :
    strategy.orders market consent positions =
      ((strategy.entries.find? fun entry => strategy.raised market entry.1).map fun entry =>
        entryOrders strategy.stacking consent positions entry.2).getD [] := by
  have reference : strategy.orders market consent positions =
      if strategy.raised market .bullishCross then
        entryOrders strategy.stacking consent positions (if strategy.reversed then .sell else .buy)
      else if strategy.raised market .bearishCross then
        entryOrders strategy.stacking consent positions (if strategy.reversed then .buy else .sell)
      else
        [] :=
    if_neg (Bool.eq_false_iff.mp notMissing)
  rw [reference]
  cases bullish : strategy.raised market .bullishCross <;>
    cases bearish : strategy.raised market .bearishCross <;>
      cases reversed : strategy.reversed <;>
        simp [entries, bullish, bearish, reversed, Side.opposite]

theorem run_remarks :
    (if strategy.reversed then [.remark Tick.reversalRemark] else [] :
      List (Statement Nat)).flatMap Statement.instructions = [] := by
  cases strategy.reversed <;> rfl

theorem orders_sessionRaised :
    (strategy.sessionRaised market consent positions).orders = [] := by
  simp [sessionRaised, sessionRead]

/-- A crossover tick gives the orders of its strategy. -/
theorem run_tick :
    ∃ course session,
      runAll? market.indicator ⟨market.bindings consent, positions, []⟩
          (strategy.tick.flatMap Statement.instructions) = some (course, session) ∧
        session.orders = strategy.orders market consent positions := by
  have reading := strategy.run_reading market consent positions
  rw [CrossoverStrategy.tick, Tick.crossover]
  simp only [List.flatMap_append, List.append_assoc]
  cases missing : [Series.fast, .slow, .fastBefore, .slowBefore].any fun name =>
      Comparator.equal.holds (strategy.value market name) market.emptyValue with
  | true =>
      rw [missing, if_pos rfl] at reading
      have nothing : strategy.orders market consent positions = [] := if_pos missing
      refine ⟨.finished, _, runAll?_append_of_finished reading, ?_⟩
      rw [nothing]
      rfl
  | false =>
      rw [missing, if_neg Bool.false_ne_true] at reading
      have raisedKnown : ∀ entry ∈ strategy.entries,
          (strategy.sessionRaised market consent positions).datum? entry.1.variableName =
            some (.flag (strategy.raised market entry.1)) := by
        intro entry member
        refine Session.datum?_declareAll injective_signalName ?_
        exact List.mem_map_of_mem member
      have entering := @run_entering market.indicator _ strategy.entries (strategy.raised market)
        _ _ _ raisedKnown (strategy.knows_sessionRaised market consent positions)
      rw [← strategy.orders_eq_entry market consent positions missing] at entering
      refine ⟨.onward, (strategy.sessionRaised market consent positions).giveAll
        (strategy.orders market consent positions), ?_, ?_⟩
      · rw [runAll?_append_of_onward reading,
          runAll?_append_of_onward (run_noteHeldSides _ _ _),
          runAll?_append_of_onward (strategy.run_defining market consent positions),
          strategy.run_remarks, List.nil_append, List.flatMap_singleton]
        exact entering
      · rw [Session.orders_giveAll, strategy.orders_sessionRaised market consent positions,
          List.nil_append]

/-- The written tick of a crossover strategy gives the orders of the strategy. -/
theorem tickOrders?_fragment :
    (Strategy.crossover strategy).fragment.tickOrders? market consent positions =
      some (strategy.orders market consent positions) := by
  obtain ⟨course, session, ran, given⟩ := strategy.run_tick market consent positions
  rw [Strategy.fragment, ← given]
  exact tickOrders?_eq_some strategy.filled_tick strategy.remarksPlain_tick rfl ran

end CrossoverStrategy

namespace ThresholdStrategy

variable (strategy : ThresholdStrategy) (market : Market) (consent : Bool) (positions : List Side)

/-- The number that a tick reads. -/
def value : Binary64 :=
  market.indicator strategy.buffer 0

/-- The level of a side, which is watched. -/
def watchedLevel? : Side → Option FiniteBinary64
  | .buy => strategy.watchedUpper
  | .sell => strategy.watchedLower

/-- Whether the number is beyond the level of a side. -/
def breached (side : Side) : Bool :=
  (strategy.watchedLevel? side).any fun level =>
    (if side = .buy then Comparator.greater else .less).holds (strategy.value market)
      (.finite level)

/-- The variables that the inputs declare. -/
def levelBindings : List (String × Datum) :=
  [Side.buy, .sell].filterMap fun side =>
    (strategy.watchedLevel? side).map fun level =>
      ((Tick.boundOf side).inputName, .number (.finite level))

theorem binding?_inputs :
    strategy.inputs.mapM Input.binding? = some strategy.levelBindings := by
  have bound (name : Bound) (level : FiniteBinary64) :
      (Tick.boundInput name (finiteLiteral level)).binding? =
        some (name.inputName, .number (.finite level)) := by
    simp [Tick.boundInput, Input.plain, Input.binding?, real?_finiteLiteral]
  cases upper : strategy.watchedUpper <;> cases lower : strategy.watchedLower <;>
    simp [inputs, levelBindings, watchedLevel?, upper, lower, bound, Tick.boundOf]

/-- A side is entered exactly where its level is watched. -/
theorem mem_sides_iff
    {side : Side} :
    side ∈ strategy.sides ↔ (strategy.watchedLevel? side).isSome = true := by
  cases side <;> cases upper : strategy.watchedUpper <;> cases lower : strategy.watchedLower <;>
    simp [sides, watchedLevel?, upper, lower]

/-- The session of a tick that has read its number. -/
def sessionRead : Session :=
  Session.declare ⟨strategy.levelBindings ++ market.bindings consent, positions, []⟩
    Series.level.variableName (.number (strategy.value market))

/-- The session of a tick that knows its signals. -/
def sessionRaised : Session :=
  ((strategy.sessionRead market consent positions).noted strategy.stacking).declareAll
    (fun side => (Tick.breachOf side).variableName)
    (fun side => .flag (strategy.breached market side)) strategy.sides

theorem datum?_sessionRead_of_ne
    {name : String}
    (noSeries : name ≠ Series.level.variableName)
    (noBound : ∀ bound : Bound, name ≠ bound.inputName) :
    (strategy.sessionRead market consent positions).datum? name =
      (market.bindings consent).lookup name := by
  have noLevel : strategy.levelBindings.lookup name = none := by
    refine List.lookup_eq_none_iff.mpr fun binding member => ?_
    obtain ⟨side, _, isBinding⟩ := List.mem_filterMap.mp member
    obtain ⟨level, _, rfl⟩ := Option.map_eq_some_iff.mp isBinding
    exact bne_iff_ne.mpr (noBound (Tick.boundOf side))
  rw [sessionRead, Session.datum?_declare, if_neg noSeries, Session.datum?_mk, List.lookup_append,
    noLevel, Option.none_or]

theorem datum?_sessionRead_inputName
    {side : Side}
    {level : FiniteBinary64}
    (watched : strategy.watchedLevel? side = some level) :
    (strategy.sessionRead market consent positions).datum? (Tick.boundOf side).inputName =
      some (.number (.finite level)) := by
  have found : strategy.levelBindings.lookup (Tick.boundOf side).inputName =
      some (.number (.finite level)) := by
    cases side <;> cases upper : strategy.watchedUpper <;>
      simp_all [levelBindings, watchedLevel?, Tick.boundOf, Bound.inputName, List.lookup_cons]
  have noSeries : (Tick.boundOf side).inputName ≠ Series.level.variableName := by
    cases side <;> decide
  rw [sessionRead, Session.datum?_declare, if_neg noSeries, Session.datum?_mk, List.lookup_append,
    found, Option.some_or]

/-- The first statements of a threshold tick read its number, or leave where it is missing. -/
theorem run_reading :
    runAll? market.indicator
        ⟨strategy.levelBindings ++ market.bindings consent, positions, []⟩
        (([.readSeries .level strategy.buffer 0, .leaveIfEmpty [.level], .gap] :
            List (Statement Nat)).flatMap Statement.instructions) =
      some (if Comparator.equal.holds (strategy.value market) market.emptyValue then
        .finished
      else
        .onward, strategy.sessionRead market consent positions) := by
  have emptyKnown := strategy.datum?_sessionRead_of_ne market consent positions
    (by decide : "EMPTY_VALUE" ≠ Series.level.variableName) (by rintro ⟨⟩ <;> decide)
  have leaving := @run_leaveIfEmpty market.indicator
    (strategy.sessionRead market consent positions) [.level] (fun _ => strategy.value market) _
    (List.cons_ne_nil _ _) (by simp [sessionRead, Session.datum?_declare]) emptyKnown
  simp only [List.flatMap_cons, runAll?_append_of_onward (run_readSeries _ _ _), List.flatMap_nil]
  rw [List.any_cons, List.any_nil, Bool.or_false] at leaving
  exact leaving

/-- The conditions of a side compare the number with the side's level. -/
theorem run_defining
    {session : Session}
    {sides : List Side}
    (levelKnown : session.datum? Series.level.variableName =
      some (.number (strategy.value market)))
    (boundsKnown : ∀ side ∈ sides, ∃ level, strategy.watchedLevel? side = some level ∧
      session.datum? (Tick.boundOf side).inputName = some (.number (.finite level))) :
    runAll? market.indicator session
        ((sides.map fun side =>
          (.define (Tick.breachOf side) (Tick.breachConditions side) : Statement Nat)).flatMap
            Statement.instructions) =
      some (.onward, session.declareAll (fun side => (Tick.breachOf side).variableName)
        (fun side => .flag (strategy.breached market side)) sides) := by
  induction sides generalizing session with
  | nil => rfl
  | cons side rest inductionHypothesis =>
      obtain ⟨sideKnown, restKnown⟩ := List.forall_mem_cons.mp boundsKnown
      obtain ⟨level, watched, boundKnown⟩ := sideKnown
      let value := Operand.value (fun _ => strategy.value market) fun _ => .finite level
      have defined := @run_define market.indicator session (Tick.breachOf side)
        (Tick.breachConditions side) value (by cases side <;> exact List.cons_ne_nil _ _) (by
          cases side <;>
            simp [Tick.breachConditions, Operand.code, Operand.value, levelKnown, value] <;>
            exact boundKnown)
      have outcome :
          (Tick.breachConditions side).all (Comparison.holds value) =
            strategy.breached market side := by
        cases side <;>
          simp [Tick.breachConditions, Comparison.holds, Relation.comparator, breached, watched,
            Operand.value, value]
      have apart {name : String} (noSignal : ∀ signal : Signal, name ≠ signal.variableName)
          (flag : Datum) :
          (session.declare (Tick.breachOf side).variableName flag).datum? name =
            session.datum? name := by
        rw [Session.datum?_declare, if_neg (noSignal _)]
      rw [outcome] at defined
      rw [List.map_cons, List.flatMap_cons, runAll?_append_of_onward defined]
      refine inductionHypothesis ?_ fun other isOther => ?_
      · rwa [apart (by rintro ⟨⟩ <;> decide)]
      · obtain ⟨otherLevel, otherWatched, otherKnown⟩ := restKnown other isOther
        exact ⟨otherLevel, otherWatched, by
          rwa [apart (by cases other <;> rintro ⟨⟩ <;> decide)]⟩

/-- One reaction for each side enters all sides whose signals are raised. -/
theorem run_entering_sides
    {indicator : Int → Int → Binary64}
    {session : Session}
    {raised : Side → Bool}
    {stacking consent : Bool}
    {positions : List Side}
    {sides : List Side}
    (raisedKnown : ∀ side ∈ sides,
      session.datum? (Tick.breachOf side).variableName = some (.flag (raised side)))
    (knows : session.Knows consent (!stacking) positions.contains) :
    runAll? indicator session
        ((sides.map fun side =>
          (.react [⟨Tick.breachOf side, Action.enter side stacking⟩] : Statement Nat)).flatMap
            Statement.instructions) =
      some (.onward, session.giveAll (sides.flatMap fun side =>
        if raised side then entryOrders stacking consent positions side else [])) := by
  induction sides generalizing session with
  | nil => rfl
  | cons side rest inductionHypothesis =>
      obtain ⟨sideRaised, restRaised⟩ := List.forall_mem_cons.mp raisedKnown
      have entering := @run_entering indicator session [(Tick.breachOf side, side)]
        (fun _ => raised side) stacking consent positions (by simpa using sideRaised) knows
      have outcome :
          (([(Tick.breachOf side, side)].find? fun _ => raised side).map fun entry =>
              entryOrders stacking consent positions entry.2).getD [] =
            if raised side then entryOrders stacking consent positions side else [] := by
        cases raised side <;> simp
      rw [outcome, List.map_cons, List.map_nil] at entering
      rw [List.map_cons, List.flatMap_cons, runAll?_append_of_onward entering, List.flatMap_cons,
        Session.giveAll_append]
      exact inductionHypothesis (by simpa using restRaised) (knows.giveAll _)

/-- A session that knows its breaches also knows what guards its entries. -/
theorem knows_sessionRaised :
    (strategy.sessionRaised market consent positions).Knows consent (!strategy.stacking)
      positions.contains := by
  have known {name : String} (noSeries : name ≠ Series.level.variableName)
      (noBound : ∀ bound : Bound, name ≠ bound.inputName) :=
    strategy.datum?_sessionRead_of_ne market consent positions noSeries noBound
  have positionsKept : (strategy.sessionRead market consent positions).positions = positions := rfl
  rw [sessionRaised, ← positionsKept]
  exact Session.knows_noted_declareAll Tick.breachOf
    (known (by decide) (by rintro ⟨⟩ <;> decide)) (known (by decide) (by rintro ⟨⟩ <;> decide))
    (known (by decide) (by rintro ⟨⟩ <;> decide))

/-- The reference, as one choice for each side that is watched. -/
theorem orders_eq_flatMap_sides
    (notMissing : Comparator.equal.holds (strategy.value market) market.emptyValue = false) :
    strategy.orders market consent positions =
      strategy.sides.flatMap fun side =>
        if strategy.breached market side then
          entryOrders strategy.stacking consent positions side
        else
          [] := by
  refine (if_neg (Bool.eq_false_iff.mp notMissing) : strategy.orders _ _ _ = _).trans ?_
  rcases strategy with ⟨buffer, upper, lower, direction, stacking⟩
  cases direction <;> cases upper <;> cases lower <;>
    simp [sides, watchedUpper, watchedLower, breached, watchedLevel?, value,
      BreachDirection.watchesUpper, BreachDirection.watchesLower]

/-- The next statements define the breach of each watched level. -/
theorem run_raising :
    runAll? market.indicator
        ((strategy.sessionRead market consent positions).noted strategy.stacking)
        ((strategy.sides.map fun side =>
          (.define (Tick.breachOf side) (Tick.breachConditions side) : Statement Nat)).flatMap
            Statement.instructions) =
      some (.onward, strategy.sessionRaised market consent positions) := by
  refine strategy.run_defining market ?_ fun side isSide => ?_
  · rw [Session.datum?_noted (by rintro ⟨⟩ <;> decide), sessionRead, Session.datum?_declare,
      if_pos rfl]
  · obtain ⟨level, watched⟩ := Option.isSome_iff_exists.mp (strategy.mem_sides_iff.mp isSide)
    refine ⟨level, watched, ?_⟩
    rw [Session.datum?_noted (by cases side <;> rintro ⟨⟩ <;> decide)]
    exact strategy.datum?_sessionRead_inputName market consent positions watched

theorem orders_sessionRaised :
    (strategy.sessionRaised market consent positions).orders = [] := by
  simp [sessionRaised, sessionRead]

/-- A threshold tick gives the orders of its strategy. -/
theorem run_tick :
    ∃ course session,
      runAll? market.indicator ⟨strategy.levelBindings ++ market.bindings consent, positions, []⟩
          (strategy.tick.flatMap Statement.instructions) = some (course, session) ∧
        session.orders = strategy.orders market consent positions := by
  have reading := strategy.run_reading market consent positions
  rw [ThresholdStrategy.tick, Tick.threshold, List.flatMap_append]
  cases missing : Comparator.equal.holds (strategy.value market) market.emptyValue with
  | true =>
      rw [missing, if_pos rfl] at reading
      have nothing : strategy.orders market consent positions = [] := if_pos missing
      refine ⟨.finished, _, runAll?_append_of_finished reading, ?_⟩
      rw [nothing]
      rfl
  | false =>
      rw [missing, if_neg Bool.false_ne_true] at reading
      rw [runAll?_append_of_onward reading,
        strategy.orders_eq_flatMap_sides market consent positions missing]
      split
      case isTrue noSides =>
        have none : strategy.sides = [] := List.isEmpty_iff.mp noSides
        exact ⟨.onward, _, rfl, by rw [none]; rfl⟩
      case isFalse someSides =>
        have injective : Function.Injective fun side => (Tick.breachOf side).variableName :=
          injective_signalName.comp injective_breachOf
        have entering := @run_entering_sides market.indicator
          (strategy.sessionRaised market consent positions) (strategy.breached market) _ _ _
          strategy.sides (fun side isSide => Session.datum?_declareAll injective isSide)
          (strategy.knows_sessionRaised market consent positions)
        refine ⟨.onward, (strategy.sessionRaised market consent positions).giveAll
          (strategy.sides.flatMap fun side =>
            if strategy.breached market side then
              entryOrders strategy.stacking consent positions side
            else
              []), ?_, ?_⟩
        · simp only [List.flatMap_append, List.append_assoc]
          rw [runAll?_append_of_onward (run_noteHeldSides _ _ _),
            runAll?_append_of_onward (strategy.run_raising market consent positions)]
          exact entering
        · rw [Session.orders_giveAll, strategy.orders_sessionRaised market consent positions,
            List.nil_append]

/-- The written tick of a threshold strategy gives the orders of the strategy. -/
theorem tickOrders?_fragment :
    (Strategy.threshold strategy).fragment.tickOrders? market consent positions =
      some (strategy.orders market consent positions) := by
  obtain ⟨course, session, ran, given⟩ := strategy.run_tick market consent positions
  rw [Strategy.fragment, ← given]
  exact tickOrders?_eq_some strategy.filled_tick strategy.remarksPlain_tick
    strategy.binding?_inputs ran

end ThresholdStrategy

/--
The tick function of a crossover or threshold strategy gives the orders that its
settings call for, whatever the market shows and whatever is open.
-/
theorem tickOrders?_eq_orders :
    (∀ (strategy : CrossoverStrategy) market consent positions,
      (Strategy.crossover strategy).fragment.tickOrders? market consent positions =
        some (strategy.orders market consent positions)) ∧
    ∀ (strategy : ThresholdStrategy) market consent positions,
      (Strategy.threshold strategy).fragment.tickOrders? market consent positions =
        some (strategy.orders market consent positions) :=
  ⟨CrossoverStrategy.tickOrders?_fragment, ThresholdStrategy.tickOrders?_fragment⟩

end ExpertAdvisor
