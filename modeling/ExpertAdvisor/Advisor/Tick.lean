import ExpertAdvisor.Advisor.Literal
import ExpertAdvisor.Advisor.Statement
import ExpertAdvisor.Strategy.Basic

namespace ExpertAdvisor.Advisor

/-!
# What a strategy does on a tick

Each strategy becomes a list of statements and the inputs that these use.  A
strategy that does not stack positions notes which sides it holds before it
touches any order.
-/

/-- An input that the user of an expert advisor can set. -/
structure Input where
  type : String
  name : String
  value : String
  note : String
  deriving Repr, DecidableEq

namespace Input

/-- An input without a note behind it. -/
def plain (type name value : String) : Input :=
  ⟨type, name, value, ""⟩

/-- The line that declares an input. -/
def line (input : Input) : String :=
  "input " ++ input.type ++ " " ++ input.name ++ " = " ++ input.value ++ ";" ++ input.note

end Input

/-- What a strategy adds to an expert advisor: inputs, and the body of its tick function. -/
structure Fragment where
  inputs : List Input
  body : String
  deriving Repr, DecidableEq

namespace Tick

/-- The statements that note which sides are held before anything is done. -/
def noteHeldSides : List (Statement Buffer) :=
  [.noteHeld .buy, .noteHeld .sell, .gap]

/-- The remark above the reactions of a reversed strategy. -/
def reversalRemark : String :=
  "Reversed: bullish crosses sell, bearish crosses buy"

/-- The fast number crosses the slow one from below. -/
def bullishConditions : List Comparison :=
  [⟨.series .fastBefore, .atMost, .series .slowBefore⟩,
    ⟨.series .fast, .greater, .series .slow⟩]

/-- The fast number crosses the slow one from above. -/
def bearishConditions : List Comparison :=
  [⟨.series .fastBefore, .atLeast, .series .slowBefore⟩,
    ⟨.series .fast, .less, .series .slow⟩]

/-- The tick of a crossover strategy. -/
def crossover
    (fast slow : Buffer)
    (stacking reversed : Bool) : List (Statement Buffer) :=
  let bullishSide := if reversed then Side.sell else Side.buy
  [.readSeries .fast fast 0, .readSeries .slow slow 0,
    .readSeries .fastBefore fast 1, .readSeries .slowBefore slow 1, .gap,
    .leaveIfEmpty [.fast, .slow, .fastBefore, .slowBefore], .gap] ++
  (if stacking then [] else noteHeldSides) ++
  [.define .bullishCross bullishConditions, .define .bearishCross bearishConditions, .gap] ++
  (if reversed then [.remark reversalRemark] else []) ++
  [.react [⟨.bullishCross, Action.enter bullishSide stacking⟩,
    ⟨.bearishCross, Action.enter bullishSide.opposite stacking⟩]]

/-- The remark in place of reactions where no level is watched. -/
def idleRemark (directionName : String) : String :=
  "No " ++ directionName ++ " threshold configured: this EA never opens orders"

/-- The bound whose breach enters a side. -/
def boundOf : Side → Bound
  | .buy => .upper
  | .sell => .lower

/-- The signal that enters a side. -/
def breachOf : Side → Signal
  | .buy => .breachAbove
  | .sell => .breachBelow

/-- When a side is to be entered. -/
def breachConditions : Side → List Comparison
  | .buy => [⟨.series .level, .greater, .bound .upper⟩]
  | .sell => [⟨.series .level, .less, .bound .lower⟩]

/-- The tick of a threshold strategy that watches a level for each of the given sides. -/
def threshold
    (buffer : Buffer)
    (sides : List Side)
    (directionName : String)
    (stacking : Bool) : List (Statement Buffer) :=
  [.readSeries .level buffer 0, .leaveIfEmpty [.level], .gap] ++
  if sides.isEmpty then
    [.remark (idleRemark directionName)]
  else
    (if stacking then [] else noteHeldSides) ++
    sides.map (fun side => .define (breachOf side) (breachConditions side)) ++ [.gap] ++
    sides.map fun side => .react [⟨breachOf side, Action.enter side stacking⟩]

/-- The input that holds a threshold, with a double as its literal. -/
def boundInput
    (bound : Bound)
    (literal : String) : Input :=
  .plain "double" bound.inputName literal

end Tick

end ExpertAdvisor.Advisor

namespace ExpertAdvisor

open Advisor

namespace CrossoverStrategy

/-- The tick of a crossover strategy, with its buffers by their numbers. -/
def tick (strategy : CrossoverStrategy) : List (Statement Nat) :=
  Tick.crossover strategy.fastBuffer strategy.slowBuffer strategy.stacking strategy.reversed

end CrossoverStrategy

namespace ThresholdStrategy

/-- The sides that a threshold strategy enters: those whose levels it watches. -/
def sides (strategy : ThresholdStrategy) : List Side :=
  (if strategy.watchedUpper.isSome then [.buy] else []) ++
    (if strategy.watchedLower.isSome then [.sell] else [])

/-- The tick of a threshold strategy, with its buffer by its number. -/
def tick (strategy : ThresholdStrategy) : List (Statement Nat) :=
  Tick.threshold strategy.buffer strategy.sides strategy.direction.name strategy.stacking

/-- The inputs that hold the watched levels. -/
def inputs (strategy : ThresholdStrategy) : List Input :=
  (strategy.watchedUpper.map fun level => Tick.boundInput .upper (finiteLiteral level)).toList ++
    (strategy.watchedLower.map fun level => Tick.boundInput .lower (finiteLiteral level)).toList

end ThresholdStrategy

/-- What a strategy adds to an expert advisor; a snippet is the body as it is. -/
def Strategy.fragment : Strategy → Fragment
  | .crossover settings => ⟨[], Statement.body Number.naturalText settings.tick⟩
  | .threshold settings => ⟨settings.inputs, Statement.body Number.naturalText settings.tick⟩
  | .custom snippet => ⟨[], snippet⟩

end ExpertAdvisor
