import ExpertAdvisor.Number.Binary64

namespace ExpertAdvisor

/-!
# Trading strategies

A strategy says when the expert advisor trades.  It trades on the crossing of
two indicator buffers, or on a buffer that leaves fixed levels, or it runs a
snippet of the user's own.
-/

/-- The kinds of strategy. -/
inductive StrategyKind where
  | crossover
  | threshold
  | custom
  deriving Repr, DecidableEq

namespace StrategyKind

/-- The name by which a payload selects a kind. -/
def name : StrategyKind → String
  | .crossover => "crossover"
  | .threshold => "threshold"
  | .custom => "custom"

/-- Every kind. -/
def all : List StrategyKind :=
  [.crossover, .threshold, .custom]

/-- The kind with a name. -/
def ofName? (name : String) : Option StrategyKind :=
  all.find? fun kind => kind.name == name

/-- A name selects a kind exactly when it is that kind's name. -/
theorem ofName?_eq_some_iff
    (name : String)
    (kind : StrategyKind) :
    ofName? name = some kind ↔ kind.name = name := by
  constructor
  · intro found
    have matched := List.find?_some found
    simpa using matched
  · rintro rfl
    cases kind <;> rfl

end StrategyKind

/-- Which levels a threshold strategy watches. -/
inductive BreachDirection where
  | above
  | below
  | band
  deriving Repr, DecidableEq

namespace BreachDirection

/-- The name by which a payload selects a direction. -/
def name : BreachDirection → String
  | .above => "above"
  | .below => "below"
  | .band => "band"

/-- Every direction. -/
def all : List BreachDirection :=
  [.above, .below, .band]

/-- The direction with a name. -/
def ofName? (name : String) : Option BreachDirection :=
  all.find? fun direction => direction.name == name

/-- Whether a direction watches for a rise above the upper level. -/
def watchesUpper : BreachDirection → Bool
  | .above | .band => true
  | .below => false

/-- Whether a direction watches for a fall below the lower level. -/
def watchesLower : BreachDirection → Bool
  | .below | .band => true
  | .above => false

/-- A name selects a direction exactly when it is that direction's name. -/
theorem ofName?_eq_some_iff
    (name : String)
    (direction : BreachDirection) :
    ofName? name = some direction ↔ direction.name = name := by
  constructor
  · intro found
    have matched := List.find?_some found
    simpa using matched
  · rintro rfl
    cases direction <;> rfl

end BreachDirection

/--
Trade when the fast buffer crosses the slow one.  A stacking strategy opens on
every signal, whatever is open already; a reversed one exchanges buys and sells.
-/
structure CrossoverStrategy where
  fastBuffer : Nat
  slowBuffer : Nat
  stacking : Bool
  reversed : Bool
  deriving Repr, DecidableEq

/--
Buy when a buffer rises above the upper level and sell when it falls below the
lower one.  A level that is not set is not watched.
-/
structure ThresholdStrategy where
  buffer : Nat
  upper : Option FiniteBinary64
  lower : Option FiniteBinary64
  direction : BreachDirection
  stacking : Bool
  deriving Repr, DecidableEq

namespace ThresholdStrategy

/-- The upper level, when it is set and watched. -/
def watchedUpper (strategy : ThresholdStrategy) : Option FiniteBinary64 :=
  if strategy.direction.watchesUpper then strategy.upper else none

/-- The lower level, when it is set and watched. -/
def watchedLower (strategy : ThresholdStrategy) : Option FiniteBinary64 :=
  if strategy.direction.watchesLower then strategy.lower else none

end ThresholdStrategy

/-- The strategy of an expert advisor. -/
inductive Strategy where
  | crossover (settings : CrossoverStrategy)
  | threshold (settings : ThresholdStrategy)
  | custom (snippet : String)
  deriving Repr, DecidableEq

/-- The kind of a strategy. -/
def Strategy.kind : Strategy → StrategyKind
  | .crossover _ => .crossover
  | .threshold _ => .threshold
  | .custom _ => .custom

end ExpertAdvisor
