namespace ExpertAdvisor

/-!
# Sides of the market

An expert advisor holds positions on two sides.  Acting on one side closes the
other side first.
-/

/-- A side of the market. -/
inductive Side where
  | buy
  | sell
  deriving Repr, DecidableEq

namespace Side

/-- The other side. -/
def opposite : Side → Side
  | .buy => .sell
  | .sell => .buy

/-- The number by which generated functions know a side. -/
def number : Side → String
  | .buy => "1"
  | .sell => "-1"

/-- The name of an order's type in the language of expert advisors. -/
def orderType : Side → String
  | .buy => "OP_BUY"
  | .sell => "OP_SELL"

/-- The flag that tells whether this side was held when the tick began. -/
def heldFlag : Side → String
  | .buy => "hasBuy"
  | .sell => "hasSell"

/-- The other side of the other side is the side itself. -/
@[simp]
theorem opposite_opposite (side : Side) :
    side.opposite.opposite = side := by
  cases side <;> rfl

end Side

end ExpertAdvisor
