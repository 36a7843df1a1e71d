import ExpertAdvisor.Strategy.Basic
import ExpertAdvisor.Text.Blank
import ExpertAdvisor.Text.Printable

namespace ExpertAdvisor

/-!
# Conversion payloads

A payload holds everything that one expert advisor is composed from.  Its types
admit only what composition can use: the indicator's name shows on one line,
the order volume is positive, and distances and buffers are not negative.
-/

/-- An indicator's file name without extension: not blank, and free of control characters. -/
structure IndicatorName where
  text : String
  not_blank : Text.isAllBlank text = false
  printable : text.toList.all Text.isPrintable = true
  deriving DecidableEq, Repr

/-- An expression for the timeframe, taken as it is; it is not blank. -/
structure Timeframe where
  text : String
  not_blank : Text.isAllBlank text = false
  deriving DecidableEq, Repr

/-- An order volume, which is greater than zero. -/
abbrev Lots := { number : FiniteBinary64 // number.isPositive = true }

/-- The complete input of one composition. -/
structure Payload where
  indicatorName : IndicatorName
  indicatorCode : String
  timeframe : Timeframe
  lots : Lots
  slippage : Int
  stopLoss : Nat
  takeProfit : Nat
  magicNumber : Int
  strategy : Strategy
  deriving DecidableEq, Repr

namespace Payload

/-- The timeframe of the chart that the expert advisor runs on. -/
def chartTimeframe : Timeframe where
  text := "_Period"
  not_blank := by decide

/-- The volume of a tenth of a lot, to the nearest binary number. -/
def tenthOfLot : Lots :=
  ⟨{ negative := false
     significand := 7205759403792794
     scale := 1018
     significand_lt := by decide
     canonical := by decide
     scale_le := by decide },
    by decide⟩

/-- The slippage where none is given, in points. -/
def standardSlippage : Int := 3

/-- The magic number where none is given. -/
def standardMagicNumber : Int := 123456

end Payload

end ExpertAdvisor
