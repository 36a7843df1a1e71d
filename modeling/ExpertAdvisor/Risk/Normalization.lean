import ExpertAdvisor.Settings.Basic
import ExpertAdvisor.Text.Lines
import ExpertAdvisor.Value.Real

namespace ExpertAdvisor.Normalize

/-!
# Normalising raw values

Whatever a user typed is turned into numbers that a payload accepts.  A value
that stands for no finite number takes a default: the configured one for the
order volume, the slippage and the magic number, and zero for distances and
buffers.  Flags count as no number here.  The one thing that fails is an integer
beyond the range of binary64.
-/

/-- The finite number among what a value was read as; only an integer out of range is a fault. -/
def finiteOutcome : Except RealFault Binary64 → Except RealFault (Option FiniteBinary64)
  | .ok number => .ok number.finite?
  | .error .oversized => .error .oversized
  | .error _ => .ok none

/-- The finite number that a raw value stands for. -/
def finiteNumber (value : Value) : Except RealFault (Option FiniteBinary64) :=
  match value with
  | .null | .boolean _ => .ok none
  | _ => finiteOutcome value.toReal

/-- The integer that a raw value stands for, its fraction dropped. -/
def wholeNumber (value : Value) : Except RealFault (Option Int) :=
  (finiteNumber value).map (Option.map FiniteBinary64.truncated)

/-- The number as an order volume, if it is greater than zero. -/
def asLots (number : Option FiniteBinary64) : Option FiniteBinary64 :=
  number.filter FiniteBinary64.isPositive

/-- The number as a distance in points, if it is not negative. -/
def asPoints (number : Option FiniteBinary64) : Option FiniteBinary64 :=
  number.filter FiniteBinary64.isNonnegative

/-- Whether a raw value is an order volume: a finite number greater than zero. -/
def isLots (value : Value) : Except RealFault Bool :=
  (finiteNumber value).map fun number => (asLots number).isSome

/-- Whether a raw value is a distance in points: a finite number that is not negative. -/
def isPoints (value : Value) : Except RealFault Bool :=
  (finiteNumber value).map fun number => (asPoints number).isSome

/-- The endings that mark an indicator's file. -/
def fileEndings : List (List Char) :=
  [".mq4".toList, ".ex4".toList]

/-- Whether a value is a bare indicator name: not blank, without a path and without an ending. -/
def isIndicatorName (value : Value) : Bool :=
  match value with
  | .text name =>
      let characters := name.toList
      let lowered := characters.map Char.toLower
      !Text.isAllBlank name && !characters.contains '/' && !characters.contains '\\' &&
        !fileEndings.any fun ending => Text.endsWith ending lowered
  | _ => false

/-- An order volume, or the default one. -/
def lots
    (settings : Settings)
    (value : Value) : Except RealFault Binary64 :=
  (finiteNumber value).map fun number =>
    match asLots number with
    | some valid => .finite valid
    | none => settings.lots

/-- A distance in points without its fraction, or zero. -/
def points (value : Value) : Except RealFault Nat :=
  (finiteNumber value).map fun number =>
    match asPoints number with
    | some valid => valid.truncated.toNat
    | none => 0

/-- A buffer's index, which is never negative. -/
def bufferIndex (value : Value) : Except RealFault Nat :=
  (wholeNumber value).map fun number => (number.getD 0).toNat

/-- A threshold, or none where the value is blank or no number. -/
def threshold (value : Value) : Except RealFault (Option FiniteBinary64) :=
  match value with
  | .text content => if Text.isAllBlank content then .ok none else finiteNumber value
  | _ => finiteNumber value

end ExpertAdvisor.Normalize

namespace ExpertAdvisor

/-- Raw risk settings as a user gave them. -/
structure RawRisk where
  lots : Value
  slippage : Value
  stopLoss : Value
  takeProfit : Value
  magicNumber : Value
  deriving DecidableEq, Repr

/-- Risk settings that a payload can hold. -/
structure Risk where
  lots : Binary64
  slippage : Int
  stopLoss : Nat
  takeProfit : Nat
  magicNumber : Int
  deriving Repr, DecidableEq

namespace RawRisk

/-- Turns raw risk settings into usable ones. -/
def normalize
    (settings : Settings)
    (raw : RawRisk) : Except RealFault Risk := do
  let slippage ← Normalize.wholeNumber raw.slippage
  let magicNumber ← Normalize.wholeNumber raw.magicNumber
  let lots ← Normalize.lots settings raw.lots
  let stopLoss ← Normalize.points raw.stopLoss
  let takeProfit ← Normalize.points raw.takeProfit
  return {
    lots := lots
    slippage := slippage.getD settings.slippage
    stopLoss := stopLoss
    takeProfit := takeProfit
    magicNumber := magicNumber.getD settings.magicNumber }

end RawRisk

/-- Risk settings as a record in snake case. -/
def Risk.toRecord (risk : Risk) : Record :=
  [("lots", .real risk.lots), ("slippage", .integer risk.slippage),
    ("stop_loss", .integer risk.stopLoss), ("take_profit", .integer risk.takeProfit),
    ("magic_number", .integer risk.magicNumber)]

end ExpertAdvisor
