import ExpertAdvisor.Payload.Basic
import ExpertAdvisor.Value.Basic

namespace ExpertAdvisor

/-!
# Settings

Settings hold the environment that the service runs in, its limits, and the
defaults that callers fall back to.
-/

/-- The settings of a running program. -/
structure Settings where
  environment : String
  debug : Bool
  logLevel : String
  allowedOrigins : List String
  sourceLimit : Int
  indicatorName : String
  timeframe : String
  lots : Binary64
  slippage : Int
  stopLoss : Int
  takeProfit : Int
  magicNumber : Int
  deriving Repr, DecidableEq

namespace Settings

/-- The settings that hold unless something else is set. -/
def standard : Settings where
  environment := "development"
  debug := false
  logLevel := "INFO"
  allowedOrigins := ["http://localhost:3000", "http://localhost:8000"]
  sourceLimit := 500000
  indicatorName := "MyIndicator"
  timeframe := Payload.chartTimeframe.text
  lots := .finite Payload.tenthOfLot.val
  slippage := Payload.standardSlippage
  stopLoss := 300
  takeProfit := 600
  magicNumber := Payload.standardMagicNumber

/-- Whether the environment is the production one, whatever the letters' case. -/
def isProduction (settings : Settings) : Bool :=
  let name := (Text.trimBlanks settings.environment.toList).map Char.toLower
  name == "prod".toList || name == "production".toList

/-- The settings as a record under their variables' names. -/
def toRecord (settings : Settings) : Record :=
  [("APP_ENV", .text settings.environment),
    ("DEBUG", .boolean settings.debug),
    ("LOG_LEVEL", .text settings.logLevel),
    ("CORS_ORIGINS", .list (settings.allowedOrigins.map .text)),
    ("MAX_SOURCE_CHARS", .integer settings.sourceLimit),
    ("DEFAULT_INDICATOR_NAME", .text settings.indicatorName),
    ("DEFAULT_TIMEFRAME", .text settings.timeframe),
    ("DEFAULT_LOTS", .real settings.lots),
    ("DEFAULT_SLIPPAGE", .integer settings.slippage),
    ("DEFAULT_STOP_LOSS", .integer settings.stopLoss),
    ("DEFAULT_TAKE_PROFIT", .integer settings.takeProfit),
    ("DEFAULT_MAGIC_NUMBER", .integer settings.magicNumber)]

end Settings

end ExpertAdvisor
