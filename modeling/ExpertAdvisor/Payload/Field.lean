import ExpertAdvisor.Value.Basic

namespace ExpertAdvisor

/-!
# Payload fields

A payload field has two spellings, one in camel case and one in snake case.
Where a record uses both, the camel case counts and the other is a stray key.
-/

/-- The spellings of field names. -/
inductive Spelling where
  | camel
  | snake
  deriving Repr, DecidableEq

/-- The two spellings of one field. -/
structure FieldName where
  camel : String
  snake : String
  deriving Repr, DecidableEq

namespace FieldName

/-- The name of a field in a spelling. -/
def spelled
    (name : FieldName) :
    Spelling → String
  | .camel => name.camel
  | .snake => name.snake

/-- A name that both spellings share. -/
def plain (word : String) : FieldName :=
  ⟨word, word⟩

/-- The key under which a record gives a field, with its value. -/
def found?
    (name : FieldName)
    (record : Record) : Option (String × Value) :=
  match Record.get? record name.camel with
  | some value => some (name.camel, value)
  | none => (Record.get? record name.snake).map fun value => (name.snake, value)

/-- The keys under which a record gives fields. -/
def foundKeys
    (names : List FieldName)
    (record : Record) : List String :=
  names.filterMap fun name => (name.found? record).map Prod.fst

/-- The entries of a record that give none of the fields. -/
def strayEntries
    (names : List FieldName)
    (record : Record) : Record :=
  let known := foundKeys names record
  record.filter fun entry => !known.contains entry.1

end FieldName

namespace Field

/-- The name of a parameter. -/
def name : FieldName := .plain "name"
/-- The default of a parameter, as it was written. -/
def defaultValue : FieldName := ⟨"defaultValue", "default_value"⟩
/-- The declared type of a parameter. -/
def mqlType : FieldName := ⟨"mqlType", "mql_type"⟩

/-- The kind of a strategy. -/
def kind : FieldName := .plain "kind"
/-- The index of the fast buffer. -/
def fastBuffer : FieldName := ⟨"fastBuffer", "fast_buffer"⟩
/-- The index of the slow buffer. -/
def slowBuffer : FieldName := ⟨"slowBuffer", "slow_buffer"⟩
/-- Whether a strategy stacks positions. -/
def allowMultiplePositions : FieldName := ⟨"allowMultiplePositions", "allow_multiple_positions"⟩
/-- Whether a strategy trades against its signals. -/
def reverseSignal : FieldName := ⟨"reverseSignal", "reverse_signal"⟩
/-- The index of the buffer that is compared with levels. -/
def buffer : FieldName := .plain "buffer"
/-- The level that is watched from below. -/
def upper : FieldName := .plain "upper"
/-- The level that is watched from above. -/
def lower : FieldName := .plain "lower"
/-- The direction of the breaches that are watched. -/
def direction : FieldName := .plain "direction"
/-- The code of a custom strategy. -/
def snippet : FieldName := .plain "snippet"

/-- The name of the indicator. -/
def indicatorName : FieldName := ⟨"indicatorName", "indicator_name"⟩
/-- The source of the indicator. -/
def indicatorCode : FieldName := ⟨"indicatorCode", "indicator_code"⟩
/-- The timeframe on which the indicator is read. -/
def timeframeExpression : FieldName := ⟨"timeframeExpression", "timeframe_expression"⟩
/-- The volume of an order. -/
def lots : FieldName := .plain "lots"
/-- The slippage that an order tolerates, in points. -/
def slippage : FieldName := .plain "slippage"
/-- The distance of the stop-loss, in points. -/
def stopLoss : FieldName := ⟨"stopLoss", "stop_loss"⟩
/-- The distance of the take-profit, in points. -/
def takeProfit : FieldName := ⟨"takeProfit", "take_profit"⟩
/-- The number that marks an expert advisor's own orders. -/
def magicNumber : FieldName := ⟨"magicNumber", "magic_number"⟩
/-- The strategy of a payload. -/
def logicConfig : FieldName := ⟨"logicConfig", "logic_config"⟩

/-- The parameters of an indicator. -/
def parameters : FieldName := .plain "parameters"
/-- How many parameters there are. -/
def count : FieldName := .plain "count"
/-- The text of an expert advisor. -/
def code : FieldName := .plain "code"
/-- The name of the file for an expert advisor. -/
def filename : FieldName := .plain "filename"

end Field

end ExpertAdvisor
