import ExpertAdvisor.Advisor.Order
import ExpertAdvisor.Number.Digits
import ExpertAdvisor.Text.Lines

namespace ExpertAdvisor.Advisor

/-!
# Statements of a tick

What an expert advisor does on a tick is a list of statements: it reads the
indicator, leaves when a value is missing, notes which sides it holds, defines
signals, and acts on them.  Statements are written in the language of expert
advisors, one indentation deep.
-/

/-- A number that a tick reads from the indicator. -/
inductive Series where
  | fast
  | slow
  | fastBefore
  | slowBefore
  | level
  deriving Repr, DecidableEq

/-- A threshold that the user can set. -/
inductive Bound where
  | upper
  | lower
  deriving Repr, DecidableEq

/-- One side of a comparison. -/
inductive Operand where
  | series (name : Series)
  | bound (name : Bound)
  deriving Repr, DecidableEq

/-- How two numbers are compared. -/
inductive Relation where
  | less
  | atMost
  | greater
  | atLeast
  deriving Repr, DecidableEq

/-- A comparison of two numbers. -/
structure Comparison where
  left : Operand
  relation : Relation
  right : Operand
  deriving Repr, DecidableEq

/-- A reason to trade. -/
inductive Signal where
  | bullishCross
  | bearishCross
  | breachAbove
  | breachBelow
  deriving Repr, DecidableEq

/-- What is done on a signal; closing also needs the user's consent. -/
inductive Action where
  | closeSide (side : Side) (onlyIfHeld : Bool)
  | openSide (side : Side) (unlessHeld : Bool)
  deriving Repr, DecidableEq

/-- A signal with the actions taken on it. -/
structure Reaction where
  signal : Signal
  actions : List Action
  deriving Repr, DecidableEq

/-- A statement; of several reactions in one statement only the first that applies is taken. -/
inductive Statement (Buffer : Type) where
  | readSeries (name : Series) (buffer : Buffer) (shift : Nat)
  | leaveIfEmpty (names : List Series)
  | noteHeld (side : Side)
  | define (signal : Signal) (conditions : List Comparison)
  | react (reactions : List Reaction)
  | remark (text : String)
  | gap
  deriving Repr, DecidableEq

/-- One indentation. -/
def indentation : String := "   "

/-- Indents lines; an empty line stays empty. -/
def indent (lines : List String) : List String :=
  lines.map fun line => if line == "" then "" else indentation ++ line

/-- Lines in braces under a header. -/
def braced
    (header : String)
    (lines : List String) : List String :=
  header :: "\x7b" :: indent lines ++ ["\x7d"]

namespace Series

/-- The variable that holds a number that was read. -/
def variableName : Series → String
  | .fast => "fast"
  | .slow => "slow"
  | .fastBefore => "fastPrev"
  | .slowBefore => "slowPrev"
  | .level => "value"

end Series

namespace Bound

/-- The input that holds a threshold. -/
def inputName : Bound → String
  | .upper => "UpperThreshold"
  | .lower => "LowerThreshold"

end Bound

namespace Operand

/-- A side of a comparison as it is written. -/
def code : Operand → String
  | .series name => name.variableName
  | .bound name => name.inputName

end Operand

namespace Relation

/-- The operator of a relation. -/
def symbol : Relation → String
  | .less => "<"
  | .atMost => "<="
  | .greater => ">"
  | .atLeast => ">="

end Relation

namespace Comparison

/-- A comparison as it is written. -/
def code (comparison : Comparison) : String :=
  comparison.left.code ++ " " ++ comparison.relation.symbol ++ " " ++ comparison.right.code

end Comparison

namespace Signal

/-- The variable that holds whether there is a reason to trade. -/
def variableName : Signal → String
  | .bullishCross => "bullishCross"
  | .bearishCross => "bearishCross"
  | .breachAbove => "buySignal"
  | .breachBelow => "sellSignal"

end Signal

namespace Action

/-- The actions on a signal: close the opposite side, then open. -/
def enter
    (side : Side)
    (stacking : Bool) : List Action :=
  [.closeSide side.opposite (!stacking), .openSide side (!stacking)]

/-- An action as it is written, behind the conditions that it has. -/
def code : Action → String
  | .closeSide side onlyIfHeld =>
      let held := if onlyIfHeld then " && " ++ side.heldFlag else ""
      "if(CloseOppositeSignal" ++ held ++ ") ClosePositions(" ++ side.number ++ ");"
  | .openSide side unlessHeld =>
      let guarded := if unlessHeld then "if(!" ++ side.heldFlag ++ ") " else ""
      guarded ++ "OpenOrder(" ++ side.orderType ++ ");"

end Action

namespace Reaction

/-- A reaction as code, behind the words that lead to it. -/
def lines
    (lead : String)
    (reaction : Reaction) : List String :=
  braced (lead ++ "if(" ++ reaction.signal.variableName ++ ")") (reaction.actions.map Action.code)

/-- Reactions as code, each but the first as an alternative. -/
def chain : List Reaction → List String
  | [] => []
  | first :: rest => first.lines "" ++ rest.flatMap (lines "else ")

end Reaction

namespace Statement

/-- The lines of a statement, where `bufferText` writes the numbers of buffers. -/
def lines
    (bufferText : Buffer → String) :
    Statement Buffer → List String
  | .readSeries name buffer shift =>
      ["double " ++ name.variableName ++ " = GetIndicatorValue(" ++ bufferText buffer ++ ", " ++
        Number.naturalText shift ++ ");"]
  | .leaveIfEmpty names =>
      let tests := names.map fun name => name.variableName ++ " == EMPTY_VALUE"
      ["if(" ++ " || ".intercalate tests ++ ") return;"]
  | .noteHeld side =>
      ["bool " ++ side.heldFlag ++ " = HasOpenPosition(" ++ side.number ++ ");"]
  | .define signal conditions =>
      ["bool " ++ signal.variableName ++ " = " ++
        " && ".intercalate (conditions.map Comparison.code) ++ ";"]
  | .react reactions => Reaction.chain reactions
  | .remark text => ["// " ++ text]
  | .gap => [""]

/-- Statements as the text of a function's body. -/
def body
    (bufferText : Buffer → String)
    (statements : List (Statement Buffer)) : String :=
  Text.joinLines (indent (statements.flatMap (lines bufferText)))

end Statement

end ExpertAdvisor.Advisor
