import ExpertAdvisor.Advisor.Tick

namespace ExpertAdvisor.Advisor

/-!
# The scaffold of an expert advisor

Every expert advisor has the same sections: a banner, its inputs, one function
that reads the indicator, the order helpers, and the event handlers.  Sections
are set apart by an empty line.
-/

/-- What an expert advisor's text is made from, all in its written form. -/
structure Scaffold where
  indicatorName : String
  timeframe : String
  risk : List Input
  carried : List Input
  fragment : Fragment
  deriving Repr, DecidableEq

/-- The file in which the expert advisor of an indicator is saved. -/
def fileName (indicatorName : String) : String :=
  indicatorName ++ "_EA" ++ ".mq4"

/-- The width of the rules above and below the banner. -/
def bannerWidth : Nat := 68

/-- The rule above and below the banner. -/
def bannerRule : String :=
  "//+" ++ Text.repeatText (bannerWidth - 4) "-" ++ "+"

/-- A row of the banner; a long text moves its right edge. -/
def bannerRow (text : String) : String :=
  Text.padEnd (bannerWidth - 1) ("//| " ++ text) ++ "|"

/-- The inputs for order volume, slippage, distances and the magic number. -/
def riskInputs (lots slippage stopLoss takeProfit magicNumber : String) : List Input :=
  [.plain "double" "Lots" lots,
    .plain "int" "Slippage" slippage,
    ⟨"int", "StopLossPoints", stopLoss, "      // 0 disables the stop-loss"⟩,
    ⟨"int", "TakeProfitPoints", takeProfit, "    // 0 disables the take-profit"⟩,
    .plain "int" "MagicNumber" magicNumber,
    .plain "bool" "CloseOppositeSignal" "true"]

/-- The input that holds the indicator's name. -/
def nameInput (indicatorName : String) : Input :=
  .plain "string" "IndicatorName" (stringLiteral indicatorName)

/-- The parameter of the reading function that selects a buffer. -/
def bufferArgument : String := "bufferIndex_"

/-- The parameter of the reading function that selects a bar. -/
def shiftArgument : String := "barShift_"

/-- The line in place of carried inputs where the indicator has none. -/
def noInputsRemark : String :=
  "// No input/extern parameters were detected in the indicator"

/-- The names that every expert advisor declares itself. -/
def reservedNames : List String :=
  ["Lots", "Slippage", "StopLossPoints", "TakeProfitPoints", "MagicNumber",
    "CloseOppositeSignal", "IndicatorName", "UpperThreshold", "LowerThreshold",
    "GetIndicatorValue", "HasOpenPosition", "OpenOrder", "ClosePositions",
    "OnInit", "OnDeinit", "OnTick"]

/-- The function that tells whether a side is held. -/
def holdingFunction : List String := [
  "// direction: 1 = buy, -1 = sell",
  "bool HasOpenPosition(int direction)",
  "\x7b",
  "   for(int i = OrdersTotal() - 1; i >= 0; i--)",
  "   \x7b",
  "      if(!OrderSelect(i, SELECT_BY_POS, MODE_TRADES)) continue;",
  "      if(OrderSymbol() != Symbol() || OrderMagicNumber() != MagicNumber) continue;",
  "      if(direction > 0 && OrderType() == OP_BUY) return(true);",
  "      if(direction < 0 && OrderType() == OP_SELL) return(true);",
  "   \x7d",
  "   return(false);",
  "\x7d"]

/-- The function that opens an order, with its stop-loss and take-profit. -/
def openingFunction : List String := [
  "int OpenOrder(int orderType)",
  "\x7b",
  "   RefreshRates();",
  "   double price = (orderType == OP_BUY) ? Ask : Bid;",
  "   double sl = 0.0;",
  "   double tp = 0.0;",
  "",
  "   if(StopLossPoints > 0)",
  "      sl = (orderType == OP_BUY) ? price - StopLossPoints * Point : " ++
    "price + StopLossPoints * Point;",
  "   if(TakeProfitPoints > 0)",
  "      tp = (orderType == OP_BUY) ? price + TakeProfitPoints * Point : " ++
    "price - TakeProfitPoints * Point;",
  "",
  "   int ticket = OrderSend(Symbol(), orderType, Lots, NormalizeDouble(price, Digits), Slippage,",
  "                          NormalizeDouble(sl, Digits), NormalizeDouble(tp, Digits),",
  "                          IndicatorName + \" EA\", MagicNumber, 0, clrNONE);",
  "   if(ticket < 0)",
  "      Print(\"OrderSend failed: \", GetLastError());",
  "   return(ticket);",
  "\x7d"]

/-- The function that closes the positions of a side. -/
def closingFunction : List String := [
  "// direction: 1 = buy, -1 = sell",
  "void ClosePositions(int direction)",
  "\x7b",
  "   for(int i = OrdersTotal() - 1; i >= 0; i--)",
  "   \x7b",
  "      if(!OrderSelect(i, SELECT_BY_POS, MODE_TRADES)) continue;",
  "      if(OrderSymbol() != Symbol() || OrderMagicNumber() != MagicNumber) continue;",
  "      if(direction > 0 && OrderType() != OP_BUY) continue;",
  "      if(direction < 0 && OrderType() != OP_SELL) continue;",
  "",
  "      RefreshRates();",
  "      double price = (OrderType() == OP_BUY) ? Bid : Ask;",
  "      if(!OrderClose(OrderTicket(), OrderLots(), NormalizeDouble(price, Digits), Slippage, " ++
    "clrNONE))",
  "         Print(\"OrderClose failed: \", GetLastError());",
  "   \x7d",
  "\x7d"]

/-- The handlers for start and end. -/
def lifecycleFunctions : List String := [
  "int OnInit()",
  "\x7b",
  "   return(INIT_SUCCEEDED);",
  "\x7d",
  "",
  "void OnDeinit(const int reason)",
  "\x7b",
  "\x7d"]

namespace Scaffold

/-- The banner and the properties. -/
def headerLines (scaffold : Scaffold) : List String := [
  bannerRule,
  bannerRow (fileName scaffold.indicatorName),
  bannerRow "Expert Advisor generated by EA Builder",
  bannerRow ("Source indicator: " ++ scaffold.indicatorName),
  bannerRule,
  "#property copyright \"Generated by EA Builder\"",
  "#property version   \"1.00\"",
  "#property strict"]

/-- The lines that declare the risk settings. -/
def riskLines (scaffold : Scaffold) : List String :=
  "// Risk settings" :: scaffold.risk.map Input.line

/-- The inputs carried over from the indicator. -/
def carriedLines (scaffold : Scaffold) : List String :=
  "// Indicator settings" :: (nameInput scaffold.indicatorName).line ::
    if scaffold.carried.isEmpty then [noInputsRemark] else scaffold.carried.map Input.line

/-- The strategy's own inputs. -/
def strategyLines (scaffold : Scaffold) : List String :=
  "// Strategy settings" :: scaffold.fragment.inputs.map Input.line

/--
The arguments of the call that reads the indicator: the carried inputs stand
between its name and the buffer.
-/
def callArguments (scaffold : Scaffold) : List String :=
  ["NULL", scaffold.timeframe, "IndicatorName"] ++ scaffold.carried.map Input.name ++
    [bufferArgument, shiftArgument]

/-- The one function that reads the indicator. -/
def accessorLines (scaffold : Scaffold) : List String := [
  "// Reads one value of the indicator; every strategy goes through here",
  "double GetIndicatorValue(int " ++ bufferArgument ++ ", int " ++ shiftArgument ++ ")",
  "\x7b",
  indentation ++ "return iCustom(" ++ ", ".intercalate scaffold.callArguments ++ ");",
  "\x7d"]

/-- The function that is run on every tick. -/
def tickLines (scaffold : Scaffold) : List String :=
  ["void OnTick()", "\x7b", scaffold.fragment.body, "\x7d"]

/-- The sections in order; a strategy without inputs has no section for them. -/
def sections (scaffold : Scaffold) : List (List String) :=
  [scaffold.headerLines, scaffold.riskLines, scaffold.carriedLines] ++
  (if scaffold.fragment.inputs.isEmpty then [] else [scaffold.strategyLines]) ++
  [scaffold.accessorLines, holdingFunction, openingFunction, closingFunction,
    lifecycleFunctions, scaffold.tickLines]

/-- The whole text: the sections with an empty line between them. -/
def text (scaffold : Scaffold) : String :=
  "\n\n".intercalate (scaffold.sections.map Text.joinLines) ++ "\n"

end Scaffold

end ExpertAdvisor.Advisor
