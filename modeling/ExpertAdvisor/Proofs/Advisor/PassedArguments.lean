import ExpertAdvisor.Proofs.Advisor.DistinctNames
import ExpertAdvisor.Proofs.Code.Meaning

namespace ExpertAdvisor

open Text Indicator Advisor Number Code

/-!
# Passed arguments

The function that reads the indicator passes the carried inputs on to it, in the
order in which they are declared.  Behind the names of the function's parameters
inputs are hidden, and a carried input may have such a name: then the position
of a buffer or a bar is passed in place of the user's setting.
-/

/-! The lines around the carried inputs and their use. -/

namespace Advisor.Scaffold

/-- The line on which the definition of the reading function begins. -/
def readingHeader : String :=
  "double GetIndicatorValue(int " ++ bufferArgument ++ ", int " ++ shiftArgument ++ ")"

/-- The function that reads the indicator. -/
def readingFunction (scaffold : Scaffold) : List String :=
  [readingHeader, "\x7b", scaffold.callLine, "\x7d"]

/-- The lines in front of the carried inputs. -/
def leadingLines (scaffold : Scaffold) : List String :=
  scaffold.headerLines ++ "" :: scaffold.riskLines ++
    ["", "// Indicator settings", (nameInput scaffold.indicatorName).line]

/-- The lines between the carried inputs and the reading function. -/
def middleLines (scaffold : Scaffold) : List String :=
  (if scaffold.carried.isEmpty then [noInputsRemark] else []) ++
  (if scaffold.fragment.inputs.isEmpty then [] else "" :: scaffold.strategyLines) ++
  ["", "// Reads one value of the indicator; every strategy goes through here"]

/-- The lines behind the reading function. -/
def trailingLines (scaffold : Scaffold) : List String :=
  "" :: [""].intercalate
    [holdingFunction, openingFunction, closingFunction, lifecycleFunctions, scaffold.tickLines]

/-- The carried inputs and the reading function among the lines of an expert advisor. -/
theorem toList_text_layout (scaffold : Scaffold) :
    scaffold.text.toList =
      linesText (scaffold.leadingLines ++ scaffold.carried.map Input.line ++
        scaffold.middleLines ++ scaffold.readingFunction ++ scaffold.trailingLines) := by
  have accessor : scaffold.accessorLines =
      "// Reads one value of the indicator; every strategy goes through here" ::
        scaffold.readingFunction := rfl
  rw [toList_text, sections, leadingLines, middleLines, trailingLines, carriedLines, accessor]
  congr 1
  cases scaffold.carried <;> cases scaffold.fragment.inputs <;>
    simp [List.intercalate_cons_cons]

theorem namesOf_leadingLines
    {scaffold : Scaffold}
    (nameOneLine : '\n' ∉ scaffold.indicatorName.toList)
    (riskSingle : ∀ input ∈ scaffold.risk, input.Single) :
    namesOf (linesText scaffold.leadingLines) =
      scaffold.risk.map Input.name ++ ["IndicatorName"] := by
  have name : namesOf (linesText [(nameInput scaffold.indicatorName).line]) =
      ["IndicatorName"] := by
    rw [namesOf_linesText, List.flatMap_singleton, namesOf_nameInput]
  rw [leadingLines, namesOf_linesText_append, namesOf_linesText_append,
    namesOf_headerLines nameOneLine, namesOf_titled (by decide), namesOf_riskLines riskSingle,
    namesOf_titled (by decide), namesOf_titled (by decide), name, List.nil_append]

theorem namesOf_middleLines
    {scaffold : Scaffold}
    (inputsSingle : ∀ input ∈ scaffold.fragment.inputs, input.Single) :
    namesOf (linesText scaffold.middleLines) = scaffold.fragment.inputs.map Input.name := by
  have remark : namesOf (linesText (if scaffold.carried.isEmpty then [noInputsRemark] else [])) =
      [] := by
    split <;> decide
  have strategy :
      namesOf (linesText
          (if scaffold.fragment.inputs.isEmpty then [] else "" :: scaffold.strategyLines)) =
        scaffold.fragment.inputs.map Input.name := by
    split
    case isTrue noInputs =>
      rw [List.isEmpty_iff.mp noInputs]
      decide
    case isFalse => rw [namesOf_titled (by decide), namesOf_strategyLines inputsSingle]
  have title : namesOf (linesText
      ["", "// Reads one value of the indicator; every strategy goes through here"]) = [] := by
    decide
  rw [middleLines, namesOf_linesText_append, namesOf_linesText_append, remark, strategy, title,
    List.nil_append, List.append_nil]

theorem parameterNames_readingHeader :
    parameterNames readingHeader.toList = [bufferArgument, shiftArgument] := by
  decide

/-- What a call passes behind the timeframe, up to the end of its line. -/
def passedText (scaffold : Scaffold) : List Char :=
  let names := scaffold.carried.map Input.name ++ [bufferArgument, shiftArgument]
  (", ".intercalate ("IndicatorName" :: names)).toList ++ ");".toList

/-- The line of the call passes the timeframe and the arguments behind it. -/
theorem toList_callLine (scaffold : Scaffold) :
    scaffold.callLine.toList =
      "   return iCustom(NULL, ".toList ++ scaffold.timeframe.toList ++ ", ".toList ++
        scaffold.passedText := by
  have lead : "   return iCustom(NULL, ".toList =
      indentation.toList ++ "return iCustom(".toList ++ "NULL".toList ++ ", ".toList := by
    decide
  rw [callLine, callArguments, passedText, lead]
  simp only [List.cons_append, List.nil_append, String.intercalate_cons_cons,
    String.toList_append, List.append_assoc]

/-- The names that a call passes are its arguments, whatever stands in front of them. -/
theorem argumentsFrom_passedText
    {scaffold : Scaffold}
    (carriedDelimited : ∀ input ∈ scaffold.carried, input.Delimited) :
    argumentsFrom scaffold.passedText =
      "IndicatorName" :: (scaffold.carried.map Input.name ++ [bufferArgument, shiftArgument]) := by
  have words : ∀ name ∈
      "IndicatorName" :: (scaffold.carried.map Input.name ++ [bufferArgument, shiftArgument]),
      Within isWord name.toList := by
    simp only [List.forall_mem_cons, List.forall_mem_append, List.forall_mem_map]
    exact ⟨by decide, fun input member => (carriedDelimited input member).name_identifier.within,
      by decide, by decide, by simp⟩
  have ending : ");".toList = ')' :: [';'] := by decide
  rw [passedText, ending, argumentsFrom_intercalate fun name member =>
    Place.behind?_of_unmarked ((words name member).mono Place.isUnmarked_of_isWord)]
  refine (List.map_congr_left fun name member => ?_).trans (List.map_id' _)
  have unblank : trimBlanks name.toList = name.toList :=
    trimBlanks_of_noBlank fun character inName =>
      isBlank_eq_false_of_isWord (words name member character inName)
  rw [unblank, String.ofList_toList]

end Advisor.Scaffold

/-! The reading function of a payload. -/

/-- A program declares parameters on consecutive lines in their order, and on no earlier line. -/
def Advisor.Declares (code : String) (parameters : List Parameter) : Prop :=
  (∃ before after : List String,
    code.toList = linesText
      (before ++ parameters.map (fun parameter => parameter.carriedInput.line) ++ after)) ∧
  ∀ parameter ∈ parameters,
    declaringLine? code.toList parameter.name = some parameter.carriedInput.line.toList

/--
The reading function of a program has one line, which calls the indicator with a
timeframe and, behind it, the given arguments.
-/
def Advisor.Passes (code timeframe : String) (arguments : List String) : Prop :=
  ∃ (before after : List String) (call : String) (passed : List Char),
    code.toList =
        linesText (before ++ [Scaffold.readingHeader, "\x7b", call, "\x7d"] ++ after) ∧
      (∀ line ∈ (linesText before).splitOn '\n',
        functionName? line ≠ some "GetIndicatorValue") ∧
      call.toList = "   return iCustom(NULL, ".toList ++ timeframe.toList ++ ", ".toList ++
        passed ∧
      argumentsFrom passed = arguments

namespace Payload

/-- Where nothing clashes, no parameter has a reserved name. -/
theorem name_not_reserved
    {payload : Payload}
    (noClashes : Parameter.clashes (parameters payload.indicatorCode) = [])
    {parameter : Parameter}
    (member : parameter ∈ parameters payload.indicatorCode) :
    parameter.name ∉ reservedNames := fun isReserved =>
  Parameter.clashes_ne_nil_iff.mpr ⟨parameter, member, isReserved⟩ noClashes

/-- A name that is no setting's is not declared in front of the carried inputs. -/
theorem not_mem_namesOf_leadingLines
    (payload : Payload)
    {name : String}
    (noSetting : name ∉ Scaffold.settingNames ++ ["IndicatorName"]) :
    ∀ line ∈ (payload.scaffold (parameters payload.indicatorCode)).leadingLines,
      name ∉ namesOf line.toList := by
  intro line isLeading inLine
  have names :
      namesOf (linesText (payload.scaffold (parameters payload.indicatorCode)).leadingLines) =
        Scaffold.settingNames ++ ["IndicatorName"] :=
    Scaffold.namesOf_leadingLines payload.indicatorName.oneLine payload.single_risk
  rw [← names, namesOf_linesText] at noSetting
  exact noSetting (List.mem_flatMap.mpr ⟨line, isLeading, inLine⟩)

/-- A carried input comes first on its line. -/
theorem head?_inputNames_carried
    {payload : Payload}
    {parameter : Parameter}
    (member : parameter ∈ parameters payload.indicatorCode) :
    (inputNames parameter.carriedInput.line.toList).head? = some parameter.name := by
  have delimited := parameter.delimited_carriedInput member
  rw [Input.inputNames_line delimited.type_identifier.within delimited.name_identifier]
  rfl

/-- The first line that declares a carried input by its name is the input's own. -/
theorem declaringLine?_carried
    {payload : Payload}
    (noClashes : Parameter.clashes (parameters payload.indicatorCode) = [])
    {parameter : Parameter}
    (member : parameter ∈ parameters payload.indicatorCode) :
    declaringLine? (payload.scaffold (parameters payload.indicatorCode)).text.toList
        parameter.name =
      some parameter.carriedInput.line.toList := by
  let own := payload.scaffold (parameters payload.indicatorCode)
  obtain ⟨earlier, later, order⟩ := List.append_of_mem member
  have notEarlier : ∀ other ∈ earlier, other.name ≠ parameter.name := by
    have distinct := nodup_names_parameters payload.indicatorCode
    rw [order, Parameter.names, List.map_append, List.nodup_append] at distinct
    exact fun other isEarlier =>
      distinct.2.2 other.name (List.mem_map_of_mem isEarlier) parameter.name (by simp)
  have noSetting : parameter.name ∉ Scaffold.settingNames ++ ["IndicatorName"] := by
    have reserved : Scaffold.settingNames ++ ["IndicatorName"] ⊆ reservedNames := by decide
    exact fun isSetting => name_not_reserved noClashes member (reserved isSetting)
  have layout : own.text.toList =
      linesText ((own.leadingLines ++ earlier.map (Input.line ∘ Parameter.carriedInput)) ++
        parameter.carriedInput.line :: (later.map (Input.line ∘ Parameter.carriedInput) ++
          own.middleLines ++ own.readingFunction ++ own.trailingLines)) := by
    have carried : own.carried = (parameters payload.indicatorCode).map Parameter.carriedInput :=
      rfl
    rw [own.toList_text_layout, carried, order]
    simp only [List.map_append, List.map_cons, List.map_map, List.append_assoc, List.cons_append]
  rw [layout]
  refine declaringLine?_of_first ?_ (parameter.delimited_carriedInput member).oneLine
    (head?_inputNames_carried member)
  intro line isBefore part inLine
  rcases List.mem_append.mp isBefore with isLeading | isEarlier
  · exact head?_inputNames_ne (payload.not_mem_namesOf_leadingLines noSetting line isLeading)
      inLine
  · obtain ⟨other, isOther, rfl⟩ := List.mem_map.mp isEarlier
    have isCarried : other ∈ parameters payload.indicatorCode := by
      rw [order]
      exact List.mem_append_left _ isOther
    rw [Function.comp_apply, splitOn_of_oneLine (other.delimited_carriedInput isCarried).oneLine,
      List.mem_singleton] at inLine
    rw [inLine, head?_inputNames_carried isCarried]
    exact fun same => notEarlier other isOther (Option.some.inj same)

/-- No line in front of the reading function begins a function of its name. -/
theorem functionName?_before
    (payload : Payload)
    {line : List Char} :
    let own := payload.scaffold (parameters payload.indicatorCode)
    line ∈ (linesText (own.leadingLines ++ own.carried.map Input.line ++
        own.middleLines)).splitOn '\n' →
      functionName? line ≠ some "GetIndicatorValue" := by
  intro own member
  have notMiddle : "GetIndicatorValue" ∉ namesOf (linesText own.middleLines) := by
    rw [Scaffold.namesOf_middleLines payload.strategy.single_inputs,
      show own.fragment = payload.strategy.fragment from rfl, Strategy.map_name_inputs]
    exact fun isLevel =>
      absurd (payload.strategy.names_exposedLevels_sublist.subset isLevel) (by decide)
  rw [namesOf_linesText, List.mem_flatMap, not_exists] at notMiddle
  rcases exists_line_of_mem_splitOn member with rfl | ⟨code, isBefore, inCode⟩
  · decide
  · rw [List.mem_append, List.mem_append] at isBefore
    rcases isBefore with (isLeading | isCarried) | isMiddle
    · have notLeading := payload.not_mem_namesOf_leadingLines
        (show "GetIndicatorValue" ∉ Scaffold.settingNames ++ ["IndicatorName"] by decide)
      exact functionName?_ne (notLeading code isLeading) inCode
    · obtain ⟨input, isInput, rfl⟩ := List.mem_map.mp isCarried
      rw [splitOn_of_oneLine (payload.delimited_carried input isInput).oneLine,
        List.mem_singleton] at inCode
      rw [inCode, Input.functionName?_line]
      exact nofun
    · exact functionName?_ne (fun inNames => notMiddle code ⟨isMiddle, inNames⟩) inCode

/-- What is composed declares the parameters of the indicator. -/
theorem declares_of_composed
    {payload : Payload}
    {code : String}
    (composed : payload.compose none = .ok code) :
    Declares code (parameters payload.indicatorCode) := by
  obtain ⟨noClashes, rfl⟩ := composeWith_eq_ok_iff.mp composed
  let own := payload.scaffold (parameters payload.indicatorCode)
  have carriedLines : own.carried.map Input.line =
      (parameters payload.indicatorCode).map fun parameter => parameter.carriedInput.line :=
    List.map_map
  have layout := own.toList_text_layout
  rw [carriedLines, List.append_assoc, List.append_assoc] at layout
  refine ⟨⟨own.leadingLines, _, layout⟩, fun parameter member => ?_⟩
  exact declaringLine?_carried noClashes member

/-- What is composed passes the parameters of the indicator in their order. -/
theorem passes_of_composed
    {payload : Payload}
    {code : String}
    (composed : payload.compose none = .ok code) :
    Passes code payload.timeframe.text
      ("IndicatorName" :: (Parameter.names (parameters payload.indicatorCode) ++
        [bufferArgument, shiftArgument])) := by
  obtain ⟨_, rfl⟩ := composeWith_eq_ok_iff.mp composed
  let own := payload.scaffold (parameters payload.indicatorCode)
  have passedNames : own.carried.map Input.name =
      Parameter.names (parameters payload.indicatorCode) := by
    rw [Parameter.names]
    exact List.map_map
  refine ⟨own.leadingLines ++ own.carried.map Input.line ++ own.middleLines, own.trailingLines,
    own.callLine, own.passedText, own.toList_text_layout, fun line => payload.functionName?_before,
    own.toList_callLine, ?_⟩
  rw [Scaffold.argumentsFrom_passedText payload.delimited_carried, passedNames]

/--
A composed expert advisor passes the carried inputs on to the indicator, all of
them and in their order.  In the function that passes them, each carried name
means its own input exactly when none of them is the name of the function's
buffer or bar.
-/
theorem passedArguments_of_composed
    {payload : Payload}
    {code : String}
    (composed : payload.compose none = .ok code) :
    Passes code payload.timeframe.text
        ("IndicatorName" :: (Parameter.names (parameters payload.indicatorCode) ++
          [bufferArgument, shiftArgument])) ∧
      ((∀ parameter ∈ parameters payload.indicatorCode,
          meaning? code.toList (parameterNames Scaffold.readingHeader.toList) parameter.name =
            some (.input parameter.carriedInput.line.toList)) ↔
        bufferArgument ∉ Parameter.names (parameters payload.indicatorCode) ∧
          shiftArgument ∉ Parameter.names (parameters payload.indicatorCode)) := by
  refine ⟨passes_of_composed composed, ?_⟩
  obtain ⟨noClashes, rfl⟩ := composeWith_eq_ok_iff.mp composed
  rw [Scaffold.parameterNames_readingHeader]
  constructor
  · intro meansInput
    have apart : ∀ name ∈ Parameter.names (parameters payload.indicatorCode),
        name ∉ [bufferArgument, shiftArgument] := by
      intro name member
      obtain ⟨parameter, isParameter, rfl⟩ := List.mem_map.mp member
      exact (meaning?_eq_input_iff (declaringLine?_carried noClashes isParameter) _).mp
        (meansInput parameter isParameter)
    exact ⟨fun isBuffer => apart bufferArgument isBuffer (by simp),
      fun isShift => apart shiftArgument isShift (by simp)⟩
  · rintro ⟨noBuffer, noShift⟩ parameter isParameter
    refine (meaning?_eq_input_iff (declaringLine?_carried noClashes isParameter) _).mpr ?_
    have isName : parameter.name ∈ Parameter.names (parameters payload.indicatorCode) :=
      List.mem_map_of_mem isParameter
    simp only [List.mem_cons, List.not_mem_nil, or_false, not_or]
    exact ⟨fun isBuffer => noBuffer (isBuffer ▸ isName),
      fun isShift => noShift (isShift ▸ isName)⟩

/-- The reading function passes the period that the user of the expert advisor sets. -/
theorem passedArguments_of_composed_periodPayload :
    ∃ code, periodPayload.compose none = .ok code ∧
      meaning? code.toList (parameterNames Scaffold.readingHeader.toList) "Period" =
        some (.input "input int Period = 14;".toList) := by
  have carried : parameters periodPayload.indicatorCode = _ := parameters_periodSource
  have composed : periodPayload.compose none = _ :=
    composeWith_eq_ok_iff.mpr ⟨clashes_periodPayload, rfl⟩
  have means := (passedArguments_of_composed composed).2.mpr (by rw [carried]; decide)
  have line : (Parameter.carriedInput ⟨"Period", "14", some "int"⟩).line.toList =
      "input int Period = 14;".toList := by decide
  rw [carried, List.forall_mem_singleton, line] at means
  exact ⟨_, composed, means⟩

/-- An indicator with a parameter that has the name of the reading function's buffer. -/
def hiddenSource : String := "input double bufferIndex_ = 1.5;\n"

theorem parameters_hiddenSource :
    parameters hiddenSource = [⟨"bufferIndex_", "1.5", some "double"⟩] := by
  rw [parameters, extraction, blankComments_of_uncommented (by decide)]
  decide

/-- The payload for the period's indicator, with the hidden parameter in place of its own. -/
def hiddenPayload : Payload :=
  { periodPayload with indicatorCode := hiddenSource }

/-- The reading function passes the position of a buffer in place of the user's setting. -/
theorem bufferArgument_passed_hiddenPayload :
    ∃ code, hiddenPayload.compose none = .ok code ∧
      Passes code "_Period" ["IndicatorName", "bufferIndex_", "bufferIndex_", "barShift_"] ∧
      meaning? code.toList (parameterNames Scaffold.readingHeader.toList) "bufferIndex_" =
        some (.parameter 0) := by
  have carried : parameters hiddenPayload.indicatorCode = _ := parameters_hiddenSource
  have noClashes : Parameter.clashes (hiddenPayload.effectiveParameters none) = [] := by
    rw [Payload.effectiveParameters, Option.getD_none, carried]
    decide
  have composed : hiddenPayload.compose none = _ :=
    composeWith_eq_ok_iff.mpr ⟨noClashes, rfl⟩
  have passes := passes_of_composed composed
  have position : [bufferArgument, shiftArgument].idxOf? "bufferIndex_" = some 0 := by decide
  rw [carried] at passes
  refine ⟨_, composed, passes, ?_⟩
  rw [meaning?, Scaffold.parameterNames_readingHeader, position]

end Payload

end ExpertAdvisor
