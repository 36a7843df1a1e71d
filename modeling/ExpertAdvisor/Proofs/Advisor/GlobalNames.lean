import ExpertAdvisor.Proofs.Advisor.DistinctScaffolds
import ExpertAdvisor.Proofs.Advisor.ExposedParameters
import ExpertAdvisor.Proofs.Code.GlobalName

namespace ExpertAdvisor

open Text Indicator Advisor Number Code

/-!
# Global names of an expert advisor

An expert advisor declares its settings, its functions and the carried inputs.
These names are pairwise distinct, but a free text can declare more names: the
default of a carried input by what stands behind a comma, and the timeframe by
lines of its own.  The names of an expert advisor are pairwise distinct exactly
when these further names are, and are declared nowhere else.
-/

/-! Names of input lines. -/

namespace Advisor.Input

/-- The names that the line of an input declares besides the input's own. -/
def furtherNames (input : Input) : List String :=
  (items (.plain 0) (input.value.toList ++ ';' :: input.note.toList)).tail.filterMap leadingName?

/-- The line of an input defines no function. -/
theorem functionName?_line (input : Input) : functionName? input.line.toList = none := by
  have lead : "input ".toList = inputQualifier ++ [' '] := by decide
  have qualifierWithin : Within isWord inputQualifier := by decide
  have firstWord : input.line.toList.takeWhile isWord = inputQualifier := by
    rw [toList_line, lead, List.append_assoc, List.takeWhile_append_of_pos qualifierWithin,
      List.singleton_append, List.takeWhile_cons_of_neg (by decide), List.append_nil]
  have noType : resultTypes.contains (String.ofList inputQualifier) = false := by decide
  rw [functionName?, firstWord, noType]
  exact if_neg Bool.false_ne_true

/-- The line of an input declares the input and what its value lists further. -/
theorem inputNames_line
    {input : Input}
    (type_within : Within isWord input.type.toList)
    (name_identifier : IsIdentifier input.name.toList) :
    inputNames input.line.toList = input.name :: input.furtherNames := by
  let value := input.value.toList ++ ';' :: input.note.toList
  let lead := [' '] ++ (input.name.toList ++ [' ', '=', ' '])
  have typed : afterPrefix? "input ".toList input.line.toList =
      some (input.type.toList ++ (lead ++ value)) := by
    rw [afterPrefix?_eq_some_iff, toList_line]
    simp [lead, value]
  have behindType : (input.type.toList ++ (lead ++ value)).dropWhile isWord = lead ++ value := by
    rw [List.dropWhile_append_of_pos type_within]
    exact List.dropWhile_cons_of_neg (by decide)
  have unmarked : Within Place.isUnmarked lead := by
    simp only [lead, Within.append_iff]
    exact ⟨by decide, name_identifier.within.mono Place.isUnmarked_of_isWord, by decide⟩
  obtain ⟨first, others, listed⟩ := List.exists_cons_of_ne_nil (items_ne_nil (.plain 0) value)
  have named : leadingName? (lead ++ first) = some input.name := by
    have found := @leadingName?_of_identifier [' '] _ ([' ', '=', ' '] ++ first) (by decide)
      name_identifier (Leaves.cons_iff.mpr (by decide))
    rw [String.ofList_toList] at found
    rw [← found]
    simp [lead]
  rw [inputNames, typed]
  simp only [behindType, items_append (Place.behind?_of_unmarked unmarked), furtherNames]
  rw [show input.value.toList ++ ';' :: input.note.toList = value from rfl, listed,
    List.modifyHead_cons, List.filterMap_cons_some named, List.tail_cons]

/-- The line of an input declares its name and the names further on in its value. -/
theorem namesOf_line
    {input : Input}
    (type_within : Within isWord input.type.toList)
    (name_identifier : IsIdentifier input.name.toList)
    (oneLine : '\n' ∉ input.line.toList) :
    namesOf input.line.toList = input.name :: input.furtherNames := by
  rw [namesOf_of_oneLine oneLine, lineNames, inputNames_line type_within name_identifier,
    functionName?_line, Option.toList_none, List.append_nil]

/-- An input whose line declares its own name only. -/
structure Single (input : Input) : Prop extends input.Delimited where
  value_whole : (Place.plain 0).behind? input.value.toList = some (.plain 0)

/-- The value of a single input declares no further names. -/
theorem Single.furtherNames_eq_nil
    {input : Input}
    (single : input.Single) :
    input.furtherNames = [] := by
  have atEnd : items (.plain 0) (';' :: input.note.toList) = [[]] := rfl
  rw [furtherNames, items_append single.value_whole, atEnd]
  rfl

/-- The lines of delimited inputs declare their names and the further ones, in order. -/
theorem namesOf_lines
    {inputs : List Input}
    (delimited : ∀ input ∈ inputs, input.Delimited) :
    namesOf (linesText (inputs.map line)) =
      inputs.flatMap fun input => input.name :: input.furtherNames := by
  rw [namesOf_linesText, List.flatMap_map]
  refine List.flatMap_congr fun input member => ?_
  have inputDelimited := delimited input member
  exact namesOf_line inputDelimited.type_identifier.within inputDelimited.name_identifier
    inputDelimited.oneLine

/-- The lines of single inputs declare just their names. -/
theorem namesOf_singleLines
    {inputs : List Input}
    (single : ∀ input ∈ inputs, input.Single) :
    namesOf (linesText (inputs.map line)) = inputs.map name := by
  rw [namesOf_lines fun input member => (single input member).toDelimited,
    List.map_eq_flatMap]
  refine List.flatMap_congr fun input member => ?_
  rw [(single input member).furtherNames_eq_nil]

/-- A delimited input whose value is a numeral is single. -/
theorem Single.of_numeral
    {input : Input}
    (delimited : input.Delimited)
    (numeral : Within isNumeralCharacter input.value.toList) :
    input.Single where
  toDelimited := delimited
  value_whole := by
    have noMarks : ∀ mark ∈ Place.marks, isNumeralCharacter mark = false := by
      simp only [Place.marks, List.forall_mem_cons]
      exact ⟨by decide, by decide, by decide, by decide, by decide, by decide,
        List.forall_mem_nil _⟩
    exact Place.behind?_of_unmarked (numeral.mono (Place.isUnmarked_of_belongs noMarks))

end Advisor.Input

/-! Names of the sections. -/

namespace Advisor

/-- Indented lines declare nothing. -/
theorem namesOf_indent
    {lines : List String}
    (oneLine : ∀ line ∈ lines, '\n' ∉ line.toList) :
    namesOf (linesText (indent lines)) = [] := by
  rw [namesOf_linesText, List.flatMap_eq_nil_iff]
  intro indented member
  obtain ⟨line, isLine, rfl⟩ := List.mem_map.mp member
  split
  · decide
  · have lead : indentation.toList = [' ', ' ', ' '] := by decide
    rw [String.toList_append, lead]
    refine namesOf_eq_nil ?_ (Leaves.cons_iff.mpr (by decide))
    rw [List.mem_append, not_or]
    exact ⟨by decide, oneLine line isLine⟩

theorem namesOf_bannerRow
    {text : String}
    (oneLine : '\n' ∉ text.toList) :
    namesOf (bannerRow text).toList = [] := by
  have lead : "//| ".toList = ['/', '/', '|', ' '] := by decide
  refine namesOf_eq_nil (oneLine_bannerRow oneLine) ?_
  rw [bannerRow, padEnd, String.append_assoc, String.append_assoc, String.toList_append, lead]
  exact Leaves.cons_iff.mpr (by decide)

/-- The body of a tick declares no global names. -/
theorem Statement.namesOf_body
    {bufferText : Buffer → String}
    (bufferPlain : ∀ buffer, PlainCode (bufferText buffer))
    {statements : List (Statement Buffer)}
    (remarksPlain : ∀ statement ∈ statements, statement.RemarkPlain) :
    namesOf (body bufferText statements).toList = [] := by
  have inside : namesOf (linesText (indent (statements.flatMap (lines bufferText)))) = [] :=
    namesOf_indent fun line member => by
      obtain ⟨statement, isStatement, inStatement⟩ := List.mem_flatMap.mp member
      exact (quiet_lines bufferPlain (remarksPlain statement isStatement) line inStatement).oneLine
  rw [body]
  by_cases noLines : indent (statements.flatMap (lines bufferText)) = []
  · rw [noLines]
    decide
  · rw [← linesText_joinLines noLines, namesOf_linesText, List.flatMap_singleton] at inside
    exact inside

/-! Names of the fixed functions. -/

theorem namesOf_of_spelling
    {line : String}
    {characters : List Char}
    {names : List String}
    (spelled : line = String.ofList characters)
    (declared : namesOf characters = names) :
    namesOf line.toList = names := by
  rwa [spelled, String.toList_ofList]

/-- The fixed functions with what they declare, each cut behind its headers. -/
def functionParts : List (List String × List String × List String) :=
  [(holdingFunction.take 2, holdingFunction.drop 2, ["HasOpenPosition"]),
    (openingFunction.take 1, openingFunction.drop 1, ["OpenOrder"]),
    (closingFunction.take 2, closingFunction.drop 2, ["ClosePositions"]),
    (lifecycleFunctions, [], ["OnInit", "OnDeinit"])]

/-- The fixed functions declare their own names: their headers do, and no line behind does. -/
theorem namesOf_functionParts :
    ∀ part ∈ functionParts, namesOf (linesText (part.1 ++ part.2.1)) = part.2.2 := by
  have headers : ∀ part ∈ functionParts, namesOf (linesText part.1) = part.2.2 := by
    decide +kernel
  have eachLine : ∀ part ∈ functionParts, ∀ line ∈ part.2.1, namesOf line.toList = [] := by
    simp only [functionParts, List.forall_mem_cons, holdingFunction, openingFunction,
      closingFunction, List.drop_succ_cons, List.drop_zero]
    -- A literal line is spelled out at once; a line of two literals has to be put together first.
    repeat' apply And.intro
    all_goals first
      | exact namesOf_of_spelling rfl (by decide +kernel)
      | decide +kernel
  intro part member
  have behind : namesOf (linesText part.2.1) = [] := by
    rw [namesOf_linesText, List.flatMap_eq_nil_iff]
    exact eachLine part member
  rw [namesOf_linesText_append, headers part member, behind, List.append_nil]

namespace Scaffold

/-- The line on which an expert advisor calls the indicator. -/
def callLine (scaffold : Scaffold) : String :=
  indentation ++ "return iCustom(" ++ ", ".intercalate scaffold.callArguments ++ ");"

/-- The function that reads the indicator declares its name and what its call may declare. -/
theorem namesOf_accessorLines (scaffold : Scaffold) :
    namesOf (linesText scaffold.accessorLines) =
      "GetIndicatorValue" :: namesOf scaffold.callLine.toList := by
  have shape : scaffold.accessorLines =
      ["// Reads one value of the indicator; every strategy goes through here",
        "double GetIndicatorValue(int bufferIndex_, int barShift_)", "\x7b"] ++
      [scaffold.callLine] ++ ["\x7d"] := rfl
  have opening : namesOf (linesText
      ["// Reads one value of the indicator; every strategy goes through here",
        "double GetIndicatorValue(int bufferIndex_, int barShift_)", "\x7b"]) =
      ["GetIndicatorValue"] := by decide
  have call : namesOf (linesText [scaffold.callLine]) = namesOf scaffold.callLine.toList := by
    rw [namesOf_linesText, List.flatMap_singleton]
  have closing : namesOf (linesText ["\x7d"]) = [] := by decide
  rw [shape, namesOf_linesText_append, namesOf_linesText_append, opening, call, closing,
    List.append_nil, List.singleton_append]

/-- A call that stays on its line declares nothing. -/
theorem Delimited.namesOf_callLine
    {scaffold : Scaffold}
    (delimited : scaffold.Delimited) :
    namesOf scaffold.callLine.toList = [] := by
  have isLine : scaffold.callLine ∈ scaffold.accessorLines := by
    simp [accessorLines, callLine]
  have oneLine := (delimited.areSolid_accessor scaffold.callLine isLine).2
  have lead : indentation.toList = [' ', ' ', ' '] := by decide
  refine namesOf_eq_nil oneLine ?_
  rw [callLine, String.append_assoc, String.append_assoc, String.toList_append, lead]
  exact Leaves.cons_iff.mpr (by decide)

theorem namesOf_headerLines
    {scaffold : Scaffold}
    (nameOneLine : '\n' ∉ scaffold.indicatorName.toList) :
    namesOf (linesText scaffold.headerLines) = [] := by
  have fileOneLine : '\n' ∉ (fileName scaffold.indicatorName).toList := by
    simp only [fileName, String.toList_append, List.mem_append, not_or]
    exact ⟨⟨nameOneLine, by decide⟩, by decide⟩
  have sourceOneLine : '\n' ∉ ("Source indicator: " ++ scaffold.indicatorName).toList := by
    rw [String.toList_append, List.mem_append, not_or]
    exact ⟨by decide, nameOneLine⟩
  have rule : namesOf bannerRule.toList = [] := by decide
  rw [namesOf_linesText, List.flatMap_eq_nil_iff, headerLines]
  simp only [List.forall_mem_cons]
  exact ⟨rule, namesOf_bannerRow fileOneLine, namesOf_bannerRow (by decide),
    namesOf_bannerRow sourceOneLine, rule, by decide, by decide,
    by decide, by simp⟩

/-- A remark above the lines of a section declares nothing. -/
theorem namesOf_titled
    {title : String}
    (noNames : namesOf title.toList = [])
    (lines : List String) :
    namesOf (linesText (title :: lines)) = namesOf (linesText lines) := by
  rw [namesOf_linesText, namesOf_linesText, List.flatMap_cons, noNames, List.nil_append]

theorem namesOf_riskLines
    {scaffold : Scaffold}
    (riskSingle : ∀ input ∈ scaffold.risk, input.Single) :
    namesOf (linesText scaffold.riskLines) = scaffold.risk.map Input.name := by
  rw [riskLines, namesOf_titled (by decide), Input.namesOf_singleLines riskSingle]

theorem namesOf_strategyLines
    {scaffold : Scaffold}
    (inputsSingle : ∀ input ∈ scaffold.fragment.inputs, input.Single) :
    namesOf (linesText scaffold.strategyLines) = scaffold.fragment.inputs.map Input.name := by
  rw [strategyLines, namesOf_titled (by decide), Input.namesOf_singleLines inputsSingle]

/-- The line that holds the indicator's name declares one name, whatever the indicator is. -/
theorem namesOf_nameInput (name : String) :
    namesOf (nameInput name).line.toList = ["IndicatorName"] := by
  have whole : (Place.plain 0).behind? (nameInput name).value.toList = some (.plain 0) :=
    Place.behind?_stringLiteral 0 name
  have further : (nameInput name).furtherNames = [] := by
    rw [Input.furtherNames, items_append whole]
    rfl
  have type : Within isWord (nameInput name).type.toList :=
    show Within isWord "string".toList by decide
  have identifier : IsIdentifier (nameInput name).name.toList :=
    show IsIdentifier "IndicatorName".toList by decide
  rw [Input.namesOf_line type identifier (oneLine_nameInput name), further]
  rfl

/--
The carried lines declare the indicator's name, then the carried inputs and
their further names.
-/
theorem namesOf_carriedLines
    {scaffold : Scaffold}
    (carriedDelimited : ∀ input ∈ scaffold.carried, input.Delimited) :
    namesOf (linesText scaffold.carriedLines) =
      "IndicatorName" ::
        scaffold.carried.flatMap fun input => input.name :: input.furtherNames := by
  have carriedNames :
      namesOf (linesText
          (if scaffold.carried.isEmpty then [noInputsRemark]
            else scaffold.carried.map Input.line)) =
        scaffold.carried.flatMap fun input => input.name :: input.furtherNames := by
    split
    case isTrue nothingCarried =>
      rw [List.isEmpty_iff.mp nothingCarried]
      decide
    case isFalse => exact Input.namesOf_lines carriedDelimited
  rw [namesOf_linesText] at carriedNames
  rw [carriedLines, namesOf_titled (by decide), namesOf_linesText, List.flatMap_cons,
    namesOf_nameInput, carriedNames, List.singleton_append]

/-- The names of every expert advisor's settings, in order. -/
def settingNames : List String :=
  ["Lots", "Slippage", "StopLossPoints", "TakeProfitPoints", "MagicNumber",
    "CloseOppositeSignal"]

/-- The functions of every expert advisor, in order. -/
def functionNames : List String :=
  ["GetIndicatorValue", "HasOpenPosition", "OpenOrder", "ClosePositions", "OnInit", "OnDeinit",
    "OnTick"]

/-- The tick lines declare the tick function alone, unless the body declares anything. -/
theorem namesOf_tickLines
    {scaffold : Scaffold}
    (noBodyNames : namesOf scaffold.fragment.body.toList = []) :
    namesOf (linesText scaffold.tickLines) = ["OnTick"] := by
  have header : namesOf "void OnTick()".toList = ["OnTick"] := by decide
  have opening : namesOf "\x7b".toList = [] := by decide
  have closing : namesOf "\x7d".toList = [] := by decide
  simp only [tickLines, namesOf_linesText, List.flatMap_cons, List.flatMap_nil, header, opening,
    noBodyNames, closing, List.append_nil]

/-- The global names of an expert advisor, section by section. -/
theorem globalNames_text
    {scaffold : Scaffold}
    (nameOneLine : '\n' ∉ scaffold.indicatorName.toList)
    (riskSingle : ∀ input ∈ scaffold.risk, input.Single)
    (carriedDelimited : ∀ input ∈ scaffold.carried, input.Delimited)
    (inputsSingle : ∀ input ∈ scaffold.fragment.inputs, input.Single)
    (noBodyNames : namesOf scaffold.fragment.body.toList = []) :
    globalNames scaffold.text =
      scaffold.risk.map Input.name ++ "IndicatorName" ::
        (scaffold.carried.flatMap fun input => input.name :: input.furtherNames) ++
      scaffold.fragment.inputs.map Input.name ++ "GetIndicatorValue" ::
        namesOf scaffold.callLine.toList ++ functionNames.tail := by
  have strategyNames :
      (if scaffold.fragment.inputs.isEmpty then [] else [scaffold.strategyLines]).flatMap
          (fun lines => namesOf (linesText lines)) =
        scaffold.fragment.inputs.map Input.name := by
    split
    case isTrue noInputs => rw [List.isEmpty_iff.mp noInputs, List.flatMap_nil, List.map_nil]
    case isFalse => rw [List.flatMap_singleton, namesOf_strategyLines inputsSingle]
  obtain ⟨holding, opening, closing, lifecycle, _⟩ := by
    simpa only [functionParts, List.forall_mem_cons, List.take_append_drop, List.append_nil]
      using namesOf_functionParts
  rw [globalNames, toList_text, namesOf_sections, sections]
  simp only [List.flatMap_append, List.flatMap_cons, List.flatMap_nil, strategyNames,
    namesOf_headerLines nameOneLine, namesOf_riskLines riskSingle,
    namesOf_carriedLines carriedDelimited, namesOf_accessorLines, holding, opening, closing,
    lifecycle, namesOf_tickLines noBodyNames, functionNames, List.tail_cons]
  simp

end Scaffold

end Advisor

end ExpertAdvisor
