import ExpertAdvisor.Proofs.Advisor.DistinctLines
import ExpertAdvisor.Proofs.Advisor.ScaffoldLines
import ExpertAdvisor.Proofs.Code.StringLiteral

namespace ExpertAdvisor.Advisor

open Text Indicator

/-!
# Distinct scaffolds

The text of an expert advisor tells the scaffold that it was made from.  Its
sections up to the reading function are solid, so each ends at the first empty
line behind it; the functions that follow are always the same, and the body of
the tick function is what stands between its fixed beginning and its end.
-/

/-- A row of the banner has no characters of its own but slashes, bars and spaces. -/
theorem within_bannerRow
    {belongs : Char → Bool}
    {text : String}
    (marks : Within belongs ['/', '|', ' '])
    (within : Within belongs text.toList) :
    Within belongs (bannerRow text).toList := by
  simp only [Within.cons_iff] at marks
  obtain ⟨slash, bar, space, _⟩ := marks
  have lead : "//| ".toList = ['/', '/', '|', ' '] := by decide
  have edge : "|".toList = ['|'] := by decide
  have spaces (count : Nat) : Within belongs (List.replicate count ' ') := by
    intro character member
    rw [List.eq_of_mem_replicate member, space]
  simp only [bannerRow, padEnd, String.toList_append, String.toList_ofList, lead, edge,
    Within.append_iff, Within.cons_iff]
  exact ⟨⟨⟨⟨slash, slash, bar, space, .nil⟩, within⟩, spaces _⟩, bar, .nil⟩

/-- A row of the banner stays on its line when its text does. -/
theorem oneLine_bannerRow
    {text : String}
    (oneLine : '\n' ∉ text.toList) :
    '\n' ∉ (bannerRow text).toList := by
  have within : Within (· != '\n') text.toList := by
    intro character member
    rw [bne_iff_ne]
    rintro rfl
    exact oneLine member
  exact (within_bannerRow (by decide) within).not_mem (by decide)

theorem ne_empty_of_append
    {first second : String}
    (someFirst : first ≠ "") :
    first ++ second ≠ "" := fun empty =>
  someFirst (String.append_eq_empty_iff.mp empty).1

theorem bannerRow_ne_empty (text : String) : bannerRow text ≠ "" := by
  rw [bannerRow, padEnd]
  exact ne_empty_of_append (ne_empty_of_append (ne_empty_of_append (by decide)))

namespace Input

theorem line_ne_empty (input : Input) : input.line ≠ "" := by
  simp only [line, String.append_assoc]
  exact ne_empty_of_append (by decide)

theorem Delimited.oneLine
    {input : Input}
    (delimited : input.Delimited) :
    '\n' ∉ input.line.toList := by
  have lead : '\n' ∉ "input ".toList := by decide
  simp only [toList_line, List.mem_append, List.mem_cons, not_or]
  exact ⟨lead, delimited.type_identifier.within.not_mem (by decide), by decide,
    delimited.name_identifier.within.not_mem (by decide), by decide, by decide, by decide,
    delimited.value_within.not_mem (by decide), by decide, delimited.note_oneLine⟩

theorem areSolid_lines
    {inputs : List Input}
    (delimited : ∀ input ∈ inputs, input.Delimited) :
    AreSolid (inputs.map line) := by
  intro code member
  obtain ⟨input, isInput, rfl⟩ := List.mem_map.mp member
  exact ⟨input.line_ne_empty, (delimited input isInput).oneLine⟩

/-- The line of an input is no remark. -/
theorem line_ne_remark
    (input : Input)
    (text : String) :
    input.line ≠ "// " ++ text := by
  have lead : "input ".toList = 'i' :: "nput ".toList := by decide
  have slashes : "// ".toList = '/' :: "/ ".toList := by decide
  intro same
  have sameText := congrArg String.toList same
  rw [toList_line, String.toList_append, lead, slashes] at sameText
  exact absurd (List.cons.inj sameText).1 (by decide)

end Input

/-- The input that holds a name stays on its line, whatever the name is. -/
theorem oneLine_nameInput (name : String) : '\n' ∉ (nameInput name).line.toList := by
  have type : '\n' ∉ "string".toList := by decide
  have identifier : '\n' ∉ "IndicatorName".toList := by decide
  have lead : '\n' ∉ "input ".toList := by decide
  have note : '\n' ∉ "".toList := by decide
  have escaped : '\n' ∉ name.toList.flatMap escapeLiteral := by
    intro member
    obtain ⟨character, _, inEscape⟩ := List.mem_flatMap.mp member
    rcases escapeLiteral_cases character with ⟨itself, notBreak, _⟩ | ⟨mark, known, marked⟩
    · rw [itself, List.mem_singleton] at inEscape
      exact notBreak inEscape.symm
    · rw [marked, List.mem_cons, List.mem_singleton] at inEscape
      rcases inEscape with isSlash | isMark
      · exact absurd isSlash (by decide)
      · rw [← isMark] at known
        exact absurd known (by decide)
  simp only [Input.toList_line, nameInput, Input.plain, stringLiteral, String.toList_ofList,
    List.mem_append, List.mem_cons, not_or]
  exact ⟨lead, type, by decide, identifier, by decide, by decide, by decide,
    ⟨by decide, escaped, by decide, by simp⟩, by decide, note⟩

/-- The line of the name's input tells the name. -/
theorem nameInput_line_injective : Function.Injective fun name => (nameInput name).line := by
  intro first second same
  have sameText : (nameInput first).line.toList = (nameInput second).line.toList :=
    congrArg String.toList same
  simp only [Input.toList_line, nameInput, Input.plain, List.append_cancel_left_eq,
    List.append_cancel_right_eq, List.cons.injEq, true_and] at sameText
  exact Code.stringLiteral_injective (String.toList_injective sameText)

namespace Scaffold

/-- A scaffold whose texts stay on their lines, and whose inputs end where their lines say. -/
structure Delimited (scaffold : Scaffold) : Prop where
  name_oneLine : '\n' ∉ scaffold.indicatorName.toList
  timeframe_oneLine : '\n' ∉ scaffold.timeframe.toList
  risk_delimited : ∀ input ∈ scaffold.risk, input.Delimited
  carried_delimited : ∀ input ∈ scaffold.carried, input.Delimited
  inputs_delimited : ∀ input ∈ scaffold.fragment.inputs, input.Delimited

namespace Delimited

variable {scaffold : Scaffold} (delimited : scaffold.Delimited)

include delimited

theorem areSolid_header : AreSolid scaffold.headerLines := by
  have fileOneLine : '\n' ∉ (fileName scaffold.indicatorName).toList := by
    simp only [fileName, String.toList_append, List.mem_append, not_or]
    exact ⟨⟨delimited.name_oneLine, by decide⟩, by decide⟩
  have sourceOneLine : '\n' ∉ ("Source indicator: " ++ scaffold.indicatorName).toList := by
    rw [String.toList_append, List.mem_append, not_or]
    exact ⟨by decide, delimited.name_oneLine⟩
  have rule : bannerRule ≠ "" ∧ '\n' ∉ bannerRule.toList := by decide +kernel
  simp only [AreSolid, headerLines, List.forall_mem_cons]
  exact ⟨rule, ⟨bannerRow_ne_empty _, oneLine_bannerRow fileOneLine⟩,
    ⟨bannerRow_ne_empty _, oneLine_bannerRow (by decide)⟩,
    ⟨bannerRow_ne_empty _, oneLine_bannerRow sourceOneLine⟩, rule, by decide, by decide,
    by decide, by simp⟩

theorem areSolid_risk : AreSolid scaffold.riskLines :=
  List.forall_mem_cons.mpr ⟨by decide, Input.areSolid_lines delimited.risk_delimited⟩

theorem areSolid_carried : AreSolid scaffold.carriedLines := by
  refine List.forall_mem_cons.mpr ⟨by decide, List.forall_mem_cons.mpr
    ⟨⟨Input.line_ne_empty _, oneLine_nameInput _⟩, ?_⟩⟩
  split
  · decide
  · exact Input.areSolid_lines delimited.carried_delimited

theorem areSolid_strategy : AreSolid scaffold.strategyLines :=
  List.forall_mem_cons.mpr ⟨by decide, Input.areSolid_lines delimited.inputs_delimited⟩

/-- The call of the indicator takes one line. -/
theorem oneLine_callArguments : '\n' ∉ (", ".intercalate scaffold.callArguments).toList := by
  have eachOnLine : ∀ piece ∈ scaffold.callArguments, Within isLineCharacter piece.toList := by
    have timeframe := within_isLineCharacter_iff.mpr delimited.timeframe_oneLine
    have names : ∀ name ∈ scaffold.carried.map Input.name,
        Within isLineCharacter name.toList := by
      intro name member
      obtain ⟨input, isCarried, rfl⟩ := List.mem_map.mp member
      have identifier := (delimited.carried_delimited input isCarried).name_identifier
      exact within_isLineCharacter_iff.mpr (identifier.within.not_mem (by decide))
    simp only [callArguments, List.forall_mem_append, List.forall_mem_cons]
    exact ⟨⟨⟨by decide, timeframe, by decide, by simp⟩, names⟩, by decide, by decide, by simp⟩
  exact within_isLineCharacter_iff.mp (within_intercalate (by decide) eachOnLine)

theorem areSolid_accessor : AreSolid scaffold.accessorLines := by
  have call : '\n' ∉ (indentation ++ "return iCustom(" ++
      ", ".intercalate scaffold.callArguments ++ ");").toList := by
    simp only [String.toList_append, List.mem_append, not_or]
    exact ⟨⟨⟨by decide, by decide⟩, delimited.oneLine_callArguments⟩, by decide⟩
  simp only [AreSolid, accessorLines, List.forall_mem_cons]
  refine ⟨by decide, by decide, by decide, ⟨?_, call⟩, by decide, by simp⟩
  exact ne_empty_of_append (ne_empty_of_append (by decide))

end Delimited

variable {first second : Scaffold}

/-- The carried lines tell the name and the carried inputs. -/
theorem carriedLines_unique
    (firstDelimited : first.Delimited)
    (secondDelimited : second.Delimited)
    (same : first.carriedLines = second.carriedLines) :
    first.indicatorName = second.indicatorName ∧ first.carried = second.carried := by
  obtain ⟨sameName, sameInputs⟩ := List.cons.inj (List.cons.inj same).2
  refine ⟨nameInput_line_injective sameName, ?_⟩
  -- Where one scaffold carries nothing, a remark stands in place of an input's line.
  have remark : noInputsRemark =
      "// " ++ "No input/extern parameters were detected in the indicator" := by decide
  have notRemark (inputs : List Input) (someInputs : inputs ≠ []) :
      inputs.map Input.line ≠ [noInputsRemark] := by
    obtain ⟨input, rest, rfl⟩ := List.exists_cons_of_ne_nil someInputs
    rw [remark]
    exact fun sameLines => input.line_ne_remark _ (List.cons.inj sameLines).1
  simp only [List.isEmpty_iff] at sameInputs
  split at sameInputs
  case isTrue nothingFirst =>
    split at sameInputs
    case isTrue nothingSecond => rw [nothingFirst, nothingSecond]
    case isFalse someSecond => exact absurd sameInputs.symm (notRemark _ someSecond)
  case isFalse someFirst =>
    split at sameInputs
    case isTrue => exact absurd sameInputs (notRemark _ someFirst)
    case isFalse =>
      exact Input.Delimited.map_line_unique firstDelimited.carried_delimited
        secondDelimited.carried_delimited sameInputs

/-- The lines of the accessor tell the timeframe, once the carried inputs are known. -/
theorem accessorLines_unique
    (sameCarried : first.carried = second.carried)
    (same : first.accessorLines = second.accessorLines) :
    first.timeframe = second.timeframe := by
  have call (scaffold : Scaffold) :
      ", ".intercalate scaffold.callArguments =
        "NULL" ++ ", " ++ (scaffold.timeframe ++ (", " ++ ", ".intercalate
          ("IndicatorName" :: (scaffold.carried.map Input.name ++
            [bufferArgument, shiftArgument])))) := by
    simp only [callArguments, List.cons_append, List.nil_append, String.intercalate_cons_cons,
      String.append_assoc]
  simp only [accessorLines, List.cons.injEq, true_and, and_true, String.append_left_inj,
    String.append_right_inj, call, sameCarried] at same
  exact same

/-- The sections behind the carried inputs tell the strategy's inputs and the timeframe. -/
theorem middleSections_unique
    (firstDelimited : first.Delimited)
    (secondDelimited : second.Delimited)
    (sameCarried : first.carried = second.carried)
    {firstLater secondLater : List (List String)}
    (someFirst : firstLater ≠ [])
    (someSecond : secondLater ≠ [])
    (same :
      linesText ([""].intercalate
          ((if first.fragment.inputs.isEmpty then [] else [first.strategyLines]) ++
            first.accessorLines :: firstLater)) =
        linesText ([""].intercalate
          ((if second.fragment.inputs.isEmpty then [] else [second.strategyLines]) ++
            second.accessorLines :: secondLater))) :
    first.fragment.inputs = second.fragment.inputs ∧ first.timeframe = second.timeframe ∧
      linesText ([""].intercalate firstLater) = linesText ([""].intercalate secondLater) := by
  have sectionsApart (strategy accessor : Scaffold) :
      strategy.strategyLines ≠ accessor.accessorLines := fun sameLines =>
    absurd (List.cons.inj sameLines).1 (by decide)
  have accessor (sameText :
      linesText ([""].intercalate (first.accessorLines :: firstLater)) =
        linesText ([""].intercalate (second.accessorLines :: secondLater))) :
      first.timeframe = second.timeframe ∧
        linesText ([""].intercalate firstLater) = linesText ([""].intercalate secondLater) := by
    obtain ⟨sameAccessor, sameLater⟩ := firstSection_unique firstDelimited.areSolid_accessor
      secondDelimited.areSolid_accessor someFirst someSecond sameText
    exact ⟨accessorLines_unique sameCarried sameAccessor, sameLater⟩
  simp only [List.isEmpty_iff] at same
  split at same
  case isTrue nothingFirst =>
    split at same
    case isTrue nothingSecond => exact ⟨by rw [nothingFirst, nothingSecond], accessor same⟩
    case isFalse =>
      have sameSection := (firstSection_unique firstDelimited.areSolid_accessor
        secondDelimited.areSolid_strategy someFirst (List.cons_ne_nil _ _) same).1
      exact absurd sameSection.symm (sectionsApart second first)
  case isFalse =>
    split at same
    case isTrue =>
      have sameSection := (firstSection_unique firstDelimited.areSolid_strategy
        secondDelimited.areSolid_accessor (List.cons_ne_nil _ _) someSecond same).1
      exact absurd sameSection (sectionsApart first second)
    case isFalse =>
      obtain ⟨sameStrategy, sameLater⟩ := firstSection_unique firstDelimited.areSolid_strategy
        secondDelimited.areSolid_strategy (List.cons_ne_nil _ _) (List.cons_ne_nil _ _) same
      exact ⟨Input.Delimited.map_line_unique firstDelimited.inputs_delimited
        secondDelimited.inputs_delimited (List.cons.inj sameStrategy).2, accessor sameLater⟩

/-- The text of an expert advisor tells the scaffold that it was made from. -/
theorem text_unique
    (firstDelimited : first.Delimited)
    (secondDelimited : second.Delimited)
    (same : first.text = second.text) :
    first = second := by
  have shape (scaffold : Scaffold) :
      scaffold.sections = scaffold.headerLines :: scaffold.riskLines :: scaffold.carriedLines ::
        ((if scaffold.fragment.inputs.isEmpty then [] else [scaffold.strategyLines]) ++
          scaffold.accessorLines ::
            ([holdingFunction, openingFunction, closingFunction, lifecycleFunctions] ++
              [scaffold.tickLines])) := by
    simp only [sections, List.cons_append, List.nil_append]
  have sameText : linesText ([""].intercalate first.sections) =
      linesText ([""].intercalate second.sections) := by
    rw [← toList_text, ← toList_text, same]
  rw [shape, shape] at sameText
  obtain ⟨_, behindHeader⟩ := firstSection_unique firstDelimited.areSolid_header
    secondDelimited.areSolid_header (List.cons_ne_nil _ _) (List.cons_ne_nil _ _) sameText
  obtain ⟨sameRiskLines, behindRisk⟩ := firstSection_unique firstDelimited.areSolid_risk
    secondDelimited.areSolid_risk (List.cons_ne_nil _ _) (List.cons_ne_nil _ _) behindHeader
  obtain ⟨sameCarriedLines, behindCarried⟩ := firstSection_unique firstDelimited.areSolid_carried
    secondDelimited.areSolid_carried (by simp) (by simp) behindRisk
  obtain ⟨sameName, sameCarried⟩ :=
    carriedLines_unique firstDelimited secondDelimited sameCarriedLines
  obtain ⟨sameInputs, sameTimeframe, functions⟩ := middleSections_unique firstDelimited
    secondDelimited sameCarried (List.cons_ne_nil _ _) (List.cons_ne_nil _ _) behindCarried
  have sameRisk := Input.Delimited.map_line_unique firstDelimited.risk_delimited
    secondDelimited.risk_delimited (List.cons.inj sameRiskLines).2
  have sameTick := lastSection_unique
    [holdingFunction, openingFunction, closingFunction, lifecycleFunctions] functions
  have sameBody : first.fragment.body = second.fragment.body := by
    simpa [tickLines, linesText, String.toList_inj] using sameTick
  have sameFragment : first.fragment = second.fragment := by
    cases firstFragment : first.fragment
    cases secondFragment : second.fragment
    simp_all
  cases first
  cases second
  simp_all

end Scaffold

end ExpertAdvisor.Advisor
