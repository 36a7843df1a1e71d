import ExpertAdvisor.Proofs.Advisor.CarriedInput
import ExpertAdvisor.Proofs.Advisor.TickLines

namespace ExpertAdvisor.Advisor

open Text Indicator

/-!
# Lines of the scaffold

Every section of an expert advisor declares the inputs that it lists and nothing
else.  The texts that a payload puts into other lines, the indicator's name and
the timeframe, stay behind a beginning that rules out a declaration.
-/

/-- A row of the banner is quiet when its text is contained. -/
theorem quiet_bannerRow
    {text : String}
    (contained : Contained text) :
    Quiet (bannerRow text).toList := by
  have lead : Contained "//| " := ⟨by decide, by decide⟩
  have row : Contained ("//| " ++ text) :=
    lead.append contained fun meets => absurd meets.1 (by decide)
  have spaces := plainCode_spaces (bannerWidth - 1 - ("//| " ++ text).length)
  have edge : PlainCode "|" := by decide
  have padded := (row.append_plain spaces).append_plain edge
  rw [String.append_assoc, String.append_assoc] at padded
  rw [bannerRow, padEnd, String.append_assoc, String.append_assoc]
  exact padded.quiet (by decide)

/-- The fixed functions declare nothing. -/
theorem quiet_functions :
    ∀ function ∈ [holdingFunction, openingFunction, closingFunction, lifecycleFunctions],
      ∀ line ∈ function, Quiet line.toList := by
  simp only [List.forall_mem_cons, holdingFunction, openingFunction, closingFunction,
    lifecycleFunctions]
  -- A literal line is spelled out at once; a line of two literals has to be put together first.
  repeat' apply And.intro
  all_goals first
    | exact Quiet.of_spelling rfl (by decide +kernel)
    | decide +kernel

namespace Scaffold

variable {scaffold : Scaffold}

/--
The inputs of a scaffold can be read back, and its other texts stay where they
are put.
-/
structure Legible (scaffold : Scaffold) : Prop where
  name_contained : Contained scaffold.indicatorName
  name_closed : ';' ∉ scaffold.indicatorName.toList
  timeframe_contained : Contained scaffold.timeframe
  risk_readable : ∀ input ∈ scaffold.risk, input.Readable
  carried_readable : ∀ input ∈ scaffold.carried, input.Readable
  inputs_readable : ∀ input ∈ scaffold.fragment.inputs, input.Readable
  body_declares : LinesDeclare [scaffold.fragment.body] []

/-- The parameters that a scaffold declares, in the order of its sections. -/
def declared (scaffold : Scaffold) : List Parameter :=
  scaffold.risk.map Input.parameter ++ (nameInput scaffold.indicatorName).parameter ::
    scaffold.carried.map Input.parameter ++ scaffold.fragment.inputs.map Input.parameter

namespace Legible

variable (legible : scaffold.Legible)

include legible

theorem linesDeclare_header : LinesDeclare scaffold.headerLines [] := by
  have fileContained : Contained (fileName scaffold.indicatorName) :=
    (legible.name_contained.append_plain (by decide)).append_plain (by decide)
  have sourceLead : Contained "Source indicator: " := ⟨by decide, by decide⟩
  have sourceContained : Contained ("Source indicator: " ++ scaffold.indicatorName) :=
    sourceLead.append legible.name_contained fun meets => absurd meets.1 (by decide)
  have generatedContained : Contained "Expert Advisor generated by EA Builder" :=
    ⟨by decide, by decide⟩
  refine LinesDeclare.of_quiet ?_
  simp only [Scaffold.headerLines, List.forall_mem_cons]
  exact ⟨by decide +kernel, quiet_bannerRow fileContained, quiet_bannerRow generatedContained,
    quiet_bannerRow sourceContained, by decide +kernel, by decide, by decide, by decide, by simp⟩

theorem linesDeclare_risk :
    LinesDeclare scaffold.riskLines (scaffold.risk.map Input.parameter) := by
  have title : LinesDeclare ["// Risk settings"] [] := .of_quiet (by decide)
  exact title.append (Input.Readable.linesDeclare_map legible.risk_readable)

/-- The carried lines declare the indicator's name and the carried parameters. -/
theorem linesDeclare_carried :
    LinesDeclare scaffold.carriedLines
      ((nameInput scaffold.indicatorName).parameter ::
        scaffold.carried.map Input.parameter) := by
  have title : LinesDeclare ["// Indicator settings"] [] := .of_quiet (by decide)
  have name := (readable_nameInput legible.name_closed
    legible.name_contained.uncommented).linesDeclare
  have carried :
      LinesDeclare
        (if scaffold.carried.isEmpty then [noInputsRemark] else scaffold.carried.map Input.line)
        (scaffold.carried.map Input.parameter) := by
    split
    case isTrue nothingCarried =>
      rw [List.isEmpty_iff.mp nothingCarried]
      exact .of_quiet (by decide)
    case isFalse => exact Input.Readable.linesDeclare_map legible.carried_readable
  exact title.append (name.append carried)

theorem linesDeclare_strategy :
    LinesDeclare scaffold.strategyLines (scaffold.fragment.inputs.map Input.parameter) := by
  have title : LinesDeclare ["// Strategy settings"] [] := .of_quiet (by decide)
  exact title.append (Input.Readable.linesDeclare_map legible.inputs_readable)

theorem linesDeclare_accessor : LinesDeclare scaffold.accessorLines [] := by
  have ofName {input : Input} (isCarried : input ∈ scaffold.carried) : Contained input.name := by
    have within := (legible.carried_readable input isCarried).name_identifier.within
    exact ⟨within.not_mem (by decide), .of_not_mem (within.not_mem (by decide))⟩
  have arguments : Contained (", ".intercalate scaffold.callArguments) := by
    refine Contained.intercalate fun piece isPiece => ?_
    simp only [callArguments, List.mem_append, List.mem_cons, List.not_mem_nil, or_false,
      List.mem_map] at isPiece
    rcases isPiece with ((rfl | rfl | rfl) | ⟨input, isCarried, rfl⟩) | rfl | rfl
    · exact ⟨by decide, by decide⟩
    · exact legible.timeframe_contained
    · exact ⟨by decide, by decide⟩
    · exact ofName isCarried
    · exact ⟨by decide, by decide⟩
    · exact ⟨by decide, by decide⟩
  refine LinesDeclare.of_quiet ?_
  simp only [Scaffold.accessorLines, List.forall_mem_cons]
  refine ⟨by decide +kernel, by decide +kernel, by decide, ?_, by decide, by simp⟩
  have lead : Contained (indentation ++ "return iCustom(") := ⟨by decide, by decide⟩
  have call := (lead.append arguments fun meets => absurd meets.1 (by decide)).append_plain
    (show PlainCode ");" by decide)
  rw [String.append_assoc] at call ⊢
  exact call.quiet (by decide)

theorem linesDeclare_tick : LinesDeclare scaffold.tickLines [] := by
  have header : LinesDeclare ["void OnTick()", "\x7b"] [] := .of_quiet (by decide)
  have closing : LinesDeclare ["\x7d"] [] := .of_quiet (by decide)
  exact header.append (legible.body_declares.append closing)

/-- The sections together declare the scaffold's parameters. -/
theorem linesDeclare_sections :
    LinesDeclare ([""].intercalate scaffold.sections) scaffold.declared := by
  have quietFunction : ∀ function ∈
      [holdingFunction, openingFunction, closingFunction, lifecycleFunctions],
      LinesDeclare function [] :=
    fun function member => .of_quiet (quiet_functions function member)
  let parts : List (List String × List Parameter) :=
    [(scaffold.headerLines, []), (scaffold.riskLines, scaffold.risk.map Input.parameter),
      (scaffold.carriedLines,
        (nameInput scaffold.indicatorName).parameter :: scaffold.carried.map Input.parameter)] ++
    (if scaffold.fragment.inputs.isEmpty then []
      else [(scaffold.strategyLines, scaffold.fragment.inputs.map Input.parameter)]) ++
    [(scaffold.accessorLines, []), (holdingFunction, []), (openingFunction, []),
      (closingFunction, []), (lifecycleFunctions, []), (scaffold.tickLines, [])]
  have partsDeclare : ∀ part ∈ parts, LinesDeclare part.1 part.2 := by
    simp only [parts, List.forall_mem_append, List.forall_mem_cons]
    refine ⟨⟨⟨legible.linesDeclare_header, legible.linesDeclare_risk,
        legible.linesDeclare_carried, by simp⟩, ?_⟩,
      legible.linesDeclare_accessor, quietFunction _ (by simp), quietFunction _ (by simp),
      quietFunction _ (by simp), quietFunction _ (by simp), legible.linesDeclare_tick, by simp⟩
    split
    · exact List.forall_mem_nil _
    · exact List.forall_mem_singleton.mpr legible.linesDeclare_strategy
  have sectionsShape : parts.map Prod.fst = scaffold.sections := by
    simp only [parts, Scaffold.sections]
    split <;> rfl
  have declaredShape : parts.flatMap Prod.snd = scaffold.declared := by
    simp only [parts, declared]
    split
    case isTrue noInputs => simp [List.isEmpty_iff.mp noInputs]
    case isFalse => simp
  rw [← sectionsShape, ← declaredShape]
  exact LinesDeclare.intercalate partsDeclare

end Legible

/-- The text of a scaffold is the text of its sections' lines. -/
theorem toList_text (scaffold : Scaffold) :
    scaffold.text.toList = linesText ([""].intercalate scaffold.sections) := by
  have someLines : ∀ lines ∈ scaffold.sections, lines ≠ [] := by
    simp only [sections, List.forall_mem_append, List.forall_mem_cons]
    refine ⟨⟨⟨nofun, nofun, nofun, by simp⟩, ?_⟩,
      nofun, nofun, nofun, nofun, nofun, nofun, by simp⟩
    split
    · exact List.forall_mem_nil _
    · exact List.forall_mem_singleton.mpr nofun
  exact toList_intercalate_sections (by simp [sections]) someLines

end Scaffold

end ExpertAdvisor.Advisor
