import ExpertAdvisor.Proofs.Advisor.PassedArguments
import ExpertAdvisor.Proofs.Code.StringLiteral

namespace ExpertAdvisor

open Text Indicator Advisor Code

/-!
# Contained names

An indicator's name stands in the comments of the banner and in one string
literal.  Since all its characters are printable it breaks no line, and since the
literal escapes what would end it, nothing of the name is read as code.
-/

namespace Text

/-- The characters that break a line for some reader of text. -/
def lineBreaks : List Char :=
  ['\n', '\x0b', '\x0c', '\r', '\x1c', '\x1d', '\x1e', '\x85', '\u2028', '\u2029']

/-- Whether a character breaks a line for no reader of text. -/
def staysOnLine (character : Char) : Bool :=
  !lineBreaks.contains character

theorem staysOnLine_of_isPrintable
    {character : Char}
    (printable : isPrintable character = true) :
    staysOnLine character = true := by
  have noBreak : ∀ mark ∈ lineBreaks, isPrintable mark = false := by
    simp only [lineBreaks, List.forall_mem_cons]
    exact ⟨by decide, by decide, by decide, by decide, by decide, by decide, by decide,
      by decide +kernel, by decide +kernel, by decide +kernel, List.forall_mem_nil _⟩
  rw [staysOnLine, Bool.not_eq_true', ← Bool.not_eq_true, List.contains_iff_mem]
  intro isBreak
  rw [noBreak character isBreak] at printable
  exact Bool.noConfusion printable

end Text

/-- An indicator's name breaks no line. -/
theorem IndicatorName.staysOnLine (name : IndicatorName) : Within staysOnLine name.text.toList :=
  Within.mono (List.all_eq_true.mp name.printable) staysOnLine_of_isPrintable

/-- Lines that hold no further lines are split from what is behind them. -/
theorem Code.splitOn_oneLines
    {lines : List String}
    (oneLine : ∀ line ∈ lines, '\n' ∉ line.toList)
    (later : List String) :
    (linesText (lines ++ later)).splitOn '\n' =
      lines.map String.toList ++ (linesText later).splitOn '\n' := by
  rw [linesText_append, splitOn_linesText_append, List.map_eq_flatMap]
  congr 1
  exact List.flatMap_congr fun line member => splitOn_of_oneLine (oneLine line member)

namespace Advisor

/-- Every row of the banner is a comment. -/
theorem isComment_bannerRow (text : String) : "//".toList <+: (bannerRow text).toList := by
  have lead : "//| ".toList = "//".toList ++ "| ".toList := by decide
  rw [bannerRow, padEnd, String.append_assoc, String.append_assoc, String.toList_append, lead,
    List.append_assoc]
  exact List.prefix_append _ _

/-- The line that declares a literal as the name of the indicator. -/
def nameDeclaration (literal : List Char) : List Char :=
  "input string IndicatorName = ".toList ++ literal ++ [';']

/-- The input for the indicator's name is declared with its literal. -/
theorem toList_nameInput_line (name : String) :
    (nameInput name).line.toList = nameDeclaration (stringLiteral name).toList := by
  have lead : "input string IndicatorName = ".toList =
      "input ".toList ++ "string".toList ++ [' '] ++ "IndicatorName".toList ++ [' ', '=', ' '] := by
    decide
  unfold nameDeclaration
  rw [Input.toList_line, lead]
  simp only [nameInput, Input.plain, List.append_assoc, List.cons_append, List.nil_append]
  rfl

namespace Scaffold

/-- The banner, without the properties below it. -/
def bannerLines (scaffold : Scaffold) : List String := [
  bannerRule,
  bannerRow (fileName scaffold.indicatorName),
  bannerRow "Expert Advisor generated by EA Builder",
  bannerRow ("Source indicator: " ++ scaffold.indicatorName),
  bannerRule]

/-- The properties, which are those of every expert advisor. -/
def propertyLines : List String := [
  "#property copyright \"Generated by EA Builder\"",
  "#property version   \"1.00\"",
  "#property strict"]

/-- The lines between the properties and the declaration of the name. -/
def betweenLines (scaffold : Scaffold) : List String :=
  "" :: scaffold.riskLines ++ ["", "// Indicator settings"]

/-- The lines in front of the declaration of the name. -/
def openingLines (scaffold : Scaffold) : List String :=
  scaffold.bannerLines ++ propertyLines ++ scaffold.betweenLines

/-- The leading lines end with the declaration of the indicator's name. -/
theorem leadingLines_eq (scaffold : Scaffold) :
    scaffold.leadingLines =
      scaffold.openingLines ++ [(nameInput scaffold.indicatorName).line] := by
  simp [leadingLines, headerLines, openingLines, bannerLines, propertyLines, betweenLines]

/-- The declaration of the name among the lines of an expert advisor. -/
theorem exists_layout (scaffold : Scaffold) :
    ∃ later, scaffold.text.toList =
      linesText (scaffold.openingLines ++ (nameInput scaffold.indicatorName).line :: later) := by
  refine ⟨scaffold.carried.map Input.line ++ scaffold.middleLines ++ scaffold.readingFunction ++
    scaffold.trailingLines, ?_⟩
  rw [toList_text_layout, leadingLines_eq]
  simp only [List.append_assoc, List.cons_append, List.nil_append]

/-- The banner stays within comments, line by line, whatever name it shows. -/
theorem bannerLines_stay
    {scaffold : Scaffold}
    (name_stays : Within staysOnLine scaffold.indicatorName.toList) :
    ∀ line ∈ scaffold.bannerLines,
      "//".toList <+: line.toList ∧ Within staysOnLine line.toList := by
  have file_stays : Within staysOnLine (fileName scaffold.indicatorName).toList := by
    simp only [fileName, String.toList_append, Within.append_iff]
    exact ⟨⟨name_stays, by decide⟩, by decide⟩
  have source_stays :
      Within staysOnLine ("Source indicator: " ++ scaffold.indicatorName).toList := by
    rw [String.toList_append, Within.append_iff]
    exact ⟨by decide, name_stays⟩
  have rule : "//".toList <+: bannerRule.toList ∧ Within staysOnLine bannerRule.toList := by
    decide
  simp only [bannerLines, List.forall_mem_cons]
  exact ⟨rule, ⟨isComment_bannerRow _, within_bannerRow (by decide) file_stays⟩,
    ⟨isComment_bannerRow _, within_bannerRow (by decide) (by decide)⟩,
    ⟨isComment_bannerRow _, within_bannerRow (by decide) source_stays⟩, rule, by simp⟩

end Scaffold

end Advisor

namespace Payload

/-- The lines in front of the declaration of the name do not hold further lines. -/
theorem oneLine_opening
    (payload : Payload)
    (parameters : List Parameter) :
    ∀ line ∈ (payload.scaffold parameters).openingLines, '\n' ∉ line.toList := by
  have banner := (payload.scaffold parameters).bannerLines_stay payload.indicatorName.staysOnLine
  have risk : ∀ line ∈ (payload.scaffold parameters).riskLines, '\n' ∉ line.toList := by
    refine List.forall_mem_cons.mpr ⟨by decide, ?_⟩
    rw [List.forall_mem_map]
    exact fun input member => (payload.readable_risk input member).delimited.oneLine
  simp only [Scaffold.openingLines, Scaffold.propertyLines, Scaffold.betweenLines,
    List.forall_mem_append, List.forall_mem_cons]
  refine ⟨⟨fun line member => (banner line member).2.not_mem (by decide), ?_⟩, ?_⟩
  · exact ⟨by decide, by decide, by decide, by simp⟩
  · exact ⟨⟨by decide, risk⟩, by decide, by decide, by simp⟩

/-- No line in front of the declaration of the name declares it. -/
theorem not_declared_opening
    (payload : Payload)
    (parameters : List Parameter) :
    ∀ line ∈ (payload.scaffold parameters).openingLines,
      "IndicatorName" ∉ namesOf line.toList := by
  let own := payload.scaffold parameters
  have names := own.namesOf_leadingLines payload.indicatorName.oneLine payload.single_risk
  rw [Scaffold.leadingLines_eq, namesOf_linesText_append] at names
  have name : namesOf (linesText [(nameInput own.indicatorName).line]) = ["IndicatorName"] := by
    rw [namesOf_linesText, List.flatMap_singleton, Scaffold.namesOf_nameInput]
  rw [name, List.append_cancel_right_eq] at names
  intro line member inLine
  have inNames : "IndicatorName" ∈ namesOf (linesText own.openingLines) := by
    rw [namesOf_linesText]
    exact List.mem_flatMap.mpr ⟨line, member, inLine⟩
  rw [names] at inNames
  have settings : own.risk.map Input.name = Scaffold.settingNames := rfl
  rw [settings] at inNames
  exact absurd inNames (by decide)

/--
The name of an indicator stands in the five comments of the banner and in one
literal, on a line of its own that is the first to declare the name, and the
literal is read as exactly the name.
-/
theorem containedName_of_composed
    {payload : Payload}
    {given : Option (List Parameter)}
    {code : String}
    (composed : payload.compose given = .ok code) :
    ∃ (banner between later : List (List Char)) (literal : List Char),
      code.toList.splitOn '\n' =
        banner ++ Scaffold.propertyLines.map String.toList ++ between ++
          nameDeclaration literal :: later ∧
      banner.length = 5 ∧
      (∀ line ∈ banner, "//".toList <+: line ∧ Within staysOnLine line) ∧
      declaringLine? code.toList "IndicatorName" = some (nameDeclaration literal) ∧
      Within staysOnLine (nameDeclaration literal) ∧
      ∀ rest, readLiteral? (literal ++ rest) = some (payload.indicatorName.text.toList, rest) := by
  obtain ⟨_, rfl⟩ := composeWith_eq_ok_iff.mp composed
  let own := payload.scaffold (payload.effectiveParameters given)
  let declaration := nameInput own.indicatorName
  have literal_stays : Within staysOnLine (stringLiteral own.indicatorName).toList :=
    within_stringLiteral (by decide) payload.indicatorName.staysOnLine
  have banner := own.bannerLines_stay payload.indicatorName.staysOnLine
  have openingOneLine := payload.oneLine_opening (payload.effectiveParameters given)
  have notBefore := payload.not_declared_opening (payload.effectiveParameters given)
  have declares : (inputNames declaration.line.toList).head? = some "IndicatorName" := by
    have type : Within isWord declaration.type.toList :=
      show Within isWord "string".toList by decide
    have identifier : IsIdentifier declaration.name.toList :=
      show IsIdentifier "IndicatorName".toList by decide
    rw [Input.inputNames_line type identifier]
    rfl
  obtain ⟨later, layout⟩ := own.exists_layout
  refine ⟨own.bannerLines.map String.toList, own.betweenLines.map String.toList,
    (linesText later).splitOn '\n', (stringLiteral own.indicatorName).toList, ?_, rfl, ?_, ?_, ?_,
    readLiteral?_stringLiteral _⟩
  · have declared :=
      splitOn_oneLines (List.forall_mem_singleton.mpr (oneLine_nameInput own.indicatorName)) later
    rw [List.singleton_append] at declared
    rw [layout, splitOn_oneLines openingOneLine, declared, ← toList_nameInput_line,
      Scaffold.openingLines, List.map_append, List.map_append]
    rfl
  · exact List.forall_mem_map.mpr banner
  · rw [layout, ← toList_nameInput_line]
    refine declaringLine?_of_first ?_ (oneLine_nameInput _) declares
    exact fun line member part inLine => head?_inputNames_ne (notBefore line member) inLine
  · unfold nameDeclaration
    rw [Within.append_iff, Within.append_iff]
    exact ⟨⟨by decide, literal_stays⟩, by decide⟩

/-- The payload for the period's indicator under a name that could be mistaken for code. -/
def deceptivePayload : Payload :=
  { periodPayload with
    indicatorName := ⟨"RSI\"; /* \\ // */ int Lots", by decide, by decide⟩ }

/-- A name with quotes, a comment and a declaration in it is still declared once and read back. -/
theorem containedName_of_composed_deceptivePayload :
    ∃ code literal, deceptivePayload.compose none = .ok code ∧
      declaringLine? code.toList "IndicatorName" = some (nameDeclaration literal) ∧
      ∀ rest, readLiteral? (literal ++ rest) =
        some ("RSI\"; /* \\ // */ int Lots".toList, rest) := by
  have composed : deceptivePayload.compose none = _ :=
    composeWith_eq_ok_iff.mpr ⟨clashes_periodPayload, rfl⟩
  obtain ⟨_, _, _, literal, _, _, _, declared, _, read⟩ := containedName_of_composed composed
  exact ⟨_, literal, composed, declared, read⟩

end Payload

end ExpertAdvisor
