import ExpertAdvisor.Proofs.Advisor.Outcomes
import ExpertAdvisor.Proofs.Advisor.PassedArguments
import ExpertAdvisor.Proofs.Payload.GivenFields

namespace ExpertAdvisor

open Text Indicator Advisor Number Code

/-!
# Lines of the settings

The settings of an expert advisor come first among its inputs.  Each is declared
on a line of its own, and no line before that declares its name, whatever the
parameters are that the expert advisor carries.
-/

namespace Payload

variable {payload : Payload} {carried : List Parameter}

/-- A setting comes first on its line. -/
theorem head?_inputNames_setting
    {input : Input}
    (member : input ∈ payload.risk) :
    (inputNames input.line.toList).head? = some input.name := by
  have single := payload.single_risk input member
  rw [Input.inputNames_line single.type_identifier.within single.name_identifier]
  rfl

/-- What stands in front of the settings, with their heading. -/
def settingsHeading (payload : Payload) : List String :=
  (payload.scaffold []).headerLines ++ ["", "// Risk settings"]

theorem namesOf_settingsHeading : namesOf (linesText payload.settingsHeading) = [] := by
  rw [settingsHeading, namesOf_linesText_append,
    Scaffold.namesOf_headerLines payload.indicatorName.oneLine]
  decide

/-- The code around the line of a setting. -/
theorem exists_text_around_setting
    {input : Input}
    {earlier later : List Input}
    (order : payload.risk = earlier ++ input :: later) :
    ∃ rest, (payload.scaffold carried).text.toList =
      linesText ((payload.settingsHeading ++ earlier.map Input.line) ++ input.line :: rest) := by
  let own := payload.scaffold carried
  have risk : own.risk = payload.risk := rfl
  have heading : own.headerLines ++ ["", "// Risk settings"] = payload.settingsHeading := rfl
  refine ⟨later.map Input.line ++
    ["", "// Indicator settings", (nameInput own.indicatorName).line] ++
      own.carried.map Input.line ++ own.middleLines ++ own.readingFunction ++
        own.trailingLines, ?_⟩
  rw [own.toList_text_layout, Scaffold.leadingLines, Scaffold.riskLines, risk, order, ← heading]
  simp only [List.map_append, List.map_cons, List.append_assoc, List.cons_append, List.nil_append]

/-- The first line that declares a setting by its name is the setting's own. -/
theorem declaringLine?_setting
    {input : Input}
    (member : input ∈ payload.risk) :
    declaringLine? (payload.scaffold carried).text.toList input.name = some input.line.toList := by
  obtain ⟨earlier, later, order⟩ := List.append_of_mem member
  obtain ⟨rest, layout⟩ := @exists_text_around_setting payload carried _ _ _ order
  have notEarlier : ∀ other ∈ earlier, other.name ≠ input.name := by
    have distinct : (payload.risk.map Input.name).Nodup := by
      rw [map_name_risk]
      decide
    rw [order, List.map_append, List.nodup_append] at distinct
    exact fun other isEarlier =>
      distinct.2.2 other.name (List.mem_map_of_mem isEarlier) input.name (by simp)
  rw [layout]
  refine declaringLine?_of_first ?_ (payload.single_risk input member).oneLine
    (head?_inputNames_setting member)
  intro line isBefore part inLine
  rcases List.mem_append.mp isBefore with isHeading | isEarlier
  · refine head?_inputNames_ne (fun inNames => ?_) inLine
    have inHeading : input.name ∈ namesOf (linesText payload.settingsHeading) := by
      rw [namesOf_linesText]
      exact List.mem_flatMap.mpr ⟨line, isHeading, inNames⟩
    rw [namesOf_settingsHeading] at inHeading
    exact absurd inHeading List.not_mem_nil
  · obtain ⟨other, isOther, rfl⟩ := List.mem_map.mp isEarlier
    have isSetting : other ∈ payload.risk := by
      rw [order]
      exact List.mem_append_left _ isOther
    rw [splitOn_of_oneLine (payload.single_risk other isSetting).oneLine,
      List.mem_singleton] at inLine
    rw [inLine, head?_inputNames_setting isSetting]
    exact fun same => notEarlier other isOther (Option.some.inj same)

/-- The line on which an expert advisor declares the magic number of its orders. -/
def magicNumberLine (magicNumber : Int) : String :=
  "input int MagicNumber = " ++ integerText magicNumber ++ ";"

/-- The line of the magic number is found by its number. -/
theorem line_magicNumber (magicNumber : Int) :
    (Input.plain "int" "MagicNumber" (integerText magicNumber)).line =
      magicNumberLine magicNumber := by
  have lead : "input " ++ "int" ++ " " ++ "MagicNumber" ++ " = " = "input int MagicNumber = " := rfl
  unfold magicNumberLine
  generalize integerText magicNumber = text
  rw [Input.plain, Input.line, lead, String.append_empty]

/-- A composed expert advisor declares the payload's magic number. -/
theorem declaringLine?_magicNumber
    {code : String}
    {given : Option (List Parameter)}
    (composed : payload.compose given = .ok code) :
    declaringLine? code.toList "MagicNumber" =
      some (magicNumberLine payload.magicNumber).toList := by
  obtain ⟨_, rfl⟩ := composeWith_eq_ok_iff.mp composed
  have isSetting :
      Input.plain "int" "MagicNumber" (integerText payload.magicNumber) ∈ payload.risk := by
    simp only [risk, riskInputs, List.mem_cons, true_or, or_true]
  rw [← line_magicNumber]
  exact declaringLine?_setting isSetting

end Payload

/-- What is composed from a record declares the magic number that the record gives. -/
theorem Composition.declaringLine?_magicNumber
    {record : Record}
    {value : Value}
    {magicNumber : Int}
    {given : Option (List Parameter)}
    {code : String}
    (gives : Field.magicNumber.Gives record value)
    (isInteger : Scalar.integer value = .accepted magicNumber)
    (composed : ofValue (.record record) given = .ok code) :
    declaringLine? code.toList "MagicNumber" =
      some (Payload.magicNumberLine magicNumber).toList := by
  obtain ⟨payload, accepted, composed⟩ := exists_payload_of_ofValue composed
  obtain ⟨_, _, _, _, _, _, _, stored, _, noStrays⟩ := Payload.ofRecord_eq_accepted_iff.mp accepted
  have apart : FieldName.AreApart Payload.fieldNames := by decide
  obtain ⟨⟨key, found⟩, _⟩ := FieldName.found_of_gives apart (by decide) noStrays gives
  rw [FieldName.optional_eq_accepted_iff found, isInteger] at stored
  rw [Payload.declaringLine?_magicNumber composed, Checked.accepted.inj stored]

end ExpertAdvisor
