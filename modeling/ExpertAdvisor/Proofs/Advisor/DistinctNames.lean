import ExpertAdvisor.Proofs.Advisor.DistinctPayloads
import ExpertAdvisor.Proofs.Advisor.GlobalNames

namespace ExpertAdvisor

open Text Indicator Advisor Number Code

/-!
# Distinct names

An expert advisor that carries no reserved name declares its own names and the
carried ones once each.  What its free texts declare further is not compared
with either, so such a name can be declared twice.
-/

theorem IndicatorName.oneLine (name : IndicatorName) : '\n' ∉ name.text.toList :=
  Within.not_mem (List.all_eq_true.mp name.printable) (by decide)

/-- The lines of a tick declare no global names. -/
theorem Strategy.namesOf_body
    {strategy : Strategy}
    (notCustom : strategy.kind ≠ .custom) :
    namesOf strategy.fragment.body.toList = [] := by
  have bufferPlain (buffer : Nat) : PlainCode (naturalText buffer) :=
    (within_naturalText buffer).mono isCodeCharacter_of_isNumeralCharacter
  cases strategy with
  | crossover settings =>
      simp only [fragment]
      exact Statement.namesOf_body bufferPlain settings.remarksPlain_tick
  | threshold settings =>
      simp only [fragment]
      exact Statement.namesOf_body bufferPlain settings.remarksPlain_tick
  | custom snippet => exact absurd rfl notCustom

/-- A strategy's inputs are named after the levels that it exposes. -/
theorem Strategy.map_name_inputs (strategy : Strategy) :
    strategy.fragment.inputs.map Input.name = Parameter.names strategy.exposedLevels := by
  rw [← Strategy.map_parameter_inputs, Parameter.names, List.map_map]
  rfl

/-- The input of a level declares its own name only. -/
theorem Strategy.single_inputs (strategy : Strategy) :
    ∀ input ∈ strategy.fragment.inputs, input.Single := by
  cases strategy with
  | threshold settings =>
      intro input member
      have delimited := (settings.readable_inputs input member).delimited
      simp only [fragment, ThresholdStrategy.inputs, List.mem_append, Option.mem_toList,
        Option.map_eq_some_iff] at member
      rcases member with ⟨level, _, rfl⟩ | ⟨level, _, rfl⟩ <;>
        exact .of_numeral delimited (within_finiteLiteral level)
  | crossover _ => exact List.forall_mem_nil _
  | custom _ => exact List.forall_mem_nil _

namespace Payload

/-- The input of a setting declares its own name only. -/
theorem single_risk (payload : Payload) : ∀ input ∈ payload.risk, input.Single := by
  have delimited := fun input member => (payload.readable_risk input member).delimited
  simp only [risk, riskInputs, List.forall_mem_cons] at delimited ⊢
  obtain ⟨lots, slippage, stopLoss, takeProfit, magicNumber, closing, _⟩ := delimited
  exact ⟨.of_numeral lots (within_finiteLiteral _), .of_numeral slippage (within_integerText _),
    .of_numeral stopLoss (within_naturalText _), .of_numeral takeProfit (within_naturalText _),
    .of_numeral magicNumber (within_integerText _),
    ⟨closing, by decide⟩, by simp⟩

/-- The inputs that are carried from an indicator are delimited. -/
theorem delimited_carried (payload : Payload) :
    ∀ input ∈ (parameters payload.indicatorCode).map Parameter.carriedInput,
      input.Delimited := by
  intro input member
  obtain ⟨parameter, isParameter, rfl⟩ := List.mem_map.mp member
  exact parameter.delimited_carriedInput isParameter

/-- The names that an expert advisor declares itself. -/
def ownNames (payload : Payload) : List String :=
  Scaffold.settingNames ++ ["IndicatorName"] ++
    Parameter.names payload.strategy.exposedLevels ++ Scaffold.functionNames

/-- The names that an expert advisor declares on its own are reserved. -/
theorem ownNames_sublist (payload : Payload) : payload.ownNames.Sublist reservedNames := by
  have settingsKept := List.Sublist.refl (Scaffold.settingNames ++ ["IndicatorName"])
  exact (settingsKept.append payload.strategy.names_exposedLevels_sublist).append
    (List.Sublist.refl Scaffold.functionNames)

/-- The risk inputs are named after the settings. -/
theorem map_name_risk (payload : Payload) :
    payload.risk.map Input.name = Scaffold.settingNames :=
  rfl

/-- The names that the defaults of the carried parameters and the timeframe declare further. -/
def furtherNames (payload : Payload) : List String :=
  ((parameters payload.indicatorCode).flatMap fun parameter =>
      parameter.carriedInput.furtherNames) ++
    namesOf (payload.scaffold (parameters payload.indicatorCode)).callLine.toList

/-- Nothing further is declared by defaults of one item each and a timeframe of one line. -/
theorem furtherNames_eq_nil
    {payload : Payload}
    (timeframeOneLine : '\n' ∉ payload.timeframe.text.toList)
    (defaultsWhole : ∀ parameter ∈ parameters payload.indicatorCode,
      (Place.plain 0).behind? parameter.default.toList = some (.plain 0)) :
    payload.furtherNames = [] := by
  rw [furtherNames, List.append_eq_nil_iff, List.flatMap_eq_nil_iff]
  refine ⟨fun parameter member => ?_, (delimited_scaffold timeframeOneLine).namesOf_callLine⟩
  exact Input.Single.furtherNames_eq_nil
    ⟨parameter.delimited_carriedInput member, defaultsWhole parameter member⟩

/-- The names of an expert advisor are its own, the carried ones and those of its free texts. -/
theorem perm_globalNames
    {payload : Payload}
    (notCustom : payload.strategy.kind ≠ .custom) :
    (globalNames (payload.scaffold (parameters payload.indicatorCode)).text).Perm
      (payload.ownNames ++ Parameter.names (parameters payload.indicatorCode) ++
        payload.furtherNames) := by
  have carried :
      (Parameter.names (parameters payload.indicatorCode) ++
        (parameters payload.indicatorCode).flatMap fun parameter =>
          parameter.carriedInput.furtherNames).Perm
        (((parameters payload.indicatorCode).map Parameter.carriedInput).flatMap
          fun input => input.name :: input.furtherNames) := by
    rw [Parameter.names, List.map_eq_flatMap, List.flatMap_map]
    exact List.flatMap_append_perm _ _ _
  have shape :
      globalNames (payload.scaffold (parameters payload.indicatorCode)).text = _ :=
    Scaffold.globalNames_text payload.indicatorName.oneLine payload.single_risk
      payload.delimited_carried payload.strategy.single_inputs (Strategy.namesOf_body notCustom)
  refine List.perm_iff_count.mpr fun name => ?_
  have sameCount := carried.count_eq name
  rw [shape]
  simp only [List.count_append] at sameCount
  simp only [scaffold, Strategy.map_name_inputs, map_name_risk, ownNames, furtherNames,
    Scaffold.functionNames, List.tail_cons, List.count_append, List.count_cons, List.count_nil]
  omega

/--
The global names of a composed expert advisor are its own names, the carried
ones, and those that its free texts declare further.  They are pairwise distinct
exactly when the further names are, and are neither own nor carried names.
-/
theorem globalNames_of_composed
    {payload : Payload}
    {code : String}
    (notCustom : payload.strategy.kind ≠ .custom)
    (composed : payload.compose none = .ok code) :
    (globalNames code).Perm
        (payload.ownNames ++ Parameter.names (parameters payload.indicatorCode) ++
          payload.furtherNames) ∧
      ((globalNames code).Nodup ↔
        payload.furtherNames.Nodup ∧
          ∀ name ∈ payload.furtherNames,
            name ∉ payload.ownNames ∧
              name ∉ Parameter.names (parameters payload.indicatorCode)) := by
  obtain ⟨noClashes, rfl⟩ := composeWith_eq_ok_iff.mp composed
  have names := perm_globalNames notCustom
  have distinct :=
    Parameter.nodup_reserved_append_names payload.ownNames_sublist noClashes
  refine ⟨names, names.nodup_iff.trans (List.nodup_append_comm.trans ?_)⟩
  rw [List.nodup_append]
  constructor
  · rintro ⟨furtherDistinct, _, apart⟩
    refine ⟨furtherDistinct, fun name isFurther => ?_⟩
    rw [← not_or, ← List.mem_append]
    exact fun declared => apart name isFurther name declared rfl
  · rintro ⟨furtherDistinct, apart⟩
    refine ⟨furtherDistinct, distinct, fun name isFurther declared isDeclared same => ?_⟩
    rw [← same, List.mem_append] at isDeclared
    exact not_or.mpr (apart name isFurther) isDeclared

/-- The expert advisor of the period's indicator declares no name twice. -/
theorem globalNames_of_composed_periodPayload :
    ∃ code, periodPayload.compose none = .ok code ∧ (globalNames code).Nodup := by
  have composed : periodPayload.compose none = _ :=
    composeWith_eq_ok_iff.mpr ⟨clashes_periodPayload, rfl⟩
  have nothingFurther : periodPayload.furtherNames = [] := by
    refine furtherNames_eq_nil (by decide) ?_
    rw [show parameters periodPayload.indicatorCode = _ from parameters_periodSource]
    decide
  refine ⟨_, composed, (globalNames_of_composed (by decide) composed).2.mpr ?_⟩
  rw [nothingFurther]
  exact ⟨List.nodup_nil, List.forall_mem_nil _⟩

/-- An indicator that declares two parameters in one list. -/
def listedSource : String := "input int Period = 14, Lots = 2;\n"

/-- An input that declares two variables is read as one parameter. -/
theorem parameters_listedSource :
    parameters listedSource = [⟨"Period", "14, Lots = 2", some "int"⟩] := by
  rw [parameters, extraction, blankComments_of_uncommented (by decide)]
  decide

/-- The payload for the period's indicator, with the list in place of its one parameter. -/
def listedPayload : Payload :=
  { periodPayload with indicatorCode := listedSource }

/-- The second name of a list of parameters is not compared with the settings. -/
theorem not_nodup_globalNames_listedPayload :
    ∃ code, listedPayload.compose none = .ok code ∧ ¬ (globalNames code).Nodup := by
  have carried : parameters listedPayload.indicatorCode = _ := parameters_listedSource
  have noClashes : Parameter.clashes (listedPayload.effectiveParameters none) = [] := by
    rw [Payload.effectiveParameters, Option.getD_none, carried]
    decide
  have composed : listedPayload.compose none = _ :=
    composeWith_eq_ok_iff.mpr ⟨noClashes, rfl⟩
  have further : "Lots" ∈ listedPayload.furtherNames := by
    rw [furtherNames, carried, List.mem_append]
    exact .inl (by decide)
  refine ⟨_, composed, fun distinct => ?_⟩
  rw [effectiveParameters, Option.getD_none, (perm_globalNames (by decide)).nodup_iff,
    List.nodup_append] at distinct
  exact distinct.2.2 "Lots" (by decide) "Lots" further rfl

end Payload

end ExpertAdvisor
