import ExpertAdvisor.Proofs.Advisor.Outcomes
import ExpertAdvisor.Proofs.Advisor.ScaffoldLines

namespace ExpertAdvisor

open Text Indicator Advisor Number

/-!
# Exposed parameters

An expert advisor is itself a program whose parameters can be read off its text.
They are its own settings, the parameters of the indicator with their names and
defaults unchanged, and the levels that it watches.
-/

/-- The levels that a strategy exposes, which are those that it watches. -/
def Strategy.exposedLevels : Strategy → List Parameter
  | .threshold settings =>
      (settings.watchedUpper.map fun level =>
        ⟨"UpperThreshold", finiteLiteral level, some "double"⟩).toList ++
      (settings.watchedLower.map fun level =>
        ⟨"LowerThreshold", finiteLiteral level, some "double"⟩).toList
  | _ => []

/-- A parameter as it is declared again. -/
def Parameter.carried (parameter : Parameter) : Parameter :=
  ⟨parameter.name, parameter.default, some (carriedType parameter)⟩

/-- The parameters that the expert advisor of a payload exposes, in order. -/
def Payload.exposedParameters (payload : Payload) : List Parameter :=
  [⟨"Lots", finiteLiteral payload.lots.val, some "double"⟩,
    ⟨"Slippage", integerText payload.slippage, some "int"⟩,
    ⟨"StopLossPoints", naturalText payload.stopLoss, some "int"⟩,
    ⟨"TakeProfitPoints", naturalText payload.takeProfit, some "int"⟩,
    ⟨"MagicNumber", integerText payload.magicNumber, some "int"⟩,
    ⟨"CloseOppositeSignal", "true", some "bool"⟩,
    ⟨"IndicatorName", stringLiteral payload.indicatorName.text, some "string"⟩] ++
  (parameters payload.indicatorCode).map Parameter.carried ++
  payload.strategy.exposedLevels

/-- The inputs of a strategy that is no snippet declare the levels that it exposes. -/
theorem Strategy.map_parameter_inputs (strategy : Strategy) :
    strategy.fragment.inputs.map Input.parameter = strategy.exposedLevels := by
  cases strategy with
  | threshold settings =>
      simp only [fragment, ThresholdStrategy.inputs, exposedLevels]
      cases settings.watchedUpper <;> cases settings.watchedLower <;> rfl
  | _ => rfl

/-- The parameters that the scaffold of a payload declares are those it exposes. -/
theorem Payload.declared_scaffold (payload : Payload) :
    (payload.scaffold (parameters payload.indicatorCode)).declared =
      payload.exposedParameters := by
  rw [Scaffold.declared, scaffold, Strategy.map_parameter_inputs, exposedParameters, risk,
    List.map_map]
  rfl

/-- The names of the exposed levels are among two reserved ones, in this order. -/
theorem Strategy.names_exposedLevels_sublist (strategy : Strategy) :
    (Parameter.names strategy.exposedLevels).Sublist ["UpperThreshold", "LowerThreshold"] := by
  cases strategy with
  | threshold settings =>
      simp only [exposedLevels]
      cases settings.watchedUpper <;> cases settings.watchedLower <;>
        simp [Parameter.names]
  | _ => exact List.nil_sublist _

/-- Parameters that are not reserved keep their names apart from those that are reserved. -/
theorem Parameter.nodup_reserved_append_names
    {source : String}
    {own : List String}
    (ownReserved : own.Sublist reservedNames)
    (noClashes : clashes (parameters source) = []) :
    (own ++ names (parameters source)).Nodup := by
  rw [List.nodup_append]
  refine ⟨ownReserved.nodup (by decide), nodup_names_parameters source,
    fun name isOwn carried isCarried same => ?_⟩
  obtain ⟨parameter, isParameter, rfl⟩ := List.mem_map.mp isCarried
  refine clashes_ne_nil_iff.mpr ⟨parameter, isParameter, ?_⟩ noClashes
  rw [← same]
  exact ownReserved.subset isOwn

/-- No parameter is exposed twice when the indicator's own ones are not reserved. -/
theorem Payload.nodup_names_exposedParameters
    (payload : Payload)
    (noClashes : Parameter.clashes (parameters payload.indicatorCode) = []) :
    (Parameter.names payload.exposedParameters).Nodup := by
  let settings : List String :=
    ["Lots", "Slippage", "StopLossPoints", "TakeProfitPoints", "MagicNumber",
      "CloseOppositeSignal", "IndicatorName"]
  let carried := Parameter.names (parameters payload.indicatorCode)
  let levels := Parameter.names payload.strategy.exposedLevels
  have shape : Parameter.names payload.exposedParameters = settings ++ carried ++ levels := by
    simp [Parameter.names, exposedParameters, settings, carried, levels, Parameter.carried]
  -- The names that an expert advisor adds itself are reserved ones, each at most once.
  have ownReserved : (settings ++ levels).Sublist reservedNames :=
    ((List.Sublist.refl settings).append
      payload.strategy.names_exposedLevels_sublist).trans (by decide)
  have moved : (settings ++ carried ++ levels).Perm (settings ++ levels ++ carried) := by
    rw [List.append_assoc, List.append_assoc]
    exact List.perm_append_comm.append_left settings
  rw [shape, moved.nodup_iff]
  exact Parameter.nodup_reserved_append_names ownReserved noClashes

/-- The scaffold of a payload is legible when its name and timeframe stay in their place. -/
theorem Payload.legible_scaffold
    {payload : Payload}
    (notCustom : payload.strategy.kind ≠ .custom)
    (nameClosed : ';' ∉ payload.indicatorName.text.toList)
    (nameUncommented : Uncommented payload.indicatorName.text.toList)
    (timeframeOneLine : '\n' ∉ payload.timeframe.text.toList)
    (timeframeUncommented : Uncommented payload.timeframe.text.toList)
    (defaultsUncommented :
      ∀ parameter ∈ parameters payload.indicatorCode, Uncommented parameter.default.toList) :
    (payload.scaffold (parameters payload.indicatorCode)).Legible where
  name_contained :=
    ⟨Within.not_mem (List.all_eq_true.mp payload.indicatorName.printable) (by decide),
      nameUncommented⟩
  name_closed := nameClosed
  timeframe_contained := ⟨timeframeOneLine, timeframeUncommented⟩
  risk_readable := payload.readable_risk
  carried_readable := by
    intro input member
    obtain ⟨parameter, isParameter, rfl⟩ := List.mem_map.mp member
    exact Parameter.readable_carriedInput isParameter (defaultsUncommented parameter isParameter)
  inputs_readable := payload.strategy.readable_inputs
  body_declares := Strategy.linesDeclare_body notCustom

/--
The parameters of a composed expert advisor are exactly those that its payload
exposes, and no two of them have the same name.  The indicator's name must not
end the declaration that holds it, the timeframe must not break its line, and
neither of them nor a default may open a comment.
-/
theorem parameters_of_composed
    {payload : Payload}
    {code : String}
    (notCustom : payload.strategy.kind ≠ .custom)
    (nameClosed : ';' ∉ payload.indicatorName.text.toList)
    (nameUncommented : ¬ ['/', '*'] <:+: payload.indicatorName.text.toList)
    (timeframeOneLine : '\n' ∉ payload.timeframe.text.toList)
    (timeframeUncommented : ¬ ['/', '*'] <:+: payload.timeframe.text.toList)
    (defaultsUncommented :
      ∀ parameter ∈ parameters payload.indicatorCode,
        ¬ ['/', '*'] <:+: parameter.default.toList)
    (composed : payload.compose none = .ok code) :
    parameters code = payload.exposedParameters ∧
      (Parameter.names (parameters code)).Nodup := by
  obtain ⟨noClashes, rfl⟩ := Payload.composeWith_eq_ok_iff.mp composed
  have legible := Payload.legible_scaffold notCustom nameClosed nameUncommented timeframeOneLine
    timeframeUncommented defaultsUncommented
  have distinct := payload.nodup_names_exposedParameters noClashes
  have found : parameters (payload.scaffold (parameters payload.indicatorCode)).text =
      payload.exposedParameters := by
    rw [← payload.declared_scaffold] at distinct ⊢
    exact legible.linesDeclare_sections.parameters_eq (Scaffold.toList_text _) distinct
  exact ⟨found, found ▸ distinct⟩

/-! An indicator with one parameter, which is to be bought above a level. -/

/-- An indicator that declares one parameter. -/
def periodSource : String := "input int Period = 14;\n"

theorem parameters_periodSource : parameters periodSource = [⟨"Period", "14", some "int"⟩] := by
  rw [parameters, extraction, blankComments_of_uncommented (by decide)]
  decide +kernel

/-- A payload for the indicator. -/
def periodPayload : Payload where
  indicatorName := ⟨"RSI", by decide, by decide⟩
  indicatorCode := periodSource
  timeframe := Payload.chartTimeframe
  lots := Payload.tenthOfLot
  slippage := Payload.standardSlippage
  stopLoss := 50
  takeProfit := 0
  magicNumber := Payload.standardMagicNumber
  strategy := .threshold ⟨0, some Payload.tenthOfLot.val, none, .band, false⟩

theorem clashes_periodPayload :
    Parameter.clashes (periodPayload.effectiveParameters none) = [] := by
  rw [Payload.effectiveParameters, Option.getD_none]
  exact (congrArg Parameter.clashes parameters_periodSource).trans (by decide)

/-- The expert advisor of the indicator exposes the period between its settings and the level. -/
theorem parameters_of_composed_periodPayload :
    ∃ code, periodPayload.compose none = .ok code ∧
      parameters code =
        [⟨"Lots", "0.1", some "double"⟩, ⟨"Slippage", "3", some "int"⟩,
          ⟨"StopLossPoints", "50", some "int"⟩, ⟨"TakeProfitPoints", "0", some "int"⟩,
          ⟨"MagicNumber", "123456", some "int"⟩, ⟨"CloseOppositeSignal", "true", some "bool"⟩,
          ⟨"IndicatorName", "\"RSI\"", some "string"⟩, ⟨"Period", "14", some "int"⟩,
          ⟨"UpperThreshold", "0.1", some "double"⟩] ∧
      (Parameter.names (parameters code)).Nodup := by
  have carried : parameters periodPayload.indicatorCode = [⟨"Period", "14", some "int"⟩] :=
    parameters_periodSource
  have noClashes : Parameter.clashes (periodPayload.effectiveParameters none) = [] := by
    rw [Payload.effectiveParameters, Option.getD_none, carried]
    decide
  have composed : periodPayload.compose none = _ :=
    Payload.composeWith_eq_ok_iff.mpr ⟨noClashes, rfl⟩
  obtain ⟨found, distinct⟩ := parameters_of_composed (by decide) (by decide) (by decide)
    (by decide) (by decide) (by rw [carried]; decide) composed
  refine ⟨_, composed, ?_, distinct⟩
  rw [found, Payload.exposedParameters, carried]
  decide +kernel

end ExpertAdvisor
