import ExpertAdvisor.Proofs.Advisor.DistinctScaffolds
import ExpertAdvisor.Proofs.Advisor.DistinctTicks
import ExpertAdvisor.Proofs.Advisor.ExposedParameters

namespace ExpertAdvisor

open Text Indicator Advisor Number

/-!
# Distinct payloads

No setting is lost in the text of an expert advisor.  Two payloads with the same
text have the same settings, carry over the same parameters, and add the same to
the scaffold.  Strategies of one kind then differ at most in settings that their
ticks do not use.
-/

namespace Payload

/-- A payload's scaffold can be told from its text when the timeframe stays on its line. -/
theorem delimited_scaffold
    {payload : Payload}
    (timeframeOneLine : '\n' ∉ payload.timeframe.text.toList) :
    (payload.scaffold (parameters payload.indicatorCode)).Delimited where
  name_oneLine := Within.not_mem (List.all_eq_true.mp payload.indicatorName.printable) (by decide)
  timeframe_oneLine := timeframeOneLine
  risk_delimited := fun input member => (payload.readable_risk input member).delimited
  carried_delimited := by
    intro input member
    obtain ⟨parameter, isParameter, rfl⟩ := List.mem_map.mp member
    exact parameter.delimited_carriedInput isParameter
  inputs_delimited := fun input member => (payload.strategy.readable_inputs input member).delimited

/-- Payloads that agree in every setting that takes part in the expert advisor. -/
structure Agrees (first second : Payload) : Prop where
  indicatorName : first.indicatorName = second.indicatorName
  timeframe : first.timeframe = second.timeframe
  lots : first.lots = second.lots
  slippage : first.slippage = second.slippage
  stopLoss : first.stopLoss = second.stopLoss
  takeProfit : first.takeProfit = second.takeProfit
  magicNumber : first.magicNumber = second.magicNumber
  carried :
    (parameters first.indicatorCode).map Parameter.carried =
      (parameters second.indicatorCode).map Parameter.carried
  fragment : first.strategy.fragment = second.strategy.fragment
  crossover : ∀ settings others, first.strategy = .crossover settings →
    second.strategy = .crossover others → settings = others
  threshold : ∀ settings others, first.strategy = .threshold settings →
    second.strategy = .threshold others →
      settings.buffer = others.buffer ∧ settings.watchedUpper = others.watchedUpper ∧
        settings.watchedLower = others.watchedLower ∧
        (settings.watchedUpper.isSome ∨ settings.watchedLower.isSome →
          settings.stacking = others.stacking)

/-- Payloads with the same text agree in every setting that takes part in it. -/
theorem agrees_of_composed
    {first second : Payload}
    {code : String}
    (firstOneLine : '\n' ∉ first.timeframe.text.toList)
    (secondOneLine : '\n' ∉ second.timeframe.text.toList)
    (firstComposed : first.compose none = .ok code)
    (secondComposed : second.compose none = .ok code) :
    first.Agrees second := by
  obtain ⟨_, firstText⟩ := composeWith_eq_ok_iff.mp firstComposed
  obtain ⟨_, secondText⟩ := composeWith_eq_ok_iff.mp secondComposed
  have sameScaffold := Scaffold.text_unique (delimited_scaffold firstOneLine)
    (delimited_scaffold secondOneLine) (firstText.trans secondText.symm)
  have sameFragment : first.strategy.fragment = second.strategy.fragment :=
    congrArg Scaffold.fragment sameScaffold
  have sameCarried := congrArg (fun scaffold => scaffold.carried.map Input.parameter) sameScaffold
  simp only [scaffold, List.map_map] at sameCarried
  have sameRisk : first.risk = second.risk := congrArg Scaffold.risk sameScaffold
  simp only [risk, riskInputs, Input.plain, List.cons.injEq, Input.mk.injEq, true_and,
    and_true] at sameRisk
  obtain ⟨sameLots, sameSlippage, sameStop, sameTake, sameMagic⟩ := sameRisk
  exact {
    indicatorName := by
      have sameName := congrArg Scaffold.indicatorName sameScaffold
      cases firstName : first.indicatorName
      cases secondName : second.indicatorName
      simp_all [scaffold]
    timeframe := by
      have sameTimeframe := congrArg Scaffold.timeframe sameScaffold
      cases firstTimeframe : first.timeframe
      cases secondTimeframe : second.timeframe
      simp_all [scaffold]
    lots := Subtype.ext (finiteLiteral_injective sameLots)
    slippage := integerText_injective sameSlippage
    stopLoss := naturalText_injective sameStop
    takeProfit := naturalText_injective sameTake
    magicNumber := integerText_injective sameMagic
    carried := sameCarried
    fragment := sameFragment
    crossover := fun settings others isFirst isSecond =>
      CrossoverStrategy.fragment_unique (by rw [← isFirst, ← isSecond, sameFragment])
    threshold := fun settings others isFirst isSecond =>
      ThresholdStrategy.fragment_unique (by rw [← isFirst, ← isSecond, sameFragment]) }

/-- The payload for the period's indicator, with a level on the side that it leaves alone. -/
def idleLevelPayload : Payload :=
  { periodPayload with
    strategy := .threshold ⟨0, some tenthOfLot.val, some tenthOfLot.val, .above, false⟩ }

/-- A level that is not watched can be different in payloads with the same text. -/
theorem agrees_of_composed_idleLevelPayload :
    ∃ code, periodPayload.compose none = .ok code ∧ idleLevelPayload.compose none = .ok code ∧
      periodPayload ≠ idleLevelPayload ∧ periodPayload.Agrees idleLevelPayload := by
  have sameFragment :
      idleLevelPayload.strategy.fragment = periodPayload.strategy.fragment := by
    simp only [Strategy.fragment, idleLevelPayload, periodPayload]
    congr 1
  have sameScaffold (given : List Parameter) :
      idleLevelPayload.scaffold given = periodPayload.scaffold given := by
    rw [scaffold, sameFragment]
    rfl
  have composed : periodPayload.compose none = _ :=
    composeWith_eq_ok_iff.mpr ⟨clashes_periodPayload, rfl⟩
  have idleComposed : idleLevelPayload.compose none = _ :=
    composeWith_eq_ok_iff.mpr ⟨clashes_periodPayload, congrArg Scaffold.text (sameScaffold _)⟩
  exact ⟨_, composed, idleComposed, by decide,
    agrees_of_composed (by decide) (by decide) composed idleComposed⟩

end Payload

end ExpertAdvisor
