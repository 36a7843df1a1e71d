import ExpertAdvisor.Proofs.Advisor.EmbeddedSnippets
import ExpertAdvisor.Proofs.Command.Delivery
import ExpertAdvisor.Proofs.Command.Reconfiguration

namespace ExpertAdvisor.Command

/-!
# Sources of snippets

A generation takes its snippet from its configuration or from a snippet file.
Whichever it is, the payload that it writes down depends on the source of the
snippet in nothing but the snippet.  A configured snippet is taken as it was
loaded, and the text of a file with unified line ends.
-/

namespace GenerationRequest

variable {request : GenerationRequest} {config strategy record : Record}
  {surroundings others : Surroundings} {code snippet : String}

/-- A request asks for a strategy of the user's own. -/
def IsCustom (request : GenerationRequest) : Prop :=
  request.options.selectedKind? request.strategy = some .custom

/-- Another configuration gives the same for everything but the snippet. -/
structure DiffersInSnippet
    (request : GenerationRequest)
    (config strategy : Record) : Prop where
  fields : ∀ name ∈ Payload.fieldNames, name ≠ Field.logicConfig →
    configured request.config name = configured config name
  kind : configured strategy Field.kind = configured request.strategy Field.kind

/-- The one field of a custom strategy is its snippet. -/
theorem strategyFields_of_custom
    (isCustom : request.IsCustom)
    (surroundings : Surroundings) :
    request.strategyFields surroundings =
      (request.snippet surroundings).map fun snippet => [(Field.snippet, snippet)] := by
  have selected : request.kind.text?.bind StrategyKind.ofName? = some .custom := isCustom
  rw [strategyFields, selected]

/-- With another snippet, what a request for a custom strategy writes down differs in it alone. -/
theorem payload_of_snippet
    (isCustom : request.IsCustom)
    (written : request.payload surroundings = .ok record)
    (differs : request.DiffersInSnippet config strategy)
    (taken : (request.reconfigured config strategy).snippet others = .ok (.text snippet)) :
    (request.reconfigured config strategy).payload others = .ok (record.withSnippet snippet) := by
  have fields : ∀ name ∈ Payload.fieldNames, name ≠ Field.logicConfig →
      request.options.CountsAlike request.config config name :=
    fun name member notStrategy => .inr (differs.fields name member notStrategy)
  have sameKind : (request.reconfigured config strategy).kind = request.kind := by
    rw [kind, kind, options_reconfigured, strategy_reconfigured, differs.kind]
  have customToo : (request.reconfigured config strategy).IsCustom := by
    have selected : request.kind.text?.bind StrategyKind.ofName? = some .custom := isCustom
    rw [← sameKind] at selected
    exact selected
  rw [payload, strategyFields_of_custom isCustom] at written
  obtain ⟨risk, normalized, written⟩ := Outcome.bind_eq_ok_iff.mp written
  obtain ⟨_, strategyWritten, written⟩ := Outcome.bind_eq_ok_iff.mp written
  obtain ⟨old, _, rfl⟩ := Outcome.map_eq_ok_iff.mp strategyWritten
  obtain rfl := Except.ok.inj written
  rw [payload, strategyFields_of_custom customToo, taken, rawRisk_reconfigured fields,
    indicatorName_reconfigured fields, timeframe_reconfigured fields, sameKind]
  have sameSettings : (request.reconfigured config strategy).settings = request.settings := rfl
  rw [sameSettings, normalized]
  rfl

/-- A record that is written down for a custom strategy describes a payload of this kind. -/
theorem kind_of_written
    {payload : Payload}
    (isCustom : request.IsCustom)
    (written : request.payload surroundings = .ok record)
    (accepted : Payload.ofRecord record = .accepted payload) :
    payload.strategy.kind = .custom := by
  rw [GenerationRequest.payload, strategyFields_of_custom isCustom] at written
  obtain ⟨risk, _, written⟩ := Outcome.bind_eq_ok_iff.mp written
  obtain ⟨_, strategyWritten, written⟩ := Outcome.bind_eq_ok_iff.mp written
  obtain ⟨snippet, _, rfl⟩ := Outcome.map_eq_ok_iff.mp strategyWritten
  obtain rfl := Except.ok.inj written
  obtain ⟨key, fields, found, named⟩ := Payload.strategy_named_of_accepted accepted
  cases found
  have sameText : request.kind = .text payload.strategy.kind.name := Option.some.inj named
  have selected : Strategy.selectedKind? request.kind = some .custom := isCustom
  rw [sameText, Strategy.selectedKind?_eq_some_iff.mpr rfl] at selected
  exact Option.some.inj selected

/-- Requests that differ in the snippet alone are composed alike in front of the tick function. -/
theorem exists_front
    (isCustom : request.IsCustom)
    (written : request.payload surroundings = .ok record)
    (composed : request.compose record = .ok code) :
    ∃ front, ∀ {config strategy : Record} {others : Surroundings} {snippet : String},
      request.DiffersInSnippet config strategy →
      (request.reconfigured config strategy).snippet others = .ok (.text snippet) →
      ((request.reconfigured config strategy).payload others >>=
        (request.reconfigured config strategy).compose) = .ok (front ++ tickFunction snippet) := by
  obtain ⟨payload, accepted, ofPayload⟩ :=
    Composition.exists_payload_of_ofValue (Outcome.mapError_eq_ok_iff.mp composed)
  have composesCustom : record.ComposesCustom payload (some request.parameters) :=
    ⟨accepted, kind_of_written isCustom written accepted,
      (Payload.composeWith_eq_ok_iff.mp ofPayload).1⟩
  obtain ⟨front, composes⟩ := composesCustom.exists_front
  refine ⟨front, fun differs taken => ?_⟩
  rw [payload_of_snippet isCustom written differs taken, Outcome.ok_bind]
  exact Outcome.mapError_eq_ok_iff.mpr (composes _)

end GenerationRequest

/-! Generations that succeed. -/

section Generations

variable {workspace : Workspace} {settings : Settings}
  {standardInput replacement bytes : List UInt8} {words : List String}
  {logLevel source code : String} {options : GenerationOptions} {location : Location}

/-- What is to be saved can be written, whatever it is. -/
def Workspace.Admits
    (workspace : Workspace)
    (output : Option Path) : Prop :=
  ∀ path ∈ output, ∀ content, ∃ written, workspace.write path content = .ok written

end Generations

end ExpertAdvisor.Command
