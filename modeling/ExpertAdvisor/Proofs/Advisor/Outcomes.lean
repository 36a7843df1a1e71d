import ExpertAdvisor.Advisor.Composition
import ExpertAdvisor.Proofs.Outcome

namespace ExpertAdvisor

open Advisor

/-!
# Outcomes of a composition

A payload is refused for one reason only, a carried parameter with a reserved
name.  A record is checked for the kind of its strategy first and validated
afterwards; the first check only settles which fault is reported, since a
strategy without a known kind is not valid either.
-/

namespace Parameter

/-- The clashes are the reserved names among those of the parameters. -/
theorem clashes_eq_filter (parameters : List Parameter) :
    clashes parameters =
      (parameters.map Parameter.name).filter fun name => name ∈ reservedNames := by
  rw [clashes, names]
  refine List.filter_congr fun name _ => ?_
  simp

/-- There are clashes exactly when some parameter's name is reserved. -/
theorem clashes_ne_nil_iff {parameters : List Parameter} :
    clashes parameters ≠ [] ↔ ∃ parameter ∈ parameters, parameter.name ∈ reservedNames := by
  rw [clashes_eq_filter, Ne, List.filter_eq_nil_iff]
  simp

end Parameter

namespace Payload

variable {payload : Payload} {parameters : List Parameter}

/-- A text is composed only where no carried parameter has a reserved name. -/
theorem composeWith_eq_ok_iff {code : String} :
    payload.composeWith parameters = .ok code ↔
      Parameter.clashes parameters = [] ∧ (payload.scaffold parameters).text = code := by
  rw [composeWith]
  cases Parameter.clashes parameters <;> simp

/-- A composition fails only for the reserved names among those of the carried parameters. -/
theorem composeWith_eq_error_iff {fault : CompositionFault} :
    payload.composeWith parameters = .error fault ↔
      Parameter.clashes parameters ≠ [] ∧
        fault = .reservedNames (Parameter.clashes parameters) := by
  rw [composeWith]
  cases Parameter.clashes parameters <;> simp [eq_comm]

end Payload

/-! What a document that was accepted must have. -/

namespace Checked

variable {checked : Checked α}

/-- What is accepted with further faults had none, and was accepted before. -/
theorem withFaults_eq_accepted_iff
    {further : List Fault}
    {value : α} :
    checked.withFaults further = .accepted value ↔ checked = .accepted value ∧ further = [] := by
  cases checked <;> cases further <;> simp [withFaults]

/-- A step on the way to a value does not decide whether it is accepted. -/
theorem under_eq_accepted_iff
    {step : Step}
    {value : α} :
    checked.under step = .accepted value ↔ checked = .accepted value := by
  cases checked <;> simp [under]

theorem map_eq_accepted_iff
    {change : α → β}
    {value : β} :
    checked.map change = .accepted value ↔
      ∃ part, checked = .accepted part ∧ change part = value := by
  cases checked <;> simp [map]

/-- What a model accepts is a record, and its fields are accepted. -/
theorem exists_record_of_model
    {model : String}
    {check : Record → Checked α}
    {document : Value}
    {value : α}
    (accepted : Checked.model model check document = .accepted value) :
    ∃ fields, document = .record fields ∧ check fields = .accepted value := by
  cases document with
  | record fields => exact ⟨fields, rfl, accepted⟩
  | _ => cases accepted

/-- What an open model accepts is a record, and its named fields are accepted. -/
theorem exists_fields_of_openModel
    {model : String}
    {check : Value → Record → Checked α}
    {document : Value}
    {content : α}
    (accepted : openModel model check document = .accepted content) :
    ∃ fields, document.namedFields? = some fields ∧ check document fields = .accepted content := by
  rw [openModel] at accepted
  split at accepted
  case h_1 fields isRecord => exact ⟨fields, isRecord, accepted⟩
  case h_2 => cases accepted

theorem andThen_eq_accepted_iff
    {next : α → Checked β}
    {value : β} :
    checked.andThen next = .accepted value ↔
      ∃ part, checked = .accepted part ∧ next part = .accepted value := by
  cases checked <;> simp [andThen]

end Checked

/-- A required field of an accepted document is there, and its value is accepted. -/
theorem FieldName.found?_of_required
    {document : Value}
    {name : FieldName}
    {check : Value → Checked α}
    {record : Record}
    {value : α}
    (accepted : requiredOf document name check record = .accepted value) :
    ∃ key given, name.found? record = some (key, given) ∧ check given = .accepted value := by
  rw [requiredOf] at accepted
  split at accepted
  case h_1 key given found =>
    exact ⟨key, given, found, Checked.under_eq_accepted_iff.mp accepted⟩
  case h_2 => exact absurd accepted nofun

namespace Strategy

/-- Only the text of its name selects a kind. -/
theorem selectedKind?_eq_some_iff
    {value : Value}
    {kind : StrategyKind} :
    selectedKind? value = some kind ↔ value = .text kind.name := by
  cases value with
  | text content =>
      rw [selectedKind?, Value.text?, Option.bind_some, StrategyKind.ofName?_eq_some_iff,
        Value.text.injEq, eq_comm]
  | _ => simp [selectedKind?, Value.text?]

/-- An accepted strategy is a record that names a known kind. -/
theorem exists_kind_of_accepted
    {value : Value}
    {strategy : Strategy}
    (accepted : ofValue value = .accepted strategy) :
    ∃ fields, ∃ kind : StrategyKind,
      value = .record fields ∧ Record.get? fields "kind" = some (.text kind.name) := by
  rw [ofValue] at accepted
  split at accepted
  case h_2 => cases accepted
  case h_1 fields isRecord =>
    split at accepted
    case h_1 => cases accepted
    case h_2 given found =>
      split at accepted
      case h_2 => cases accepted
      case h_1 kind selected =>
        -- A misnamed record is refused by the model of every kind.
        have ofKind := Checked.under_eq_accepted_iff.mp accepted
        obtain ⟨whole, rfl, _⟩ := Checked.exists_record_of_model ofKind
        cases isRecord
        exact ⟨fields, kind, rfl, by rw [found, selectedKind?_eq_some_iff.mp selected]⟩

end Strategy

/-- An accepted payload has a strategy that was accepted by itself. -/
theorem Payload.exists_strategy_of_accepted
    {record : Record}
    {payload : Payload}
    (accepted : Payload.ofRecord record = .accepted payload) :
    ∃ strategy, Field.logicConfig.required Strategy.ofValue record = .accepted strategy := by
  have fields := (Checked.withFaults_eq_accepted_iff.mp accepted).1
  obtain ⟨_, strategy, _, strategyAccepted, _⟩ := (Checked.and_eq_accepted_iff _ _ _).mp fields
  exact ⟨strategy, strategyAccepted⟩

namespace Composition

/-- The strategy that is looked up is the one that the validation finds. -/
theorem givenStrategy?_eq_found? (record : Record) :
    givenStrategy? record = (Field.logicConfig.found? record).map Prod.snd := by
  rw [givenStrategy?, FieldName.found?]
  cases Record.get? record Field.logicConfig.camel with
  | some value => rfl
  | none => cases Record.get? record Field.logicConfig.snake <;> rfl

/-- A record gives a strategy record that does not name a known kind. -/
def KindUnknown (record : Record) : Prop :=
  ∃ strategy, (givenStrategy? record).bind Value.namedFields? = some strategy ∧
    ¬ ∃ kind : StrategyKind, Record.get? strategy "kind" = some (.text kind.name)

/-- A strategy selects a kind exactly when it names one. -/
theorem isSome_selectedKind?_iff (strategy : Record) :
    (Strategy.selectedKind? ((Record.get? strategy "kind").getD .null)).isSome = true ↔
      ∃ kind : StrategyKind, Record.get? strategy "kind" = some (.text kind.name) := by
  rw [Option.isSome_iff_exists]
  simp only [Strategy.selectedKind?_eq_some_iff]
  cases Record.get? strategy "kind" <;> simp

/-- The check of the kind fails exactly where a strategy record names no known kind. -/
theorem checkKind_cases (record : Record) :
    (¬ KindUnknown record ∧ checkKind record = .ok ()) ∨
      (KindUnknown record ∧ ∃ given, checkKind record = .error (.unknownKind given)) := by
  rw [checkKind, KindUnknown]
  cases (givenStrategy? record).bind Value.namedFields? with
  | none => simp
  | some strategy =>
      have known := isSome_selectedKind?_iff strategy
      by_cases selected :
          ∃ kind : StrategyKind, Record.get? strategy "kind" = some (.text kind.name)
      · refine .inl ⟨?_, if_pos (known.mpr selected)⟩
        rintro ⟨other, same, unknown⟩
        cases same
        exact unknown selected
      · exact .inr ⟨⟨strategy, rfl, selected⟩, _, if_neg (mt known.mp selected)⟩

/-- A record that describes a payload gives a strategy of a known kind. -/
theorem not_kindUnknown_of_accepted
    {record : Record}
    {payload : Payload}
    (accepted : Payload.ofRecord record = .accepted payload) :
    ¬ KindUnknown record := by
  rintro ⟨unknown, given, noKind⟩
  obtain ⟨_, strategyAccepted⟩ := Payload.exists_strategy_of_accepted accepted
  obtain ⟨key, value, found, valueAccepted⟩ := FieldName.found?_of_required strategyAccepted
  obtain ⟨fields, kind, rfl, named⟩ := Strategy.exists_kind_of_accepted valueAccepted
  rw [givenStrategy?_eq_found?, found, Option.map_some] at given
  cases given
  exact noKind ⟨kind, named⟩

/-- A valid record is composed as its payload. -/
theorem ofValue_of_accepted
    {record : Record}
    {payload : Payload}
    (accepted : Payload.ofRecord record = .accepted payload)
    (given : Option (List Parameter)) :
    ofValue (.record record) given = payload.compose given := by
  rcases checkKind_cases record with ⟨_, passed⟩ | ⟨unknown, _⟩
  · have isPayload : payloadOf (.record record) = .ok payload := by
      simp only [payloadOf, Value.namedFields?, passed, Outcome.ok_bind, Payload.ofValue,
        Checked.model, accepted]
    rw [ofValue, isPayload, Outcome.ok_bind]
  · exact absurd unknown (not_kindUnknown_of_accepted accepted)

/--
A record that describes no payload is refused: for the kind of its strategy when
that is unknown, and otherwise for the faults that validation found.
-/
theorem ofValue_of_refused
    {record : Record}
    {fault : Fault}
    {more : List Fault}
    (refused : Payload.ofRecord record = .refused fault more)
    (given : Option (List Parameter)) :
    (KindUnknown record ∧ ∃ kind, ofValue (.record record) given = .error (.unknownKind kind)) ∨
      (¬ KindUnknown record ∧
        ofValue (.record record) given = .error (.invalidPayload fault more)) := by
  rcases checkKind_cases record with ⟨known, passed⟩ | ⟨unknown, kind, failed⟩
  · refine .inr ⟨known, ?_⟩
    have failed : payloadOf (.record record) = .error (.invalidPayload fault more) := by
      simp only [payloadOf, Value.namedFields?, passed, Outcome.ok_bind, Payload.ofValue,
        Checked.model, refused]
    rw [ofValue, failed, Outcome.error_bind]
  · refine .inl ⟨unknown, kind, ?_⟩
    have failed : payloadOf (.record record) = .error (.unknownKind kind) := by
      simp only [payloadOf, Value.namedFields?, failed, Outcome.error_bind]
    rw [ofValue, failed, Outcome.error_bind]

/-- A record that is composed describes a payload. -/
theorem exists_payload_of_ofValue
    {record : Record}
    {given : Option (List Parameter)}
    {code : String}
    (composed : ofValue (.record record) given = .ok code) :
    ∃ payload, Payload.ofRecord record = .accepted payload ∧ payload.compose given = .ok code := by
  cases checked : Payload.ofRecord record with
  | accepted payload =>
      rw [ofValue_of_accepted checked] at composed
      exact ⟨payload, rfl, composed⟩
  | refused fault more =>
      rcases ofValue_of_refused checked given with ⟨_, _, failed⟩ | ⟨_, failed⟩
      · rw [failed] at composed
        cases composed
      · rw [failed] at composed
        cases composed

/--
A record and the payload that it describes are composed with the same outcome.
A record that describes none is refused, and the fault is that of an unknown
kind exactly where the strategy, looked for under either spelling, is a record
that does not name one of the kinds.
-/
theorem ofValue_agrees_with_validation
    (record : Record)
    (given : Option (List Parameter)) :
    (∀ payload, Payload.ofRecord record = .accepted payload →
      ofValue (.record record) given = payload.compose given) ∧
    (∀ fault more, Payload.ofRecord record = .refused fault more →
      ∃ refusal, ofValue (.record record) given = .error refusal ∧
        (refusal.className = "ConversionError" ∨
          refusal.className = "UnknownLogicKindError") ∧
        (refusal.className = "UnknownLogicKindError" ↔
          ∃ strategy,
            ((Record.get? record "logicConfig").or (Record.get? record "logic_config")).bind
              Value.namedFields? = some strategy ∧
            ¬ ∃ kind : StrategyKind, Record.get? strategy "kind" = some (.text kind.name))) := by
  refine ⟨fun payload accepted => ofValue_of_accepted accepted given,
    fun fault more refused => ?_⟩
  rcases ofValue_of_refused refused given with ⟨unknown, kind, outcome⟩ | ⟨known, outcome⟩
  · exact ⟨_, outcome, .inr rfl, iff_of_true rfl unknown⟩
  · refine ⟨_, outcome, .inl rfl, iff_of_false ?_ known⟩
    simp [CompositionFault.className]

end Composition

end ExpertAdvisor
