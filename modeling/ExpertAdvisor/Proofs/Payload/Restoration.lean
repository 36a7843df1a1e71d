import ExpertAdvisor.Payload.Document
import ExpertAdvisor.Proofs.Payload.Acceptance

namespace ExpertAdvisor

/-!
# Restored documents

A document that was accepted, in whatever lenient form its values were given, is
written in a form that is accepted again under either spelling.  It is restored
as it was, except that the declared types of parameters are not written.
-/

namespace Scalar

/-- A filled text is not empty. -/
theorem ne_empty_of_filledText
    {value : Value}
    {content : String}
    (accepted : filledText value = .accepted content) :
    content ≠ "" := by
  obtain ⟨read, _, checked⟩ := Checked.andThen_eq_accepted_iff.mp accepted
  split at checked
  case isTrue => exact absurd checked nofun
  case isFalse notEmpty =>
    cases checked
    simpa using notEmpty

end Scalar

/-! Lists of items. -/

namespace Checked

/-- Items that are each accepted are accepted as a list, wherever the list stands. -/
theorem itemsFrom_map
    {check : Value → Checked α}
    {write : β → Value}
    {restore : β → α}
    {contents : List β}
    (restored : ∀ content ∈ contents, check (write content) = .accepted (restore content))
    (position : Nat) :
    itemsFrom check position (contents.map write) = .accepted (contents.map restore) := by
  induction contents generalizing position with
  | nil => rfl
  | cons content rest inductionHypothesis =>
      obtain ⟨contentRestored, restRestored⟩ := List.forall_mem_cons.mp restored
      rw [List.map_cons, itemsFrom, contentRestored, inductionHypothesis restRestored]
      rfl

/-- What an accepted list holds was accepted item by item. -/
theorem exists_of_mem_itemsFrom
    {check : Value → Checked α}
    {items : List Value}
    {contents : List α}
    {position : Nat}
    (accepted : itemsFrom check position items = .accepted contents) :
    ∀ content ∈ contents, ∃ item ∈ items, check item = .accepted content := by
  induction items generalizing position contents with
  | nil =>
      cases accepted
      exact List.forall_mem_nil _
  | cons item rest inductionHypothesis =>
      rw [itemsFrom] at accepted
      obtain ⟨_, restContents, changed, restAccepted, rfl⟩ :=
        (and_eq_accepted_iff _ _ _).mp accepted
      obtain ⟨first, itemAccepted, rfl⟩ := map_eq_accepted_iff.mp changed
      rw [under_eq_accepted_iff] at itemAccepted
      refine List.forall_mem_cons.mpr ⟨⟨item, List.mem_cons_self, itemAccepted⟩, ?_⟩
      intro content member
      obtain ⟨source, isItem, sourceAccepted⟩ := inductionHypothesis restAccepted content member
      exact ⟨source, List.mem_cons_of_mem item isItem, sourceAccepted⟩

end Checked

/-! Parameters. -/

namespace Parameter

/-- A parameter as it is written: without its declared type. -/
def untyped (parameter : Parameter) : Parameter :=
  { parameter with declaredType := none }

/-- A parameter is written without its declared type. -/
@[simp]
theorem toRecord_untyped
    (parameter : Parameter)
    (spelling : Spelling) :
    parameter.untyped.toRecord spelling = parameter.toRecord spelling := rfl

theorem listToValue_untyped
    (parameters : List Parameter)
    (spelling : Spelling) :
    listToValue spelling (parameters.map untyped) = listToValue spelling parameters := by
  rw [listToValue, listToValue, List.map_map]
  rfl

/-- An accepted parameter has a name. -/
theorem name_ne_empty_of_accepted
    {value : Value}
    {parameter : Parameter}
    (accepted : ofValue value = .accepted parameter) :
    parameter.name ≠ "" := by
  cases value with
  | record fields =>
      have checked := (Checked.withFaults_eq_accepted_iff.mp accepted).1
      simp only [Checked.and_eq_accepted_iff, Checked.map_eq_accepted_iff] at checked
      obtain ⟨_, _, ⟨_, _, ⟨name, nameAccepted, rfl⟩, _, rfl⟩, _, rfl⟩ := checked
      obtain ⟨_, _, _, filled⟩ := FieldName.found?_of_required nameAccepted
      exact Scalar.ne_empty_of_filledText filled
  | _ => exact absurd accepted nofun

/-- A parameter with a name is restored without its declared type. -/
theorem ofValue_toValue
    {parameter : Parameter}
    (named : parameter.name ≠ "")
    (spelling : Spelling) :
    ofValue (parameter.toValue spelling) = .accepted parameter.untyped := by
  have name : Field.name.required Scalar.filledText (parameter.toRecord spelling) =
      .accepted parameter.name := by
    cases spelling <;>
      exact (FieldName.required_eq_accepted_iff rfl).mpr (Scalar.filledText_of_ne named)
  rw [toValue, ofValue, Checked.model, ofRecord, name]
  cases spelling <;> rfl

/-- A written list of parameters is restored item by item. -/
theorem items_listToValue
    {parameters : List Parameter}
    (named : ∀ parameter ∈ parameters, parameter.name ≠ "")
    (spelling : Spelling) :
    Scalar.items ofValue (listToValue spelling parameters) =
      .accepted (parameters.map untyped) :=
  Checked.itemsFrom_map
    (fun parameter member => ofValue_toValue (named parameter member) spelling) 0

/-- A field that holds a written list of parameters is restored. -/
theorem required_listToValue
    {document : Value}
    {record : Record}
    {key : String}
    {parameters : List Parameter}
    {spelling : Spelling}
    (found : Field.parameters.found? record = some (key, listToValue spelling parameters))
    (named : ∀ parameter ∈ parameters, parameter.name ≠ "") :
    FieldName.requiredOf document Field.parameters (Scalar.items ofValue) record =
      .accepted (parameters.map untyped) :=
  (FieldName.required_eq_accepted_iff found).mpr (items_listToValue named spelling)

/-- Accepted parameters have names. -/
theorem names_ne_empty_of_required
    {document : Value}
    {record : Record}
    {parameters : List Parameter}
    (accepted : FieldName.requiredOf document Field.parameters (Scalar.items ofValue) record =
      .accepted parameters) :
    ∀ parameter ∈ parameters, parameter.name ≠ "" := by
  obtain ⟨_, value, _, listed⟩ := FieldName.found?_of_required accepted
  cases value with
  | list items =>
      intro parameter member
      obtain ⟨item, _, itemAccepted⟩ := Checked.exists_of_mem_itemsFrom listed parameter member
      exact name_ne_empty_of_accepted itemAccepted
  | _ => exact absurd listed nofun

end Parameter

/-! Requests and responses. -/

/-- A request that is written down is accepted again. -/
theorem InputsRequest.ofValue_toRecord
    (request : InputsRequest)
    (spelling : Spelling) :
    ofValue (.record (request.toRecord spelling)) = .accepted request := by
  cases spelling <;> rfl

/-- A response as it is written: its parameters have no declared types. -/
def InputsResponse.untyped (response : InputsResponse) : InputsResponse :=
  { response with parameters := response.parameters.map Parameter.untyped }

/-- The fields of an accepted response are accepted again as they are written. -/
theorem InputsResponse.ofFields_toRecord
    {document : Value}
    {record : Record}
    {response : InputsResponse}
    (accepted : ofFields document record = .accepted response)
    (other : Value)
    (spelling : Spelling) :
    ofFields other (response.toRecord spelling) = .accepted response.untyped := by
  simp only [ofFields, Checked.and_eq_accepted_iff, Checked.map_eq_accepted_iff] at accepted
  obtain ⟨_, _, ⟨parameters, listed, rfl⟩, _, rfl⟩ := accepted
  have named := Parameter.names_ne_empty_of_required listed
  cases spelling with
  | camel =>
      rw [ofFields, Parameter.required_listToValue rfl named]
      rfl
  | snake =>
      rw [ofFields, Parameter.required_listToValue rfl named]
      rfl

/-- A response as it is written: its parameters have no declared types. -/
def GenerateResponse.untyped (response : GenerateResponse) : GenerateResponse :=
  { response with parameters := response.parameters.map Parameter.untyped }

/-- The fields of an accepted response are accepted again as they are written. -/
theorem GenerateResponse.ofFields_toRecord
    {document : Value}
    {record : Record}
    {response : GenerateResponse}
    (accepted : ofFields document record = .accepted response)
    (other : Value)
    (spelling : Spelling) :
    ofFields other (response.toRecord spelling) = .accepted response.untyped := by
  simp only [ofFields, Checked.and_eq_accepted_iff, Checked.map_eq_accepted_iff] at accepted
  obtain ⟨_, parameters, ⟨_, _, ⟨_, _, rfl⟩, _, rfl⟩, listed, rfl⟩ := accepted
  have named := Parameter.names_ne_empty_of_required listed
  cases spelling with
  | camel =>
      rw [ofFields, Parameter.required_listToValue rfl named]
      rfl
  | snake =>
      rw [ofFields, Parameter.required_listToValue rfl named]
      rfl

/-! Documents of every model. -/

/-- A strategy that is accepted as one of a kind is of that kind. -/
theorem Strategy.kind_of_accepted
    {kind : StrategyKind}
    {value : Value}
    {strategy : Strategy}
    (accepted : ofValueOfKind kind value = .accepted strategy) :
    strategy.kind = kind := by
  cases value with
  | record fields =>
      cases kind <;> obtain ⟨_, _, rfl⟩ := Checked.map_eq_accepted_iff.mp accepted <;> rfl
  | _ => exact absurd accepted nofun

namespace Document

/-- A document as it is written: parameters in it have no declared types. -/
def untyped : Document → Document
  | .parameter content => .parameter content.untyped
  | .inputsResponse content => .inputsResponse content.untyped
  | .generateResponse content => .generateResponse content.untyped
  | document => document

/-- Nothing that is written of a document depends on declared types. -/
theorem toRecord_untyped
    (document : Document)
    (spelling : Spelling) :
    document.untyped.toRecord spelling = document.toRecord spelling := by
  cases document with
  | inputsResponse content =>
      simp only [untyped, toRecord, InputsResponse.toRecord, InputsResponse.untyped,
        Parameter.listToValue_untyped]
  | generateResponse content =>
      simp only [untyped, toRecord, GenerateResponse.toRecord, GenerateResponse.untyped,
        Parameter.listToValue_untyped]
  | _ => rfl

/-- An accepted document is accepted again as it is written. -/
theorem ofValue_toRecord
    {model : Model}
    {value : Value}
    {document : Document}
    (accepted : ofValue model value = .accepted document)
    (spelling : Spelling) :
    ofValue model (.record (document.toRecord spelling)) = .accepted document.untyped := by
  cases model with
  | parameter =>
      obtain ⟨parameter, parameterAccepted, rfl⟩ := Checked.map_eq_accepted_iff.mp accepted
      have named := Parameter.name_ne_empty_of_accepted parameterAccepted
      exact Checked.map_eq_accepted_iff.mpr
        ⟨parameter.untyped, Parameter.ofValue_toValue named spelling, rfl⟩
  | strategy kind =>
      obtain ⟨strategy, strategyAccepted, rfl⟩ := Checked.map_eq_accepted_iff.mp accepted
      obtain rfl := Strategy.kind_of_accepted strategyAccepted
      exact Checked.map_eq_accepted_iff.mpr
        ⟨strategy, strategy.ofRecord_toRecord spelling, rfl⟩
  | payload =>
      obtain ⟨payload, _, rfl⟩ := Checked.map_eq_accepted_iff.mp accepted
      exact Checked.map_eq_accepted_iff.mpr ⟨payload, payload.ofRecord_toRecord spelling, rfl⟩
  | inputsRequest =>
      obtain ⟨request, _, rfl⟩ := Checked.map_eq_accepted_iff.mp accepted
      exact Checked.map_eq_accepted_iff.mpr
        ⟨request, InputsRequest.ofValue_toRecord request spelling, rfl⟩
  | inputsResponse =>
      obtain ⟨response, responseAccepted, rfl⟩ := Checked.map_eq_accepted_iff.mp accepted
      obtain ⟨fields, _, fieldsAccepted⟩ := Checked.exists_fields_of_openModel responseAccepted
      exact Checked.map_eq_accepted_iff.mpr
        ⟨response.untyped, InputsResponse.ofFields_toRecord fieldsAccepted _ spelling, rfl⟩
  | generateResponse =>
      obtain ⟨response, responseAccepted, rfl⟩ := Checked.map_eq_accepted_iff.mp accepted
      obtain ⟨fields, _, fieldsAccepted⟩ := Checked.exists_fields_of_openModel responseAccepted
      exact Checked.map_eq_accepted_iff.mpr
        ⟨response.untyped, GenerateResponse.ofFields_toRecord fieldsAccepted _ spelling, rfl⟩

/--
An accepted document is accepted again as it is written under either spelling,
and writing it once more gives the same record.  It is restored as it was, or,
where parameters belong to it, as it was without their declared types.
-/
theorem restored_of_accepted
    {model : Model}
    {value : Value}
    {document : Document}
    (accepted : ofValue model value = .accepted document) :
    (∀ spelling, ofValue model (.record (document.toRecord spelling)) =
      .accepted document.untyped) ∧
    (∀ spelling other,
      (ofValue model (.record (document.toRecord spelling))).map (toRecord other) =
        .accepted (document.toRecord other)) ∧
    (model ∉ [.parameter, .inputsResponse, .generateResponse] →
      document.untyped = document) := by
  refine ⟨fun spelling => ofValue_toRecord accepted spelling, ?_, ?_⟩
  · intro spelling other
    rw [ofValue_toRecord accepted spelling, Checked.map, toRecord_untyped]
  · intro noParameters
    cases model with
    | strategy kind =>
        obtain ⟨strategy, _, rfl⟩ := Checked.map_eq_accepted_iff.mp accepted
        rfl
    | payload =>
        obtain ⟨payload, _, rfl⟩ := Checked.map_eq_accepted_iff.mp accepted
        rfl
    | inputsRequest =>
        obtain ⟨request, _, rfl⟩ := Checked.map_eq_accepted_iff.mp accepted
        rfl
    | _ => exact absurd (by decide) noParameters

/-- A payload whose values are given as texts, bytes and flags. -/
def lenientFields : Record :=
  [("indicator_name", .bytes [82, 83, 73]),
    ("lots", .text " .1 "),
    ("slippage", .boolean true),
    ("stopLoss", .text "+1_000.0"),
    ("logic_config", .record
      [("kind", .text "threshold"), ("upper", .bytes [49, 101, 45, 49]), ("lower", .null),
        ("direction", .bytes [98, 97, 110, 100]), ("allowMultiplePositions", .text "Yes")])]

/-- The payload that the lenient fields describe. -/
def lenientPayload : Payload where
  indicatorName := ⟨"RSI", .refl false, .refl true⟩
  indicatorCode := ""
  timeframe := Payload.chartTimeframe
  lots := Payload.tenthOfLot
  slippage := 1
  stopLoss := 1000
  takeProfit := 0
  magicNumber := Payload.standardMagicNumber
  strategy := .threshold ⟨0, some Payload.tenthOfLot.val, none, .band, true⟩

/-- A payload that was given leniently is restored from its written form. -/
theorem restored_of_accepted_lenientPayload :
    ofValue .payload (.record lenientFields) = .accepted (.payload lenientPayload) ∧
      ∀ spelling, ofValue .payload (.record (lenientPayload.toRecord spelling)) =
        .accepted (.payload lenientPayload) := by
  have accepted :
      ofValue .payload (.record lenientFields) = .accepted (.payload lenientPayload) := by
    decide +kernel
  exact ⟨accepted, (restored_of_accepted accepted).1⟩

end Document

end ExpertAdvisor
