import ExpertAdvisor.Payload.Dump
import ExpertAdvisor.Payload.Validation

namespace ExpertAdvisor

/-!
# Documents

Payloads, their parts, and the bodies of requests and responses are documents.
Each can be validated and written again.  Payloads and their parts never change
once validated; the bodies let any of their fields be set without a check.
-/

/-- The body that asks for an indicator's parameters. -/
structure InputsRequest where
  indicatorCode : String
  deriving Repr, DecidableEq

/-- The body that lists an indicator's parameters. -/
structure InputsResponse where
  parameters : List Parameter
  count : Int
  deriving Repr, DecidableEq

/-- The body that delivers an expert advisor. -/
structure GenerateResponse where
  code : String
  filename : String
  parameters : List Parameter
  deriving Repr, DecidableEq

namespace InputsRequest

/-- Checks the fields of a document that is a request; other keys are ignored. -/
def ofFields
    (document : Value)
    (record : Record) : Checked InputsRequest :=
  (Field.indicatorCode.requiredOf document Scalar.text record).map InputsRequest.mk

/-- Checks a document that must be a request. -/
def ofValue (value : Value) : Checked InputsRequest :=
  Checked.openModel "InputsRequest" ofFields value

/-- The record of a request. -/
def toRecord
    (spelling : Spelling)
    (request : InputsRequest) : Record :=
  FieldName.write spelling [(Field.indicatorCode, .text request.indicatorCode)]

end InputsRequest

namespace InputsResponse

/-- The response that lists parameters and counts them. -/
def ofParameters (parameters : List Parameter) : InputsResponse :=
  ⟨parameters, parameters.length⟩

/-- Checks the fields of a document that is a response; other keys are ignored. -/
def ofFields
    (document : Value)
    (record : Record) : Checked InputsResponse :=
  (Field.parameters.requiredOf document (Scalar.items Parameter.ofValue) record).map
      InputsResponse.mk
    |>.and (Field.count.requiredOf document Scalar.integer record)

/-- The record of a response. -/
def toRecord
    (spelling : Spelling)
    (response : InputsResponse) : Record :=
  FieldName.write spelling
    [(Field.parameters, Parameter.listToValue spelling response.parameters),
      (Field.count, .integer response.count)]

end InputsResponse

namespace GenerateResponse

/-- Checks the fields of a document that is a response; other keys are ignored. -/
def ofFields
    (document : Value)
    (record : Record) : Checked GenerateResponse :=
  (Field.code.requiredOf document Scalar.text record).map GenerateResponse.mk
    |>.and (Field.filename.requiredOf document Scalar.text record)
    |>.and (Field.parameters.requiredOf document (Scalar.items Parameter.ofValue) record)

/-- The record of a response. -/
def toRecord
    (spelling : Spelling)
    (response : GenerateResponse) : Record :=
  FieldName.write spelling
    [(Field.code, .text response.code),
      (Field.filename, .text response.filename),
      (Field.parameters, Parameter.listToValue spelling response.parameters)]

end GenerateResponse

/-- The models that a document can be validated against. -/
inductive Model where
  | parameter
  | strategy (kind : StrategyKind)
  | payload
  | inputsRequest
  | inputsResponse
  | generateResponse
  deriving Repr, DecidableEq

namespace Model

/-- The name of a model in reports of faults. -/
def name : Model → String
  | .parameter => "IndicatorParameter"
  | .strategy kind => Strategy.modelName kind
  | .payload => Payload.modelName
  | .inputsRequest => "InputsRequest"
  | .inputsResponse => "InputsResponse"
  | .generateResponse => "GenerateResponse"

/-- Every model. -/
def all : List Model :=
  [.parameter, .strategy .crossover, .strategy .threshold, .strategy .custom, .payload,
    .inputsRequest, .inputsResponse, .generateResponse]

/-- The model with a name. -/
def ofName? (name : String) : Option Model :=
  all.find? fun model => model.name == name

end Model

/-- A validated document. -/
inductive Document where
  | parameter (content : Parameter)
  | strategy (content : Strategy)
  | payload (content : Payload)
  | inputsRequest (content : InputsRequest)
  | inputsResponse (content : InputsResponse)
  | generateResponse (content : GenerateResponse)
  deriving Repr, DecidableEq

/-- What refuses a change of a document. -/
inductive AssignmentFault where
  | frozen (fault : Fault)
  | noField (model field : String)
  deriving DecidableEq, Repr

/-- Why a model has no such field. -/
def AssignmentFault.noFieldMessage (model field : String) : String :=
  "\"" ++ model ++ "\" object has no field \"" ++ field ++ "\""

namespace Document

/-- Checks a value as a document of a model. -/
def ofValue
    (model : Model)
    (value : Value) : Checked Document :=
  match model with
  | .parameter => (Parameter.ofValue value).map .parameter
  | .strategy kind => (Strategy.ofValueOfKind kind value).map .strategy
  | .payload => (Payload.ofValue value).map .payload
  | .inputsRequest => (InputsRequest.ofValue value).map .inputsRequest
  | .inputsResponse =>
      (Checked.openModel model.name InputsResponse.ofFields value).map .inputsResponse
  | .generateResponse =>
      (Checked.openModel model.name GenerateResponse.ofFields value).map .generateResponse

/-- A document as a record under a spelling. -/
def toRecord
    (spelling : Spelling) :
    Document → Record
  | .parameter content => content.toRecord spelling
  | .strategy content => content.toRecord spelling
  | .payload content => content.toRecord spelling
  | .inputsRequest content => content.toRecord spelling
  | .inputsResponse content => content.toRecord spelling
  | .generateResponse content => content.toRecord spelling

/-- The model of a document. -/
def model : Document → Model
  | .parameter _ => .parameter
  | .strategy content => .strategy content.kind
  | .payload _ => .payload
  | .inputsRequest _ => .inputsRequest
  | .inputsResponse _ => .inputsResponse
  | .generateResponse _ => .generateResponse

/-- Whether a document refuses every change; requests and responses do not. -/
def isFrozen : Document → Bool
  | .parameter _ | .strategy _ | .payload _ => true
  | .inputsRequest _ | .inputsResponse _ | .generateResponse _ => false

/-- The document's record in snake case after one field has been given any value. -/
def assign
    (document : Document)
    (field : String)
    (value : Value) : Except AssignmentFault Record :=
  let record := document.toRecord .snake
  if document.isFrozen then
    .error (.frozen ⟨[.key field], .frozen, value⟩)
  else if Record.has record field then
    .ok (Record.insert record field value)
  else
    .error (.noField document.model.name field)

end Document

end ExpertAdvisor
