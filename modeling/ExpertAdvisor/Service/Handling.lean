import ExpertAdvisor.Advisor.Composition
import ExpertAdvisor.Payload.Document
import ExpertAdvisor.Service.Body
import ExpertAdvisor.Service.Refusal
import ExpertAdvisor.Settings.Basic

namespace ExpertAdvisor.Service

/-!
# The two operations

One operation lists an indicator's parameters, the other generates an expert
advisor.  Both are made of the same steps, which may fail: the size check, the
extraction and the generation.  A conversion that fails is told to the client;
other failures of extraction and generation are told in general words only.
-/

/-- Why a step fails. -/
inductive StepFault where
  | tooLarge (length : Nat) (limit : Int)
  | conversion (failure : Failure)
  | unexpected (failure : Failure)
  deriving Repr, DecidableEq

/-- The words for a source that is too large. -/
def tooLargeMessage
    (length : Nat)
    (limit : Int) : String :=
  "Indicator source is " ++ Number.naturalText length ++ " characters; the limit is " ++
    Number.integerText limit ++ "."

/-- The steps that the operations are made of. -/
structure Steps where
  checkSize : String → Except StepFault Unit
  extract : String → Journaled (Except StepFault (List Parameter))
  generate : Payload → List Parameter → Journaled (Except StepFault String)

namespace Steps

/-- The steps as they are meant. -/
def standard (settings : Settings) : Steps where
  checkSize source :=
    if settings.sourceLimit < source.length then
      .error (.tooLarge source.length settings.sourceLimit)
    else
      .ok ()
  extract source := ⟨Indicator.journal source, .ok (Indicator.parameters source)⟩
  generate payload parameters :=
    match payload.composeWith parameters with
    | .ok code =>
        ⟨[Composition.entry (.text payload.indicatorName.text) (.text payload.strategy.kind.name)
          parameters.length code], .ok code⟩
    | .error fault => .silent (.error (.conversion ⟨fault.className, fault.message⟩))

end Steps

/-- How an operation ends: with a response, or with a failure that it does not foresee. -/
inductive Outcome where
  | answered (response : Response)
  | failed (failure : Failure)
  deriving DecidableEq, Repr

/-- A log entry of the operations. -/
def operationEntry
    (severity : Severity)
    (event : String)
    (fields : Record) : Entry :=
  ⟨severity, "api.converter", event, fields⟩

/-- A log entry of the service itself. -/
def serviceEntry
    (severity : Severity)
    (event : String)
    (fields : Record) : Entry :=
  ⟨severity, "ea_builder.main", event, fields⟩

/-- The end of an operation whose conversion fails. -/
def refuseConversion
    (path : String)
    (failure : Failure) : Journaled Outcome where
  entries := [serviceEntry .warning "conversion_failed"
    [("path", .text path), ("error", .text failure.message),
      ("exception_type", .text failure.className)]]
  result := .answered (conversionRefusal failure.message)

/-- The end of an operation that fails in general words. -/
def failToAct
    (action : String)
    (failure : Failure) : Journaled Outcome where
  entries := [operationEntry .error "converter_route_failed"
    [("action", .text action), ("error", .text failure.message),
      ("exception_type", .text failure.className)]]
  result := .answered (.detail 500 ("Failed to " ++ action))

/-- The end of an operation before its steps began in earnest. -/
def endEarly
    (path : String) :
    StepFault → Journaled Outcome
  | .tooLarge length limit => .silent (.answered (.detail 413 (tooLargeMessage length limit)))
  | .conversion failure => refuseConversion path failure
  | .unexpected failure => .silent (.failed failure)

/-- Lists an indicator's parameters. -/
def listInputs
    (steps : Steps)
    (path : String)
    (request : InputsRequest) : Journaled Outcome :=
  match steps.checkSize request.indicatorCode with
  | .error fault => endEarly path fault
  | .ok () =>
      (steps.extract request.indicatorCode).andThen fun extracted =>
        let action := "detect indicator inputs"
        match extracted with
        | .error (.conversion failure) => failToAct action failure
        | .error (.unexpected failure) => failToAct action failure
        | .error (.tooLarge length limit) => endEarly path (.tooLarge length limit)
        | .ok parameters =>
            { entries := [operationEntry .info "indicator_inputs_detected"
                [("count", .integer parameters.length)]]
              result := .answered
                (.json 200 ((InputsResponse.ofParameters parameters).toRecord .camel)) }

/-- The end of a generation for a fault in one of its steps. -/
def endGeneration
    (path : String) :
    StepFault → Journaled Outcome
  | .conversion failure => refuseConversion path failure
  | .unexpected failure => failToAct "generate expert advisor" failure
  | .tooLarge length limit => endEarly path (.tooLarge length limit)

/-- The body that delivers an expert advisor. -/
def delivery
    (payload : Payload)
    (parameters : List Parameter)
    (code : String) : GenerateResponse :=
  ⟨code, Advisor.fileName payload.indicatorName.text, parameters⟩

/-- Generates an expert advisor for a payload, with the parameters that its indicator has. -/
def generate
    (steps : Steps)
    (path : String)
    (payload : Payload) : Journaled Outcome :=
  match steps.checkSize payload.indicatorCode with
  | .error fault => endEarly path fault
  | .ok () =>
      .after [operationEntry .info "ea_generate_request"
        [("indicator", .text payload.indicatorName.text),
          ("logic_kind", .text payload.strategy.kind.name)]] <|
      (steps.extract payload.indicatorCode).andThen fun extracted =>
        match extracted with
        | .error fault => endGeneration path fault
        | .ok parameters =>
            (steps.generate payload parameters).andThen fun generated =>
              match generated with
              | .error fault => endGeneration path fault
              | .ok code =>
                  let delivered := delivery payload parameters code
                  .silent (.answered (.json 200 (delivered.toRecord .camel)))

/-- Refuses a request for its faults. -/
def refuse
    (method path : String)
    (faults : List Fault) : Journaled Outcome where
  entries := [serviceEntry .warning "request_validation_failed"
    [("path", .text path), ("method", .text method),
      ("error_count", .integer faults.length)]]
  result :=
    match refusal faults with
    | .ok response => .answered response
    | .error failure => .failed failure

/--
The outcome of an operation whose document holds halves of surrogate pairs.  The
operation reads stand-ins in their places; its outcome for the marked document
tells which characters of the response stand for halves.  No response that holds
one can be sent.
-/
def Outcome.withHalves (shown marked : Outcome) : Outcome :=
  match shown, marked with
  | .answered ⟨_, _, .json document⟩, .answered ⟨_, _, .json markedDocument⟩ =>
      let text := (Json.wire document).zipWith Text.CodePoint.ofStandIns
        (Json.wire markedDocument)
      if text.all Text.CodePoint.isCharacter then shown else .failed (Failure.unencodable text)
  | _, _ => shown

/-- Checks a request's body and goes on with what it means. -/
def withBody
    (nullBody : NullBody)
    (request : Request)
    (path : String)
    (check : Value → Checked α)
    (next : α → Journaled Outcome) : Journaled Outcome :=
  let body := Body.ofRequest request
  match body.check? nullBody check with
  | none => .silent (.answered undecodableResponse)
  | some (.refused fault more) => refuse request.method path (fault :: more)
  | some (.accepted content) =>
      let ended := next content
      match body.markedDocument?.map check with
      | some (.accepted marked) =>
          ⟨ended.entries, ended.result.withHalves (next marked).result⟩
      | _ => ended

end ExpertAdvisor.Service
