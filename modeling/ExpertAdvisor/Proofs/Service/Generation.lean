import ExpertAdvisor.Proofs.Advisor.PassedArguments
import ExpertAdvisor.Proofs.Service.Refusals

namespace ExpertAdvisor.Service

open Indicator Advisor

/-!
# Answers to valid bodies

A body that is a payload is answered in one of three ways: its indicator is too
large, or it declares a reserved name, or an expert advisor is delivered.  What
is delivered lists the same parameters as the other operation lists for the
indicator.
-/

/-- A document that its model accepts goes on to the operation. -/
theorem withBody_of_accepted
    {request : Request}
    {document : Value}
    {fields : Record}
    {check : Value → Checked α}
    {content : α}
    (isDocument : Body.ofRequest request = .document document)
    (isRecord : document.namedFields? = some fields)
    (accepted : check document = .accepted content)
    (nullBody : NullBody)
    (path : String)
    (next : α → Journaled Outcome) :
    withBody nullBody request path check next = next content := by
  have checked : Body.checkDocument nullBody check document = .accepted content := by
    cases document with
    | record fields => exact Checked.under_eq_accepted_iff.mpr accepted
    | misnamed names values => exact Checked.under_eq_accepted_iff.mpr accepted
    | _ => cases isRecord
  rw [withBody, isDocument, Body.check?, checked]
  rfl

/-- The settings' limit is below the length of the source. -/
def TooLarge (settings : Settings) (source : String) : Prop :=
  settings.sourceLimit < source.length

/-- The answer to a source that is too large. -/
def tooLargeContent (settings : Settings) (source : String) : Content :=
  .json (.record [("detail", .text (tooLargeMessage source.length settings.sourceLimit))])

/-- The answer to an indicator that declares reserved names. -/
def clashContent (names : List String) : Content :=
  .json (.record
    [("status", .text "error"),
      ("detail", .text (CompositionFault.reservedNames names).message),
      ("code", .text "// Conversion failed. Check the console for details.")])

/-- The answer that delivers an expert advisor. -/
def deliveryContent (payload : Payload) (code : String) : Content :=
  .json (.record
    [("code", .text code),
      ("filename", .text (fileName payload.indicatorName.text)),
      ("parameters", Parameter.listToValue .camel (parameters payload.indicatorCode))])

/-- The answer that lists the parameters of an indicator. -/
def listingContent (source : String) : Content :=
  .json (.record
    [("parameters", Parameter.listToValue .camel (parameters source)),
      ("count", .integer (parameters source).length)])

/-- A source that is not too large is answered with its parameters. -/
theorem listInputs_of_fitting
    {settings : Settings}
    {source : String}
    (fits : ¬ TooLarge settings source)
    (path : String) :
    (listInputs (.standard settings) path ⟨source⟩).result.response =
      ⟨200, [], listingContent source⟩ := by
  have size : (Steps.standard settings).checkSize source = .ok () := if_neg fits
  rw [listInputs, size]
  rfl

/-- A generation whose source is not too large ends as its last step does. -/
theorem generate_of_fitting
    (steps : Steps)
    {payload : Payload}
    {extracted : List Parameter}
    (size : steps.checkSize payload.indicatorCode = .ok ())
    (found : (steps.extract payload.indicatorCode).result = .ok extracted)
    (path : String) :
    (generate steps path payload).result.response =
      match (steps.generate payload extracted).result with
      | .ok code => .json 200 ((delivery payload extracted code).toRecord .camel)
      | .error fault => (endGeneration path fault).result.response := by
  rw [generate, size]
  simp only [Journaled.after, Journaled.andThen, found]
  cases (steps.generate payload extracted).result <;> rfl

/-- The three ends of a generation. -/
theorem generate_cases
    (settings : Settings)
    (path : String)
    (payload : Payload) :
    let response := (generate (.standard settings) path payload).result.response
    let clashes := Parameter.clashes (parameters payload.indicatorCode)
    (TooLarge settings payload.indicatorCode ∧
        response = ⟨413, [], tooLargeContent settings payload.indicatorCode⟩) ∨
      (¬ TooLarge settings payload.indicatorCode ∧ clashes ≠ [] ∧
        response = ⟨422, [], clashContent clashes⟩) ∨
      (¬ TooLarge settings payload.indicatorCode ∧ clashes = [] ∧
        ∃ code, payload.compose none = .ok code ∧
          response = ⟨200, [], deliveryContent payload code⟩) := by
  intro response clashes
  by_cases tooLarge : TooLarge settings payload.indicatorCode
  · have size : (Steps.standard settings).checkSize payload.indicatorCode =
        .error (.tooLarge payload.indicatorCode.length settings.sourceLimit) := if_pos tooLarge
    refine .inl ⟨tooLarge, ?_⟩
    simp only [response, generate, size]
    rfl
  · have size : (Steps.standard settings).checkSize payload.indicatorCode = .ok () :=
      if_neg tooLarge
    have ended := generate_of_fitting (.standard settings) size rfl path
    by_cases noClashes : clashes = []
    · have composed : payload.composeWith (parameters payload.indicatorCode) = _ :=
        Payload.composeWith_eq_ok_iff.mpr ⟨noClashes, rfl⟩
      refine .inr (.inr ⟨tooLarge, noClashes, _, composed, ended.trans ?_⟩)
      simp only [Steps.standard, composed]
      rfl
    · have clashing : payload.composeWith (parameters payload.indicatorCode) = _ :=
        Payload.composeWith_eq_error_iff.mpr ⟨noClashes, rfl⟩
      refine .inr (.inl ⟨tooLarge, noClashes, ended.trans ?_⟩)
      simp only [Steps.standard, clashing]
      rfl

/-! Requests with bodies that are accepted. -/

/-- A request for an expert advisor whose body is a payload. -/
structure AsksForAdvisor (request : Request) (payload : Payload) : Prop where
  posted : request.method = "POST"
  path : request.path = "/api/converter/generate"
  body : ∃ document, Body.ofRequest request = .document document ∧
    Payload.ofValue document = .accepted payload

/-- A request for an indicator's parameters whose body holds the indicator. -/
structure AsksForInputs (request : Request) (source : String) : Prop where
  posted : request.method = "POST"
  path : request.path = "/api/converter/inputs"
  body : ∃ document, Body.ofRequest request = .document document ∧
    InputsRequest.ofValue document = .accepted ⟨source⟩

/-- A request for an expert advisor is answered like the end of its generation. -/
theorem AsksForAdvisor.answersLike
    {request : Request}
    {payload : Payload}
    (asks : AsksForAdvisor request payload)
    (service : Application) :
    (service.run request).result.AnswersLike
      (generate service.steps request.path payload).result.response := by
  obtain ⟨document, isDocument, accepted⟩ := asks.body
  obtain ⟨fields, rfl, _⟩ := Checked.exists_record_of_model accepted
  have found := service.endpointAt?_generate
  rw [← asks.path] at found
  have answered := Application.run_answersLike_perform asks.posted found rfl
  rwa [Application.perform, withBody_of_accepted isDocument rfl accepted] at answered

/-- A request for parameters is answered like the end of its listing. -/
theorem AsksForInputs.answersLike
    {request : Request}
    {source : String}
    (asks : AsksForInputs request source)
    (service : Application) :
    (service.run request).result.AnswersLike
      (listInputs service.steps request.path ⟨source⟩).result.response := by
  obtain ⟨document, isDocument, accepted⟩ := asks.body
  obtain ⟨fields, isRecord, _⟩ := Checked.exists_fields_of_openModel accepted
  have found := service.endpointAt?_inputs
  rw [← asks.path] at found
  have answered := Application.run_answersLike_perform asks.posted found rfl
  rwa [Application.perform, withBody_of_accepted isDocument isRecord accepted] at answered

/--
The answer to a payload is of three kinds, told by its status, and no other.  A
source above the limit is refused for its length; else an indicator with a
reserved name is refused for its names, with a placeholder in place of code;
else the composed expert advisor is delivered.  The parameters delivered with it
are those that are listed for the indicator, and the expert advisor declares and
passes them in this order.
-/
theorem answer_to_payload
    (settings : Settings)
    (file : VersionFile)
    {request : Request}
    {payload : Payload}
    (asks : AsksForAdvisor request payload) :
    let service := (Application.create settings file (.standard settings)).result
    let answer := (service.run request).result
    let source := payload.indicatorCode
    (answer.status = 413 ∨ answer.status = 422 ∨ answer.status = 200) ∧
      (answer.status = 413 ↔ TooLarge settings source) ∧
      (answer.status = 422 ↔ ¬ TooLarge settings source ∧
        ∃ parameter ∈ parameters source, parameter.name ∈ reservedNames) ∧
      (answer.status = 200 ↔ ¬ TooLarge settings source ∧
        ¬ ∃ parameter ∈ parameters source, parameter.name ∈ reservedNames) ∧
      (answer.status = 413 → answer.content = tooLargeContent settings source) ∧
      (answer.status = 422 →
        answer.content = clashContent (Parameter.clashes (parameters source))) ∧
      (answer.status = 200 → ∃ code, payload.compose none = .ok code ∧
        answer.content = deliveryContent payload code ∧
        Declares code (parameters source) ∧
        Passes code payload.timeframe.text
          ("IndicatorName" :: (Parameter.names (parameters source) ++
            [bufferArgument, shiftArgument])) ∧
        ∀ asking, AsksForInputs asking source →
          (service.run asking).result.status = 200 ∧
            (service.run asking).result.content = listingContent source) := by
  intro service answer source
  have answered := asks.answersLike service
  rw [← Parameter.clashes_ne_nil_iff]
  rcases generate_cases settings request.path payload with
    ⟨tooLarge, ended⟩ | ⟨fits, clashing, ended⟩ | ⟨fits, noClashes, code, composed, ended⟩
  · have status : answer.status = 413 := answered.status.trans (congrArg Response.status ended)
    have content : answer.content = tooLargeContent settings source :=
      answered.content.trans (congrArg Response.content ended)
    simp [status, content, tooLarge, source]
  · have status : answer.status = 422 := answered.status.trans (congrArg Response.status ended)
    have content : answer.content = clashContent (Parameter.clashes (parameters source)) :=
      answered.content.trans (congrArg Response.content ended)
    simp [status, content, fits, clashing, source]
  · have status : answer.status = 200 := answered.status.trans (congrArg Response.status ended)
    have content : answer.content = deliveryContent payload code :=
      answered.content.trans (congrArg Response.content ended)
    have listed (asking : Request) (asksToo : AsksForInputs asking source) :
        (service.run asking).result.status = 200 ∧
          (service.run asking).result.content = listingContent source := by
      have listing := asksToo.answersLike service
      have listed := listInputs_of_fitting fits asking.path
      exact ⟨listing.status.trans (congrArg Response.status listed),
        listing.content.trans (congrArg Response.content listed)⟩
    simp only [status, fits, noClashes, source]
    refine ⟨by decide, by decide, by decide, by decide, nofun, nofun, fun _ => ?_⟩
    exact ⟨code, composed, content, Payload.declares_of_composed composed,
      Payload.passes_of_composed composed, listed⟩

/-! A request for the expert advisor of the period's indicator. -/

/-- The payload for the period's indicator as JSON, without the fields that keep their defaults. -/
def periodBody : String :=
  "\x7b\"indicatorName\": \"RSI\", \"indicatorCode\": \"input int Period = 14;\\n\", " ++
  "\"stopLoss\": 50, \"logicConfig\": \x7b\"kind\": \"threshold\", \"upper\": 0.1\x7d\x7d"

/-- The request that posts this payload. -/
def periodRequest : Request :=
  ⟨"POST", "/api/converter/generate", none, [], Text.encodeText periodBody⟩

/-- The period's request asks for its payload. -/
theorem asksForAdvisor_periodRequest : AsksForAdvisor periodRequest periodPayload where
  posted := rfl
  path := rfl
  body := by
    refine ⟨.record
      [("indicatorName", .text "RSI"), ("indicatorCode", .text periodSource),
        ("stopLoss", .integer 50),
        ("logicConfig", .record
          [("kind", .text "threshold"), ("upper", Payload.tenthOfLot.val.toValue)])], ?_, ?_⟩
    · decide +kernel
    · decide +kernel

/-- The period's request is answered with what its payload composes. -/
theorem answer_to_payload_period :
    ∃ code, periodPayload.compose none = .ok code ∧
      (standardApplication.run periodRequest).result.status = 200 ∧
      (standardApplication.run periodRequest).result.content =
        deliveryContent periodPayload code := by
  have carried : parameters periodPayload.indicatorCode = _ := parameters_periodSource
  have answer := answer_to_payload .standard .shipped asksForAdvisor_periodRequest
  have fits : ¬ TooLarge .standard periodPayload.indicatorCode := by
    rw [TooLarge]
    decide +kernel
  have noneReserved : ¬ ∃ parameter ∈ parameters periodPayload.indicatorCode,
      parameter.name ∈ reservedNames := by
    rw [carried]
    decide
  obtain ⟨_, _, _, delivers, _, _, delivered⟩ := answer
  have status := delivers.mpr ⟨fits, noneReserved⟩
  obtain ⟨code, composed, content, _⟩ := delivered status
  exact ⟨code, composed, status, content⟩

end ExpertAdvisor.Service
