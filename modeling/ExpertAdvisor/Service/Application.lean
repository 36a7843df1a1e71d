import ExpertAdvisor.Release
import ExpertAdvisor.Service.Address
import ExpertAdvisor.Service.Handling
import ExpertAdvisor.Service.Origin

namespace ExpertAdvisor.Service

/-!
# The service

The service is made from its settings and its release.  It answers requests on
its endpoints; outside production these include its own description.
-/

/-- What an endpoint does. -/
inductive Operation where
  | listInputs
  | generate
  | greet
  | tellHealth
  | describe
  | showPage
  deriving Repr, DecidableEq

/-- A path with the methods that it answers to. -/
structure Endpoint where
  path : String
  methods : List String
  operation : Operation
  deriving Repr, DecidableEq

/-- The endpoints on which a service describes itself. -/
def descriptionEndpoints : List Endpoint :=
  [⟨"/openapi.json", ["GET", "HEAD"], .describe⟩,
    ⟨"/docs", ["GET", "HEAD"], .showPage⟩,
    ⟨"/docs/oauth2-redirect", ["GET", "HEAD"], .showPage⟩,
    ⟨"/redoc", ["GET", "HEAD"], .showPage⟩]

/-- The endpoints that a service always has. -/
def operationEndpoints : List Endpoint :=
  [⟨"/api/converter/inputs", ["POST"], .listInputs⟩,
    ⟨"/api/converter/generate", ["POST"], .generate⟩,
    ⟨"/", ["GET"], .greet⟩,
    ⟨"/health", ["GET"], .tellHealth⟩]

/--
A service that is ready to answer.  A run is a service that was just made and
answers one request: what earlier requests leave behind, such as the counts by
which requests beyond the number allowed in a minute are refused (thirty for
generations, sixty for listings), is none of its state.
-/
structure Application where
  settings : Settings
  release : Release
  steps : Steps
  nullBody : NullBody := .checked

namespace Application

/-- Makes a service from its settings, its version file and its steps, and tells how that went. -/
def create
    (settings : Settings)
    (file : VersionFile)
    (steps : Steps) : Journaled Application :=
  let (warnings, release) :=
    match Release.ofFile file with
    | .ok release => ([], release)
    | .error words =>
        ([serviceEntry .warning "version_data_unavailable" [("error", .text words)]],
          Release.unknown)
  { entries := warnings ++ [serviceEntry .info "fastapi_application_created"
      [("version", release.version), ("api_prefix", .text "/api")]]
    result := { settings, release, steps } }

/-- The endpoints of a service; in production it does not describe itself. -/
def endpoints (application : Application) : List Endpoint :=
  (if application.settings.isProduction then [] else descriptionEndpoints) ++ operationEndpoints

/-- The endpoint at a path. -/
def endpointAt?
    (application : Application)
    (path : String) : Option Endpoint :=
  application.endpoints.find? fun endpoint => endpoint.path == path

/-- The title of the service. -/
def title : String := "EA Builder"

/-- What the service says at its root. -/
def greeting (application : Application) : Record :=
  [("status", .text "ok"), ("service", .text (title ++ " API")),
    ("version", application.release.version)]

/-- What the service says of itself in its description. -/
def description (application : Application) : Record :=
  [("info", .record [("title", .text title), ("version", application.release.version),
    ("description", .text application.release.description)])]

/-- Carries out the operation of an endpoint. -/
def perform
    (application : Application)
    (endpoint : Endpoint)
    (request : Request) : Journaled Outcome :=
  match endpoint.operation with
  | .listInputs =>
      withBody application.nullBody request endpoint.path InputsRequest.ofValue
        (Service.listInputs application.steps endpoint.path)
  | .generate =>
      withBody application.nullBody request endpoint.path Payload.ofValue
        (Service.generate application.steps endpoint.path)
  | .greet => .silent (.answered (.json 200 application.greeting))
  | .tellHealth => .silent (.answered (.json 200 [("status", .text "healthy")]))
  | .describe => .silent (.answered (.json 200 application.description))
  | .showPage => .silent (.answered ⟨200, [], .page⟩)

/-- The path with its slashes at the end removed, or with one added where it has none. -/
def slashVariant (path : String) : String :=
  match path.toList.reverse with
  | '/' :: rest => String.ofList (rest.dropWhile (· == '/')).reverse
  | _ => path ++ "/"

/-- Sends the client to another path. -/
def redirect
    (request : Request)
    (path : String) : Response :=
  ⟨307, [("location", request.addressOf path)], .empty⟩

/-- Answers a request for a path that has no endpoint. -/
def answerElsewhere
    (application : Application)
    (request : Request) : Response :=
  let variant := slashVariant request.path
  if request.path != "/" && (application.endpointAt? variant).isSome then
    redirect request variant
  else
    .detail 404 "Not Found"

/-- Finds a request's endpoint and carries out its operation. -/
def dispatch
    (application : Application)
    (request : Request) : Journaled Outcome :=
  match application.endpointAt? request.path with
  | none => .silent (.answered (application.answerElsewhere request))
  | some endpoint =>
      if endpoint.methods.contains request.method then
        application.perform endpoint request
      else
        .silent (.answered ((Response.detail 405 "Method Not Allowed").withHeader "allow"
          (", ".intercalate endpoint.methods)))

/-- Tells a failure that no operation foresees. -/
def failureEntry
    (request : Request)
    (failure : Failure) : Entry :=
  serviceEntry .error "unhandled_exception"
    [("path", .text request.path), ("method", .text request.method),
      ("error", .text failure.message), ("exception_type", .text failure.className)]

/-- Turns an outcome into a response, which `finish` completes unless the operation failed. -/
def conclude
    (request : Request)
    (finish : Response → Response) :
    Outcome → Journaled Response
  | .answered response => .silent (finish response)
  | .failed failure => ⟨[failureEntry request failure], failureResponse⟩

/-- Answers a request, minding the origin that it comes from. -/
def respond
    (application : Application)
    (request : Request) : Journaled Response :=
  match request.header? "origin" with
  | none => (application.dispatch request).andThen (conclude request id)
  | some origin =>
      match request.method == "OPTIONS", request.header? "access-control-request-method" with
      | true, some method =>
          .silent (preflight application.settings origin method
            (request.header? "access-control-request-headers"))
      | _, _ =>
          (application.dispatch request).andThen
            (conclude request (openTo application.settings request origin))

/-- The response as it is sent; one to a request for headers alone has no content. -/
def sent
    (request : Request)
    (response : Response) : Response :=
  if request.method == "HEAD" then response.withoutContent else response

/-- The log entry of a service that is ready. -/
def startEntry (application : Application) : Entry :=
  serviceEntry .info "application_startup_complete"
    [("version", application.release.version),
      ("log_level", .text application.settings.logLevel),
      ("app_env", .text application.settings.environment)]

/-- The log entry of a service that stops. -/
def endEntry : Entry :=
  serviceEntry .info "application_shutdown_complete" []

/-- Runs the service for one request, with what gets into the journal at its verbosity. -/
def run
    (application : Application)
    (request : Request) : Journaled Response :=
  let responded := application.respond request
  let verbosity := Verbosity.ofName application.settings.logLevel
  ⟨verbosity.kept ([application.startEntry] ++ responded.entries ++ [endEntry]),
    sent request responded.result⟩

end Application

end ExpertAdvisor.Service
