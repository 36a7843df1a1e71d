import ExpertAdvisor.Service.Message
import ExpertAdvisor.Settings.Basic

namespace ExpertAdvisor.Service

/-!
# Requests from other origins

A browser names the origin that a request comes from.  Responses to an origin
that the settings list may be read there; before a request that could do harm,
the browser asks whether its method and headers are allowed.
-/

/-- The methods that other origins may use. -/
def allowedMethods : List String :=
  ["GET", "POST", "OPTIONS"]

/-- The headers that other origins may send, in small letters. -/
def allowedHeaders : List String :=
  ["accept", "accept-language", "content-language", "content-type", "x-request-id"]

/-- The header that names the origin which may read a response. -/
def allowOriginHeader : String := "access-control-allow-origin"

/-- The header that names the methods which other origins may use. -/
def allowMethodsHeader : String := "access-control-allow-methods"

/-- Whether a service answers every origin. -/
def allowsEveryOrigin (settings : Settings) : Bool :=
  settings.allowedOrigins.contains "*"

/-- Whether a service answers an origin. -/
def allowsOrigin
    (settings : Settings)
    (origin : String) : Bool :=
  allowsEveryOrigin settings || settings.allowedOrigins.contains origin

/-- The parts of a text between its commas. -/
def commaParts (text : String) : List (List Char) :=
  text.toList.splitOn ','

/-- Whether all headers of a list between commas are allowed. -/
def allowsHeaders (listed : String) : Bool :=
  (commaParts listed).all fun part =>
    allowedHeaders.contains (Headers.lowered (String.ofList (Text.trimBlanks part)))

/-- What a question before a request fails for. -/
def preflightFailures
    (settings : Settings)
    (origin method : String)
    (headers : Option String) : List String :=
  (if allowsOrigin settings origin then [] else ["origin"]) ++
  (if allowedMethods.contains method then [] else ["method"]) ++
  (if headers.all allowsHeaders then [] else ["headers"])

/-- The answer to a question before a request. -/
def preflight
    (settings : Settings)
    (origin method : String)
    (headers : Option String) : Response :=
  let origins :=
    if allowsEveryOrigin settings then [(allowOriginHeader, "*")]
    else if allowsOrigin settings origin then [(allowOriginHeader, origin)]
    else []
  let answered := origins ++ [(allowMethodsHeader, ", ".intercalate allowedMethods)]
  match preflightFailures settings origin method headers with
  | [] => ⟨200, answered, .text "OK"⟩
  | failures => ⟨400, answered, .text ("Disallowed CORS " ++ ", ".intercalate failures)⟩

/-- The origin that a response is opened to; cookies need the origin by name. -/
def openedOrigin?
    (settings : Settings)
    (origin : String)
    (hasCookie : Bool) : Option String :=
  if allowsEveryOrigin settings then
    some (if hasCookie then origin else "*")
  else if settings.allowedOrigins.contains origin then
    some origin
  else
    none

/-- Opens a response to the origin that asked. -/
def openTo
    (settings : Settings)
    (request : Request)
    (origin : String)
    (response : Response) : Response :=
  match openedOrigin? settings origin (request.header? "cookie").isSome with
  | some opened => response.withHeader allowOriginHeader opened
  | none => response

end ExpertAdvisor.Service
