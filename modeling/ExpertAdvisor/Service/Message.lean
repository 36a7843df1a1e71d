import ExpertAdvisor.Text.Blank
import ExpertAdvisor.Value.Basic

namespace ExpertAdvisor.Service

/-!
# Requests and responses

A request names a method and a target and may carry a body.  A response has a
status, headers, and content of one kind.
-/

/-- Header fields in the order sent. -/
abbrev Headers := List (String × String)

namespace Headers

/-- A header's name in small letters. -/
def lowered (name : String) : String :=
  String.ofList (name.toList.map Char.toLower)

/-- The value of the first header of a name, in letters of either case. -/
def get?
    (headers : Headers)
    (name : String) : Option String :=
  (headers.find? fun header => lowered header.1 == name).map Prod.snd

end Headers

/-- A request as it arrives. -/
structure Request where
  method : String
  path : String
  query : Option String
  headers : Headers
  body : List UInt8
  deriving Repr, DecidableEq

/-- The value of a request's header, whatever the case of its name. -/
def Request.header?
    (request : Request)
    (name : String) : Option String :=
  Headers.get? request.headers name

/-- What a response carries. -/
inductive Content where
  | empty
  | json (document : Value)
  | text (content : String)
  | page
  deriving DecidableEq, Repr

/-- A response as it is sent. -/
structure Response where
  status : Nat
  headers : Headers
  content : Content
  deriving DecidableEq, Repr

namespace Response

/-- A response with a JSON document. -/
def json
    (status : Nat)
    (document : Record) : Response :=
  ⟨status, [], .json (.record document)⟩

/-- A response that gives one detail, as refusals do. -/
def detail
    (status : Nat)
    (words : String) : Response :=
  json status [("detail", .text words)]

/-- A response with one more header. -/
def withHeader
    (response : Response)
    (name value : String) : Response :=
  { response with headers := response.headers ++ [(name, value)] }

/-- A response without what it carries. -/
def withoutContent (response : Response) : Response :=
  { response with content := .empty }

end Response

end ExpertAdvisor.Service
