import ExpertAdvisor.Json.Encoding
import ExpertAdvisor.Json.Reader
import ExpertAdvisor.Payload.Checked
import ExpertAdvisor.Service.Message
import ExpertAdvisor.Text.Lines
import ExpertAdvisor.Value.Unpaired

namespace ExpertAdvisor.Service

/-!
# Bodies of requests

A body whose content type is a JSON type is read as JSON; so is a body without a
content type.  Any other body stays bytes, which no operation accepts.  Documents
in which halves of surrogate pairs stand alone are kept apart from the others.
-/

/-- What the body of a request is found to be. -/
inductive Body where
  | absent
  | document (content : Value)
  | unpaired (content : Value)
  | bytes (content : List UInt8)
  | malformed (fault : Json.Fault)
  | undecodable
  deriving DecidableEq, Repr

/-- A content type without its parameters, in small letters. -/
def mediaType (contentType : String) : List Char :=
  (Text.trimBlanks (contentType.toList.takeWhile (· != ';'))).map Char.toLower

/-- Whether a content type is `application/json`, or one that ends in `+json`. -/
def isJsonType (contentType : String) : Bool :=
  match Text.afterPrefix? "application/".toList (mediaType contentType) with
  | some subtype =>
      !subtype.contains '/' &&
        (subtype == "json".toList || Text.endsWith "+json".toList subtype)
  | none => false

/--
What a body is that holds nothing but a null: releases of the framework either
take it for no body, or check it as they check every other document.
-/
inductive NullBody where
  | missing
  | checked
  deriving DecidableEq, Repr

namespace Body

/-- The body that bytes of JSON are; an integer with too many digits leaves it undecodable. -/
def ofJson (bytes : List UInt8) : Body :=
  match Json.decode? bytes with
  | none => .undecodable
  | some points =>
      match Json.readPoints points with
      | .ok content => if content.isPaired then .document content else .unpaired content
      | .error fault => if fault.complaint.isOversized then .undecodable else .malformed fault

/-- The body of a request, read as its content type asks for. -/
def ofRequest (request : Request) : Body :=
  match request.body with
  | [] => .absent
  | sent =>
      match request.header? "content-type" with
      | none => ofJson sent
      | some contentType =>
          if contentType == "" || isJsonType contentType then ofJson sent else .bytes sent

/-- The document that a body holds. -/
def document? : Body → Option Value
  | .document content | .unpaired content => some content
  | _ => none

/-- The document of a body with marks in the place of halves of surrogate pairs, if it has any. -/
def markedDocument? : Body → Option Value
  | .unpaired content => some content.marked
  | _ => none

/-- The step at which every fault in a body begins. -/
def step : Step := .key "body"

/-- Checks a document that must be a record. -/
def checkDocument
    (nullBody : NullBody)
    (check : Value → Checked α) :
    Value → Checked α
  | .null =>
      match nullBody with
      | .missing => .refused ⟨[step], .missing, .null⟩ []
      | .checked => .refused ⟨[step], .notRecord, .null⟩ []
  | .record fields => (check (.record fields)).under step
  | .misnamed names values => (check (.misnamed names values)).under step
  | other => .refused ⟨[step], .notRecord, other⟩ []

/-- Checks a body; one that cannot be decoded is not checked at all. -/
def check?
    (nullBody : NullBody)
    (check : Value → Checked α) :
    Body → Option (Checked α)
  | .absent => some (.refused ⟨[step], .missing, .null⟩ [])
  | .document content | .unpaired content => some (checkDocument nullBody check content)
  | .bytes content => some (.refused ⟨[step], .notRecord, .bytes content⟩ [])
  | .malformed fault =>
      some (.refused
        ⟨[step, .index fault.position], .unreadableDocument fault.complaint.description, .record []⟩
        [])
  | .undecodable => none

end Body

end ExpertAdvisor.Service
