import ExpertAdvisor.Number.Digits
import ExpertAdvisor.Service.Message
import ExpertAdvisor.Text.SourceEncoding

namespace ExpertAdvisor.Service

/-!
# Targets of requests

A target is a path with percent escapes, and perhaps a query behind a question
mark.  What follows a number sign never reaches the service.
-/

/-- The bytes of a text in which percent escapes stand for bytes. -/
def unescapeBytes : List UInt8 → List UInt8
  | 0x25 :: high :: low :: rest =>
      match Number.hexDigit? (Char.ofNat high.toNat), Number.hexDigit? (Char.ofNat low.toNat) with
      | some first, some second => UInt8.ofNat (first * 16 + second) :: unescapeBytes rest
      | _, _ => 0x25 :: unescapeBytes (high :: low :: rest)
  | byte :: rest => byte :: unescapeBytes rest
  | [] => []

/-- A path with its percent escapes replaced. -/
def unescapePath (path : String) : String :=
  match Text.decodePlainText (unescapeBytes (Text.encodeText path)) with
  | .ok decoded => decoded
  | .error _ => path

/-- A target's path and its query. -/
def splitTarget (target : String) : String × Option String :=
  let (path, rest) := (target.toList.takeWhile (· != '#')).span (· != '?')
  (unescapePath (String.ofList path),
    match rest with
    | _ :: query => some (String.ofList query)
    | [] => none)

/-- The address of a path on the host that a request is made to. -/
def Request.addressOf
    (request : Request)
    (path : String) : String :=
  let host := (request.header? "host").getD ""
  let query :=
    match request.query with
    | some query => if query == "" then "" else "?" ++ query
    | none => ""
  "http://" ++ host ++ path ++ query

end ExpertAdvisor.Service
