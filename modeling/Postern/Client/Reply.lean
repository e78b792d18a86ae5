import Postern.Http.Message
import Postern.Json.Reader
import Postern.Url.Basic

/-!
Replies of the gateway, as its clients understand them.  `Reply.check` finds failures in both renderings: a status
that says so, or the legacy body of a JSON object with a text as its `error`.
-/

namespace Postern

/-- Why a call of the gateway fails. -/
inductive ClientError where
  | invalidUrl (fault : Url.Fault)
  | unreachable (reason : String)
  | refused (status : Nat) (message : String)
  | unreadable (reason : String)
  deriving DecidableEq, Repr

namespace ClientError

/-- What is said about a failed call. -/
def message : ClientError → String
  | .invalidUrl fault => "invalid server URL: " ++ fault.message
  | .unreachable reason => "request failed: " ++ reason
  | .refused status message => "gateway returned " ++ Status.text status ++ ": " ++ message
  | .unreadable reason => "unexpected response body: " ++ reason

/-- The status of a failed call, where the gateway has given one. -/
def status? : ClientError → Option Nat
  | .refused status _ => some status
  | _ => none

end ClientError

/-- What counts of a response.  Only a JSON body can carry an error under a status of success. -/
structure Reply where
  status : Nat
  isJson : Bool
  body : String
  deriving DecidableEq, Repr

namespace Reply

/-- A text without the mark of byte order before it. -/
def withoutMark (s : String) : String :=
  match s.toList with
  | c :: cs => if c = '\uFEFF' then String.ofList cs else s
  | [] => s

/-- How the content type of a JSON body begins. -/
def jsonType : String := "application/json"

def isJsonType (value : String) : Bool :=
  HttpRequest.isTextValue value && jsonType.toList.isPrefixOf value.toList

def ofResponse (r : Response) : Reply :=
  ⟨r.status, (r.header? "content-type").any isJsonType, withoutMark r.body⟩

/-- The text that an error body gives: its message, or else its error. -/
def errorMessage? (body : String) : Option String :=
  match Json.read? body with
  | some j => ((j.member? "message").or (j.member? "error")).bind Json.text?
  | none => none

/-- The error in a JSON body under a status of success. -/
def hiddenError? (body : String) : Option String :=
  match Json.read? body with
  | some j => (j.member? "error").bind Json.text?
  | none => none

/-- The body of a reply that is no failure. -/
def check (r : Reply) : Except ClientError String :=
  if Status.isSuccess r.status then
    match (if r.isJson then hiddenError? r.body else none) with
    | some message => .error (.refused r.status message)
    | none => .ok r.body
  else .error (.refused r.status ((errorMessage? r.body).getD r.body))

end Reply
end Postern
