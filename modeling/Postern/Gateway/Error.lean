import Postern.Http.Message
import Postern.Policy.Document
import Postern.Store.Call

/-!
Why a request fails, and the response that says so.
-/

namespace Postern

/-- What is wrong with the parameters of a request. -/
inductive CallerError where
  | missing (parameter : String)
  | malformedResourceId
  | unknownAction
  | malformedId
  | malformedRoleId
  | badVersion
  | badPolicy (error : Policy.DeclarationError)
  deriving DecidableEq, Repr

def CallerError.message : CallerError → String
  | .missing parameter => parameter ++ " required"
  | .malformedResourceId => "malformed resource_id"
  | .unknownAction => "action not recognized"
  | .malformedId => "malformed id"
  | .malformedRoleId => "malformed role_id"
  | .badVersion => "version must be a positive integer"
  | .badPolicy error => error.message

inductive ErrorKind where
  | badRequest | unauthorized | forbidden | notFound | conflict | internal
  deriving DecidableEq, Repr

def ErrorKind.status : ErrorKind → Nat
  | .badRequest => 400
  | .unauthorized => 401
  | .forbidden => 403
  | .notFound => 404
  | .conflict => 409
  | .internal => 500

/-- The code by which programs tell failures apart. -/
def ErrorKind.code : ErrorKind → String
  | .badRequest => "BAD_REQUEST"
  | .unauthorized => "UNAUTHORIZED"
  | .forbidden => "FORBIDDEN"
  | .notFound => "NOT_FOUND"
  | .conflict => "CONFLICT"
  | .internal => "INTERNAL_SERVER_ERROR"

/-- A failed request: the kind of failure, and what is said about it. -/
structure ApiError where
  kind : ErrorKind
  message : String
  deriving DecidableEq, Repr

/-- How failures that the caller has caused are rendered. -/
inductive ErrorMode where
  | strict | legacy
  deriving DecidableEq, Repr

namespace ApiError

def ofCaller (e : CallerError) : ApiError := ⟨.badRequest, e.message⟩

def ofStore (e : StoreError) : ApiError :=
  match e with
  | .notFound _ => ⟨.notFound, e.message⟩
  | .conflict _ => ⟨.conflict, e.message⟩
  | .forbidden _ _ => ⟨.forbidden, e.message⟩
  | .database _ => ⟨.internal, e.message⟩
  | .connection _ => ⟨.internal, e.message⟩

def isCallerError (e : ApiError) : Bool := e.kind = .badRequest

def json (e : ApiError) : Json :=
  .object [("error", .bool true), ("message", .str e.message), ("code", .str e.kind.code)]

/-- The body of a failure that the caller has caused, in legacy mode. -/
def legacyJson (e : ApiError) : Json := .object [("error", .str e.message)]

def response (e : ApiError) : Response := .json e.kind.status e.json

/-- The response to a failure.  In legacy mode a failure that the caller has caused has status 200. -/
def render (mode : ErrorMode) (e : ApiError) : Response :=
  match mode with
  | .strict => e.response
  | .legacy => if e.isCallerError then .json 200 e.legacyJson else e.response

end ApiError
end Postern
