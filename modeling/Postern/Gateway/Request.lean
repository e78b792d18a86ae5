import Postern.Gateway.Error
import Postern.Id
import Postern.Store.Table

/-!
Requests to the gateway.  `Request.parse` reads one from the parameters of a query; what is wrong with it is found
in a fixed order: the action is missing, the resource is malformed, the action is unknown.
-/

namespace Postern

abbrev Query := Store.Table String String

namespace Gateway

inductive Action where
  | listAccounts
  | createAccount
  | destroyAccount
  | retrieveApiKey
  | getSecret
  | createSecret
  | loadPolicy
  | purge
  deriving DecidableEq, Repr

namespace Action

def text : Action → String
  | .listAccounts => "list_accounts"
  | .createAccount => "create_account"
  | .destroyAccount => "destroy_account"
  | .retrieveApiKey => "retrieve_api_key"
  | .getSecret => "get_secret"
  | .createSecret => "create_secret"
  | .loadPolicy => "load_policy"
  | .purge => "purge"

def all : List Action :=
  [.listAccounts, .createAccount, .destroyAccount, .retrieveApiKey, .getSecret, .createSecret, .loadPolicy, .purge]

def ofText? (name : String) : Option Action := all.find? (·.text = name)

theorem ofText?_text (a : Action) : ofText? a.text = some a := by cases a <;> decide

theorem text_of_ofText? {name : String} {a : Action} (h : ofText? name = some a) : a.text = name := by
  simpa using List.find?_some h

end Action

/-- A request: an action, the parameters of the query, and the resource that they name. -/
structure Request where
  action : Action
  query : Query
  resource : Option ResourceId
  deriving Repr

namespace Request

/-- The value of a parameter; an empty one counts as none. -/
def get? (r : Request) (name : String) : Option String := (r.query.find? name).filter (· ≠ "")

/-- The value of a parameter that must be there. -/
def require (r : Request) (name : String) : Except CallerError String :=
  match r.get? name with
  | some value => .ok value
  | none => .error (.missing name)

def requireResource (r : Request) : Except CallerError ResourceId :=
  match r.resource with
  | some resource => .ok resource
  | none => .error (.missing "resource_id")

def resourceOf (q : Query) : Except CallerError (Option ResourceId) :=
  match q.find? "resource_id" with
  | none => .ok none
  | some raw =>
    match ResourceId.parse raw with
    | .ok resource => .ok (some resource)
    | .error _ => .error .malformedResourceId

/-- The action of a name, where a purge may be refused. -/
def permittedAction (allowPurge : Bool) (name : String) : Except CallerError Action :=
  match Action.ofText? name with
  | none => .error .unknownAction
  | some action => if action = .purge ∧ allowPurge = false then .error .unknownAction else .ok action

def parse (allowPurge : Bool) (q : Query) : Except CallerError Request :=
  match (q.find? "action").filter (· ≠ "") with
  | none => .error (.missing "action")
  | some name =>
    match resourceOf q with
    | .error e => .error e
    | .ok resource =>
      match permittedAction allowPurge name with
      | .error e => .error e
      | .ok action => .ok ⟨action, q, resource⟩

end Request
end Gateway
end Postern
