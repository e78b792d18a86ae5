import Postern.Gateway.Request
import Postern.Policy.Document
import Postern.Store.Call

/-!
What each action does.  Accounts are handled as the root, secrets and policies as the administrator of the account
that the resource names.  A store call that fails ends the request with its error.
-/

namespace Postern.Gateway

/-- What becomes of a request. -/
abbrev Outcome := Except ApiError Response

/-- A request that the caller has got wrong. -/
def refuse (e : CallerError) : Plan Outcome := .answer (.error (.ofCaller e))

/-- A store call, after whose success the plan goes on. -/
def ask (c : Call) (next : c.Result → Plan Outcome) : Plan Outcome :=
  .call c fun
    | .ok r => next r
    | .error e => .answer (.error (.ofStore e))

def succeed (r : Response) : Plan Outcome := .answer (.ok r)

/-- Goes on with a parameter unless it is wrong. -/
def check {α : Type} (parameter : Except CallerError α) (next : α → Plan Outcome) : Plan Outcome :=
  match parameter with
  | .ok a => next a
  | .error e => refuse e

/-! ### Accounts -/

def listAccounts : Plan Outcome :=
  ask (.listAccounts .root) fun ids => succeed (.json 200 (.arr (ids.map .str)))

/-- The account that a request names.  It becomes the first part of addresses, so it holds no colon. -/
def accountId (r : Request) : Except CallerError String :=
  match r.require "id" with
  | .error e => .error e
  | .ok id => if id.toList.contains ':' then .error .malformedId else .ok id

/-- The body that shows a new account. -/
def createdJson (a : CreatedAccount) : Json := .obj [("id", .str a.id), ("api_key", .str a.apiKey)]

def createAccount (r : Request) : Plan Outcome :=
  check (accountId r) fun id =>
    ask (.createAccount .root id) fun created => succeed (.json 201 (createdJson created))

def destroyAccount (r : Request) : Plan Outcome :=
  check (accountId r) fun id => ask (.destroyAccount .root id) fun _ => succeed (.empty 204)

/-- The body that shows how many accounts a purge removed. -/
def purgedJson (count : Nat) : Json := .obj [("purged_accounts", .int count)]

def purge : Plan Outcome := ask (.purge .root) fun (count : Nat) => succeed (.json 200 (purgedJson count))

/-! ### Roles -/

def roleId (r : Request) : Except CallerError RoleId :=
  match r.require "role_id" with
  | .error e => .error e
  | .ok raw =>
    match RoleId.parse raw with
    | .ok role => .ok role
    | .error _ => .error .malformedRoleId

def roleNotFound (role : RoleId) : ApiError := ⟨.notFound, "role '" ++ role.text ++ "' not found"⟩

def retrieveApiKey (r : Request) : Plan Outcome :=
  check (roleId r) fun role =>
    ask (.findRole role) fun (found : Option Role) =>
      match found with
      | some role => succeed (.text 200 role.apiKey)
      | none => .answer (.error (roleNotFound role))

/-! ### Secrets and policies -/

/-- The version that a request asks for: a positive number of at most 32 bits. -/
def version (r : Request) : Except CallerError (Option Nat) :=
  match r.get? "version" with
  | none => .ok none
  | some raw =>
    match (Text.unsigned? (Text.maxWord 32) raw).filter (0 < ·) with
    | some v => .ok (some v)
    | none => .error .badVersion

def adminFor (resource : ResourceId) : Actor := .adminOf resource.account

def getSecret (r : Request) : Plan Outcome :=
  check r.requireResource fun resource =>
    check (version r) fun v =>
      ask (.showSecret (adminFor resource) resource v) fun value => succeed (.text 200 value)

/-- Stores a new version of a secret. -/
def createSecret (r : Request) : Plan Outcome :=
  check r.requireResource fun resource =>
    check (r.require "value") fun value =>
      ask (.createSecret (adminFor resource) resource value) fun _ => succeed (.empty 201)

/-- The document that a request brings, as `value` or else as `policy`. -/
def document (r : Request) : Except CallerError String :=
  match r.get? "value" with
  | some value => .ok value
  | none =>
    match r.get? "policy" with
    | some value => .ok value
    | none => .error (.missing "value")

def declared (target : ResourceId) (document : String) : Except CallerError (List RoleId) :=
  match Policy.declaredRoles target document with
  | .ok roles => .ok roles
  | .error e => .error (.badPolicy e)

/-- Gives each role a key, in order. -/
def provisionAll (actor : Actor) (last : Plan Outcome) : List RoleId → Plan Outcome
  | [] => last
  | role :: roles => ask (.provision actor role) fun _ => provisionAll actor last roles

/-- Stores a policy document as a new version of its resource, and gives the roles that it declares their keys. -/
def loadPolicy (r : Request) : Plan Outcome :=
  check r.requireResource fun resource =>
    check (document r) fun document =>
      check (declared resource document) fun roles =>
        ask (.createSecret (adminFor resource) resource document) fun _ =>
          provisionAll (adminFor resource) (succeed (.empty 201)) roles

/-! ### Requests -/

/-- What a request asks of the store and answers. -/
def handle (r : Request) : Plan Outcome :=
  match r.action with
  | .listAccounts => listAccounts
  | .createAccount => createAccount r
  | .destroyAccount => destroyAccount r
  | .retrieveApiKey => retrieveApiKey r
  | .getSecret => getSecret r
  | .createSecret => createSecret r
  | .loadPolicy => loadPolicy r
  | .purge => purge

/-- What a query asks of the store and answers. -/
def dispatch (allowPurge : Bool) (q : Query) : Plan Outcome := check (Request.parse allowPurge q) handle

/-- A query answered by a response, whatever becomes of it. -/
def respond (mode : ErrorMode) (allowPurge : Bool) (q : Query) : Plan Response :=
  (dispatch allowPurge q).map fun
    | .ok response => response
    | .error e => e.render mode

end Postern.Gateway
