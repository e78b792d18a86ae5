import Postern.Client.Reply
import Postern.Gateway.Request
import Postern.Json.Record
import Postern.Store.Call
import Postern.Url.Reader

/-!
Clients of the gateway.  A client knows the gateway's address; each call is one request to it, and what a call gives
back is read from the reply.  How requests are sent is left open.
-/

namespace Postern

/-- A client of the gateway at an address. -/
structure Client where
  gateway : Url
  deriving DecidableEq, Repr

namespace Client

/-- The last segment of the gateway's address. -/
def gatewayName : String := "dev"

/-- The client of the gateway below a server's address. -/
def ofServer (address : String) : Except ClientError Client :=
  match (Url.read address).bind fun url => url.asDirectory.sibling gatewayName with
  | .ok url => .ok ⟨url⟩
  | .error fault => .error (.invalidUrl fault)

/-- The address of a request for an action; the action comes last, so that no parameter can stand in for it. -/
def address (c : Client) (action : String) (params : List (String × String)) : Url :=
  c.gateway.withQuery (params ++ [("action", action)])

inductive Call where
  | listAccounts
  | createAccount (id : String)
  | destroyAccount (id : String)
  | retrieveApiKey (role : String)
  | getSecret (resource : String) (version : Option Nat)
  | createSecret (resource value : String)
  | loadPolicy (resource policy : String)
  | purge
  deriving DecidableEq, Repr

namespace Call

/-- What a successful call gives back; a purge gives the number of accounts that it removed. -/
@[reducible] def Result : Call → Type
  | .listAccounts => List String
  | .createAccount _ => CreatedAccount
  | .destroyAccount _ => Unit
  | .retrieveApiKey _ => String
  | .getSecret _ _ => String
  | .createSecret _ _ => Unit
  | .loadPolicy _ _ => Unit
  | .purge => Nat

def action : Call → Gateway.Action
  | .listAccounts => .listAccounts
  | .createAccount _ => .createAccount
  | .destroyAccount _ => .destroyAccount
  | .retrieveApiKey _ => .retrieveApiKey
  | .getSecret _ _ => .getSecret
  | .createSecret _ _ => .createSecret
  | .loadPolicy _ _ => .loadPolicy
  | .purge => .purge

def params : Call → List (String × String)
  | .listAccounts => []
  | .createAccount id => [("id", id)]
  | .destroyAccount id => [("id", id)]
  | .retrieveApiKey role => [("role_id", role)]
  | .getSecret resource none => [("resource_id", resource)]
  | .getSecret resource (some version) => [("resource_id", resource), ("version", Text.showNat version)]
  | .createSecret resource value => [("resource_id", resource), ("value", value)]
  | .loadPolicy resource policy => [("resource_id", resource), ("value", policy)]
  | .purge => []

def accounts? (body : String) : Option (List String) := (Json.read? body).bind (Json.list? Json.text?)

def created? (body : String) : Option CreatedAccount :=
  match Json.readFields? ["id", "api_key"] (Text.Utf8.encode body) with
  | some [some (.str id), some (.str apiKey)] => some ⟨id, apiKey⟩
  | _ => none

/-- The number of removed accounts in a body. -/
def purged? (body : String) : Option Nat :=
  match Json.readFields? ["purged_accounts"] (Text.Utf8.encode body) with
  | some [some j] => (j.intBetween? 0 (Text.maxWord 64)).map Int.toNat
  | _ => none

/-- What has been read, or that nothing could be.  The text stands for what a reader of JSON says itself: what it
expected, and the line and the column where something else stands. -/
def readable {α : Type} : Option α → Except ClientError α
  | some a => .ok a
  | none => .error (.unreadable "not the expected JSON")

/-- What the body of a successful reply gives back. -/
def read : (call : Call) → String → Except ClientError call.Result
  | .listAccounts, body => readable (accounts? body)
  | .createAccount _, body => readable (created? body)
  | .destroyAccount _, _ => .ok ()
  | .retrieveApiKey _, body => .ok body
  | .getSecret _ _, body => .ok body
  | .createSecret _ _, _ => .ok ()
  | .loadPolicy _ _, _ => .ok ()
  | .purge, body => readable (purged? body)

def result (call : Call) (reply : Reply) : Except ClientError call.Result := reply.check.bind call.read

end Call

/-! ### Requests -/

/-- A way to send a request and get its response, or the reason why there is none. -/
abbrev Transport (m : Type → Type) := HttpRequest → m (Except String Response)

def requestFor (u : Url) : HttpRequest := ⟨"GET", String.ofList u.path.text, u.query, []⟩

section
variable {m : Type → Type} [Functor m]

/-- What has come of a request: a reply, whatever it says, unless there is none. -/
def received : Except String Response → Except ClientError Reply
  | .ok response => .ok (Reply.ofResponse response)
  | .error reason => .error (.unreachable reason)

def send (transport : Transport m) (c : Client) (action : String) (params : List (String × String)) :
    m (Except ClientError Reply) :=
  received <$> transport (requestFor (c.address action params))

def perform (transport : Transport m) (c : Client) (call : Call) : m (Except ClientError call.Result) :=
  (fun reply => reply.bind call.result) <$> send transport c call.action.text call.params

end
end Client
end Postern
