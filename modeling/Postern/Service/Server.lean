import Postern.Service.App
import Postern.Url.Host
import Postern.Url.Reader

/-!
Starting the service: first the store, then the service itself, then the address at which it listens.  What is asked
of the surroundings is left open.
-/

namespace Postern

/-! ### Where to listen -/

structure Endpoint where
  host : Url.Host
  port : Nat
  deriving DecidableEq, Repr

namespace Endpoint

/-- The host that a text before a port means: an address where it can be one, and else a name. -/
def host? (cs : List Char) : Option Url.Host :=
  match cs with
  | [] => none
  | '[' :: rest => (Url.Host.bracketed rest).toOption
  | cs =>
    match Url.Host.short? cs, Url.Host.long? cs with
    | some address, _ => some (.short address)
    | none, some groups => some (.long groups)
    | none, none => some (.domain (String.ofList cs))

/-- The endpoint that a text writes, host and port with a colon between them. -/
def read? (text : String) : Option Endpoint :=
  match Text.splitLast? ':' text.toList with
  | none => none
  | some (host, port) =>
    match host? host, Text.unsigned? (Text.maxWord 16) (String.ofList port) with
    | some host, some port => some ⟨host, port⟩
    | _, _ => none

end Endpoint

end Postern

namespace Postern.Service

/-! ### Starting -/

/-- What the service needs of its surroundings: a store in memory, databases, and endpoints to listen at. -/
structure Surroundings (m : Type → Type) (σ : Type) where
  memory : σ
  openDatabase : (url : String) → (connections : Nat) → m (Except StoreError σ)
  listen : Endpoint → m (Except String Unit)

section
variable {m : Type → Type} {σ : Type} [Monad m]

/-- The store for settings: a database where one is named, and else the memory. -/
def connect (w : Surroundings m σ) (url : Option String) (connections : Nat) : m (Except StoreError σ) :=
  match url with
  | none => return .ok w.memory
  | some text =>
    match Url.read text with
    | .ok url => w.openDatabase url.text connections
    | .error _ => return .error (.connection .invalidUrl)

def listenAddress (s : Settings) : String := s.bindAddress ++ ":" ++ Text.showNat s.port

def listen (w : Surroundings m σ) (address : String) : m (Except String Unit) :=
  match Endpoint.read? address with
  | some endpoint => w.listen endpoint
  | none => return .error "invalid socket address"

def start (w : Surroundings m σ) (s : Settings) : m (Except StartupError (App × σ)) := do
  match ← connect w s.databaseUrl s.maxConnections with
  | .error e => return .error (.store e)
  | .ok store =>
    match App.build s with
    | .error e => return .error e
    | .ok app =>
      match ← listen w (listenAddress s) with
      | .ok () => return .ok (app, store)
      | .error reason => return .error (.bind (listenAddress s) reason)

end

end Postern.Service
