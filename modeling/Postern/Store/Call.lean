import Postern.Id
import Postern.Text.Number
import Postern.Text.Unicode

/-!
Store calls as data.  A call says who asks and for what, `Call.Result` what comes back when it is granted; a backend
performs calls on a state.  `Backend.failing` and `Backend.noting` are what a backend looks like behind broken
methods and behind a log.

A plan is what a request asks of the store, call by call, and what it answers.  It says nothing about the store, so
the plans of several requests can be run one after another or with their calls interleaved.
-/

namespace Postern

/-! ### Who calls -/

/-- Who acts: the unrestricted root, or an administrator confined to the account of its role. -/
inductive Actor where
  | root
  | admin (role : RoleId)
  deriving DecidableEq, Repr

namespace Actor

def adminOf (account : String) : Actor := .admin (RoleId.adminOf account)

def isRoot : Actor → Bool
  | .root => true
  | .admin _ => false

/-- Whether this identity may manage what belongs to `account`. -/
def administers (account : String) : Actor → Bool
  | .root => true
  | .admin role => role.account = account

def text : Actor → String
  | .root => "!root"
  | .admin role => role.text

@[simp] theorem administers_adminOf (account : String) : (adminOf account).administers account = true := by
  simp [adminOf, administers, RoleId.adminOf]

@[simp] theorem isRoot_adminOf (account : String) : (adminOf account).isRoot = false := rfl

end Actor

/-! ### Why a call fails -/

/-- Why a database cannot be connected to.  What a database itself says is passed on as it is. -/
inductive ConnectFault where
  | invalidUrl
  | database (text : String)
  deriving DecidableEq, Repr

/-- What is said about a database that cannot be connected to. -/
def ConnectFault.message : ConnectFault → String
  | .invalidUrl => "Invalid database URL"
  | .database text => text

/-- Why a store call failed. -/
inductive StoreError where
  | notFound (what : String)
  | conflict (what : String)
  | forbidden (actor action : String)
  | database (text : String)
  | connection (fault : ConnectFault)
  deriving DecidableEq, Repr

def StoreError.message : StoreError → String
  | .notFound what => what ++ " not found"
  | .conflict what => what ++ " already exists"
  | .forbidden actor action => actor ++ " is not allowed to " ++ action
  | .database text => "Database error: " ++ text
  | .connection fault => "Database manager error: " ++ fault.message

/-- An actor lacks the right to an action. -/
def StoreError.denied (actor : Actor) (action : String) : StoreError := .forbidden actor.text action

/-! ### Calls -/

/-- A role together with its API key. -/
structure Role where
  id : RoleId
  apiKey : String
  deriving DecidableEq, Repr, Inhabited

/-- A new account: its id and the key of its administrator. -/
structure CreatedAccount where
  id : String
  apiKey : String
  deriving DecidableEq, Repr, Inhabited

/-- What a store can be asked. -/
inductive Call where
  | listAccounts (actor : Actor)
  | createAccount (actor : Actor) (id : String)
  | destroyAccount (actor : Actor) (id : String)
  | purge (actor : Actor)
  | healthCheck
  | findRole (role : RoleId)
  | provision (actor : Actor) (role : RoleId)
  | showSecret (actor : Actor) (resource : ResourceId) (version : Option Nat)
  | createSecret (actor : Actor) (resource : ResourceId) (value : String)
  deriving DecidableEq, Repr

/-- The operations of a store, without their arguments. -/
inductive Method where
  | listAccounts | createAccount | destroyAccount | purge | healthCheck
  | findRole | provision
  | showSecret | createSecret
  deriving DecidableEq, Repr

namespace Call

/-- What a granted call gives back; a purge gives the number of accounts that it removed. -/
@[reducible] def Result : Call → Type
  | .listAccounts _ => List String
  | .createAccount _ _ => CreatedAccount
  | .destroyAccount _ _ => Unit
  | .purge _ => Nat
  | .healthCheck => Unit
  | .findRole _ => Option Role
  | .provision _ _ => Role
  | .showSecret _ _ _ => String
  | .createSecret _ _ _ => Unit

def method : Call → Method
  | .listAccounts _ => .listAccounts
  | .createAccount _ _ => .createAccount
  | .destroyAccount _ _ => .destroyAccount
  | .purge _ => .purge
  | .healthCheck => .healthCheck
  | .findRole _ => .findRole
  | .provision _ _ => .provision
  | .showSecret _ _ _ => .showSecret
  | .createSecret _ _ _ => .createSecret

/-- A call as one line of a log. -/
def note (c : Call) : String :=
  Text.trimEnd <|
    match c with
    | .listAccounts actor => "accounts.list as " ++ actor.text
    | .createAccount actor id => "accounts.create as " ++ actor.text ++ " " ++ id
    | .destroyAccount actor id => "accounts.destroy as " ++ actor.text ++ " " ++ id
    | .purge actor => "accounts.purge as " ++ actor.text
    | .healthCheck => "accounts.health_check"
    | .findRole role => "roles.find_by_id " ++ role.text
    | .provision actor role => "roles.provision as " ++ actor.text ++ " " ++ role.text
    | .showSecret actor resource none => "secrets.show as " ++ actor.text ++ " " ++ resource.text
    | .showSecret actor resource (some v) =>
      "secrets.show as " ++ actor.text ++ " " ++ resource.text ++ " v" ++ Text.showNat v
    | .createSecret actor resource _ => "secrets.create as " ++ actor.text ++ " " ++ resource.text

end Call

/-- A way to perform store calls on states of type `σ`. -/
structure Backend (σ : Type) where
  perform : (c : Call) → σ → Except StoreError c.Result × σ

namespace Backend
variable {σ : Type}

/-- A backend some of whose operations always fail, before they reach it. -/
def failing (faults : Method → Option StoreError) (b : Backend σ) : Backend σ where
  perform c s :=
    match faults c.method with
    | some e => (.error e, s)
    | none => b.perform c s

/-- A backend that notes each call before performing it, the latest last. -/
def noting (b : Backend σ) : Backend (σ × List Call) where
  perform c s :=
    let (r, t) := b.perform c s.1
    (r, t, s.2 ++ [c])

@[simp] theorem failing_perform_of_none {faults : Method → Option StoreError} {b : Backend σ} {c : Call}
    (h : faults c.method = none) (s : σ) : (b.failing faults).perform c s = b.perform c s := by
  simp [failing, h]


end Backend

/-! ### Plans -/

/-- An answer, or a store call and what follows each of its outcomes. -/
inductive Plan (α : Type) : Type where
  | answer (a : α)
  | call (c : Call) (next : Except StoreError c.Result → Plan α)

namespace Plan
variable {α β σ : Type}

def map (f : α → β) : Plan α → Plan β
  | .answer a => .answer (f a)
  | .call c next => .call c fun r => (next r).map f

def run (b : Backend σ) : Plan α → σ → α × σ
  | .answer a, s => (a, s)
  | .call c next, s =>
    let (r, s) := b.perform c s
    (next r).run b s

@[simp] theorem run_answer (b : Backend σ) (a : α) (s : σ) : (answer a).run b s = (a, s) := rfl

@[simp] theorem run_call (b : Backend σ) (c : Call) (next : Except StoreError c.Result → Plan α) (s : σ) :
    (call c next).run b s = (next (b.perform c s).1).run b (b.perform c s).2 := rfl

theorem run_map (b : Backend σ) (f : α → β) (p : Plan α) (s : σ) :
    (p.map f).run b s = (f (p.run b s).1, (p.run b s).2) := by
  induction p generalizing s with
  | answer a => rfl
  | call c next ih => exact ih _ _

end Plan

end Postern
