import Postern.Digest
import Postern.Json.Printer
import Postern.Store.Call
import Postern.Store.Table

/-!
The store that lives in memory: accounts in order of creation, keys of roles, versions of secrets.  New keys
are drawn from a sequence, so a run is determined by the calls and that sequence; whether keys repeat is up to
the sequence.
-/

namespace Postern.ApiKey

/-! ### API keys -/

def hexByte (b : UInt8) : List Char := [Json.hexDigit (b.toNat / 16), Json.hexDigit (b.toNat % 16)]

/-- The key made from random bytes: the digits of their digest. -/
def ofEntropy (bytes : List UInt8) : String := String.ofList ((Digest.sha256 bytes).flatMap hexByte)

/-- The `n`-th key of the sequence that starts from `seed`. -/
def source (seed : List UInt8) (n : Nat) : String := ofEntropy (seed ++ Digest.lengthBytes n)

/-- Whether a text consists of lower-case hexadecimal digits. -/
def isHex (s : String) : Bool := s.toList.all fun c => Text.isHexDigit c && !('A' ≤ c && c ≤ 'F')

end Postern.ApiKey

namespace Postern

/-! ### The store -/

/-- A sequence of API keys to draw from. -/
abbrev KeySource := Nat → String

/-- What the store holds, and how many keys have been drawn for it. -/
structure Memory where
  accounts : List String
  roles : Store.Table RoleId String
  secrets : Store.Table ResourceId (List String)
  drawn : Nat
  deriving Repr, Inhabited

namespace Memory

def empty : Memory := ⟨[], .empty, .empty, 0⟩

def hasAccount (m : Memory) (id : String) : Bool := m.accounts.contains id

def versions (m : Memory) (r : ResourceId) : Option (List String) := m.secrets.find? r

def key? (m : Memory) (r : RoleId) : Option String := m.roles.find? r

/-- Creates an account with its administrator, as the root only. -/
def createAccount (keys : KeySource) (actor : Actor) (id : String) (m : Memory) :
    Except StoreError CreatedAccount × Memory :=
  if !actor.isRoot then (.error (.denied actor ("create account '" ++ id ++ "'")), m)
  else if m.hasAccount id then (.error (.conflict ("account '" ++ id ++ "'")), m)
  else
    let key := keys m.drawn
    (.ok ⟨id, key⟩,
      { m with
        accounts := m.accounts ++ [id]
        roles := m.roles.insert (RoleId.adminOf id) key
        drawn := m.drawn + 1 })

/-- Removes an account with its roles and secrets, as the root only. -/
def destroyAccount (actor : Actor) (id : String) (m : Memory) : Except StoreError Unit × Memory :=
  if !actor.isRoot then (.error (.denied actor ("destroy account '" ++ id ++ "'")), m)
  else if !m.hasAccount id then (.error (.notFound ("account '" ++ id ++ "'")), m)
  else
    (.ok (),
      { m with
        accounts := m.accounts.filter (· ≠ id)
        roles := m.roles.filterKeys (·.account ≠ id)
        secrets := m.secrets.filterKeys (·.account ≠ id) })

/-- Removes every account, as the root only. -/
def purge (actor : Actor) (m : Memory) : Except StoreError Nat × Memory :=
  if !actor.isRoot then (.error (.denied actor "purge accounts"), m)
  else (.ok m.accounts.length, { empty with drawn := m.drawn })

/-- Gives a role a key; a role that has one keeps it. -/
def provision (keys : KeySource) (actor : Actor) (role : RoleId) (m : Memory) :
    Except StoreError Role × Memory :=
  if !actor.administers role.account then (.error (.denied actor ("create role '" ++ role.text ++ "'")), m)
  else if !m.hasAccount role.account then (.error (.notFound ("account '" ++ role.account ++ "'")), m)
  else
    match m.key? role with
    | some key => (.ok ⟨role, key⟩, m)
    | none =>
      let key := keys m.drawn
      (.ok ⟨role, key⟩, { m with roles := m.roles.insert role key, drawn := m.drawn + 1 })

/-- A version of a list of versions, counted from one; the last where none is asked for. -/
def pick (versions : List String) : Option Nat → Option String
  | none => versions.getLast?
  | some 0 => none
  | some (v + 1) => versions[v]?

/-- Why a version is not there. -/
def missing (resource : ResourceId) : Option Nat → StoreError
  | none => .notFound ("secret '" ++ resource.text ++ "'")
  | some v => .notFound ("version " ++ Text.showNat v ++ " of secret '" ++ resource.text ++ "'")

def showSecret (actor : Actor) (resource : ResourceId) (version : Option Nat) (m : Memory) :
    Except StoreError String :=
  if !actor.administers resource.account then .error (.denied actor ("read '" ++ resource.text ++ "'"))
  else
    match m.versions resource with
    | none => .error (missing resource none)
    | some vs =>
      match pick vs version with
      | some value => .ok value
      | none => .error (missing resource version)

def createSecret (actor : Actor) (resource : ResourceId) (value : String) (m : Memory) :
    Except StoreError Unit × Memory :=
  if !actor.administers resource.account then
    (.error (.denied actor ("update '" ++ resource.text ++ "'")), m)
  else if !m.hasAccount resource.account then
    (.error (.notFound ("account '" ++ resource.account ++ "'")), m)
  else
    (.ok (), { m with secrets := m.secrets.insert resource ((m.versions resource).getD [] ++ [value]) })

/-- Performs a call.  Listing, health and the look-up of a role ask for no privilege. -/
def perform (keys : KeySource) : (c : Call) → Memory → Except StoreError c.Result × Memory
  | .listAccounts _, m => (.ok m.accounts, m)
  | .createAccount actor id, m => m.createAccount keys actor id
  | .destroyAccount actor id, m => m.destroyAccount actor id
  | .purge actor, m => m.purge actor
  | .healthCheck, m => (.ok (), m)
  | .findRole role, m => (.ok ((m.key? role).map (Role.mk role)), m)
  | .provision actor role, m => m.provision keys actor role
  | .showSecret actor resource version, m => (m.showSecret actor resource version, m)
  | .createSecret actor resource value, m => m.createSecret actor resource value

/-- The store in memory as a backend. -/
def backend (keys : KeySource) : Backend Memory := ⟨perform keys⟩

@[simp] theorem backend_perform (keys : KeySource) (c : Call) (m : Memory) :
    (backend keys).perform c m = perform keys c m := rfl

end Memory

end Postern
