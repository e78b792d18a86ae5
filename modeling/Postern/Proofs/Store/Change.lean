import Mathlib.Tactic.SplitIfs
import Postern.Store.Memory

/-!
What a call does to the store in memory.  There are five ways to change it, each described by what it does to the
accounts, to the key of a role and to the versions of a secret.  `Change` lists what a call can do
(`change_of_perform`), and the operations that the gateway uses are given as equations in these terms.
-/

namespace Postern.Memory

theorem hasAccount_iff {m : Memory} {id : String} : m.hasAccount id = true ↔ id ∈ m.accounts := by
  rw [hasAccount, List.contains_iff_mem]

theorem hasAccount_eq_false_iff {m : Memory} {id : String} : m.hasAccount id = false ↔ id ∉ m.accounts := by
  rw [← Bool.not_eq_true, hasAccount_iff]

/-! ### The ways to change the store -/

/-- A new account, and the key of its administrator. -/
def addAccount (keys : KeySource) (id : String) (m : Memory) : Memory :=
  { m with
    accounts := m.accounts ++ [id]
    roles := m.roles.insert (RoleId.adminOf id) (keys m.drawn)
    drawn := m.drawn + 1 }

/-- An account is gone, with all that belongs to it. -/
def removeAccount (id : String) (m : Memory) : Memory :=
  { m with
    accounts := m.accounts.filter (· ≠ id)
    roles := m.roles.filterKeys (·.account ≠ id)
    secrets := m.secrets.filterKeys (·.account ≠ id) }

/-- Everything is gone; keys that have been drawn stay drawn. -/
def cleared (m : Memory) : Memory := { empty with drawn := m.drawn }

/-- A role has a key, a new one only where it had none. -/
def giveKey (keys : KeySource) (role : RoleId) (m : Memory) : Memory :=
  match m.key? role with
  | some _ => m
  | none => { m with roles := m.roles.insert role (keys m.drawn), drawn := m.drawn + 1 }

/-- A secret has one more version. -/
def addVersion (resource : ResourceId) (value : String) (m : Memory) : Memory :=
  { m with secrets := m.secrets.insert resource ((m.versions resource).getD [] ++ [value]) }

/-- Roles have keys, new ones only where they had none. -/
def giveKeys (keys : KeySource) (roles : List RoleId) (m : Memory) : Memory :=
  roles.foldl (fun m role => m.giveKey keys role) m

section Views
variable (keys : KeySource) (m : Memory) (id account : String) (role role' : RoleId)
  (resource resource' : ResourceId) (value : String)

@[simp] theorem hasAccount_empty : empty.hasAccount account = false := rfl

@[simp] theorem key?_empty : empty.key? role = none := rfl

@[simp] theorem versions_empty : empty.versions resource = none := rfl

@[simp] theorem accounts_addAccount : (m.addAccount keys id).accounts = m.accounts ++ [id] := rfl

@[simp] theorem hasAccount_addAccount :
    (m.addAccount keys id).hasAccount account = (m.hasAccount account || decide (account = id)) := by
  simp [hasAccount, List.contains_eq_mem, Bool.decide_or]

@[simp] theorem key?_addAccount : (m.addAccount keys id).key? role =
    if RoleId.adminOf id = role then some (keys m.drawn) else m.key? role :=
  Store.Table.find?_insert ..

@[simp] theorem versions_addAccount : (m.addAccount keys id).versions resource = m.versions resource := rfl

@[simp] theorem drawn_addAccount : (m.addAccount keys id).drawn = m.drawn + 1 := rfl

@[simp] theorem accounts_removeAccount : (m.removeAccount id).accounts = m.accounts.filter (· ≠ id) := rfl

@[simp] theorem hasAccount_removeAccount :
    (m.removeAccount id).hasAccount account = (m.hasAccount account && decide (account ≠ id)) := by
  simp [hasAccount, List.contains_eq_mem]

@[simp] theorem key?_removeAccount :
    (m.removeAccount id).key? role = if role.account ≠ id then m.key? role else none := by
  simp [removeAccount, key?]

@[simp] theorem versions_removeAccount :
    (m.removeAccount id).versions resource = if resource.account ≠ id then m.versions resource else none := by
  simp [removeAccount, versions]

@[simp] theorem drawn_removeAccount : (m.removeAccount id).drawn = m.drawn := rfl

@[simp] theorem accounts_cleared : m.cleared.accounts = [] := rfl

@[simp] theorem hasAccount_cleared : m.cleared.hasAccount account = false := rfl

@[simp] theorem key?_cleared : m.cleared.key? role = none := rfl

@[simp] theorem versions_cleared : m.cleared.versions resource = none := rfl

@[simp] theorem drawn_cleared : m.cleared.drawn = m.drawn := rfl

@[simp] theorem accounts_giveKey : (m.giveKey keys role).accounts = m.accounts := by
  unfold giveKey; split <;> rfl

@[simp] theorem hasAccount_giveKey : (m.giveKey keys role).hasAccount account = m.hasAccount account := by
  simp [hasAccount]

@[simp] theorem key?_giveKey : (m.giveKey keys role).key? role' =
    if role = role' then some ((m.key? role).getD (keys m.drawn)) else m.key? role' := by
  unfold giveKey
  split
  · rename_i key h
    by_cases he : role = role'
    · subst he; simp [h]
    · simp [he]
  · rename_i h
    simp only [h, Option.getD_none]
    exact Store.Table.find?_insert ..

@[simp] theorem versions_giveKey : (m.giveKey keys role).versions resource = m.versions resource := by
  unfold giveKey; split <;> rfl

@[simp] theorem drawn_giveKey :
    (m.giveKey keys role).drawn = if (m.key? role).isSome then m.drawn else m.drawn + 1 := by
  unfold giveKey; split <;> simp [*]

@[simp] theorem accounts_addVersion : (m.addVersion resource value).accounts = m.accounts := rfl

@[simp] theorem hasAccount_addVersion : (m.addVersion resource value).hasAccount account = m.hasAccount account := rfl

@[simp] theorem key?_addVersion : (m.addVersion resource value).key? role = m.key? role := rfl

@[simp] theorem versions_addVersion : (m.addVersion resource value).versions resource' =
    if resource = resource' then some ((m.versions resource).getD [] ++ [value]) else m.versions resource' :=
  Store.Table.find?_insert ..

theorem addVersion_ne : m.addVersion resource value ≠ m := by
  intro he
  have hlength := congrArg (fun m => ((m.versions resource).getD []).length) he
  simp at hlength

@[simp] theorem drawn_addVersion : (m.addVersion resource value).drawn = m.drawn := rfl

@[simp] theorem accounts_giveKeys (roles : List RoleId) : (m.giveKeys keys roles).accounts = m.accounts := by
  induction roles generalizing m with
  | nil => rfl
  | cons role roles ih => exact (ih _).trans (accounts_giveKey keys m role)

@[simp] theorem hasAccount_giveKeys (roles : List RoleId) :
    (m.giveKeys keys roles).hasAccount account = m.hasAccount account := by
  simp [hasAccount]

@[simp] theorem versions_giveKeys (roles : List RoleId) :
    (m.giveKeys keys roles).versions resource = m.versions resource := by
  induction roles generalizing m with
  | nil => rfl
  | cons role roles ih => exact (ih _).trans (versions_giveKey keys m role resource)

end Views

/-! ### What a call can do -/

/-- What the store can be after a call: unchanged, or changed as the call asks. -/
inductive Change (keys : KeySource) (m : Memory) : Call → Memory → Prop
  | same (c : Call) : Change keys m c m
  | account {id : String} (h : m.hasAccount id = false) :
    Change keys m (.createAccount .root id) (m.addAccount keys id)
  | removal {id : String} (h : m.hasAccount id) : Change keys m (.destroyAccount .root id) (m.removeAccount id)
  | purge : Change keys m (.purge .root) m.cleared
  | key {actor : Actor} {role : RoleId} (h : m.hasAccount role.account) :
    Change keys m (.provision actor role) (m.giveKey keys role)
  | version {actor : Actor} {resource : ResourceId} {value : String} (h : m.hasAccount resource.account) :
    Change keys m (.createSecret actor resource value) (m.addVersion resource value)

variable {keys : KeySource} {m : Memory} {id : String} {role : RoleId} {resource : ResourceId} {value : String}

theorem createAccount_root : m.createAccount keys .root id =
    if m.hasAccount id then (.error (.conflict ("account '" ++ id ++ "'")), m)
    else (.ok ⟨id, keys m.drawn⟩, m.addAccount keys id) := by
  simp [createAccount, addAccount, Actor.isRoot]

theorem destroyAccount_root : m.destroyAccount .root id =
    if m.hasAccount id then (.ok (), m.removeAccount id)
    else (.error (.notFound ("account '" ++ id ++ "'")), m) := by
  cases h : m.hasAccount id <;> simp [destroyAccount, removeAccount, Actor.isRoot, h]

theorem provision_of_administers {actor : Actor} (h : actor.administers role.account) :
    m.provision keys actor role =
      if m.hasAccount role.account then (.ok ⟨role, (m.key? role).getD (keys m.drawn)⟩, m.giveKey keys role)
      else (.error (.notFound ("account '" ++ role.account ++ "'")), m) := by
  cases ha : m.hasAccount role.account
  · simp [provision, h, ha]
  · cases hk : m.key? role <;> simp [provision, giveKey, h, ha, hk]

theorem createSecret_of_administers {actor : Actor} (h : actor.administers resource.account) :
    m.createSecret actor resource value =
      if m.hasAccount resource.account then (.ok (), m.addVersion resource value)
      else (.error (.notFound ("account '" ++ resource.account ++ "'")), m) := by
  cases ha : m.hasAccount resource.account <;> simp [createSecret, addVersion, h, ha]

theorem showSecret_of_administers {actor : Actor} (h : actor.administers resource.account) (version : Option Nat) :
    match pick ((m.versions resource).getD []) version with
    | some value => m.showSecret actor resource version = .ok value
    | none => ∃ what, m.showSecret actor resource version = .error (.notFound what) := by
  cases hv : m.versions resource with
  | none =>
    have hp : pick [] version = none := by rcases version with _ | _ | v <;> rfl
    simp [showSecret, missing, h, hv, hp]
  | some vs =>
    cases hp : pick vs version with
    | none => cases version <;> simp [showSecret, missing, h, hv, hp]
    | some value => simp [showSecret, h, hv, hp]

/-- Whether a call is granted where there are some accounts.  What only reads leaves the store alone either way. -/
def granted (accounts : List String) : Call → Bool
  | .createAccount actor id => actor.isRoot && !accounts.contains id
  | .destroyAccount actor id => actor.isRoot && accounts.contains id
  | .purge actor => actor.isRoot
  | .provision actor role => actor.administers role.account && accounts.contains role.account
  | .createSecret actor resource _ => actor.administers resource.account && accounts.contains resource.account
  | .listAccounts _ | .healthCheck | .findRole _ | .showSecret _ _ _ => true

/-- The store after a call that is granted. -/
def grant (keys : KeySource) (m : Memory) : Call → Memory
  | .createAccount _ id => m.addAccount keys id
  | .destroyAccount _ id => m.removeAccount id
  | .purge _ => m.cleared
  | .provision _ role => m.giveKey keys role
  | .createSecret _ resource value => m.addVersion resource value
  | .listAccounts _ | .healthCheck | .findRole _ | .showSecret _ _ _ => m

theorem perform_snd (keys : KeySource) (c : Call) (m : Memory) :
    (perform keys c m).2 = if granted m.accounts c then m.grant keys c else m := by
  cases c with
  | createAccount actor id =>
    cases actor with
    | root =>
      by_cases ha : id ∈ m.accounts <;>
        simp [perform, createAccount_root, granted, grant, hasAccount, Actor.isRoot, ha]
    | admin role => rfl
  | destroyAccount actor id =>
    cases actor with
    | root =>
      by_cases ha : id ∈ m.accounts <;>
        simp [perform, destroyAccount_root, granted, grant, hasAccount, Actor.isRoot, ha]
    | admin role => rfl
  | purge actor => cases actor <;> rfl
  | provision actor role =>
    cases h : actor.administers role.account with
    | false => simp [perform, provision, granted, h]
    | true =>
      by_cases ha : role.account ∈ m.accounts <;>
        simp [perform, provision_of_administers h, granted, grant, hasAccount, h, ha]
  | createSecret actor resource value =>
    cases h : actor.administers resource.account with
    | false => simp [perform, createSecret, granted, h]
    | true =>
      by_cases ha : resource.account ∈ m.accounts <;>
        simp [perform, createSecret_of_administers h, granted, grant, hasAccount, h, ha]
  | listAccounts _ | healthCheck | findRole _ | showSecret _ _ _ => rfl

theorem perform_of_error {c : Call} {e : StoreError} (h : (perform keys c m).1 = .error e) :
    (perform keys c m).2 = m := by
  cases c with
  | listAccounts _ | healthCheck | findRole _ | showSecret _ _ _ => rfl
  | purge actor =>
    cases actor with
    | root => cases h
    | admin role => rfl
  | createAccount actor id | destroyAccount actor id | createSecret actor resource value =>
    simp only [perform, createAccount, destroyAccount, createSecret] at h ⊢
    split_ifs at h ⊢
    · rfl
    · rfl
  | provision actor role =>
    simp only [perform, provision] at h ⊢
    split_ifs at h ⊢
    · rfl
    · rfl
    · cases hk : m.key? role with
      | some key => simp [hk] at h
      | none => simp [hk] at h

theorem change_of_perform (keys : KeySource) (c : Call) (m : Memory) : Change keys m c (perform keys c m).2 := by
  rw [perform_snd]
  split
  · rename_i hgranted
    cases c with
    | createAccount actor id =>
      cases actor with
      | root => exact .account (by simpa [granted, hasAccount, Actor.isRoot] using hgranted)
      | admin role => cases hgranted
    | destroyAccount actor id =>
      cases actor with
      | root => exact .removal (by simpa [granted, hasAccount, Actor.isRoot] using hgranted)
      | admin role => cases hgranted
    | purge actor =>
      cases actor with
      | root => exact .purge
      | admin role => cases hgranted
    | provision actor role => exact .key (Bool.and_eq_true_iff.1 hgranted).2
    | createSecret actor resource value => exact .version (Bool.and_eq_true_iff.1 hgranted).2
    | listAccounts _ | healthCheck | findRole _ | showSecret _ _ _ => exact .same _
  · exact .same c

end Postern.Memory
