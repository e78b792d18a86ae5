import Postern.Proofs.Store.Alike

/-!
The store, account by account.  A call that concerns one account leaves alone what lies beyond it
(`Change.sameBeyond`).  What lies within the account afterwards depends on what was there before and on the keys that
are drawn for it, not on anything else in the store (`AgreeSince.perform`).
-/

namespace Postern

/-- The account that a call concerns.  Some calls concern none in particular. -/
def Call.account? : Call → Option String
  | .createAccount _ id | .destroyAccount _ id => some id
  | .findRole role | .provision _ role => some role.account
  | .showSecret _ resource _ | .createSecret _ resource _ => some resource.account
  | .listAccounts _ | .purge _ | .healthCheck => none

namespace Memory

/-! ### Beyond an account -/

/-- Beyond an account two stores hold the same: the other accounts in their order, their roles and their secrets. -/
structure SameBeyond (account : String) (m m' : Memory) : Prop where
  accounts : m'.accounts.filter (· ≠ account) = m.accounts.filter (· ≠ account)
  key : ∀ role, role.account ≠ account → m'.key? role = m.key? role
  versions : ∀ resource, resource.account ≠ account → m'.versions resource = m.versions resource

section Beyond
variable {account : String} {keys : KeySource} {m m' m'' : Memory} {role : RoleId} {resource : ResourceId} {c : Call}

theorem SameBeyond.refl (account : String) (m : Memory) : SameBeyond account m m :=
  ⟨rfl, fun _ _ => rfl, fun _ _ => rfl⟩

theorem SameBeyond.trans (h : SameBeyond account m m') (h' : SameBeyond account m' m'') : SameBeyond account m m'' := by
  refine ⟨h'.accounts.trans h.accounts, fun role hne => ?_, fun resource hne => ?_⟩
  · exact (h'.key role hne).trans (h.key role hne)
  · exact (h'.versions resource hne).trans (h.versions resource hne)

theorem SameBeyond.hasAccount (h : SameBeyond account m m') {other : String} (hne : other ≠ account) :
    m'.hasAccount other = m.hasAccount other := by
  have hmem : ∀ m : Memory, m.hasAccount other = true ↔ other ∈ m.accounts.filter (· ≠ account) := by
    intro m
    simp [Memory.hasAccount, hne]
  rw [Bool.eq_iff_iff, hmem, hmem, h.accounts]

theorem sameBeyond_addAccount (keys : KeySource) (account : String) (m : Memory) :
    SameBeyond account m (m.addAccount keys account) := by
  refine ⟨by simp, fun role hne => ?_, fun _ _ => rfl⟩
  have hadmin : RoleId.adminOf account ≠ role := by
    rintro rfl
    exact hne rfl
  rw [key?_addAccount, if_neg hadmin]

theorem sameBeyond_removeAccount (account : String) (m : Memory) : SameBeyond account m (m.removeAccount account) := by
  refine ⟨by simp, fun role hne => ?_, fun resource hne => ?_⟩
  · rw [key?_removeAccount, if_pos hne]
  · rw [versions_removeAccount, if_pos hne]

theorem sameBeyond_giveKey (keys : KeySource) (role : RoleId) (m : Memory) :
    SameBeyond role.account m (m.giveKey keys role) := by
  refine ⟨by simp, fun other hne => ?_, by simp⟩
  have hother : role ≠ other := by
    rintro rfl
    exact hne rfl
  rw [key?_giveKey, if_neg hother]

theorem sameBeyond_addVersion (resource : ResourceId) (value : String) (m : Memory) :
    SameBeyond resource.account m (m.addVersion resource value) := by
  refine ⟨rfl, fun _ _ => rfl, fun other hne => ?_⟩
  have hother : resource ≠ other := by
    rintro rfl
    exact hne rfl
  rw [versions_addVersion, if_neg hother]

/-- **A call changes nothing beyond the account that it concerns.** -/
theorem Change.sameBeyond (h : Change keys m c m') (hc : c.account? = some account) : SameBeyond account m m' := by
  cases h with
  | same => exact .refl account m
  | purge => cases hc
  | account _ =>
    obtain rfl := Option.some.inj hc
    exact sameBeyond_addAccount ..
  | removal _ =>
    obtain rfl := Option.some.inj hc
    exact sameBeyond_removeAccount ..
  | key _ =>
    obtain rfl := Option.some.inj hc
    exact sameBeyond_giveKey ..
  | version _ =>
    obtain rfl := Option.some.inj hc
    exact sameBeyond_addVersion ..

end Beyond

/-! ### Within an account -/

/-- Two stores hold the same within an account: whether it exists, its roles with their keys, and its secrets. -/
structure SameWithin (account : String) (m m' : Memory) : Prop where
  hasAccount : m.hasAccount account = m'.hasAccount account
  key : ∀ role, role.account = account → m.key? role = m'.key? role
  versions : ∀ resource, resource.account = account → m.versions resource = m'.versions resource

/-- Keys are the same, or they have been drawn at one place after the first `d` and the first `d'` draws. -/
def SameDraw (keys keys' : KeySource) (d d' : Nat) (key key' : String) : Prop :=
  key = key' ∨ ∃ n, keys (d + n) = key ∧ keys' (d' + n) = key'

/-- Two stores hold the same within an account, but for keys that have been drawn since, one after another in both. -/
structure AgreeSince (keys keys' : KeySource) (d d' : Nat) (account : String) (m m' : Memory) : Prop where
  hasAccount : m.hasAccount account = m'.hasAccount account
  key : ∀ role, role.account = account → Option.Rel (SameDraw keys keys' d d') (m.key? role) (m'.key? role)
  versions : ∀ resource, resource.account = account → m.versions resource = m'.versions resource
  drawn : ∃ n, m.drawn = d + n ∧ m'.drawn = d' + n

theorem SameWithin.agreeSince {account : String} {m m' : Memory} (h : SameWithin account m m')
    (keys keys' : KeySource) : AgreeSince keys keys' m.drawn m'.drawn account m m' := by
  refine ⟨h.hasAccount, fun role hrole => ?_, h.versions, 0, rfl, rfl⟩
  rw [h.key role hrole]
  cases m'.key? role with
  | none => exact .none
  | some key => exact .some (.inl rfl)

theorem SameWithin.showSecret {account : String} {m m' : Memory} {resource : ResourceId} (h : SameWithin account m m')
    (hresource : resource.account = account) (actor : Actor) (version : Option Nat) :
    m.showSecret actor resource version = m'.showSecret actor resource version := by
  unfold Memory.showSecret
  rw [h.versions resource hresource]

section Within
variable {keys keys' : KeySource} {d d' : Nat} {account : String} {m m' : Memory} {role : RoleId} {c : Call}

theorem AgreeSince.next (h : AgreeSince keys keys' d d' account m m') :
    SameDraw keys keys' d d' (keys m.drawn) (keys' m'.drawn) := by
  obtain ⟨n, hn, hn'⟩ := h.drawn
  exact .inr ⟨n, by rw [hn], by rw [hn']⟩

theorem AgreeSince.addAccount (h : AgreeSince keys keys' d d' account m m') :
    AgreeSince keys keys' d d' account (m.addAccount keys account) (m'.addAccount keys' account) := by
  refine ⟨by simp, fun role hrole => ?_, h.versions, ?_⟩
  · rw [key?_addAccount, key?_addAccount]
    split
    · exact .some h.next
    · exact h.key role hrole
  · obtain ⟨n, hn, hn'⟩ := h.drawn
    refine ⟨n + 1, ?_, ?_⟩
    · rw [drawn_addAccount, hn, Nat.add_assoc]
    · rw [drawn_addAccount, hn', Nat.add_assoc]

theorem AgreeSince.removeAccount (h : AgreeSince keys keys' d d' account m m') :
    AgreeSince keys keys' d d' account (m.removeAccount account) (m'.removeAccount account) := by
  refine ⟨by simp, fun role hrole => ?_, fun resource hresource => ?_, h.drawn⟩
  · rw [key?_removeAccount, key?_removeAccount, if_neg (not_not.2 hrole), if_neg (not_not.2 hrole)]
    exact .none
  · rw [versions_removeAccount, versions_removeAccount, if_neg (not_not.2 hresource), if_neg (not_not.2 hresource)]

theorem AgreeSince.giveKey (h : AgreeSince keys keys' d d' account m m') (hrole : role.account = account) :
    AgreeSince keys keys' d d' account (m.giveKey keys role) (m'.giveKey keys' role) := by
  refine ⟨by simpa using h.hasAccount, fun other hother => ?_, by simpa using h.versions, ?_⟩
  · rw [key?_giveKey, key?_giveKey]
    split
    · exact .some (rel_getD (h.key role hrole) h.next)
    · exact h.key other hother
  · -- both stores draw a key, or neither of them does
    obtain ⟨n, hn, hn'⟩ := h.drawn
    rw [drawn_giveKey, drawn_giveKey, ← isSome_eq_of_rel (h.key role hrole)]
    split
    · exact ⟨n, hn, hn'⟩
    · exact ⟨n + 1, by omega, by omega⟩

theorem AgreeSince.giveKeys {roles : List RoleId} (h : AgreeSince keys keys' d d' account m m')
    (hroles : ∀ role ∈ roles, role.account = account) :
    AgreeSince keys keys' d d' account (m.giveKeys keys roles) (m'.giveKeys keys' roles) := by
  induction roles generalizing m m' with
  | nil => exact h
  | cons role roles ih =>
    obtain ⟨hrole, hrest⟩ := List.forall_mem_cons.1 hroles
    exact ih (h.giveKey hrole) hrest

theorem AgreeSince.addVersion {resource : ResourceId} (h : AgreeSince keys keys' d d' account m m')
    (hresource : resource.account = account) (value : String) :
    AgreeSince keys keys' d d' account (m.addVersion resource value) (m'.addVersion resource value) := by
  refine ⟨h.hasAccount, h.key, fun other hother => ?_, h.drawn⟩
  rw [versions_addVersion, versions_addVersion, h.versions resource hresource, h.versions other hother]

theorem AgreeSince.granted (h : AgreeSince keys keys' d d' account m m') (hc : c.account? = some account) :
    Memory.granted m.accounts c = Memory.granted m'.accounts c := by
  have haccount : m.accounts.contains account = m'.accounts.contains account := h.hasAccount
  cases c with
  | purge _ => cases hc
  | createAccount _ _ | destroyAccount _ _ | provision _ _ | createSecret _ _ _ =>
    obtain rfl := Option.some.inj hc
    simp only [Memory.granted, haccount]
  | _ => rfl

/-- **What a call leaves within its account** depends on what was there, and on the keys that are drawn. -/
theorem AgreeSince.perform (h : AgreeSince keys keys' d d' account m m') (hc : c.account? = some account) :
    AgreeSince keys keys' d d' account (perform keys c m).2 (perform keys' c m').2 := by
  rw [perform_snd, perform_snd, ← h.granted hc]
  split
  · cases c with
    | purge _ => cases hc
    | createAccount _ _ =>
      obtain rfl := Option.some.inj hc
      exact h.addAccount
    | destroyAccount _ _ =>
      obtain rfl := Option.some.inj hc
      exact h.removeAccount
    | provision _ _ => exact h.giveKey (Option.some.inj hc)
    | createSecret _ _ value => exact h.addVersion (Option.some.inj hc) value
    | _ => exact h
  · exact h

end Within

end Memory
end Postern
