import Postern.Proofs.Store.Alike

/-!
What the store in memory keeps true, whoever calls and whatever names they give.  No account is listed twice, roles and
secrets lie in accounts that are listed, every account has its administrator, and no secret is without a version
(`Coherent`).  Each way to change the store keeps this, so each call does (`Coherent.change`).  It follows that nothing
is left of an account that is not listed (`Coherent.vacant`), and that whoever may read a secret is shown its last
version (`Coherent.showSecret`).
-/

namespace Postern.Memory

/-- Accounts, roles and secrets fit together. -/
structure Coherent (m : Memory) : Prop where
  nodup : m.accounts.Nodup
  housed : m.Housed
  kept : ∀ resource values, m.versions resource = some values → m.hasAccount resource.account
  admin : ∀ id ∈ m.accounts, ∃ key, m.key? (.adminOf id) = some key
  versioned : ∀ resource values, m.versions resource = some values → values ≠ []

/-- An account is not there, and nothing belongs to it. -/
structure Vacant (account : String) (m : Memory) : Prop where
  unlisted : account ∉ m.accounts
  role : ∀ role, role.account = account → m.key? role = none
  resource : ∀ resource, resource.account = account → m.versions resource = none

/-- Nothing is out of place in a store that holds nothing. -/
theorem coherent_cleared (m : Memory) : m.cleared.Coherent where
  nodup := List.nodup_nil
  housed _ _ h := by cases h
  kept _ _ h := by cases h
  admin _ h := by cases h
  versioned _ _ h := by cases h

section Change
variable {keys : KeySource} {m m' : Memory} {c : Call} {id : String} {role : RoleId} {resource : ResourceId}

/-! ### The ways to change the store -/

theorem Coherent.addAccount (hm : m.Coherent) (hid : m.hasAccount id = false) : (m.addAccount keys id).Coherent := by
  have hnew : id ∉ m.accounts := hasAccount_eq_false_iff.1 hid
  have hchange : Change keys m (.createAccount .root id) (m.addAccount keys id) := .account hid
  refine ⟨?nodup, hm.housed.change hchange, fun resource values h => ?kept, fun other h => ?admin,
    hm.versioned⟩
  case nodup =>
    rw [accounts_addAccount]
    exact List.nodup_append.2 ⟨hm.nodup, List.nodup_singleton id, fun a ha b hb he =>
      hnew (List.mem_singleton.1 hb ▸ he ▸ ha)⟩
  case kept => simp [hm.kept resource values h]
  case admin =>
    rw [key?_addAccount]
    split
    · exact ⟨_, rfl⟩
    · rename_i hne
      rw [accounts_addAccount, List.mem_append, List.mem_singleton] at h
      rcases h with h | rfl
      · exact hm.admin other h
      · exact absurd rfl hne

theorem Coherent.removeAccount (hm : m.Coherent) (hid : m.hasAccount id) : (m.removeAccount id).Coherent := by
  have hsecret : ∀ resource values, (m.removeAccount id).versions resource = some values →
      resource.account ≠ id ∧ m.versions resource = some values := by
    intro resource values h
    rwa [versions_removeAccount, Option.ite_none_right_eq_some] at h
  have hchange : Change (fun _ => "") m (.destroyAccount .root id) (m.removeAccount id) := .removal hid
  refine ⟨hm.nodup.filter _, hm.housed.change hchange, fun resource values h => ?kept, fun other h => ?admin,
    fun resource values h => hm.versioned resource values (hsecret resource values h).2⟩
  case kept =>
    obtain ⟨hne, hbefore⟩ := hsecret resource values h
    simp [hm.kept resource values hbefore, hne]
  case admin =>
    obtain ⟨hother, hne⟩ := List.mem_filter.1 h
    have hkept : (RoleId.adminOf other).account ≠ id := of_decide_eq_true hne
    rw [key?_removeAccount, if_pos hkept]
    exact hm.admin other hother

theorem Coherent.giveKey (hm : m.Coherent) (hrole : m.hasAccount role.account) : (m.giveKey keys role).Coherent := by
  have hchange : Change keys m (.provision .root role) (m.giveKey keys role) := .key hrole
  refine ⟨?nodup, hm.housed.change hchange, fun resource values h => ?kept, fun id h => ?admin,
    fun resource values h => ?versioned⟩
  case nodup => simpa using hm.nodup
  case kept =>
    rw [versions_giveKey] at h
    simpa using hm.kept resource values h
  case admin =>
    rw [accounts_giveKey] at h
    rw [key?_giveKey]
    split
    · exact ⟨_, rfl⟩
    · exact hm.admin id h
  case versioned =>
    rw [versions_giveKey] at h
    exact hm.versioned resource values h

theorem Coherent.addVersion (hm : m.Coherent) (hresource : m.hasAccount resource.account) (value : String) :
    (m.addVersion resource value).Coherent := by
  refine ⟨hm.nodup, hm.housed, fun other values h => ?kept, hm.admin, fun other values h => ?versioned⟩
  case kept =>
    rw [versions_addVersion] at h
    split at h
    · rename_i he
      exact he ▸ hresource
    · exact hm.kept other values h
  case versioned =>
    rw [versions_addVersion] at h
    split at h
    · obtain rfl := Option.some.inj h
      simp
    · exact hm.versioned other values h

/-- **Every call keeps the store coherent.** -/
theorem Coherent.change (hm : m.Coherent) (h : Change keys m c m') : m'.Coherent := by
  cases h with
  | same => exact hm
  | account hid => exact hm.addAccount hid
  | removal hid => exact hm.removeAccount hid
  | purge => exact coherent_cleared m
  | key hrole => exact hm.giveKey hrole
  | version hresource => exact hm.addVersion hresource _

end Change

/-! ### What follows -/

section Coherent
variable {keys : KeySource} {m : Memory} {id : String}

theorem Coherent.vacant (hm : m.Coherent) (hid : id ∉ m.accounts) : Vacant id m := by
  have hnone : m.hasAccount id = false := hasAccount_eq_false_iff.2 hid
  refine ⟨hid, fun role hrole => ?_, fun resource hresource => ?_⟩
  · cases hk : m.key? role with
    | none => rfl
    | some key =>
      have hhoused := hm.housed role key hk
      rw [hrole, hnone] at hhoused
      cases hhoused
  · cases hv : m.versions resource with
    | none => rfl
    | some values =>
      have hkept := hm.kept resource values hv
      rw [hresource, hnone] at hkept
      cases hkept

/-- A secret that is there has a last version, and this is what is shown to whoever may read it. -/
theorem Coherent.showSecret (hm : m.Coherent) {resource : ResourceId} {values : List String} {actor : Actor}
    (hv : m.versions resource = some values) (hactor : actor.administers resource.account = true) :
    ∃ last, values.getLast? = some last ∧ m.showSecret actor resource none = .ok last := by
  have hne := hm.versioned resource values hv
  have hlast := List.getLast?_eq_some_getLast hne
  refine ⟨values.getLast hne, hlast, ?_⟩
  simp [Memory.showSecret, hactor, hv, pick, hlast]

/-- Nothing is left of an account that has been destroyed. -/
theorem Coherent.vacant_of_destroyed (hm : m.Coherent) {actor : Actor}
    (h : (perform keys (.destroyAccount actor id) m).1 = .ok ()) :
    Vacant id (perform keys (.destroyAccount actor id) m).2 := by
  refine (hm.change (change_of_perform keys (.destroyAccount actor id) m)).vacant ?_
  cases actor with
  | admin role => cases h
  | root =>
    rw [perform, destroyAccount_root] at h ⊢
    split_ifs at h ⊢
    simp

end Coherent

/-- What can be relied on in a store, whatever is called next. -/
structure Reliable (keys : KeySource) (m : Memory) : Prop where
  coherent : m.Coherent
  /-- A call that fails leaves the whole store as it is. -/
  refused : ∀ c e, (perform keys c m).1 = .error e → (perform keys c m).2 = m
  /-- A secret that is there is shown to whoever may read it. -/
  shown : ∀ actor resource values, m.versions resource = some values → actor.administers resource.account = true →
    ∃ last, values.getLast? = some last ∧ m.showSecret actor resource none = .ok last
  /-- Nothing is left of an account that is not listed. -/
  unlisted : ∀ id, id ∉ m.accounts → Vacant id m
  /-- Nothing is left of an account that has been destroyed. -/
  destroyed : ∀ actor id, (perform keys (.destroyAccount actor id) m).1 = .ok () →
    Vacant id (perform keys (.destroyAccount actor id) m).2

/-- **The store can be relied on after any calls,** whoever makes them and whatever names they give. -/
theorem reliable_reached (keys : KeySource) (calls : List Call) : Reliable keys (reached keys calls) := by
  have hm : (reached keys calls).Coherent :=
    reached_keeps (coherent_cleared empty) (fun _ _ _ hm h => hm.change h) calls
  exact ⟨hm, fun c e h => perform_of_error h, fun actor resource values hv hactor => hm.showSecret hv hactor,
    fun id hid => hm.vacant hid, fun actor id h => hm.vacant_of_destroyed h⟩

end Postern.Memory
