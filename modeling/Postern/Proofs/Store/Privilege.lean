import Postern.Proofs.Store.Within

/-!
Who may do what in the store in memory.  Whether a call is forbidden can be seen from the call alone
(`perform_of_not_permitted`, `perform_error_cases`), so nobody learns from a refusal what there is in the store.  The
administrator of an account can neither change nor see what lies beyond it (`confined`).
-/

namespace Postern

/-- The identity that a call is made as, if it needs one. -/
def Call.actor? : Call → Option Actor
  | .listAccounts actor | .createAccount actor _ | .destroyAccount actor _ | .purge actor => some actor
  | .provision actor _ | .showSecret actor _ _ | .createSecret actor _ _ => some actor
  | .healthCheck | .findRole _ => none

/-- Whether a call is made as someone who has the right to it. -/
def Call.isPermitted : Call → Bool
  | .createAccount actor _ | .destroyAccount actor _ | .purge actor => actor.isRoot
  | .provision actor role => actor.administers role.account
  | .showSecret actor resource _ | .createSecret actor resource _ => actor.administers resource.account
  | .listAccounts _ | .healthCheck | .findRole _ => true

namespace Memory

section Permitted
variable {keys : KeySource} {m : Memory} {c : Call} {e : StoreError}

/-- **A call without the right to it is refused,** whatever the store holds, and leaves it as it is. -/
theorem perform_of_not_permitted (hc : c.isPermitted = false) :
    ∃ actor action, c.actor? = some actor ∧ ∀ keys m, perform keys c m = (.error (.denied actor action), m) := by
  cases c with
  | createAccount actor id =>
    have hroot : actor.isRoot = false := hc
    exact ⟨actor, _, rfl, fun _ _ => if_pos (congrArg not hroot)⟩
  | destroyAccount actor id =>
    have hroot : actor.isRoot = false := hc
    exact ⟨actor, _, rfl, fun _ _ => if_pos (congrArg not hroot)⟩
  | purge actor =>
    have hroot : actor.isRoot = false := hc
    exact ⟨actor, _, rfl, fun _ _ => if_pos (congrArg not hroot)⟩
  | provision actor role =>
    have hadmin : actor.administers role.account = false := hc
    exact ⟨actor, _, rfl, fun _ _ => if_pos (congrArg not hadmin)⟩
  | showSecret actor resource version =>
    have hadmin : actor.administers resource.account = false := hc
    exact ⟨actor, _, rfl, fun _ _ => Prod.ext (if_pos (congrArg not hadmin)) rfl⟩
  | createSecret actor resource value =>
    have hadmin : actor.administers resource.account = false := hc
    exact ⟨actor, _, rfl, fun _ _ => if_pos (congrArg not hadmin)⟩
  | listAccounts _ | healthCheck | findRole _ => cases hc

theorem isRoot_iff {actor : Actor} : actor.isRoot = true ↔ actor = .root := by
  cases actor <;> simp [Actor.isRoot]

/-- **Why a call fails that is permitted:** something is not there, or an account is there already. -/
theorem perform_error_cases (hc : c.isPermitted = true) (h : (perform keys c m).1 = .error e) :
    (∃ what, e = .notFound what) ∨ c.method = .createAccount ∧ ∃ what, e = .conflict what := by
  cases c with
  | listAccounts _ | healthCheck | findRole _ => cases h
  | createAccount actor id =>
    obtain rfl := isRoot_iff.1 hc
    rw [perform, createAccount_root] at h
    split at h
    · cases h
      exact .inr ⟨rfl, _, rfl⟩
    · cases h
  | destroyAccount actor id =>
    obtain rfl := isRoot_iff.1 hc
    rw [perform, destroyAccount_root] at h
    split at h
    · cases h
    · cases h
      exact .inl ⟨_, rfl⟩
  | purge actor =>
    obtain rfl := isRoot_iff.1 hc
    cases h
  | provision actor role =>
    rw [perform, provision_of_administers hc] at h
    split at h
    · cases h
    · cases h
      exact .inl ⟨_, rfl⟩
  | createSecret actor resource value =>
    rw [perform, createSecret_of_administers hc] at h
    split at h
    · cases h
    · cases h
      exact .inl ⟨_, rfl⟩
  | showSecret actor resource version =>
    have hshown := showSecret_of_administers (m := m) hc version
    have hfailed : m.showSecret actor resource version = .error e := h
    split at hshown
    · rw [hshown] at hfailed
      cases hfailed
    · obtain ⟨what, hwhat⟩ := hshown
      rw [hwhat] at hfailed
      cases hfailed
      exact .inl ⟨what, rfl⟩

end Permitted

/-! ### Administrators -/

/-- What goes beyond the rights of an account's administrator: to create and to remove accounts, and to touch the roles
and secrets of others. -/
def Oversteps (account : String) : Call → Prop
  | .createAccount _ _ | .destroyAccount _ _ | .purge _ => True
  | .provision _ role => role.account ≠ account
  | .showSecret _ resource _ | .createSecret _ resource _ => resource.account ≠ account
  | .listAccounts _ | .healthCheck | .findRole _ => False

/-- Two results of one call are the same, or both show the role that has just got the next key of its store. -/
def SameResult (keys keys' : KeySource) (m m' : Memory) :
    (c : Call) → Except StoreError c.Result → Except StoreError c.Result → Prop
  | .provision _ role, result, result' => result = result' ∨
    m.key? role = none ∧ result = .ok ⟨role, keys m.drawn⟩ ∧ result' = .ok ⟨role, keys' m'.drawn⟩
  | _, result, result' => result = result'

/-- What a call can do that nobody but the administrator `role` makes. -/
structure Confined (keys : KeySource) (role : RoleId) (m : Memory) (c : Call) : Prop where
  /-- What oversteps is forbidden, in the same words in every store, and changes nothing. -/
  denied : Oversteps role.account c →
    ∃ action, ∀ keys m, perform keys c m = (.error (.denied (.admin role) action), m)
  /-- Nothing else is forbidden. -/
  allowed : ¬ Oversteps role.account c → ∀ who action, (perform keys c m).1 ≠ .error (.forbidden who action)
  accounts : (perform keys c m).2.accounts = m.accounts
  key : ∀ other, other.account ≠ role.account → (perform keys c m).2.key? other = m.key? other
  versions : ∀ resource, resource.account ≠ role.account →
    (perform keys c m).2.versions resource = m.versions resource
  /-- What comes of a call within the account is the same over every store that holds the same there. -/
  within : c.account? = some role.account → ∀ keys' m', SameWithin role.account m m' →
    SameResult keys keys' m m' c (perform keys c m).1 (perform keys' c m').1 ∧
      AgreeSince keys keys' m.drawn m'.drawn role.account (perform keys c m).2 (perform keys' c m').2

section Admin
variable {keys keys' : KeySource} {role : RoleId} {m m' : Memory} {c : Call}

theorem not_isPermitted_iff (hc : ∀ actor ∈ c.actor?, actor = .admin role) :
    c.isPermitted = false ↔ Oversteps role.account c := by
  have hadmin : ∀ account, (Actor.admin role).administers account = false ↔ account ≠ role.account := by
    intro account
    simp [Actor.administers, eq_comm]
  cases c with
  | healthCheck | findRole _ | listAccounts _ => exact iff_of_false Bool.noConfusion id
  | createAccount _ _ | destroyAccount _ _ | purge _ =>
    obtain rfl := hc _ rfl
    exact iff_of_true rfl trivial
  | provision _ _ | showSecret _ _ _ | createSecret _ _ _ =>
    obtain rfl := hc _ rfl
    exact hadmin _

/-- What an administrator has the right to concerns the roles and secrets of the account, or changes nothing. -/
theorem sameBeyond_of_not_oversteps (hover : ¬ Oversteps role.account c) :
    (perform keys c m).2.accounts = m.accounts ∧ SameBeyond role.account m (perform keys c m).2 := by
  have hchange := change_of_perform keys c m
  generalize (perform keys c m).2 = m' at hchange
  cases hchange with
  | same => exact ⟨rfl, .refl ..⟩
  | account _ | removal _ | purge => exact absurd trivial hover
  | @key _ new _ =>
    have hnew : new.account = role.account := not_not.1 hover
    exact ⟨accounts_giveKey .., hnew ▸ sameBeyond_giveKey keys new m⟩
  | @version _ resource value _ =>
    have hresource : resource.account = role.account := not_not.1 hover
    exact ⟨rfl, hresource ▸ sameBeyond_addVersion resource value m⟩

theorem sameResult_of_denied {e : StoreError} (h : ∀ keys m, perform keys c m = (.error e, m)) :
    SameResult keys keys' m m' c (perform keys c m).1 (perform keys' c m').1 := by
  rw [h, h]
  cases c with
  | provision _ _ => exact .inl rfl
  | _ => rfl

theorem sameResult_within (hc : ∀ actor ∈ c.actor?, actor = .admin role) (hover : ¬ Oversteps role.account c)
    (haccount : c.account? = some role.account) (h : SameWithin role.account m m') :
    SameResult keys keys' m m' c (perform keys c m).1 (perform keys' c m').1 := by
  have hadmin : c.isPermitted = true := by
    rw [← Bool.not_eq_false, not_isPermitted_iff hc]
    exact hover
  cases c with
  | listAccounts _ | purge _ | healthCheck => cases haccount
  | createAccount _ _ | destroyAccount _ _ => exact absurd trivial hover
  | findRole sought =>
    show Except.ok ((m.key? sought).map (Role.mk sought)) = .ok ((m'.key? sought).map (Role.mk sought))
    rw [h.key sought (Option.some.inj haccount)]
  | showSecret actor resource version => exact h.showSecret (Option.some.inj haccount) actor version
  | createSecret _ resource value =>
    have hresource : resource.account = role.account := Option.some.inj haccount
    have hthere : m.hasAccount resource.account = m'.hasAccount resource.account := by
      rw [hresource]
      exact h.hasAccount
    show (createSecret _ _ _ m).1 = (createSecret _ _ _ m').1
    rw [createSecret_of_administers hadmin, createSecret_of_administers hadmin, ← hthere]
    split <;> rfl
  | provision _ new =>
    have hnew : new.account = role.account := Option.some.inj haccount
    have hthere : m.hasAccount new.account = m'.hasAccount new.account := by
      rw [hnew]
      exact h.hasAccount
    simp only [SameResult, perform, provision_of_administers hadmin, ← hthere, ← h.key new hnew]
    cases m.hasAccount new.account with
    | false => exact .inl rfl
    | true =>
      cases hkey : m.key? new with
      | some key => exact .inl rfl
      | none => exact .inr ⟨rfl, rfl, rfl⟩

/-- **Administrators are confined to their accounts,** whoever they are, whatever they call and whatever the store
holds. -/
theorem confined (keys : KeySource) (m : Memory) (hc : ∀ actor ∈ c.actor?, actor = .admin role) :
    Confined keys role m c := by
  by_cases hover : Oversteps role.account c
  · obtain ⟨actor, action, hactor, hdenied⟩ := perform_of_not_permitted ((not_isPermitted_iff hc).2 hover)
    obtain rfl := hc actor hactor
    have hsame : (perform keys c m).2 = m := by rw [hdenied]
    refine ⟨fun _ => ⟨action, hdenied⟩, fun h => absurd hover h, ?_, ?_, ?_, fun haccount keys' m' h => ?_⟩
    · rw [hsame]
    · intro other _
      rw [hsame]
    · intro resource _
      rw [hsame]
    · exact ⟨sameResult_of_denied hdenied, (h.agreeSince keys keys').perform haccount⟩
  · obtain ⟨haccounts, hbeyond⟩ := sameBeyond_of_not_oversteps hover
    refine ⟨fun h => absurd h hover, fun _ who action hforbidden => ?_, haccounts, hbeyond.key, hbeyond.versions,
      fun haccount keys' m' h => ?_⟩
    · have hpermitted : c.isPermitted = true := by
        rw [← Bool.not_eq_false, not_isPermitted_iff hc]
        exact hover
      rcases perform_error_cases hpermitted hforbidden with ⟨what, he⟩ | ⟨-, what, he⟩
      · cases he
      · cases he
    · exact ⟨sameResult_within hc hover haccount h, (h.agreeSince keys keys').perform haccount⟩

/-- The host `a:host:h` may read what is in `a`, and is not told whether `ab` has the secret it asks for. -/
theorem confined_neighbour :
    let role : RoleId := ⟨"a", "host", "h"⟩
    let foreign : ResourceId := ⟨"ab", "variable", "x"⟩
    let m := reached (fun _ => "key") [.createAccount .root "a", .createAccount .root "ab",
      .createSecret .root foreign "v"]
    (∀ actor ∈ (Call.showSecret (.admin role) foreign none).actor?, actor = .admin role) ∧
      Confined (fun _ => "key") role m (.showSecret (.admin role) foreign none) ∧
      ∃ action, ∀ keys m, perform keys (.showSecret (.admin role) foreign none) m =
        (.error (.denied (.admin role) action), m) := by
  intro role foreign m
  have hc : ∀ actor ∈ (Call.showSecret (.admin role) foreign none).actor?, actor = .admin role :=
    fun _ h => (Option.some.inj h).symm
  have hconfined := confined (fun _ => "key") m hc
  have hover : Oversteps role.account (.showSecret (.admin role) foreign none) :=
    (by decide : "ab" ≠ "a")
  exact ⟨hc, hconfined, hconfined.denied hover⟩

end Admin
end Memory
end Postern
