import Mathlib.Data.Finite.Prod
import Mathlib.Logic.Equiv.Fintype
import Postern.Proofs.Store.Keys

/-!
Two stores side by side.  Stores are alike when they have the same accounts, and the same roles and secrets in them,
while their keys are related as one likes; the roles and secrets of one account may be left out as long as it exists
(`Alike`).  What is done to both keeps them alike (`Parallel.perform`).

Stores that hold the same but for keys that have been drawn since hold just the same if the keys are drawn in another
order (`exists_same`).
-/

namespace Postern.Memory

/-- Two stores hold the same: the accounts in their order, the keys of roles, and the versions of secrets. -/
structure Same (m m' : Memory) : Prop where
  accounts : m.accounts = m'.accounts
  key : ∀ role, m.key? role = m'.key? role
  versions : ∀ resource, m.versions resource = m'.versions resource

/-- The store after some calls from the start. -/
def reached (keys : KeySource) (calls : List Call) : Memory :=
  calls.foldl (fun m c => (perform keys c m).2) empty

theorem reached_concat (keys : KeySource) (calls : List Call) (c : Call) :
    reached keys (calls ++ [c]) = (perform keys c (reached keys calls)).2 := by
  simp [reached]

/-- What every call keeps true holds of all stores that are reached. -/
theorem reached_keeps {keys : KeySource} {P : Memory → Prop} (hempty : P empty)
    (hstep : ∀ c m m', P m → Change keys m c m' → P m') (calls : List Call) : P (reached keys calls) := by
  induction calls using List.reverseRecOn with
  | nil => exact hempty
  | append_singleton calls c ih =>
    rw [reached_concat]
    exact hstep c _ _ ih (change_of_perform keys c _)

/-! ### Alike -/

/-- What belongs to an account is compared, unless the account is set apart and exists. -/
def Compared (apart : Option String) (m : Memory) (account : String) : Prop :=
  apart = some account → m.hasAccount account = false

/-- Two stores have the same accounts, and the same roles and versions in those that are compared, with related keys. -/
structure Alike (K : String → String → Prop) (apart : Option String) (m m' : Memory) : Prop where
  accounts : m.accounts = m'.accounts
  key : ∀ role, m.Compared apart role.account → Option.Rel K (m.key? role) (m'.key? role)
  versions : ∀ resource, m.Compared apart resource.account → m.versions resource = m'.versions resource

theorem compared_none (m : Memory) (account : String) : m.Compared none account := fun h => by cases h

section Alike
variable {K : String → String → Prop} {apart : Option String} {m m' : Memory}

theorem Alike.refl (hK : ∀ key, K key key) (apart : Option String) (m : Memory) : Alike K apart m m := by
  refine ⟨rfl, fun role _ => ?_, fun _ _ => rfl⟩
  cases m.key? role with
  | none => exact .none
  | some key => exact .some (hK key)

theorem Alike.setApart (h : Alike K none m m') (apart : Option String) : Alike K apart m m' :=
  ⟨h.accounts, fun role _ => h.key role (compared_none _ _), fun r _ => h.versions r (compared_none _ _)⟩

theorem Alike.of_gone {account : String} (h : Alike K (some account) m m') (hgone : m.hasAccount account = false) :
    Alike K none m m' := by
  have hall : ∀ other, m.Compared (some account) other := by
    intro other he
    obtain rfl := Option.some.inj he
    exact hgone
  exact ⟨h.accounts, fun role _ => h.key role (hall _), fun r _ => h.versions r (hall _)⟩

end Alike

/-! ### Related where they are there -/

section Rel
variable {α β α' β' : Type} {r : α → β → Prop} {r' : α' → β' → Prop} {a : Option α} {b : Option β}

theorem rel_getD {new : α} {new' : β} (h : Option.Rel r a b) (hnew : r new new') : r (a.getD new) (b.getD new') := by
  cases h with
  | none => exact hnew
  | some hr => exact hr

theorem rel_map {f : α → α'} {g : β → β'} (h : Option.Rel r a b) (hfg : ∀ x y, r x y → r' (f x) (g y)) :
    Option.Rel r' (a.map f) (b.map g) := by
  cases h with
  | none => exact .none
  | some hr => exact .some (hfg _ _ hr)

theorem rel_imp {s : α → β → Prop} (h : Option.Rel r a b) (himp : ∀ x y, a = some x → r x y → s x y) :
    Option.Rel s a b := by
  cases h with
  | none => exact .none
  | some hr => exact .some (himp _ _ rfl hr)

theorem isSome_eq_of_rel (h : Option.Rel r a b) : a.isSome = b.isSome := by
  cases h <;> rfl

end Rel

/-! ### One way to change both -/

section Alike
variable {K : String → String → Prop} {apart : Option String} {keys keys' : KeySource} {m m' : Memory}
  {id : String} {role : RoleId} {resource : ResourceId} {value : String}

theorem Alike.addAccount (h : Alike K apart m m') (hnew : K (keys m.drawn) (keys' m'.drawn)) :
    Alike K apart (m.addAccount keys id) (m'.addAccount keys' id) := by
  have hbefore : ∀ {account}, (m.addAccount keys id).Compared apart account → m.Compared apart account := by
    intro account hc he
    have := hc he
    simp_all
  refine ⟨by simp [h.accounts], fun role hc => ?_, fun resource hc => ?_⟩
  · rw [key?_addAccount, key?_addAccount]
    split
    · exact .some hnew
    · exact h.key role (hbefore hc)
  · exact h.versions resource (hbefore hc)

theorem Alike.removeAccount (h : Alike K apart m m') : Alike K apart (m.removeAccount id) (m'.removeAccount id) := by
  have hbefore : ∀ {account}, account ≠ id → (m.removeAccount id).Compared apart account →
      m.Compared apart account := by
    intro account hne hc he
    have := hc he
    simp_all
  refine ⟨by simp [h.accounts], fun role hc => ?_, fun resource hc => ?_⟩
  · rw [key?_removeAccount, key?_removeAccount]
    split
    · exact h.key role (hbefore ‹_› hc)
    · exact .none
  · rw [versions_removeAccount, versions_removeAccount]
    split
    · exact h.versions resource (hbefore ‹_› hc)
    · rfl

theorem Alike.cleared : Alike K apart m.cleared m'.cleared := ⟨rfl, fun _ _ => .none, fun _ _ => rfl⟩

theorem compared_giveKey {account : String} :
    (m.giveKey keys role).Compared apart account ↔ m.Compared apart account := by
  simp [Compared]

theorem Alike.giveKey (h : Alike K apart m m') (hnew : K (keys m.drawn) (keys' m'.drawn)) :
    Alike K apart (m.giveKey keys role) (m'.giveKey keys' role) := by
  refine ⟨by simp [h.accounts], fun other hc => ?_, fun resource hc => ?_⟩
  · rw [compared_giveKey] at hc
    rw [key?_giveKey, key?_giveKey]
    split
    · rename_i he
      exact .some (rel_getD (h.key role (he ▸ hc)) hnew)
    · exact h.key other hc
  · rw [compared_giveKey] at hc
    simpa using h.versions resource hc

theorem Alike.addVersion (h : Alike K apart m m') :
    Alike K apart (m.addVersion resource value) (m'.addVersion resource value) := by
  refine ⟨h.accounts, h.key, fun other hc => ?_⟩
  rw [versions_addVersion, versions_addVersion]
  split
  · rename_i he
    rw [h.versions resource (he ▸ hc)]
  · exact h.versions other hc

/-! ### A change to one of them, in the account that is set apart -/

theorem Alike.giveKey_left (h : Alike K (some role.account) m m') (ha : m.hasAccount role.account) :
    Alike K (some role.account) (m.giveKey keys role) m' := by
  refine ⟨by simp [h.accounts], fun other hc => ?_, fun resource hc => ?_⟩
  · rw [compared_giveKey] at hc
    have hne : role ≠ other := by
      rintro rfl
      exact absurd (hc rfl) (by simp [ha])
    rw [key?_giveKey, if_neg hne]
    exact h.key other hc
  · rw [compared_giveKey] at hc
    simpa using h.versions resource hc

theorem Alike.addVersion_left (h : Alike K (some resource.account) m m') (ha : m.hasAccount resource.account) :
    Alike K (some resource.account) (m.addVersion resource value) m' := by
  refine ⟨h.accounts, h.key, fun other hc => ?_⟩
  have hne : resource ≠ other := by
    rintro rfl
    exact absurd (hc rfl) (by simp [ha])
  rw [versions_addVersion, if_neg hne]
  exact h.versions other hc

end Alike

/-! ### Calls on both -/

/-- What is done to two stores keeps them related, when each draws from its own source of keys. -/
structure Parallel (keys keys' : KeySource) (R : Memory → Memory → Prop) : Prop where
  accounts : ∀ {m m'}, R m m' → m.accounts = m'.accounts
  addAccount : ∀ {m m'} id, R m m' → R (m.addAccount keys id) (m'.addAccount keys' id)
  removeAccount : ∀ {m m'} id, R m m' → R (m.removeAccount id) (m'.removeAccount id)
  cleared : ∀ {m m'}, R m m' → R m.cleared m'.cleared
  giveKey : ∀ {m m'} role, R m m' → R (m.giveKey keys role) (m'.giveKey keys' role)
  addVersion : ∀ {m m'} resource value, R m m' → R (m.addVersion resource value) (m'.addVersion resource value)

section Parallel
variable {keys keys' : KeySource} {R : Memory → Memory → Prop} {m m' : Memory}

theorem Parallel.hasAccount (hR : Parallel keys keys' R) (h : R m m') (account : String) :
    m.hasAccount account = m'.hasAccount account := by
  simp [Memory.hasAccount, hR.accounts h]

/-- **A call on both keeps them related.** -/
theorem Parallel.perform (hR : Parallel keys keys' R) (h : R m m') (c : Call) :
    R (perform keys c m).2 (perform keys' c m').2 := by
  rw [perform_snd, perform_snd, ← hR.accounts h]
  split
  · cases c with
    | createAccount _ id => exact hR.addAccount id h
    | destroyAccount _ id => exact hR.removeAccount id h
    | purge _ => exact hR.cleared h
    | provision _ role => exact hR.giveKey role h
    | createSecret _ resource value => exact hR.addVersion resource value h
    | listAccounts _ | healthCheck | findRole _ | showSecret _ _ _ => exact h
  · exact h

theorem Parallel.reached (hR : Parallel keys keys' R) (hempty : R empty empty) (calls : List Call) :
    R (reached keys calls) (reached keys' calls) := by
  induction calls using List.reverseRecOn with
  | nil => exact hempty
  | append_singleton calls c ih =>
    rw [reached_concat, reached_concat]
    exact hR.perform ih c

end Parallel

/-! ### Keys that have been drawn since -/

/-- Keys are the same, or both have been drawn after the first `d` ones. -/
def SameOrLater (keys keys' : KeySource) (d : Nat) (key key' : String) : Prop :=
  key = key' ∨ (∃ n, d ≤ n ∧ keys n = key) ∧ ∃ n, d ≤ n ∧ keys' n = key'

/-- Two stores are alike but for keys that have been drawn after the first `d` ones. -/
structure AlikeSince (keys keys' : KeySource) (d : Nat) (apart : Option String) (m m' : Memory) : Prop where
  alike : Alike (SameOrLater keys keys' d) apart m m'
  drawn : d ≤ m.drawn
  drawn' : d ≤ m'.drawn

section Since
variable {keys keys' : KeySource} {d : Nat} {m m' : Memory}

theorem AlikeSince.next {apart : Option String} (h : AlikeSince keys keys' d apart m m') :
    SameOrLater keys keys' d (keys m.drawn) (keys' m'.drawn) :=
  .inr ⟨⟨_, h.drawn, rfl⟩, _, h.drawn', rfl⟩

theorem AlikeSince.refl (keys keys' : KeySource) (apart : Option String) (m : Memory) :
    AlikeSince keys keys' m.drawn apart m m :=
  ⟨.refl (fun _ => .inl rfl) apart m, le_rfl, le_rfl⟩

theorem drawn_le_giveKey (keys : KeySource) (m : Memory) (role : RoleId) : m.drawn ≤ (m.giveKey keys role).drawn := by
  rw [drawn_giveKey]
  split <;> omega

theorem parallel_since (keys keys' : KeySource) (d : Nat) (apart : Option String) :
    Parallel keys keys' (AlikeSince keys keys' d apart) where
  accounts h := h.alike.accounts
  addAccount _ h := ⟨h.alike.addAccount h.next, h.drawn.trans (Nat.le_succ _), h.drawn'.trans (Nat.le_succ _)⟩
  removeAccount _ h := ⟨h.alike.removeAccount, h.drawn, h.drawn'⟩
  cleared h := ⟨.cleared, h.drawn, h.drawn'⟩
  giveKey _ h :=
    ⟨h.alike.giveKey h.next, h.drawn.trans (drawn_le_giveKey ..), h.drawn'.trans (drawn_le_giveKey ..)⟩
  addVersion _ _ h := ⟨h.alike.addVersion, h.drawn, h.drawn'⟩

end Since

/-! ### The same keys in another order -/

/-- Two stores hold the same, where a key of one source stands for the key that the other source has at its place. -/
structure Redrawn (keys keys' : KeySource) (m m' : Memory) : Prop where
  alike : Alike (fun key key' => ∃ n, keys n = key ∧ keys' n = key') none m m'
  drawn : m.drawn = m'.drawn

theorem parallel_redrawn (keys keys' : KeySource) : Parallel keys keys' (Redrawn keys keys') where
  accounts h := h.alike.accounts
  addAccount _ h := ⟨h.alike.addAccount ⟨_, rfl, by rw [h.drawn]⟩, by simp [h.drawn]⟩
  removeAccount _ h := ⟨h.alike.removeAccount, h.drawn⟩
  cleared h := ⟨.cleared, h.drawn⟩
  giveKey role h := by
    have hhas := isSome_eq_of_rel (h.alike.key role (compared_none _ _))
    exact ⟨h.alike.giveKey ⟨_, rfl, by rw [h.drawn]⟩, by simp [hhas, h.drawn]⟩
  addVersion _ _ h := ⟨h.alike.addVersion, h.drawn⟩

theorem redrawn_empty (keys keys' : KeySource) : Redrawn keys keys' empty empty :=
  ⟨⟨rfl, fun _ _ => .none, fun _ _ => rfl⟩, rfl⟩

section Reordering
variable {tag : KeySource} (htag : Function.Injective tag) {d : Nat} {m m' : Memory}

/-- The draw `n` of one store stands for the draw `n'` of the other: it is one of the first `d` draws, or a role holds
the one key here and the other there. -/
def Corresponds (tag : KeySource) (d : Nat) (m m' : Memory) (n n' : Nat) : Prop :=
  (n = n' ∧ n < d) ∨ ∃ role, m.key? role = some (tag n) ∧ m'.key? role = some (tag n')

theorem Corresponds.symm {n n' : Nat} (h : Corresponds tag d m m' n n') : Corresponds tag d m' m n' n := by
  rcases h with ⟨rfl, hn⟩ | ⟨role, hk, hk'⟩
  · exact .inl ⟨rfl, hn⟩
  · exact .inr ⟨role, hk', hk⟩

theorem AlikeSince.symm (h : AlikeSince tag tag d none m m') : AlikeSince tag tag d none m' m := by
  refine ⟨⟨h.alike.accounts.symm, fun role _ => ?_, fun r _ => (h.alike.versions r (compared_none _ _)).symm⟩,
    h.drawn', h.drawn⟩
  have hk := h.alike.key role (compared_none _ _)
  revert hk
  generalize m.key? role = key, m'.key? role = key'
  rintro (hK | _)
  · refine .some ?_
    rcases hK with rfl | ⟨hlater, hlater'⟩
    · exact .inl rfl
    · exact .inr ⟨hlater', hlater⟩
  · exact .none

include htag

/-- A role that holds one of the first keys holds it in both stores. -/
theorem AlikeSince.eq_of_lt (h : AlikeSince tag tag d none m m') {role : RoleId} {n n' : Nat} (hn : n < d)
    (hk : m.key? role = some (tag n)) (hk' : m'.key? role = some (tag n')) : n = n' := by
  have hrel := h.alike.key role (compared_none _ _)
  rw [hk, hk'] at hrel
  cases hrel with
  | some hK =>
    rcases hK with he | ⟨⟨k, hk, he⟩, -⟩
    · exact htag he
    · exact absurd (htag he) (by omega)

theorem Corresponds.unique (h : AlikeSince tag tag d none m m') (hm : KeysSound tag m) {n n₁ n₂ : Nat}
    (h₁ : Corresponds tag d m m' n n₁) (h₂ : Corresponds tag d m m' n n₂) : n₁ = n₂ := by
  rcases h₁ with ⟨rfl, hn⟩ | ⟨role₁, hk₁, hk₁'⟩ <;> rcases h₂ with ⟨rfl, hn'⟩ | ⟨role₂, hk₂, hk₂'⟩
  · rfl
  · exact h.eq_of_lt htag hn hk₂ hk₂'
  · exact (h.eq_of_lt htag hn' hk₁ hk₁').symm
  · obtain rfl := hm.unique hk₁ hk₂
    exact htag (Option.some.inj (hk₁'.symm.trans hk₂'))

/-- **Drawing in another order gives the same keys.**  Where stores are alike but for later keys, a permutation of the
draws takes those of the one to those of the other, and leaves the first draws alone. -/
theorem exists_reordering (h : AlikeSince tag tag d none m m') (hm : KeysSound tag m) (hm' : KeysSound tag m') :
    ∃ σ : Equiv.Perm Nat, (∀ n < d, σ n = n) ∧
      ∀ role n n', m.key? role = some (tag n) → m'.key? role = some (tag n') → σ n' = n := by
  -- only draws that have been made correspond to each other, so there are finitely many pairs of them
  have hbound : ∀ n n', Corresponds tag d m m' n n' → n < m.drawn ∧ n' < m'.drawn := by
    rintro n n' (⟨rfl, hn⟩ | ⟨role, hk, hk'⟩)
    · exact ⟨hn.trans_le h.drawn, hn.trans_le h.drawn'⟩
    · obtain ⟨k, hlt, he⟩ := hm.drawn hk
      obtain ⟨k', hlt', he'⟩ := hm'.drawn hk'
      obtain rfl := htag he
      obtain rfl := htag he'
      exact ⟨hlt, hlt'⟩
  let pairs : Set (Nat × Nat) := {p | Corresponds tag d m m' p.1 p.2}
  have hfinite : pairs.Finite :=
    ((Set.finite_lt_nat m.drawn).prod (Set.finite_lt_nat m'.drawn)).subset fun p hp => hbound _ _ hp
  have : Finite pairs := hfinite
  have hfst : Function.Injective fun p : pairs => p.1.1 := by
    rintro ⟨⟨n, n₁⟩, h₁⟩ ⟨⟨n₀, n₂⟩, h₂⟩ he
    obtain rfl : n = n₀ := he
    obtain rfl := Corresponds.unique htag h hm h₁ h₂
    rfl
  have hsnd : Function.Injective fun p : pairs => p.1.2 := by
    rintro ⟨⟨n₁, n⟩, h₁⟩ ⟨⟨n₂, n₀⟩, h₂⟩ he
    obtain rfl : n = n₀ := he
    obtain rfl := Corresponds.unique htag h.symm hm' (Corresponds.symm h₁) (Corresponds.symm h₂)
    rfl
  obtain ⟨σ, hσ⟩ := Equiv.Perm.exists_extending_pair _ _ hsnd hfst
  refine ⟨σ, fun n hn => ?_, fun role n n' hk hk' => ?_⟩
  · exact hσ ⟨(n, n), .inl ⟨rfl, hn⟩⟩
  · exact hσ ⟨(n, n'), .inr ⟨role, hk, hk'⟩⟩

omit htag in
theorem eq_of_reordering {K : String → String → Prop} {keys : KeySource} {σ : Equiv.Perm Nat}
    {key key' held held' : Option String} (h : Option.Rel K key key')
    (hheld : Option.Rel (fun key held => ∃ n, tag n = key ∧ keys n = held) key held)
    (hheld' : Option.Rel (fun key held => ∃ n, tag n = key ∧ (keys ∘ σ) n = held) key' held')
    (hσ : ∀ n n', key = some (tag n) → key' = some (tag n') → σ n' = n) : held = held' := by
  cases h with
  | none =>
    cases hheld
    cases hheld'
    rfl
  | some _ =>
    cases hheld with
    | some hn =>
      cases hheld' with
      | some hn' =>
        obtain ⟨n, rfl, rfl⟩ := hn
        obtain ⟨n', rfl, rfl⟩ := hn'
        rw [Function.comp_apply, hσ n n' rfl rfl]

omit htag in
/-- Stores that are alike but for later keys hold the same when their keys are drawn from one source, in two orders. -/
theorem same_of_reordering {keys : KeySource} {σ : Equiv.Perm Nat} {r r' : Memory}
    (h : AlikeSince tag tag d none m m')
    (hσ : ∀ role n n', m.key? role = some (tag n) → m'.key? role = some (tag n') → σ n' = n)
    (hr : Redrawn tag keys m r) (hr' : Redrawn tag (keys ∘ σ) m' r') : Same r r' := by
  refine ⟨?accounts, fun role => ?key, fun resource => ?versions⟩
  case accounts => rw [← hr.alike.accounts, h.alike.accounts, hr'.alike.accounts]
  case versions =>
    rw [← hr.alike.versions resource (compared_none _ _), h.alike.versions resource (compared_none _ _),
      hr'.alike.versions resource (compared_none _ _)]
  case key =>
    exact eq_of_reordering (h.alike.key role (compared_none _ _)) (hr.alike.key role (compared_none _ _))
      (hr'.alike.key role (compared_none _ _)) (hσ role)

/-- **Stores that are alike but for later keys hold the same, up to the order in which these are drawn,** whatever the
source is that the keys are drawn from. -/
theorem exists_same (h : AlikeSince tag tag d none m m') (hm : KeysSound tag m) (hm' : KeysSound tag m') :
    ∃ σ : Equiv.Perm Nat, (∀ n < d, σ n = n) ∧
      ∀ (keys : KeySource) (r r' : Memory), Redrawn tag keys m r → Redrawn tag (keys ∘ σ) m' r' → Same r r' := by
  obtain ⟨σ, hfirst, hσ⟩ := exists_reordering htag h hm hm'
  exact ⟨σ, hfirst, fun keys r r' hr hr' => same_of_reordering h hσ hr hr'⟩

/-- What is drawn later does not matter to a store. -/
theorem Redrawn.reorder {keys : KeySource} {σ : Equiv.Perm Nat} {r : Memory} (h : Redrawn tag keys m r)
    (hm : KeysSound tag m) (hσ : ∀ n < m.drawn, σ n = n) : Redrawn tag (keys ∘ σ) m r := by
  refine ⟨⟨h.alike.accounts, fun role hc => rel_imp (h.alike.key role hc) ?_, h.alike.versions⟩, h.drawn⟩
  rintro _ _ hk ⟨n, rfl, rfl⟩
  obtain ⟨n', hn, he⟩ := hm.drawn hk
  obtain rfl := htag he
  exact ⟨n', rfl, by rw [Function.comp_apply, hσ n' hn]⟩

end Reordering

end Postern.Memory
