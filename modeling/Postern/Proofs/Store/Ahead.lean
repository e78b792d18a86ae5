import Postern.Proofs.Store.Alike

/-!
A store that is ahead of another.  Both hold the same, but some roles that have their keys in the one are still to get
them in the other (`Ahead`).  A key that is given in both, or in either of them where it is due, keeps it so.  When no
role is due any more, the stores are alike.

As long as no account is removed, accounts and keys stay (`Kept`).
-/

namespace Postern

/-- A call that can remove an account. -/
def Call.removes : Call → Bool
  | .destroyAccount _ _ | .purge _ => true
  | _ => false

namespace Memory

/-! ### What stays -/

/-- The accounts of a store are there in another, and the roles have the same keys. -/
structure Kept (m m' : Memory) : Prop where
  account : ∀ id, m.hasAccount id → m'.hasAccount id
  key : ∀ role key, m.key? role = some key → m'.key? role = some key

theorem Kept.refl (m : Memory) : Kept m m := ⟨fun _ h => h, fun _ _ h => h⟩

theorem Kept.trans {m₁ m₂ m₃ : Memory} (h : Kept m₁ m₂) (h' : Kept m₂ m₃) : Kept m₁ m₃ :=
  ⟨fun id ha => h'.account id (h.account id ha), fun role key hk => h'.key role key (h.key role key hk)⟩

/-- **A call that removes no account keeps what is there.** -/
theorem Change.kept {keys : KeySource} {m m' : Memory} {c : Call} (h : Change keys m c m') (hm : m.Housed)
    (hc : c.removes = false) : Kept m m' := by
  refine ⟨fun id ha => ?_, fun role key hk => h.keeps_key hm hk ?_ ?_⟩
  · cases h with
    | same | version _ => exact ha
    | account _ => simp [ha]
    | key _ => simp [ha]
    | removal _ | purge => cases hc
  · rintro rfl
    cases hc
  · rintro rfl
    cases hc

/-! ### Ahead -/

/-- The second store is ahead of the first: it holds the same, but for keys that have been drawn after the first `d`
ones, and of the roles that are due some have their keys already. -/
structure Ahead (keys keys' : KeySource) (d : Nat) (due : RoleId → Prop) (m m' : Memory) : Prop where
  accounts : m.accounts = m'.accounts
  versions : ∀ resource, m.versions resource = m'.versions resource
  key : ∀ role k, m.key? role = some k → ∃ k', m'.key? role = some k' ∧ SameOrLater keys keys' d k k'
  due : ∀ role k', m.key? role = none → m'.key? role = some k' → due role ∧ ∃ n, d ≤ n ∧ keys' n = k'
  drawn : d ≤ m.drawn
  drawn' : d ≤ m'.drawn

section Ahead
variable {keys keys' : KeySource} {d : Nat} {due due' : RoleId → Prop} {m m' : Memory}

theorem Ahead.refl (keys keys' : KeySource) (due : RoleId → Prop) (m : Memory) : Ahead keys keys' m.drawn due m m where
  accounts := rfl
  versions _ := rfl
  key _ k hk := ⟨k, hk, .inl rfl⟩
  due _ _ hk hk' := by
    rw [hk] at hk'
    cases hk'
  drawn := le_rfl
  drawn' := le_rfl

theorem Ahead.hasAccount (h : Ahead keys keys' d due m m') (account : String) :
    m.hasAccount account = m'.hasAccount account := by
  simp [Memory.hasAccount, h.accounts]

theorem Ahead.mono (h : Ahead keys keys' d due m m') (himp : ∀ role, due role → due' role) :
    Ahead keys keys' d due' m m' :=
  { h with due := fun role k' hk hk' => (h.due role k' hk hk').imp_left (himp role) }

theorem Ahead.alike (h : Ahead keys keys' d due m m') (hdue : ∀ role, ¬ due role) :
    AlikeSince keys keys' d none m m' := by
  refine ⟨⟨h.accounts, fun role _ => ?_, fun resource _ => h.versions resource⟩, h.drawn, h.drawn'⟩
  cases hk : m.key? role with
  | none =>
    cases hk' : m'.key? role with
    | none => exact .none
    | some k' => exact absurd (h.due role k' hk hk').1 (hdue role)
  | some k =>
    obtain ⟨k', hk', hsame⟩ := h.key role k hk
    rw [hk']
    exact .some hsame

theorem Ahead.addAccount (h : Ahead keys keys' d due m m') (id : String) :
    Ahead keys keys' d due (m.addAccount keys id) (m'.addAccount keys' id) where
  accounts := by simp [h.accounts]
  versions := h.versions
  key role k hk := by
    rw [key?_addAccount] at hk ⊢
    split at hk
    · obtain rfl := Option.some.inj hk
      rw [if_pos ‹_›]
      exact ⟨_, rfl, .inr ⟨⟨_, h.drawn, rfl⟩, _, h.drawn', rfl⟩⟩
    · rw [if_neg ‹_›]
      exact h.key role k hk
  due role k' hk hk' := by
    rw [key?_addAccount] at hk hk'
    split at hk
    · cases hk
    · rw [if_neg ‹_›] at hk'
      exact h.due role k' hk hk'
  drawn := h.drawn.trans (Nat.le_succ _)
  drawn' := h.drawn'.trans (Nat.le_succ _)

theorem Ahead.addVersion (h : Ahead keys keys' d due m m') (resource : ResourceId) (value : String) :
    Ahead keys keys' d due (m.addVersion resource value) (m'.addVersion resource value) :=
  { h with
    versions := fun other => by
      rw [versions_addVersion, versions_addVersion, h.versions resource, h.versions other] }

theorem Ahead.giveKey_right {role : RoleId} (h : Ahead keys keys' d due m m') (hdue : due role) :
    Ahead keys keys' d due m (m'.giveKey keys' role) where
  accounts := by simp [h.accounts]
  versions := by simpa using h.versions
  key other k hk := by
    obtain ⟨k', hk', hsame⟩ := h.key other k hk
    refine ⟨k', ?_, hsame⟩
    rw [key?_giveKey]
    split
    · rename_i he
      rw [he, hk', Option.getD_some]
    · exact hk'
  due other k' hk hk' := by
    rw [key?_giveKey] at hk'
    split at hk'
    · rename_i he
      subst he
      cases hold : m'.key? role with
      | some k =>
        rw [hold] at hk'
        exact h.due role k' hk (hold.trans hk')
      | none =>
        rw [hold] at hk'
        exact ⟨hdue, m'.drawn, h.drawn', Option.some.inj hk'⟩
    · exact h.due other k' hk hk'
  drawn := h.drawn
  drawn' := h.drawn'.trans (drawn_le_giveKey ..)

/-- A role gets its key in the other store too, and is due no more. -/
theorem Ahead.giveKey_left {role : RoleId} (h : Ahead keys keys' d due m m') (hkey : (m'.key? role).isSome)
    (himp : ∀ other, other ≠ role → due other → due' other) : Ahead keys keys' d due' (m.giveKey keys role) m' where
  accounts := by simp [h.accounts]
  versions := by simpa using h.versions
  key other k hk := by
    rw [key?_giveKey] at hk
    split at hk
    · rename_i he
      subst he
      cases hold : m.key? role with
      | some k₀ =>
        rw [hold] at hk
        exact h.key role k (hold.trans hk)
      | none =>
        rw [hold] at hk
        obtain ⟨k', hk'⟩ := Option.isSome_iff_exists.1 hkey
        exact ⟨k', hk', .inr ⟨⟨_, h.drawn, Option.some.inj hk⟩, (h.due role k' hold hk').2⟩⟩
    · exact h.key other k hk
  due other k' hk hk' := by
    rw [key?_giveKey] at hk
    split at hk
    · cases hk
    · rename_i hne
      exact (h.due other k' hk hk').imp_left (himp other (Ne.symm hne))
  drawn := h.drawn.trans (drawn_le_giveKey ..)
  drawn' := h.drawn'

theorem Ahead.giveKeys_right {roles : List RoleId} (h : Ahead keys keys' d due m m') (hdue : ∀ role ∈ roles, due role) :
    Ahead keys keys' d due m (m'.giveKeys keys' roles) := by
  induction roles generalizing m' with
  | nil => exact h
  | cons role roles ih =>
    obtain ⟨hrole, hroles⟩ := List.forall_mem_cons.1 hdue
    exact ih (h.giveKey_right hrole) hroles

end Ahead

theorem isSome_key?_giveKeys (keys : KeySource) (roles : List RoleId) (m : Memory) {role : RoleId}
    (h : role ∈ roles ∨ (m.key? role).isSome) : ((m.giveKeys keys roles).key? role).isSome := by
  induction roles generalizing m with
  | nil => exact h.resolve_left (by simp)
  | cons new roles ih =>
    refine ih (m.giveKey keys new) ?_
    rw [key?_giveKey]
    split
    · exact .inr rfl
    · rename_i hne
      rcases h with h | h
      · exact .inl ((List.mem_cons.1 h).resolve_left (Ne.symm hne))
      · exact .inr h

end Memory
end Postern
