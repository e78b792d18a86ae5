import Postern.Proofs.Store.Change

/-!
Keys for those who have none.  Of the roles that are given keys, those without one get the next keys that are drawn, in
order and each a single one however often it is given (`key?_of_keyless`, `drawn_giveKeys`).  The others stay as they
are.
-/

namespace Postern.Memory

/-- Those of some roles that have no key, each once, in the order in which they come first. -/
def keyless (m : Memory) (roles : List RoleId) : List RoleId :=
  (roles.filter fun role => (m.key? role).isNone).eraseDups

section Keyless
variable {keys : KeySource} {m : Memory} {role : RoleId} {roles : List RoleId}

theorem mem_keyless : role ∈ m.keyless roles ↔ role ∈ roles ∧ m.key? role = none := by
  simp [keyless]

theorem giveKey_of_isSome (h : (m.key? role).isSome) : m.giveKey keys role = m := by
  obtain ⟨key, hkey⟩ := Option.isSome_iff_exists.1 h
  simp only [giveKey, hkey]

theorem giveKeys_of_isSome (h : ∀ role ∈ roles, (m.key? role).isSome) : m.giveKeys keys roles = m := by
  induction roles with
  | nil => rfl
  | cons role roles ih =>
    obtain ⟨hrole, hroles⟩ := List.forall_mem_cons.1 h
    show (m.giveKey keys role).giveKeys keys roles = m
    rw [giveKey_of_isSome hrole]
    exact ih hroles

theorem keyless_cons_of_isSome (h : (m.key? role).isSome) : m.keyless (role :: roles) = m.keyless roles := by
  have hnot : ¬ (m.key? role).isNone = true := by
    intro hnone
    rw [Option.isNone_iff_eq_none.1 hnone] at h
    cases h
  rw [keyless, List.filter_cons, if_neg hnot, keyless]

/-- The first role without a key gets one, and what is left are those who have none then. -/
theorem keyless_cons_of_isNone (keys : KeySource) (h : m.key? role = none) :
    m.keyless (role :: roles) = role :: (m.giveKey keys role).keyless roles := by
  have hnone : (m.key? role).isNone = true := by rw [h]; rfl
  have hrest : (roles.filter fun other => (m.key? other).isNone).filter (fun other => !other == role) =
      roles.filter fun other => ((m.giveKey keys role).key? other).isNone := by
    rw [List.filter_filter]
    refine List.filter_congr fun other _ => ?_
    rw [key?_giveKey]
    by_cases hother : role = other
    · simp [hother]
    · simp [hother, Ne.symm hother]
  rw [keyless, List.filter_cons, if_pos hnone, List.eraseDups_cons, hrest, keyless]

theorem drawn_giveKeys (keys : KeySource) (m : Memory) (roles : List RoleId) :
    (m.giveKeys keys roles).drawn = m.drawn + (m.keyless roles).length := by
  induction roles generalizing m with
  | nil => rfl
  | cons role roles ih =>
    show ((m.giveKey keys role).giveKeys keys roles).drawn = _
    rw [ih]
    by_cases h : (m.key? role).isSome
    · rw [giveKey_of_isSome h, keyless_cons_of_isSome h]
    · rw [keyless_cons_of_isNone keys (Option.not_isSome_iff_eq_none.1 h), drawn_giveKey, if_neg h, List.length_cons]
      omega

theorem key?_giveKeys_of_some {key : String} (h : m.key? role = some key) :
    (m.giveKeys keys roles).key? role = some key := by
  induction roles generalizing m with
  | nil => exact h
  | cons new roles ih =>
    refine ih (m := m.giveKey keys new) ?_
    rw [key?_giveKey]
    split
    · rename_i hnew
      rw [hnew, h, Option.getD_some]
    · exact h

theorem key?_giveKeys_of_notMem (h : role ∉ roles) : (m.giveKeys keys roles).key? role = m.key? role := by
  induction roles generalizing m with
  | nil => rfl
  | cons new roles ih =>
    obtain ⟨hne, hrest⟩ := not_or.1 (mt List.mem_cons.2 h)
    refine (ih (m := m.giveKey keys new) hrest).trans ?_
    rw [key?_giveKey, if_neg (Ne.symm hne)]

/-- **Who gets which key:** the roles without one get the next ones, in their order. -/
theorem key?_of_keyless {i : Nat} (h : (m.keyless roles)[i]? = some role) :
    (m.giveKeys keys roles).key? role = some (keys (m.drawn + i)) := by
  induction roles generalizing m i with
  | nil => cases h
  | cons new roles ih =>
    show ((m.giveKey keys new).giveKeys keys roles).key? role = _
    by_cases hnew : (m.key? new).isSome
    · rw [giveKey_of_isSome hnew]
      rw [keyless_cons_of_isSome hnew] at h
      exact ih h
    · rw [keyless_cons_of_isNone keys (Option.not_isSome_iff_eq_none.1 hnew)] at h
      cases i with
      | zero =>
        obtain rfl : new = role := Option.some.inj h
        refine key?_giveKeys_of_some ?_
        rw [key?_giveKey, if_pos rfl, Option.not_isSome_iff_eq_none.1 hnew, Option.getD_none, Nat.add_zero]
      | succ i =>
        rw [ih h, drawn_giveKey, if_neg hnew, Nat.add_right_comm, Nat.add_assoc]

end Keyless

end Postern.Memory
