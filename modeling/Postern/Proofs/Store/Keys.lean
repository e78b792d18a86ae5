import Mathlib.Logic.Function.Basic
import Postern.Proofs.Store.Change
import Postern.Store.Memory

/-!
Keys in the store in memory.  Whatever is called, at most one role gets a new key, and that is the next one to be drawn
(`Change.draws`).  From this it follows, where keys do not repeat, that no two roles hold one key (`KeysSound.change`),
and that a key which nobody holds any more stays so (`Spent.change`).  In a store that calls have made of the empty one,
keys are hexadecimal where they come from random bytes (`Reachable.isHex`).
-/

namespace Postern

/-- Every key is made from some bytes. -/
def KeySource.Genuine (keys : KeySource) : Prop := ∀ n, ∃ bytes, keys n = ApiKey.ofEntropy bytes

theorem ApiKey.genuine_source (seed : List UInt8) : KeySource.Genuine (ApiKey.source seed) := fun _ => ⟨_, rfl⟩

theorem ApiKey.isHex_ofEntropy (bytes : List UInt8) : isHex (ofEntropy bytes) = true := by
  have hdigit : ∀ n < 16,
      (Text.isHexDigit (Json.hexDigit n) && !('A' ≤ Json.hexDigit n && Json.hexDigit n ≤ 'F')) = true := by decide
  rw [isHex, ofEntropy, String.toList_ofList, List.all_eq_true]
  intro c hc
  obtain ⟨b, -, hc⟩ := List.mem_flatMap.1 hc
  have hb : b.toNat < 256 := b.toNat_lt
  simp only [hexByte, List.mem_cons, List.not_mem_nil, or_false] at hc
  rcases hc with rfl | rfl
  · exact hdigit _ (by omega)
  · exact hdigit _ (by omega)

namespace Memory

/-- Every role that has a key lies in an account that exists. -/
def Housed (m : Memory) : Prop := ∀ role key, m.key? role = some key → m.hasAccount role.account

theorem housed_empty : Housed empty := fun _ _ h => by cases h

/-- Who holds which key: each has been drawn and belongs to one role, whose account exists. -/
structure KeysSound (keys : KeySource) (m : Memory) : Prop where
  account : ∀ {role key}, m.key? role = some key → m.hasAccount role.account
  drawn : ∀ {role key}, m.key? role = some key → ∃ n < m.drawn, keys n = key
  unique : ∀ {role role' key}, m.key? role = some key → m.key? role' = some key → role = role'

/-- A key that has been drawn and that no role holds. -/
structure Spent (keys : KeySource) (m : Memory) (key : String) : Prop where
  drawn : ∃ n < m.drawn, keys n = key
  unheld : ∀ role, m.key? role ≠ some key

theorem keysSound_empty (keys : KeySource) : KeysSound keys empty where
  account h := by cases h
  drawn h := by cases h
  unique h := by cases h

section Change
variable {keys : KeySource} {m m' : Memory} {c : Call} {role : RoleId} {key : String}

/-- Roles only lose keys, or one of them gets the next key to be drawn. -/
theorem Change.draws (h : Change keys m c m') :
    (m'.drawn = m.drawn ∧ ∀ role key, m'.key? role = some key → m.key? role = some key) ∨
    ∃ new, m'.drawn = m.drawn + 1 ∧
      ∀ role, m'.key? role = if new = role then some (keys m.drawn) else m.key? role := by
  cases h with
  | same => exact .inl ⟨rfl, fun _ _ h => h⟩
  | account _ => exact .inr ⟨_, rfl, fun _ => key?_addAccount ..⟩
  | removal _ => exact .inl ⟨rfl, fun role key h => by simp at h; exact h.2⟩
  | purge => exact .inl ⟨rfl, fun _ _ h => by cases h⟩
  | @key _ role _ =>
    cases hk : m.key? role with
    | some key => exact .inl ⟨by simp [hk], fun _ _ h => by simpa [giveKey, hk] using h⟩
    | none => exact .inr ⟨role, by simp [hk], fun _ => by simp [hk]⟩
  | version _ => exact .inl ⟨rfl, fun _ _ h => h⟩

/-- **Every call keeps the roles in accounts that exist.** -/
theorem Housed.change (hm : m.Housed) (h : Change keys m c m') : m'.Housed := by
  intro role key hk
  cases h with
  | same | version _ => exact hm role key hk
  | @account id _ =>
    rw [key?_addAccount] at hk
    split at hk
    · rename_i he
      subst he
      simp [RoleId.adminOf]
    · simp [hm role key hk]
  | @removal id _ =>
    simp only [key?_removeAccount, Option.ite_none_right_eq_some] at hk
    simp [hm role key hk.2, hk.1]
  | purge => cases hk
  | @key _ new hnew =>
    rw [key?_giveKey] at hk
    rw [hasAccount_giveKey]
    split at hk
    · rename_i he
      exact he ▸ hnew
    · exact hm role key hk

theorem Housed.key?_adminOf {id : String} (hm : m.Housed) (hid : m.hasAccount id = false) :
    m.key? (.adminOf id) = none := by
  cases hk : m.key? (.adminOf id) with
  | none => rfl
  | some key =>
    have := hm _ _ hk
    simp [RoleId.adminOf, hid] at this

theorem Change.keeps_key (h : Change keys m c m') (hm : m.Housed) (hk : m.key? role = some key)
    (hpurge : c ≠ .purge .root) (hdestroy : c ≠ .destroyAccount .root role.account) : m'.key? role = some key := by
  cases h with
  | same | version _ => exact hk
  | @account id hid =>
    -- the role that is given a key had none, so it is another one
    have hne : RoleId.adminOf id ≠ role := by
      rintro rfl
      simp [hm.key?_adminOf hid] at hk
    simp [hne, hk]
  | @removal id _ =>
    have hne : role.account ≠ id := fun he => hdestroy (by rw [he])
    simp [hne, hk]
  | purge => exact absurd rfl hpurge
  | @key _ new _ =>
    rw [key?_giveKey]
    split
    · rename_i he
      simp [he, hk]
    · exact hk

/-- A store that calls have made of the empty one. -/
inductive Reachable (keys : KeySource) : Memory → Prop
  | empty : Reachable keys empty
  | perform {m : Memory} (c : Call) (hm : Reachable keys m) : Reachable keys (perform keys c m).2

theorem Reachable.exists_drawn (hm : Reachable keys m) (hk : m.key? role = some key) : ∃ n, keys n = key := by
  induction hm generalizing role key with
  | empty => cases hk
  | @perform m c _ ih =>
    rcases (change_of_perform keys c m).draws with ⟨-, hold⟩ | ⟨new, -, hnew⟩
    · exact ih (hold _ _ hk)
    · rw [hnew] at hk
      split at hk
      · exact ⟨m.drawn, Option.some.inj hk⟩
      · exact ih hk

theorem Reachable.isHex (hm : Reachable keys m) (hkeys : keys.Genuine) (hk : m.key? role = some key) :
    ApiKey.isHex key = true := by
  obtain ⟨n, rfl⟩ := hm.exists_drawn hk
  obtain ⟨bytes, hbytes⟩ := hkeys n
  rw [hbytes]
  exact ApiKey.isHex_ofEntropy bytes

variable (hkeys : Function.Injective keys)
include hkeys

theorem ne_next {n : Nat} (hn : n < m.drawn) : keys n ≠ keys m.drawn := fun he => Nat.ne_of_lt hn (hkeys he)

/-- **Every call keeps the keys sound.** -/
theorem KeysSound.change (hm : KeysSound keys m) (h : Change keys m c m') : KeysSound keys m' := by
  refine ⟨fun hk => Housed.change (fun _ _ => hm.account) h _ _ hk, fun {role key} hk => ?_,
    fun {role role' key} hk hk' => ?_⟩
  · rcases h.draws with ⟨hdrawn, hold⟩ | ⟨new, hdrawn, hnew⟩
    · rw [hdrawn]
      exact hm.drawn (hold _ _ hk)
    · rw [hnew] at hk
      rw [hdrawn]
      split at hk
      · exact ⟨m.drawn, Nat.lt_succ_self _, Option.some.inj hk⟩
      · obtain ⟨n, hn, he⟩ := hm.drawn hk
        exact ⟨n, Nat.lt_succ_of_lt hn, he⟩
  · rcases h.draws with ⟨-, hold⟩ | ⟨new, -, hnew⟩
    · exact hm.unique (hold _ _ hk) (hold _ _ hk')
    · -- an old key is not the next one, so both roles have it from before or both have just been given it
      have hfresh : ∀ {role}, m.key? role ≠ some (keys m.drawn) := by
        intro role h
        obtain ⟨n, hn, he⟩ := hm.drawn h
        exact ne_next hkeys hn he
      rw [hnew] at hk hk'
      split at hk <;> split at hk'
      · exact (‹new = role› : new = role).symm.trans ‹new = role'›
      · exact absurd (hk'.trans hk.symm) hfresh
      · exact absurd (hk.trans hk'.symm) hfresh
      · exact hm.unique hk hk'

theorem Reachable.keysSound (hm : Reachable keys m) : KeysSound keys m := by
  induction hm with
  | empty => exact keysSound_empty keys
  | perform c _ ih => exact ih.change hkeys (change_of_perform keys c _)

theorem Spent.change (hm : Spent keys m key) (h : Change keys m c m') : Spent keys m' key := by
  obtain ⟨n, hn, rfl⟩ := hm.drawn
  rcases h.draws with ⟨hdrawn, hold⟩ | ⟨new, hdrawn, hnew⟩
  · exact ⟨⟨n, hdrawn ▸ hn, rfl⟩, fun role hk => hm.unheld role (hold _ _ hk)⟩
  · refine ⟨⟨n, hdrawn ▸ Nat.lt_succ_of_lt hn, rfl⟩, fun role hk => ?_⟩
    rw [hnew] at hk
    split at hk
    · exact ne_next hkeys hn (Option.some.inj hk).symm
    · exact hm.unheld role hk

end Change
end Memory
end Postern
