import Postern.Proofs.Gateway.Session

/-!
Everything that is stored can be named.  Names reach the store in calls, and each call of a query carries names whose
parts are parts (`named_of_order`).  A call with such names leaves only such names in the store (`Named.change`), so
this holds after any number of queries, in whatever order their calls are made.
-/

namespace Postern

/-- The names that a call brings into the store can be addressed. -/
def Call.Named : Call → Prop
  | .createAccount _ id => IsPart id
  | .provision _ role => role.WellFormed
  | .createSecret _ resource _ => resource.WellFormed
  | _ => True

namespace Memory

/-- All names in the store can be addressed, and every secret that is there has a version. -/
structure Named (m : Memory) : Prop where
  account : ∀ id ∈ m.accounts, IsPart id
  role : ∀ {role key}, m.key? role = some key → role.WellFormed
  resource : ∀ {resource values}, m.versions resource = some values → resource.WellFormed ∧ values ≠ []

theorem named_empty : Named empty where
  account _ h := by cases h
  role h := by cases h
  resource h := by cases h

/-- **A call keeps the names in the store addressable,** if those that it brings are. -/
theorem Named.change {keys : KeySource} {m m' : Memory} {c : Call} (hm : m.Named) (hc : c.Named)
    (h : Change keys m c m') : m'.Named := by
  cases h with
  | same => exact hm
  | @account id _ =>
    refine ⟨fun other h => ?_, fun {role key} h => ?_, hm.resource⟩
    · rw [accounts_addAccount, List.mem_append, List.mem_singleton] at h
      rcases h with h | rfl
      · exact hm.account other h
      · exact hc
    · rw [key?_addAccount] at h
      split at h
      · rename_i he
        exact he ▸ RoleId.wellFormed_adminOf hc
      · exact hm.role h
  | @removal id _ =>
    refine ⟨fun other h => ?_, fun {role key} h => ?_, fun {resource values} h => ?_⟩
    · exact hm.account other (List.mem_filter.1 h).1
    · rw [key?_removeAccount, Option.ite_none_right_eq_some] at h
      exact hm.role h.2
    · rw [versions_removeAccount, Option.ite_none_right_eq_some] at h
      exact hm.resource h.2
  | purge => exact ⟨named_empty.account, named_empty.role, named_empty.resource⟩
  | @key _ new _ =>
    refine ⟨?_, fun {role key} h => ?_, fun {resource values} h => ?_⟩
    · simpa using hm.account
    · rw [key?_giveKey] at h
      split at h
      · rename_i he
        exact he ▸ hc
      · exact hm.role h
    · rw [versions_giveKey] at h
      exact hm.resource h
  | @version _ target value _ =>
    refine ⟨hm.account, hm.role, fun {resource values} h => ?_⟩
    rw [versions_addVersion] at h
    split at h
    · rename_i he
      obtain rfl := Option.some.inj h
      exact ⟨he ▸ hc, by simp⟩
    · exact hm.resource h

end Memory

namespace Gateway

theorem named_of_order {o : Order} (ho : o.WellFormed) : ∀ c ∈ o.calls, c.Named := by
  intro c hc
  cases o with
  | loadPolicy resource document roles =>
    simp only [Order.calls, List.mem_cons, List.mem_map] at hc
    rcases hc with rfl | ⟨role, hrole, rfl⟩
    · exact ho.1
    · exact (ho.2 role hrole).2
  | createAccount id | createSecret resource value =>
    obtain rfl := List.mem_singleton.1 hc
    exact ho
  | _ =>
    obtain rfl := List.mem_singleton.1 hc
    trivial

/-- What is in the store when the calls of some queries have been made as a schedule says. -/
def interleaved (keys : KeySource) (allowPurge : Bool) (queries : List Query) (schedule : List Nat) : Memory :=
  (Pool.run (Memory.backend keys) ⟨queries.map (dispatch allowPurge), .empty⟩ schedule).store

/-- All names stay addressable in every order of calls. -/
theorem named_interleaved (keys : KeySource) (allowPurge : Bool) (queries : List Query) (schedule : List Nat) :
    (interleaved keys allowPurge queries schedule).Named := by
  have hstep : ∀ c m, c.Named → m.Named → ((Memory.backend keys).perform c m).2.Named :=
    fun c m hc hm => hm.change hc (Memory.change_of_perform keys c m)
  have hstart : Pool.Keeps Call.Named Memory.Named ⟨queries.map (dispatch allowPurge), .empty⟩ := by
    refine ⟨fun p hp => ?_, Memory.named_empty⟩
    obtain ⟨q, -, rfl⟩ := List.mem_map.1 hp
    exact dispatch_asks fun o ho => named_of_order (wellFormed_of_order ho)
  exact (Pool.run_invariant hstep hstart schedule).store

/-- What stands in the store can be named: by a text that nothing else of its kind has, and with which a reader gets
just that. -/
structure Addressed (keys : KeySource) (allowPurge : Bool) (m : Memory) : Prop where
  /-- An account id is not empty and holds no colon. -/
  account : ∀ id ∈ m.accounts, id ≠ "" ∧ ':' ∉ id.toList
  /-- The parts of a role are so too, and its text names it. -/
  role : ∀ role key, m.key? role = some key → role.WellFormed ∧ RoleId.parse role.text = .ok role
  /-- No two roles share a text. -/
  role_unique : ∀ role role' key key', m.key? role = some key → m.key? role' = some key' →
    role.text = role'.text → role = role'
  /-- The text of a role gets its key. -/
  role_read : ∀ role key q, m.key? role = some key → Retrieves q role.text →
    serve (Memory.backend keys) allowPurge q m = (.ok (.text 200 key), m)
  /-- The parts of a resource are so too, and its text names it. -/
  resource : ∀ resource values, m.versions resource = some values →
    resource.WellFormed ∧ ResourceId.parse resource.text = .ok resource
  /-- No two resources share a text. -/
  resource_unique : ∀ resource resource' values values', m.versions resource = some values →
    m.versions resource' = some values' → resource.text = resource'.text → resource = resource'
  /-- The text of a resource gets its last version, or the one that is asked for. -/
  resource_read : ∀ resource values q, m.versions resource = some values → Reads q resource.text →
    (q.given? "version" = none → ∃ last, values.getLast? = some last ∧
      (serve (Memory.backend keys) allowPurge q m).1 = .ok (.text 200 last)) ∧
    ∀ version n value, q.given? "version" = some version →
      Text.unsigned? (Text.maxWord 32) version = some (n + 1) → values[n]? = some value →
      (serve (Memory.backend keys) allowPurge q m).1 = .ok (.text 200 value)

theorem addressed_of_named (keys : KeySource) (allowPurge : Bool) {m : Memory} (hm : m.Named) :
    Addressed keys allowPurge m := by
  constructor
  case account => exact hm.account
  case role => exact fun role key hk => ⟨hm.role hk, (hm.role hk).parse_text⟩
  case role_unique => exact fun role role' key key' hk hk' htext => (hm.role hk).eq_of_text (hm.role hk') htext
  case role_read =>
    intro role key q hk hq
    rw [serve_retrieveApiKey keys allowPurge m hq (hm.role hk).parse_text, hk]
  case resource => exact fun resource values hv => ⟨(hm.resource hv).1, (hm.resource hv).1.parse_text⟩
  case resource_unique =>
    exact fun resource resource' values values' hv hv' htext =>
      (hm.resource hv).1.eq_of_text (hm.resource hv').1 htext
  case resource_read =>
    intro resource values q hv hq
    obtain ⟨hwell, hne⟩ := hm.resource hv
    obtain ⟨hlast, hnumbered, -⟩ := serve_getSecret keys allowPurge m hq hwell.parse_text
    simp only [hv, Option.getD_some] at hlast hnumbered
    refine ⟨fun hnone => ?_, fun version n value hversion hn hvalue => ?_⟩
    · have hfound := hlast hnone
      rw [List.getLast?_eq_some_getLast hne] at hfound ⊢
      exact ⟨_, rfl, hfound⟩
    · have hfound := hnumbered version n hversion hn
      rw [hvalue] at hfound
      exact hfound

/-- **Everything stored stays addressable,** in whatever order the calls of queries are made. -/
theorem addressed_interleaved (keys : KeySource) (allowPurge : Bool) (queries : List Query) (schedule : List Nat) :
    Addressed keys allowPurge (interleaved keys allowPurge queries schedule) :=
  addressed_of_named keys allowPurge (named_interleaved keys allowPurge queries schedule)

end Gateway
end Postern
