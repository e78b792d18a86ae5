import Postern.Proofs.Gateway.Session
import Postern.Proofs.Json.Written
import Postern.Proofs.Store.Keys

/-!
The life of an API key, told by the log of a session.  A role keeps its key until its account is removed
(`key?_after`); a key that has gone with its account is spent, and no role ever holds it again (`spent_after`).  A key
belongs to one role only.  All this needs a source of keys that never repeats one.
-/

namespace Postern.Gateway

section Serve
variable {keys : KeySource} {allowPurge : Bool} {m : Memory} {q : Query} {role : RoleId} {key : String}

/-- A role keeps its key in every query that does not remove its account. -/
theorem serve_keeps_key (hkeys : Function.Injective keys) (hm : m.KeysSound keys) (hk : m.key? role = some key)
    (h : Exchange.removes ⟨q, (serve (Memory.backend keys) allowPurge q m).1⟩ role.account = false) :
    (serve (Memory.backend keys) allowPurge q m).2.key? role = some key := by
  -- a call that takes the key away is made only for an order that removes the account, and that order succeeds
  have hcalls : (dispatch allowPurge q).Asks fun c =>
      c ≠ .purge .root ∧ c ≠ .destroyAccount .root role.account := by
    refine dispatch_asks fun o ho c hc => ?_
    rw [serve_memory, ho] at h
    have hnot := mt (removes_iff_of_order ho).2 (Bool.eq_false_iff.1 h)
    cases o with
    | purge => exact absurd ⟨rfl, .inl rfl⟩ hnot
    | destroyAccount id =>
      obtain rfl := List.mem_singleton.1 hc
      refine ⟨by simp, fun he => hnot ?_⟩
      obtain rfl : id = role.account := by simpa using he
      simp [Order.effect, hm.account hk, Except.isOk, Except.toBool]
    | loadPolicy resource document roles =>
      simp only [Order.calls, List.mem_cons, List.mem_map] at hc
      rcases hc with rfl | ⟨_, -, rfl⟩ <;> simp
    | _ =>
      obtain rfl := List.mem_singleton.1 hc
      simp
  refine (Plan.run_keeps (P := fun m : Memory => m.KeysSound keys ∧ m.key? role = some key) ?_ hcalls ⟨hm, hk⟩).2
  rintro c m ⟨hpurge, hdestroy⟩ ⟨hm, hk⟩
  have hchange := Memory.change_of_perform keys c m
  exact ⟨hm.change hkeys hchange, hchange.keeps_key (fun _ _ => hm.account) hk hpurge hdestroy⟩

theorem spent_of_removes (hm : m.KeysSound keys) (hk : m.key? role = some key)
    (h : Exchange.removes ⟨q, (serve (Memory.backend keys) allowPurge q m).1⟩ role.account = true) :
    (serve (Memory.backend keys) allowPurge q m).2.Spent keys key := by
  rcases serve_removes h with hs | hs <;> rw [hs]
  · exact ⟨hm.drawn hk, fun _ h => by cases h⟩
  · refine ⟨hm.drawn hk, fun other h => ?_⟩
    simp only [Memory.key?_removeAccount, Option.ite_none_right_eq_some] at h
    exact h.1 (congrArg RoleId.account (hm.unique h.2 hk))

theorem createdJson_compact_inj {a b : CreatedAccount} (h : (createdJson a).compact = (createdJson b).compact) :
    a = b := by
  have hread : ∀ a, Json.read? (createdJson a).compact = some (createdJson a) := by
    intro a
    exact Json.read?_compact (by simp [createdJson, Json.Fits, Json.maxDepth])
  have hsame : createdJson a = createdJson b := Option.some.inj ((hread a).symm.trans (h ▸ hread b))
  cases a
  cases b
  simpa [createdJson] using hsame

/-- The answer that shows a new account says which account there is now, and whose key it is. -/
theorem key?_of_created {id : String}
    (h : (serve (Memory.backend keys) allowPurge q m).1 = .ok (.json 201 (createdJson ⟨id, key⟩))) :
    IsPart id ∧ (serve (Memory.backend keys) allowPurge q m).2.key? (.adminOf id) = some key := by
  rw [serve_memory] at h ⊢
  cases ho : order allowPurge q with
  | error e => simp [ho] at h
  | ok o =>
    simp only [ho] at h ⊢
    have hwell := wellFormed_of_order ho
    cases o with
    | createAccount given =>
      cases ha : m.hasAccount given with
      | true => simp [Order.effect, ha] at h
      | false =>
        have hbody : (createdJson ⟨given, keys m.drawn⟩).compact = (createdJson ⟨id, key⟩).compact := by
          simpa [Order.effect, ha, Response.json] using h
        obtain ⟨rfl, rfl⟩ := createdJson_compact_inj hbody
        simp [Order.effect, ha]
        exact hwell
    | listAccounts | purge => simp [Order.effect, Response.json] at h
    | destroyAccount given =>
      cases ha : m.hasAccount given <;> simp [Order.effect, ha, Response.json, Response.empty] at h
    | retrieveApiKey role => cases hk : m.key? role <;> simp [Order.effect, hk, Response.json, Response.text] at h
    | getSecret resource version =>
      cases hs : m.showSecret (adminFor resource) resource version <;>
        simp [Order.effect, hs, Response.json, Response.text] at h
    | createSecret resource value | loadPolicy resource value roles =>
      cases ha : m.hasAccount resource.account <;> simp [Order.effect, ha, Response.json, Response.empty] at h

end Serve

/-! ### Whole sessions -/

section Session
variable {keys : KeySource} (hkeys : Function.Injective keys) {allowPurge : Bool} {m : Memory}
  {role : RoleId} {key : String}
include hkeys

theorem serve_keysSound (hm : m.KeysSound keys) (q : Query) :
    (serve (Memory.backend keys) allowPurge q m).2.KeysSound keys :=
  serve_keeps (P := Memory.KeysSound keys) (fun _ _ _ hm hc => hm.change hkeys hc) hm

theorem keysSound_after (hm : m.KeysSound keys) (qs : List Query) :
    (after (Memory.backend keys) allowPurge m qs).KeysSound keys :=
  after_keeps (P := Memory.KeysSound keys) (fun q _ hm => serve_keysSound hkeys hm q) hm qs

/-- **A spent key is never held again.** -/
theorem spent_after (hm : m.Spent keys key) (qs : List Query) :
    (after (Memory.backend keys) allowPurge m qs).Spent keys key := by
  have hserve : ∀ q (m : Memory), m.Spent keys key →
      (serve (Memory.backend keys) allowPurge q m).2.Spent keys key := fun q m hm =>
    serve_keeps (P := fun m : Memory => m.Spent keys key) (fun _ _ _ hm hc => hm.change hkeys hc) hm
  exact after_keeps (P := fun m : Memory => m.Spent keys key) hserve hm qs

/-- **A role keeps its key as long as its account is not removed.** -/
theorem key?_after (hm : m.KeysSound keys) (hk : m.key? role = some key) (qs : List Query)
    (hkept : ∀ x ∈ log (Memory.backend keys) allowPurge m qs, x.removes role.account = false) :
    (after (Memory.backend keys) allowPurge m qs).key? role = some key := by
  induction qs generalizing m with
  | nil => exact hk
  | cons q qs ih =>
    simp only [log, List.mem_cons, forall_eq_or_imp] at hkept
    exact ih (serve_keysSound hkeys hm q) (serve_keeps_key hkeys hm hk hkept.1) hkept.2

end Session

/-- The life of keys, from the empty store on. -/
structure KeyLifecycle (keys : KeySource) (allowPurge : Bool) : Prop where
  /-- A new account's administrator has the key that was shown, until the account is removed. -/
  created : ∀ past q later id key retrieve,
    let m := after (Memory.backend keys) allowPurge .empty past
    let served := serve (Memory.backend keys) allowPurge q m
    served.1 = .ok (.json 201 (createdJson ⟨id, key⟩)) → Retrieves retrieve (id ++ ":user:admin") →
      (∀ x ∈ log (Memory.backend keys) allowPurge served.2 later, x.removes id = false) →
      (serve (Memory.backend keys) allowPurge retrieve
        (after (Memory.backend keys) allowPurge served.2 later)).1 = .ok (.text 200 key)
  /-- A role that has a key has the same one until its account is removed. -/
  kept : ∀ past later role key raw retrieve,
    let m := after (Memory.backend keys) allowPurge .empty past
    m.key? role = some key → RoleId.parse raw = .ok role → Retrieves retrieve raw →
      (∀ x ∈ log (Memory.backend keys) allowPurge m later, x.removes role.account = false) →
      (serve (Memory.backend keys) allowPurge retrieve
        (after (Memory.backend keys) allowPurge m later)).1 = .ok (.text 200 key)
  /-- No two roles hold one key. -/
  unique : ∀ past role role' key,
    let m := after (Memory.backend keys) allowPurge .empty past
    m.key? role = some key → m.key? role' = some key → role = role'
  /-- A key that is removed is never held again. -/
  gone : ∀ past q later role key role',
    let m := after (Memory.backend keys) allowPurge .empty past
    let served := serve (Memory.backend keys) allowPurge q m
    m.key? role = some key → Exchange.removes ⟨q, served.1⟩ role.account = true →
      (after (Memory.backend keys) allowPurge served.2 later).key? role' ≠ some key

/-- **Keys live as long as their accounts,** if the source of keys never repeats one. -/
theorem keyLifecycle {keys : KeySource} (hkeys : Function.Injective keys) (allowPurge : Bool) :
    KeyLifecycle keys allowPurge := by
  have hpast : ∀ past, (after (Memory.backend keys) allowPurge .empty past).KeysSound keys :=
    fun past => keysSound_after hkeys (Memory.keysSound_empty keys) past
  refine ⟨?created, ?kept, ?unique, ?gone⟩
  case created =>
    intro past q later id key retrieve m served hanswer hretrieve hkept
    obtain ⟨hid, hk⟩ := key?_of_created hanswer
    have hlater := key?_after hkeys (serve_keysSound hkeys (hpast past) q) hk later hkept
    have hparse : RoleId.parse (id ++ ":user:admin") = .ok (.adminOf id) := by
      rw [← RoleId.text_adminOf]
      exact (RoleId.wellFormed_adminOf hid).parse_text
    rw [serve_retrieveApiKey keys allowPurge _ hretrieve hparse, hlater]
  case kept =>
    intro past later role key raw retrieve m hk hparse hretrieve hkept
    have hlater := key?_after hkeys (hpast past) hk later hkept
    rw [serve_retrieveApiKey keys allowPurge _ hretrieve hparse, hlater]
  case unique =>
    intro past role role' key m hk hk'
    exact (hpast past).unique hk hk'
  case gone =>
    intro past q later role key role' m served hk hremoved
    exact (spent_after hkeys (spent_of_removes (hpast past) hk hremoved) later).unheld role'

/-- A source that never repeats a key: each is a character longer than the one before. -/
def tally (n : Nat) : String := String.ofList (List.replicate n 'k')

theorem tally_injective : Function.Injective tally := fun a b h => by
  simpa [tally] using congrArg String.length h

/-- A policy that declares the administrator once more leaves it its key. -/
theorem keyLifecycle_redeclared :
    let create : Query := ⟨[("action", "create_account"), ("id", "a")]⟩
    let declare : Query :=
      ⟨[("action", "load_policy"), ("resource_id", "a:policy:root"), ("value", "- !user admin")]⟩
    let retrieve : Query := ⟨[("action", "retrieve_api_key"), ("role_id", "a:user:admin")]⟩
    (serve (Memory.backend tally) true retrieve
      (after (Memory.backend tally) true .empty [create, declare])).1 = .ok (.text 200 (tally 0)) := by
  intro create declare retrieve
  have hcreated : (serve (Memory.backend tally) true create .empty).1 =
      .ok (.json 201 (createdJson ⟨"a", tally 0⟩)) := rfl
  have hretrieve : Retrieves retrieve ("a" ++ ":user:admin") := ⟨by decide, by decide, none, rfl⟩
  have hkept : ∀ x ∈ log (Memory.backend tally) true (serve (Memory.backend tally) true create .empty).2 [declare],
      x.removes "a" = false := by decide +kernel
  rw [after_cons]
  exact (keyLifecycle tally_injective true).created [] create [declare] "a" (tally 0) retrieve hcreated hretrieve hkept

end Postern.Gateway
