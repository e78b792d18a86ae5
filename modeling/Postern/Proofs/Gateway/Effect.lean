import Postern.Proofs.Gateway.Order
import Postern.Proofs.Plan
import Postern.Proofs.Store.Change

/-!
What orders do.  `Order.calls` are the calls that an order can make, over any store (`Order.asks_calls`);
`Order.effect` is what it answers and leaves behind over the store in memory, said without calls (`Order.run_plan`).
So a query is answered as `run_dispatch` says.
-/

namespace Postern.Gateway

/-! ### Calls -/

/-- The calls that an order makes unless one of them fails, in order. -/
def Order.calls : Order → List Call
  | .listAccounts => [.listAccounts .root]
  | .createAccount id => [.createAccount .root id]
  | .destroyAccount id => [.destroyAccount .root id]
  | .retrieveApiKey role => [.findRole role]
  | .getSecret resource version => [.showSecret (adminFor resource) resource version]
  | .createSecret resource value => [.createSecret (adminFor resource) resource value]
  | .loadPolicy resource document roles =>
    .createSecret (adminFor resource) resource document :: roles.map (.provision (adminFor resource))
  | .purge => [.purge .root]

theorem mem_calls_loadPolicy {resource : ResourceId} {document : String} {roles : List RoleId} {c : Call} :
    c ∈ (Order.loadPolicy resource document roles).calls ↔
      c = .createSecret (adminFor resource) resource document ∨
        ∃ role ∈ roles, c = .provision (adminFor resource) role := by
  simp [Order.calls, eq_comm]

section Asks
variable {A : Call → Prop}

theorem asks_ask {c : Call} {next : c.Result → Plan Outcome} (hc : A c) (hnext : ∀ r, (next r).Asks A) :
    (ask c next).Asks A :=
  ⟨hc, fun r => by cases r with | ok r => exact hnext r | error e => trivial⟩

theorem asks_provisionAll {actor : Actor} {last : Plan Outcome} (hlast : last.Asks A) :
    ∀ {roles : List RoleId}, (∀ role ∈ roles, A (.provision actor role)) →
      (provisionAll actor last roles).Asks A
  | [], _ => hlast
  | role :: _, h =>
    asks_ask (h role (List.mem_cons_self ..)) fun _ =>
      asks_provisionAll hlast fun role hrole => h role (List.mem_cons_of_mem _ hrole)

theorem Order.asks_calls (o : Order) : o.plan.Asks (· ∈ o.calls) := by
  cases o with
  | loadPolicy resource document roles =>
    have hlast : (succeed (.empty 201)).Asks (· ∈ (loadPolicy resource document roles).calls) := trivial
    refine asks_ask (List.mem_cons_self ..) fun _ => asks_provisionAll hlast fun role hrole => ?_
    exact List.mem_cons_of_mem _ (List.mem_map_of_mem hrole)
  | retrieveApiKey role =>
    exact asks_ask (List.mem_singleton_self _) fun found => by cases found <;> trivial
  | _ => exact asks_ask (List.mem_singleton_self _) fun _ => trivial

/-- A query makes only calls of its order. -/
theorem dispatch_asks {allowPurge : Bool} {q : Query}
    (h : ∀ o, order allowPurge q = .ok o → ∀ c ∈ o.calls, A c) : (dispatch allowPurge q).Asks A := by
  rw [dispatch_eq]
  cases ho : order allowPurge q with
  | error e => trivial
  | ok o => exact o.asks_calls.mono (h o ho)

end Asks

/-! ### Effects -/

section Run
variable {σ : Type} (b : Backend σ) (s : σ)

@[simp] theorem run_refuse (e : CallerError) : (refuse e).run b s = (.error (.ofCaller e), s) := rfl

@[simp] theorem run_succeed (r : Response) : (succeed r).run b s = (.ok r, s) := rfl

theorem run_ask (c : Call) (next : c.Result → Plan Outcome) :
    (ask c next).run b s =
      match (b.perform c s).1 with
      | .ok r => (next r).run b (b.perform c s).2
      | .error e => (.error (.ofStore e), (b.perform c s).2) := by
  unfold ask
  rw [Plan.run_call]
  cases (b.perform c s).1 <;> rfl

end Run

/-- What an order answers over the store in memory, and what the store is then. -/
def Order.effect (keys : KeySource) (m : Memory) : Order → Outcome × Memory
  | .listAccounts => (.ok (.json 200 (.arr (m.accounts.map .str))), m)
  | .createAccount id =>
    if m.hasAccount id then (.error (.ofStore (.conflict ("account '" ++ id ++ "'"))), m)
    else (.ok (.json 201 (createdJson ⟨id, keys m.drawn⟩)), m.addAccount keys id)
  | .destroyAccount id =>
    if m.hasAccount id then (.ok (.empty 204), m.removeAccount id)
    else (.error (.ofStore (.notFound ("account '" ++ id ++ "'"))), m)
  | .retrieveApiKey role =>
    match m.key? role with
    | some key => (.ok (.text 200 key), m)
    | none => (.error (roleNotFound role), m)
  | .getSecret resource version =>
    match m.showSecret (adminFor resource) resource version with
    | .ok value => (.ok (.text 200 value), m)
    | .error e => (.error (.ofStore e), m)
  | .createSecret resource value =>
    if m.hasAccount resource.account then (.ok (.empty 201), m.addVersion resource value)
    else (.error (.ofStore (.notFound ("account '" ++ resource.account ++ "'"))), m)
  | .loadPolicy resource document roles =>
    if m.hasAccount resource.account then
      (.ok (.empty 201), (m.addVersion resource document).giveKeys keys roles)
    else (.error (.ofStore (.notFound ("account '" ++ resource.account ++ "'"))), m)
  | .purge => (.ok (.json 200 (purgedJson m.accounts.length)), m.cleared)

/-- An order that fails leaves the store as it was. -/
theorem effect_error {keys : KeySource} {m : Memory} {o : Order} {e : ApiError}
    (h : (o.effect keys m).1 = .error e) : (o.effect keys m).2 = m := by
  cases o with
  | listAccounts => rfl
  | purge => cases h
  | createAccount id | destroyAccount id => cases ha : m.hasAccount id <;> simp [Order.effect, ha] at h ⊢
  | retrieveApiKey role => cases hk : m.key? role <;> simp [Order.effect, hk]
  | getSecret resource version =>
    cases hs : m.showSecret (adminFor resource) resource version <;> simp [Order.effect, hs]
  | createSecret resource value | loadPolicy resource value roles =>
    cases ha : m.hasAccount resource.account <;> simp [Order.effect, ha] at h ⊢

theorem run_provisionAll {keys : KeySource} {actor : Actor} {last : Plan Outcome} :
    ∀ {roles : List RoleId} {m : Memory},
      (∀ role ∈ roles, actor.administers role.account ∧ m.hasAccount role.account) →
      (provisionAll actor last roles).run (Memory.backend keys) m =
        last.run (Memory.backend keys) (m.giveKeys keys roles)
  | [], _, _ => rfl
  | role :: roles, m, h => by
    obtain ⟨hactor, haccount⟩ := h role (List.mem_cons_self ..)
    rw [provisionAll, run_ask]
    simp only [Memory.backend_perform, Memory.perform, Memory.provision_of_administers hactor, haccount, if_true]
    rw [run_provisionAll fun role hrole => by simpa using h role (List.mem_cons_of_mem _ hrole)]
    rfl

theorem Order.run_plan (keys : KeySource) (m : Memory) {o : Order} (ho : o.WellFormed) :
    o.plan.run (Memory.backend keys) m = o.effect keys m := by
  cases o with
  | listAccounts | purge => rfl
  | createAccount id =>
    simp only [plan, effect, run_ask, Memory.backend_perform, Memory.perform, Memory.createAccount_root]
    cases m.hasAccount id <;> rfl
  | destroyAccount id =>
    simp only [plan, effect, run_ask, Memory.backend_perform, Memory.perform, Memory.destroyAccount_root]
    cases m.hasAccount id <;> rfl
  | retrieveApiKey role =>
    simp only [plan, effect, run_ask, Memory.backend_perform, Memory.perform]
    cases m.key? role <;> rfl
  | getSecret resource version =>
    simp only [plan, effect, run_ask, Memory.backend_perform, Memory.perform]
    cases m.showSecret (adminFor resource) resource version <;> rfl
  | createSecret resource value =>
    simp only [plan, effect, run_ask, Memory.backend_perform, Memory.perform,
      Memory.createSecret_of_administers (Actor.administers_adminOf resource.account), adminFor]
    cases m.hasAccount resource.account <;> rfl
  | loadPolicy resource document roles =>
    simp only [plan, effect, run_ask, Memory.backend_perform, Memory.perform,
      Memory.createSecret_of_administers (Actor.administers_adminOf resource.account), adminFor]
    cases ha : m.hasAccount resource.account with
    | false => rfl
    | true =>
      simp only [if_true]
      rw [run_provisionAll fun role hrole => by simp [(ho.2 role hrole).1, ha]]
      rfl

theorem run_dispatch (keys : KeySource) (allowPurge : Bool) (q : Query) (m : Memory) :
    (dispatch allowPurge q).run (Memory.backend keys) m =
      match order allowPurge q with
      | .ok o => o.effect keys m
      | .error e => (.error (.ofCaller e), m) := by
  rw [dispatch_eq]
  cases ho : order allowPurge q with
  | error e => rfl
  | ok o => exact o.run_plan keys m (wellFormed_of_order ho)

end Postern.Gateway
