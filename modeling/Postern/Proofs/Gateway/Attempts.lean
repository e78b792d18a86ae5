import Postern.Proofs.Gateway.Refusals
import Postern.Proofs.Store.Privilege

/-!
Which calls a query makes, as whom, and what becomes of their failures.  An order makes its calls one after another
until one of them fails, whatever the store is, and that failure is the answer (`Order.attempted_plan`).  Each call is
made as someone who has the right to it (`isPermitted_of_mem_calls`), so the store in memory never forbids one.
-/

namespace Postern.Gateway

open Plan (Attempt)

/-! ### Calls in order -/

/-- Calls are made one after another until one fails.  That failure, in its own words, is what becomes of them; where
none fails, it is one of the outcomes that are `granted`. -/
inductive Attempted (granted : Outcome → Prop) : List Call → List Attempt → Outcome → Prop
  | all {outcome : Outcome} (h : granted outcome) : Attempted granted [] [] outcome
  | goes {c : Call} {calls : List Call} {attempts : List Attempt} {outcome : Outcome}
    (h : Attempted granted calls attempts outcome) : Attempted granted (c :: calls) (⟨c, none⟩ :: attempts) outcome
  | fails {c : Call} {calls : List Call} (e : StoreError) :
    Attempted granted (c :: calls) [⟨c, some e⟩] (.error ⟨(ApiError.ofStore e).kind, e.message⟩)

/-- What an order answers where none of its calls fails: a success, or that there is no such role. -/
def Order.Granted (o : Order) (outcome : Outcome) : Prop :=
  (∃ r, outcome = .ok r ∧ r.status < 400) ∨ ∃ role, o = .retrieveApiKey role ∧ outcome = .error (roleNotFound role)

theorem ofStore_eq (e : StoreError) : ApiError.ofStore e = ⟨(ApiError.ofStore e).kind, e.message⟩ := by
  cases e <;> rfl

section Run
variable {σ : Type} {b : Backend σ} {granted : Outcome → Prop} {calls : List Call}

theorem tried_ask (b : Backend σ) (s : σ) (c : Call) (next : c.Result → Plan Outcome) :
    (ask c next).tried b s =
      match (b.perform c s).1 with
      | .ok r => ⟨c, none⟩ :: (next r).tried b (b.perform c s).2
      | .error e => [⟨c, some e⟩] := by
  unfold ask
  rw [Plan.tried]
  cases (b.perform c s).1 <;> rfl

/-- A call comes before those that are made where it does not fail. -/
theorem attempted_ask {c : Call} {next : c.Result → Plan Outcome}
    (hnext : ∀ r s, Attempted granted calls ((next r).tried b s) ((next r).run b s).1) (s : σ) :
    Attempted granted (c :: calls) ((ask c next).tried b s) ((ask c next).run b s).1 := by
  rw [tried_ask, run_ask]
  cases (b.perform c s).1 with
  | ok r => exact .goes (hnext r _)
  | error e =>
    show Attempted granted (c :: calls) [⟨c, some e⟩] (.error (.ofStore e))
    rw [ofStore_eq]
    exact .fails e

theorem attempted_provisionAll {actor : Actor} {last : Plan Outcome}
    (hlast : ∀ s, Attempted granted [] (last.tried b s) (last.run b s).1) (roles : List RoleId) (s : σ) :
    Attempted granted (roles.map (.provision actor)) ((provisionAll actor last roles).tried b s)
      ((provisionAll actor last roles).run b s).1 := by
  induction roles generalizing s with
  | nil => exact hlast s
  | cons role roles ih => exact attempted_ask (fun _ s => ih s) s

/-- **An order makes its calls until one of them fails,** whatever the store is. -/
theorem Order.attempted_plan (o : Order) (b : Backend σ) (s : σ) :
    Attempted o.Granted o.calls (o.plan.tried b s) (o.plan.run b s).1 := by
  have hdone : ∀ {o : Order} {r : Response}, r.status < 400 → ∀ s : σ,
      Attempted o.Granted [] ((succeed r).tried b s) ((succeed r).run b s).1 :=
    fun hr _ => .all (.inl ⟨_, rfl, hr⟩)
  cases o with
  | retrieveApiKey role =>
    refine attempted_ask (fun found s => ?_) s
    cases found with
    | some role => exact hdone (r := .text 200 role.apiKey) (by decide : 200 < 400) s
    | none => exact .all (.inr ⟨role, rfl, rfl⟩)
  | loadPolicy resource document roles =>
    have hlast := hdone (o := .loadPolicy resource document roles) (r := .empty 201) (by decide)
    exact attempted_ask (fun _ s => attempted_provisionAll hlast roles s) s
  | createAccount _ | createSecret _ _ => exact attempted_ask (fun _ s => hdone (by decide : 201 < 400) s) s
  | destroyAccount _ => exact attempted_ask (fun _ s => hdone (by decide : 204 < 400) s) s
  | listAccounts | getSecret _ _ | purge => exact attempted_ask (fun _ s => hdone (by decide : 200 < 400) s) s

theorem Attempted.granted_or_fails {attempts : List Attempt} {outcome : Outcome}
    (h : Attempted granted calls attempts outcome) : granted outcome ∨
      ∃ c ∈ calls, ∃ e, ⟨c, some e⟩ ∈ attempts ∧ outcome = .error ⟨(ApiError.ofStore e).kind, e.message⟩ := by
  induction h with
  | all h => exact .inl h
  | goes _ ih =>
    refine ih.imp_right ?_
    rintro ⟨c, hc, e, he, houtcome⟩
    exact ⟨c, List.mem_cons_of_mem _ hc, e, List.mem_cons_of_mem _ he, houtcome⟩
  | fails e => exact .inr ⟨_, List.mem_cons_self .., e, List.mem_singleton_self _, rfl⟩

theorem Attempted.eq_of_failure {attempts : List Attempt} {outcome : Outcome}
    (h : Attempted granted calls attempts outcome) {c : Call} {e : StoreError} (hfailed : ⟨c, some e⟩ ∈ attempts) :
    outcome = .error (.ofStore e) := by
  induction h with
  | all => cases hfailed
  | goes _ ih =>
    rcases List.mem_cons.1 hfailed with hfirst | hlater
    · cases hfirst
    · exact ih hlater
  | fails e' =>
    cases List.mem_singleton.1 hfailed
    rw [ofStore_eq e]

end Run

/-! ### The rights to calls -/

def accountMethods : List Method := [.listAccounts, .createAccount, .destroyAccount, .purge]

/-- The operations that an action needs. -/
def Action.methods : Action → List Method
  | .listAccounts => [.listAccounts]
  | .createAccount => [.createAccount]
  | .destroyAccount => [.destroyAccount]
  | .retrieveApiKey => [.findRole]
  | .getSecret => [.showSecret]
  | .createSecret => [.createSecret]
  | .loadPolicy => [.createSecret, .provision]
  | .purge => [.purge]

theorem Action.createAccount_mem_methods {a : Action} : .createAccount ∈ a.methods ↔ a = .createAccount := by
  cases a <;> simp [methods]

theorem Action.purge_mem_methods {a : Action} : .purge ∈ a.methods ↔ a = .purge := by
  cases a <;> simp [methods]

section Rights
variable {o : Order} {c : Call}

theorem method_of_root (hc : c ∈ o.calls) (hroot : c.actor? = some .root) : c.method ∈ accountMethods := by
  cases o with
  | loadPolicy resource document roles =>
    rcases mem_calls_loadPolicy.1 hc with rfl | ⟨role, -, rfl⟩
    · cases hroot
    · cases hroot
  | retrieveApiKey _ | getSecret _ _ | createSecret _ _ =>
    obtain rfl := List.mem_singleton.1 hc
    cases hroot
  | listAccounts | createAccount _ | destroyAccount _ | purge =>
    obtain rfl := List.mem_singleton.1 hc
    simp [accountMethods, Call.method]

/-- **Each call is made as someone who has the right to it.**  For a policy this is so because the roles that it
declares lie in the account of its resource. -/
theorem isPermitted_of_mem_calls (ho : o.WellFormed) (hc : c ∈ o.calls) : c.isPermitted = true := by
  cases o with
  | loadPolicy resource document roles =>
    rcases mem_calls_loadPolicy.1 hc with rfl | ⟨role, hrole, rfl⟩
    · exact Actor.administers_adminOf resource.account
    · show (adminFor resource).administers role.account = true
      rw [(ho.2 role hrole).1]
      exact Actor.administers_adminOf resource.account
  | getSecret resource _ | createSecret resource _ =>
    obtain rfl := List.mem_singleton.1 hc
    exact Actor.administers_adminOf resource.account
  | listAccounts | createAccount _ | destroyAccount _ | retrieveApiKey _ | purge =>
    obtain rfl := List.mem_singleton.1 hc
    rfl

theorem method_mem_methods (hc : c ∈ o.calls) : c.method ∈ o.action.methods := by
  cases o with
  | loadPolicy resource document roles =>
    rcases mem_calls_loadPolicy.1 hc with rfl | ⟨role, -, rfl⟩
    · exact List.mem_cons_self
    · exact List.mem_cons_of_mem _ List.mem_cons_self
  | listAccounts | createAccount _ | destroyAccount _ | retrieveApiKey _ | getSecret _ _ | createSecret _ _ | purge =>
    obtain rfl := List.mem_singleton.1 hc
    exact List.mem_singleton_self _

end Rights

/-! ### Queries -/

/-- A query is carried out as an order: it names what the order is made of, and makes the calls of the order, as the
root only where accounts are handled. -/
structure CarriedOut (allowPurge : Bool) (q : Query) (o : Order) : Prop where
  action : q.find? "action" = some o.action.text
  given : ∃ named, Request.resourceOf q = .ok named ∧ o.Given q named
  attempted : ∀ {σ : Type} (b : Backend σ) (s : σ),
    Attempted o.Granted o.calls ((dispatch allowPurge q).tried b s) (serve b allowPurge q s).1
  made : ∀ {σ : Type} (b : Backend σ) (s : σ),
    (dispatch allowPurge q).made b s = ((dispatch allowPurge q).tried b s).map Attempt.call
  root : ∀ c ∈ o.calls, c.actor? = some .root → c.method ∈ accountMethods

section Queries
variable {allowPurge : Bool} {q : Query} {o : Order}

theorem carriedOut_of_order (ho : order allowPurge q = .ok o) : CarriedOut allowPurge q o := by
  obtain ⟨haction, -, hgiven⟩ := order_eq_ok_iff.1 ho
  refine ⟨haction, hgiven, fun b s => ?_, fun b s => (Plan.map_call_tried b _ s).symm, fun c => method_of_root⟩
  rw [serve, dispatch_eq, ho]
  exact o.attempted_plan b s

/-- How an order fails over the store in memory: something is not there, or the new account is there already. -/
theorem kind_of_error {keys : KeySource} {m : Memory} {e : ApiError} (ho : order allowPurge q = .ok o)
    (h : (serve (Memory.backend keys) allowPurge q m).1 = .error e) :
    e.kind = .notFound ∨ e.kind = .conflict ∧ o.action = .createAccount := by
  rcases ((carriedOut_of_order ho).attempted (Memory.backend keys) m).granted_or_fails with hgranted | hfails
  · rw [h] at hgranted
    obtain ⟨r, ⟨⟩, -⟩ | ⟨role, -, he⟩ := hgranted
    cases he
    exact .inl rfl
  · rw [h] at hfails
    obtain ⟨c, hc, failure, hmem, he⟩ := hfails
    obtain ⟨m', hm'⟩ := Plan.failure_of_mem_tried hmem
    cases he
    rcases Memory.perform_error_cases (isPermitted_of_mem_calls (wellFormed_of_order ho) hc) hm' with
      ⟨what, rfl⟩ | ⟨hmethod, what, rfl⟩
    · exact .inl rfl
    · have hneeded := method_mem_methods hc
      rw [hmethod] at hneeded
      exact .inr ⟨rfl, Action.createAccount_mem_methods.1 hneeded⟩

/-- Who succeeds is told of no failure. -/
theorem status_of_ok {σ : Type} {b : Backend σ} {s : σ} {r : Response} (h : (serve b allowPurge q s).1 = .ok r) :
    r.status < 400 := by
  cases ho : order allowPurge q with
  | error e =>
    rw [serve_of_error b s ho] at h
    cases h
  | ok o =>
    have hattempted := (carriedOut_of_order ho).attempted b s
    rw [h] at hattempted
    rcases hattempted.granted_or_fails with (⟨r', hr, hstatus⟩ | ⟨_, _, herror⟩) | ⟨_, _, _, _, herror⟩
    · cases hr
      exact hstatus
    · cases herror
    · cases herror

/-- A failure that is not the caller's looks the same in both modes. -/
theorem render_of_kind {e : ApiError} (h : e.kind ≠ .badRequest) (mode : ErrorMode) : e.render mode = e.response := by
  cases mode <;> simp [ApiError.render, ApiError.isCallerError, h]

theorem status_render_of_kind {e : ApiError} (h : e.kind ≠ .badRequest) (mode : ErrorMode) :
    (e.render mode).status = e.kind.status := by
  rw [render_of_kind h]
  rfl

theorem status_render_ofCaller (e : CallerError) (mode : ErrorMode) :
    ((ApiError.ofCaller e).render mode).status ≤ 400 := by
  cases mode with
  | strict => exact (by decide : 400 ≤ 400)
  | legacy => exact (by decide : 200 ≤ 400)

section Respond
variable {σ : Type} {b : Backend σ} {s : σ} (mode : ErrorMode)

theorem run_respond_ok {r : Response} (h : (serve b allowPurge q s).1 = .ok r) :
    ((respond mode allowPurge q).run b s).1 = r := by
  unfold serve at h
  simp only [respond, Plan.run_map, h]

theorem run_respond_error {e : ApiError} (h : (serve b allowPurge q s).1 = .error e) :
    ((respond mode allowPurge q).run b s).1 = e.render mode := by
  unfold serve at h
  simp only [respond, Plan.run_map, h]

end Respond

/-- How queries are answered over the store in memory. -/
theorem status_respond (keys : KeySource) (mode : ErrorMode) (m : Memory) (allowPurge : Bool) (q : Query) :
    let response := ((respond mode allowPurge q).run (Memory.backend keys) m).1
    response.status ≤ 400 ∨ response.status = 404 ∨
      response.status = 409 ∧ q.find? "action" = some "create_account" := by
  intro response
  have hresponse : response = ((respond mode allowPurge q).run (Memory.backend keys) m).1 := rfl
  cases ho : order allowPurge q with
  | error e =>
    left
    have hrefused : (serve (Memory.backend keys) allowPurge q m).1 = .error (.ofCaller e) := by
      rw [serve_of_error _ _ ho]
    rw [hresponse, run_respond_error mode hrefused]
    exact status_render_ofCaller e mode
  | ok o =>
    cases houtcome : (serve (Memory.backend keys) allowPurge q m).1 with
    | ok r =>
      left
      rw [hresponse, run_respond_ok mode houtcome]
      exact (status_of_ok houtcome).le
    | error e =>
      right
      rw [hresponse, run_respond_error mode houtcome]
      rcases kind_of_error ho houtcome with hkind | ⟨hkind, hcreate⟩
      · left
        rw [status_render_of_kind (by simp [hkind]) mode, hkind]
        rfl
      · right
        constructor
        · rw [status_render_of_kind (by simp [hkind]) mode, hkind]
          rfl
        · rw [(carriedOut_of_order ho).action, hcreate]
          rfl

/-- **What a query asks of the store, and as whom:** if it is not refused as the caller's fault, the calls of one order,
each for what the query names, until one of them fails.  Over the store in memory nobody is ever unknown, forbidden or
failed, and only a new account can be in conflict. -/
theorem calls_in_order (allowPurge : Bool) (q : Query) :
    ((∃ e : CallerError, ∀ {σ : Type} (b : Backend σ) (s : σ), serve b allowPurge q s = (.error (.ofCaller e), s)) ∨
      ∃ o, CarriedOut allowPurge q o) ∧
    ∀ keys mode m,
      let response := ((respond mode allowPurge q).run (Memory.backend keys) m).1
      response.status ∉ [401, 403, 500] ∧ (response.status = 409 → q.find? "action" = some "create_account") := by
  constructor
  · cases ho : order allowPurge q with
    | error e => exact .inl ⟨e, fun b s => serve_of_error b s ho⟩
    | ok o => exact .inr ⟨o, carriedOut_of_order ho⟩
  · intro keys mode m response
    have hstatus : response.status ≤ 400 ∨ response.status = 404 ∨
        response.status = 409 ∧ q.find? "action" = some "create_account" := status_respond keys mode m allowPurge q
    constructor
    · simp only [List.mem_cons, List.not_mem_nil, or_false]
      omega
    · intro hconflict
      rcases hstatus with h | h | ⟨-, h⟩
      · omega
      · omega
      · exact h

end Queries

end Postern.Gateway
