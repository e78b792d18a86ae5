import Postern.Proofs.Gateway.Session

/-!
Queries over a store some of whose methods fail.  An order makes one call, and then a failure leaves the store as it
was; only a policy is stored by one call and has its roles made by others, and of these the first can fail when the
document is already there (`Tears`).  That is the one case in which a query fails and leaves something behind
(`run_plan_torn`, `run_plan_untorn`).
-/

namespace Postern.Gateway

/-- An order that fails half done: the document of a policy is stored, and none of its roles can be made. -/
def Tears (faults : Method → Option StoreError) (m : Memory) : Order → Prop
  | .loadPolicy resource _ roles => m.hasAccount resource.account ∧ roles ≠ [] ∧
    faults .createSecret = none ∧ faults .provision ≠ none
  | _ => False

section Run
variable {keys : KeySource} {faults : Method → Option StoreError} {m : Memory} {o : Order} {e : StoreError}

/-- A call that fails ends the query, and the store is as it was. -/
theorem run_ask_failing {c : Call} (next : c.Result → Plan Outcome) (hf : faults c.method = some e) :
    (ask c next).run ((Memory.backend keys).failing faults) m = (.error (.ofStore e), m) := by
  rw [run_ask]
  simp [Backend.failing, hf]

/-- A call whose method does not fail goes on as over the store itself. -/
theorem run_ask_sound {c : Call} (next : c.Result → Plan Outcome) (hf : faults c.method = none) :
    (ask c next).run ((Memory.backend keys).failing faults) m =
      match (Memory.perform keys c m).1 with
      | .ok r => (next r).run ((Memory.backend keys).failing faults) (Memory.perform keys c m).2
      | .error e => (.error (.ofStore e), (Memory.perform keys c m).2) := by
  rw [run_ask, Backend.failing_perform_of_none hf]
  rfl

theorem run_plan_sound (ho : o.WellFormed) (hf : ∀ c ∈ o.calls, faults c.method = none) :
    o.plan.run ((Memory.backend keys).failing faults) m = o.effect keys m := by
  rw [← o.run_plan keys m ho]
  exact Plan.run_congr (fun c s hc => Backend.failing_perform_of_none (hf c hc) s) o.asks_calls m

/-- **What an order that tears leaves behind:** the document of the policy. -/
theorem run_plan_torn {resource : ResourceId} {document : String} {roles : List RoleId}
    (h : Tears faults m (.loadPolicy resource document roles)) :
    ∃ e, (Order.loadPolicy resource document roles).plan.run ((Memory.backend keys).failing faults) m =
      (.error e, m.addVersion resource document) := by
  obtain ⟨ha, hroles, hfirst, hlate⟩ := h
  obtain ⟨role, rest, rfl⟩ := List.exists_cons_of_ne_nil hroles
  obtain ⟨e, hf⟩ := Option.ne_none_iff_exists'.1 hlate
  have hadmin := Actor.administers_adminOf resource.account
  rw [Order.plan, run_ask_sound _ hfirst]
  simp only [Memory.perform, adminFor, Memory.createSecret_of_administers hadmin, ha, if_true]
  exact ⟨_, run_ask_failing _ hf⟩

/-- An order that fails, but does not tear, leaves the store as it was. -/
theorem run_plan_untorn (ho : o.WellFormed) (hnot : ¬ Tears faults m o) {failure : ApiError}
    (h : (o.plan.run ((Memory.backend keys).failing faults) m).1 = .error failure) :
    (o.plan.run ((Memory.backend keys).failing faults) m).2 = m := by
  by_cases hsound : ∀ c ∈ o.calls, faults c.method = none
  · rw [run_plan_sound ho hsound] at h ⊢
    exact effect_error h
  · simp only [Classical.not_forall] at hsound
    obtain ⟨c, hc, hf⟩ := hsound
    obtain ⟨e, hf⟩ := Option.ne_none_iff_exists'.1 hf
    cases o with
    | loadPolicy resource document roles =>
      cases hfirst : faults .createSecret with
      | some e => rw [Order.plan, run_ask_failing _ hfirst]
      | none =>
        -- the call that fails is one for a role, so the order does not tear for want of its account
        have hlate : roles ≠ [] ∧ faults .provision = some e := by
          simp only [Order.calls, List.mem_cons, List.mem_map] at hc
          rcases hc with rfl | ⟨role, hrole, rfl⟩
          · cases hfirst.symm.trans hf
          · exact ⟨List.ne_nil_of_mem hrole, hf⟩
        have ha : m.hasAccount resource.account = false := by
          simpa [Tears, hfirst, hlate] using hnot
        have hadmin := Actor.administers_adminOf resource.account
        rw [Order.plan, run_ask_sound _ hfirst]
        simp [Memory.perform, adminFor, Memory.createSecret_of_administers hadmin, ha]
    | _ =>
      obtain rfl := List.mem_singleton.1 hc
      exact congrArg Prod.snd (run_ask_failing _ hf)

end Run

/-- **When a query fails and leaves something behind:** exactly when its order tears. -/
theorem serve_torn_iff (keys : KeySource) (faults : Method → Option StoreError) (allowPurge : Bool) (q : Query)
    (m : Memory) :
    let served := serve ((Memory.backend keys).failing faults) allowPurge q m
    ((∃ e, served.1 = .error e) ∧ served.2 ≠ m) ↔ ∃ o, order allowPurge q = .ok o ∧ Tears faults m o := by
  intro served
  have hserved : served = (check (order allowPurge q) Order.plan).run ((Memory.backend keys).failing faults) m := by
    rw [← dispatch_eq]
    rfl
  cases ho : order allowPurge q with
  | error e =>
    rw [ho] at hserved
    refine iff_of_false (fun ⟨_, hchanged⟩ => hchanged ?_) (by simp)
    rw [hserved]
    rfl
  | ok o =>
    rw [ho] at hserved
    have hwell := wellFormed_of_order ho
    constructor
    · rintro ⟨⟨failure, hfail⟩, hchanged⟩
      rw [hserved] at hfail hchanged
      exact ⟨o, rfl, Classical.byContradiction fun hnot => hchanged (run_plan_untorn hwell hnot hfail)⟩
    · rintro ⟨_, he, htears⟩
      obtain rfl := Except.ok.inj he
      cases o with
      | loadPolicy resource document roles =>
        obtain ⟨e, htorn⟩ := run_plan_torn htears
        rw [hserved.trans htorn]
        exact ⟨⟨e, rfl⟩, Memory.addVersion_ne m resource document⟩
      | _ => cases htears

/-- A policy whose roles cannot be made is refused, and its document can be read from then on. -/
theorem load_policy_tears :
    let create : Query := ⟨[("action", "create_account"), ("id", "cucumber")]⟩
    let load : Query :=
      ⟨[("action", "load_policy"), ("resource_id", "cucumber:policy:root"), ("value", "- !user alice")]⟩
    let faults : Method → Option StoreError := fun
      | .provision => some (.database "attempted to acquire a connection on a closed pool")
      | _ => none
    let m := after (Memory.backend fun _ => "key") true .empty [create]
    let served := serve ((Memory.backend fun _ => "key").failing faults) true load m
    (∃ e, served.1 = .error e) ∧ served.2 ≠ m := by
  intro create load faults m served
  have hfailed : served.1.isOk = false := by decide +kernel
  have hbefore : m.versions ⟨"cucumber", "policy", "root"⟩ = none := by decide +kernel
  have hafter : served.2.versions ⟨"cucumber", "policy", "root"⟩ = some ["- !user alice"] := by decide +kernel
  constructor
  · cases h : served.1 with
    | ok r => simp [h, Except.isOk, Except.toBool] at hfailed
    | error e => exact ⟨e, rfl⟩
  · intro he
    rw [he, hbefore] at hafter
    cases hafter

end Postern.Gateway
