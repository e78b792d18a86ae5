import Postern.Proofs.Gateway.KeyLifecycle
import Postern.Proofs.Gateway.Underway

/-!
A request that fails leaves no trace.  The run is compared with the run in which the request makes no calls: all others
stay in step (`Abreast`), and the stores differ at most in one account, that of the policy whose roles the request is
giving their keys (`Touches`).  Such a request fails only where that account is gone, so in the end nothing differs
(`Touches.advance`).  What remains is that keys have been drawn in another order (`run_of_failed`).
-/

namespace Postern.Gateway

/-- Where a request that has not succeeded may have stored something: nowhere, or in the account of its policy. -/
inductive Touches : Plan Outcome → Option String → Prop
  | waiting {o : Order} (ho : o.WellFormed) : Touches o.plan none
  | provisioning {resource : ResourceId} {roles : List RoleId}
    (hroles : ∀ role ∈ roles, role.account = resource.account) :
    Touches (provisioning resource roles) (some resource.account)
  | failed (e : ApiError) : Touches (.answer (.error e)) none

section Advance
variable {keys keys' : KeySource} {d : Nat} {m m' : Memory} {p : Plan Outcome} {apart : Option String}

/-- A request has succeeded, or what it has stored lies where it touches the store. -/
def Covered (keys keys' : KeySource) (d : Nat) (m' : Memory) (p : Plan Outcome) (m : Memory) : Prop :=
  (∃ r, p = .answer (.ok r)) ∨ ∃ apart, Touches p apart ∧ Memory.AlikeSince keys keys' d apart m m'

theorem covered_failed (e : ApiError) (hm : Memory.AlikeSince keys keys' d none m m') :
    Covered keys keys' d m' (.answer (.error e)) m :=
  .inr ⟨none, .failed e, hm⟩

theorem covered_effect (o : Order) (hm : Memory.AlikeSince keys keys' d none m m') :
    Covered keys keys' d m' (.answer (o.effect keys m).1) (o.effect keys m).2 := by
  cases heffect : (o.effect keys m).1 with
  | ok r => exact .inl ⟨r, rfl⟩
  | error e =>
    rw [effect_error heffect]
    exact covered_failed e hm

theorem covered_load {resource : ResourceId} {document : String} {roles : List RoleId}
    (hroles : ∀ role ∈ roles, role.account = resource.account) (hm : Memory.AlikeSince keys keys' d none m m') :
    let next := (Order.loadPolicy resource document roles).plan.advance (Memory.backend keys) m
    Covered keys keys' d m' next.1 next.2 := by
  intro next
  have hnext : next = _ := advance_load resource document roles
  rw [hnext]
  split
  · rename_i ha
    exact .inr ⟨_, .provisioning hroles, (hm.alike.setApart _).addVersion_left ha, hm.drawn, hm.drawn'⟩
  · exact covered_failed _ hm

theorem covered_provision {resource : ResourceId} {role : RoleId} {roles : List RoleId}
    (hroles : ∀ r ∈ role :: roles, r.account = resource.account)
    (hm : Memory.AlikeSince keys keys' d (some resource.account) m m') :
    let next := (provisioning resource (role :: roles)).advance (Memory.backend keys) m
    Covered keys keys' d m' next.1 next.2 := by
  intro next
  obtain ⟨hrole, hrest⟩ := List.forall_mem_cons.1 hroles
  have hnext : next = _ := advance_provision hrole roles
  rw [hnext, ← hrole]
  rw [← hrole] at hm
  split
  · rename_i ha
    refine .inr ⟨_, .provisioning hrest, ?_⟩
    rw [← hrole]
    exact ⟨hm.alike.giveKey_left ha, hm.drawn.trans (Memory.drawn_le_giveKey ..), hm.drawn'⟩
  · -- the account is gone, so that nothing is left of what has been stored in it
    rename_i ha
    exact covered_failed _ ⟨hm.alike.of_gone (Bool.eq_false_iff.2 ha), hm.drawn, hm.drawn'⟩

/-- **A request that goes on stays covered.** -/
theorem Touches.advance (hp : Touches p apart) (hm : Memory.AlikeSince keys keys' d apart m m') :
    Covered keys keys' d m' (p.advance (Memory.backend keys) m).1 (p.advance (Memory.backend keys) m).2 := by
  cases hp with
  | failed e => exact covered_failed e hm
  | @waiting o ho =>
    rcases o.policy_or with ⟨resource, document, roles, rfl⟩ | hload
    · exact covered_load (fun role hrole => (ho.2 role hrole).1) hm
    · rw [advance_plan hload]
      exact covered_effect o hm
  | @provisioning resource roles hroles =>
    cases roles with
    | nil => exact .inl ⟨_, rfl⟩
    | cons role roles => exact covered_provision hroles hm

end Advance

/-! ### Whole runs -/

/-- The run without a request has gone the same way, as far as the request has not succeeded. -/
def Untraced (keys keys' : KeySource) (d i : Nat) (pool pool' : Pool Memory Outcome) : Prop :=
  ∀ p, pool.plans[i]? = some p → (∃ r, p = .answer (.ok r)) ∨
    ∃ apart, Touches p apart ∧ Abreast (Memory.AlikeSince keys keys' d apart) (fun _ _ => True) (· ≠ i) pool pool'

section Run
variable {keys keys' : KeySource} {d i : Nat} {pool pool' : Pool Memory Outcome}

theorem untraced_asked (allowPurge : Bool) (queries : List Query) (i : Nat) {m m' : Memory}
    (hm : Memory.AlikeSince keys keys' d none m m') :
    Untraced keys keys' d i (asked allowPurge queries m) (asked allowPurge queries m') := by
  intro p hp
  have habreast := abreast_asked allowPurge queries (fun _ _ => True) (· ≠ i) hm
  rw [plans_asked, Option.map_eq_some_iff] at hp
  obtain ⟨q, -, rfl⟩ := hp
  rw [dispatch_eq]
  cases ho : order allowPurge q with
  | error e => exact .inr ⟨none, .failed _, habreast⟩
  | ok o => exact .inr ⟨none, .waiting (wellFormed_of_order ho), habreast⟩

/-- Another request makes a call, in both runs. -/
theorem Untraced.step (h : Untraced keys keys' d i pool pool') {j : Nat} (hj : j ≠ i) :
    Untraced keys keys' d i (pool.step (Memory.backend keys) j) (pool'.step (Memory.backend keys') j) := by
  intro p hp
  rw [Pool.plans_step, if_neg hj] at hp
  rcases h p hp with hok | ⟨apart, htouches, habreast⟩
  · exact .inl hok
  · exact .inr ⟨apart, htouches, habreast.step (lockstep_of_parallel (Memory.parallel_since ..)) hj⟩

/-- The request itself makes a call, in the one run only. -/
theorem Untraced.step_left (h : Untraced keys keys' d i pool pool') :
    Untraced keys keys' d i (pool.step (Memory.backend keys) i) pool' := by
  intro p' hp'
  rw [Pool.plans_step, if_pos rfl, Option.map_eq_some_iff] at hp'
  obtain ⟨p, hp, rfl⟩ := hp'
  rcases h p hp with ⟨r, rfl⟩ | ⟨apart, htouches, habreast⟩
  · exact .inl ⟨r, rfl⟩
  · have hstore : (pool.step (Memory.backend keys) i).store = (p.advance (Memory.backend keys) pool.store).2 := by
      rw [Pool.store_step, hp]
      rfl
    refine (htouches.advance habreast.store).imp_right fun ⟨apart', htouches', hm⟩ => ⟨apart', htouches', ?_⟩
    exact habreast.step_left (fun hne => hne rfl) (hstore ▸ hm)

/-- **Without the calls of a request that has not succeeded, a run goes the same way.** -/
theorem Untraced.run (h : Untraced keys keys' d i pool pool') (schedule : List Nat) :
    Untraced keys keys' d i (pool.run (Memory.backend keys) schedule)
      (pool'.run (Memory.backend keys') (schedule.filter (· ≠ i))) := by
  induction schedule generalizing pool pool' with
  | nil => exact h
  | cons j schedule ih =>
    rw [Pool.run_cons]
    by_cases hj : j = i
    · subst hj
      simpa using ih h.step_left
    · rw [List.filter_cons_of_pos (by simpa using hj), Pool.run_cons]
      exact ih (h.step hj)

end Run

theorem touches_failed {e : ApiError} {apart : Option String} (h : Touches (.answer (.error e)) apart) :
    apart = none := by
  generalize hp : Plan.answer (Except.error e) = p at h
  cases h with
  | waiting | failed => rfl
  | @provisioning resource roles _ => cases roles <;> cases hp

/-- **A request that fails leaves no trace.**  Some queries are asked at once over a store that calls have led to, and
their calls are made as a schedule says.  When one of them has failed, the accounts in their order, the roles and their
keys, and the versions of all secrets are what they are without its calls, where the keys that have been drawn since
the start may come in another order. -/
theorem run_of_failed (keys : KeySource) (allowPurge : Bool) (past : List Call) (queries : List Query)
    (schedule : List Nat) (i : Nat) (e : ApiError) :
    let start := asked allowPurge queries (.reached keys past)
    (start.run (Memory.backend keys) schedule).answer? i = some (.error e) →
      ∃ σ : Equiv.Perm Nat, (∀ n < start.store.drawn, σ n = n) ∧
        Memory.Same (start.run (Memory.backend keys) schedule).store
          (start.run (Memory.backend (keys ∘ σ)) (schedule.filter (· ≠ i))).store := by
  intro start hfailed
  -- both runs once more, with keys that are told apart
  obtain ⟨hsound, hdrawn, hredrawn, hreordered⟩ := reached_redrawn tally_injective keys past
  have hlift := redrawn_run hredrawn allowPurge queries schedule
  obtain ⟨outcome, hanswer, hfate⟩ := hlift.answer? trivial hfailed
  obtain ⟨e', rfl⟩ := hfate.failed
  have huntraced := (untraced_asked allowPurge queries i (.refl tally tally none (.reached tally past))).run schedule
  obtain ⟨r, hr⟩ | ⟨apart, htouches, habreast⟩ := huntraced _ (Pool.answer?_eq_some_iff.1 hanswer)
  · cases hr
  obtain rfl := touches_failed htouches
  obtain ⟨σ, hfirst, hsame⟩ := Memory.exists_same tally_injective habreast.store
    (keysSound_run tally_injective hsound _) (keysSound_run tally_injective hsound _)
  refine ⟨σ, hdrawn ▸ hfirst, hsame keys _ _ hlift.store ?_⟩
  exact (redrawn_run (hreordered σ hfirst) allowPurge queries _).store

/-- A policy whose account is destroyed when one of its two roles has got its key. -/
theorem run_of_failed_destroyed :
    let load : Query :=
      ⟨[("action", "load_policy"), ("resource_id", "a:policy:root"), ("value", "[!user alice, !user bob]")]⟩
    let destroy : Query := ⟨[("action", "destroy_account"), ("id", "a")]⟩
    let start := asked true [load, destroy] (.reached tally [.createAccount .root "a"])
    (start.run (Memory.backend tally) [0, 0, 1, 0]).answer? 0 = some (.error (accountNotFound "a")) ∧
      ∃ σ : Equiv.Perm Nat, (∀ n < start.store.drawn, σ n = n) ∧
        Memory.Same (start.run (Memory.backend tally) [0, 0, 1, 0]).store
          (start.run (Memory.backend (tally ∘ σ)) [1]).store := by
  intro load destroy start
  have hfailed : (start.run (Memory.backend tally) [0, 0, 1, 0]).answer? 0 = some (.error (accountNotFound "a")) := by
    decide +kernel
  exact ⟨hfailed, run_of_failed tally true _ _ _ 0 _ hfailed⟩

end Postern.Gateway
