import Postern.Proofs.Gateway.Effect
import Postern.Proofs.Store.Alike
import Postern.Proofs.Turns

/-!
Requests under way.  Between its calls a request is at one of three stages: nothing is done yet, the roles of a policy
are being given their keys, or all is answered (`Stage`).  What the next call does at each stage is said once
(`advance_plan`, `advance_load`, `advance_provision`).

So two pools of the same requests stay in step, over stores that are related by what is done to both
(`InStep.advance`), as long as the same requests make their calls in them (`Pool.Abreast.step`).
-/

namespace Postern.Gateway

/-- The rest of a policy: its roles are given their keys. -/
def provisioning (resource : ResourceId) (roles : List RoleId) : Plan Outcome :=
  provisionAll (adminFor resource) (succeed (.empty 201)) roles

/-- How far a request has come. -/
inductive Stage : Plan Outcome → Prop
  | waiting {o : Order} (ho : o.WellFormed) : Stage o.plan
  | provisioning {resource : ResourceId} {roles : List RoleId}
    (hroles : ∀ role ∈ roles, role.account = resource.account) : Stage (provisioning resource roles)
  | answered (outcome : Outcome) : Stage (.answer outcome)

theorem stage_dispatch (allowPurge : Bool) (q : Query) : Stage (dispatch allowPurge q) := by
  rw [dispatch_eq]
  cases ho : order allowPurge q with
  | error e => exact .answered _
  | ok o => exact .waiting (wellFormed_of_order ho)

/-! ### The next call -/

/-- The failure of a call in an account that does not exist. -/
def accountNotFound (id : String) : ApiError := .ofStore (.notFound ("account '" ++ id ++ "'"))

section Advance
variable {keys : KeySource} {m : Memory}

theorem advance_ask {σ : Type} (b : Backend σ) (s : σ) (c : Call) (next : c.Result → Plan Outcome) :
    (ask c next).advance b s =
      match (b.perform c s).1 with
      | .ok r => (next r, (b.perform c s).2)
      | .error e => (.answer (.error (.ofStore e)), (b.perform c s).2) := by
  simp only [ask, Plan.advance]
  cases (b.perform c s).1 <;> rfl

/-- An order that is no policy is answered after one call, with its effect. -/
theorem advance_plan {o : Order} (ho : o.action ≠ .loadPolicy) :
    o.plan.advance (Memory.backend keys) m = (.answer (o.effect keys m).1, (o.effect keys m).2) := by
  cases o with
  | listAccounts | purge => rfl
  | createAccount id =>
    simp only [Order.plan, Order.effect, advance_ask, Memory.backend_perform, Memory.perform, Memory.createAccount_root]
    cases m.hasAccount id <;> rfl
  | destroyAccount id =>
    simp only [Order.plan, Order.effect, advance_ask, Memory.backend_perform, Memory.perform,
      Memory.destroyAccount_root]
    cases m.hasAccount id <;> rfl
  | retrieveApiKey role =>
    simp only [Order.plan, Order.effect, advance_ask, Memory.backend_perform, Memory.perform]
    cases m.key? role <;> rfl
  | getSecret resource version =>
    simp only [Order.plan, Order.effect, advance_ask, Memory.backend_perform, Memory.perform]
    cases m.showSecret (adminFor resource) resource version <;> rfl
  | createSecret resource value =>
    simp only [Order.plan, Order.effect, advance_ask, Memory.backend_perform, Memory.perform,
      Memory.createSecret_of_administers (Actor.administers_adminOf resource.account), adminFor]
    cases m.hasAccount resource.account <;> rfl
  | loadPolicy resource document roles => exact absurd rfl ho

theorem advance_load (resource : ResourceId) (document : String) (roles : List RoleId) :
    (Order.loadPolicy resource document roles).plan.advance (Memory.backend keys) m =
      if m.hasAccount resource.account then (provisioning resource roles, m.addVersion resource document)
      else (.answer (.error (accountNotFound resource.account)), m) := by
  simp only [Order.plan, advance_ask, Memory.backend_perform, Memory.perform,
    Memory.createSecret_of_administers (Actor.administers_adminOf resource.account), adminFor]
  cases m.hasAccount resource.account <;> rfl

theorem advance_provision {resource : ResourceId} {role : RoleId} (hrole : role.account = resource.account)
    (roles : List RoleId) :
    (provisioning resource (role :: roles)).advance (Memory.backend keys) m =
      if m.hasAccount resource.account then (provisioning resource roles, m.giveKey keys role)
      else (.answer (.error (accountNotFound resource.account)), m) := by
  have hactor : (adminFor resource).administers role.account := by
    rw [hrole]
    exact Actor.administers_adminOf resource.account
  simp only [provisioning, provisionAll, advance_ask, Memory.backend_perform, Memory.perform,
    Memory.provision_of_administers hactor, hrole]
  cases m.hasAccount resource.account <;> rfl

end Advance

/-! ### Two pools in step -/

/-- Two requests are in step: they have come equally far, or both have answered, in ways that `A` relates. -/
inductive InStep (A : Outcome → Outcome → Prop) : Plan Outcome → Plan Outcome → Prop
  | same {p : Plan Outcome} (hp : Stage p) : InStep A p p
  | answered {outcome outcome' : Outcome} (h : A outcome outcome') : InStep A (.answer outcome) (.answer outcome')

/-- Over related stores, what is done to both keeps them related, and every order is answered in related ways. -/
structure Lockstep (keys keys' : KeySource) (R : Memory → Memory → Prop) (A : Outcome → Outcome → Prop) : Prop
    extends Memory.Parallel keys keys' R where
  effect : ∀ {m m'} (o : Order), R m m' → A (o.effect keys m).1 (o.effect keys' m').1

theorem lockstep_of_parallel {keys keys' : KeySource} {R : Memory → Memory → Prop}
    (hR : Memory.Parallel keys keys' R) : Lockstep keys keys' R fun _ _ => True :=
  ⟨hR, fun _ _ => trivial⟩

section InStep
variable {keys keys' : KeySource} {R : Memory → Memory → Prop} {A : Outcome → Outcome → Prop} {m m' : Memory}
  {p p' : Plan Outcome}

theorem advance_snd (hR : Memory.Parallel keys keys' R) (h : InStep A p p') (hm : R m m') :
    R (p.advance (Memory.backend keys) m).2 (p'.advance (Memory.backend keys') m').2 := by
  cases h with
  | answered => exact hm
  | same hp =>
    cases p with
    | answer _ => exact hm
    | call c next => exact hR.perform hm c

/-- **Requests in step stay in step,** when both make their next call. -/
theorem InStep.advance (hR : Lockstep keys keys' R A) (h : InStep A p p') (hm : R m m') :
    InStep A (p.advance (Memory.backend keys) m).1 (p'.advance (Memory.backend keys') m').1 := by
  cases h with
  | answered h => exact .answered h
  | same hp =>
    cases hp with
    | answered outcome => exact .same (.answered outcome)
    | @waiting o ho =>
      rcases o.policy_or with ⟨resource, document, roles, rfl⟩ | hload
      · rw [advance_load, advance_load, ← hR.hasAccount hm]
        split
        · exact .same (.provisioning fun role hrole => (ho.2 role hrole).1)
        · exact .same (.answered _)
      · rw [advance_plan hload, advance_plan hload]
        exact .answered (hR.effect o hm)
    | @provisioning resource roles hroles =>
      cases roles with
      | nil => exact .same (.answered _)
      | cons role roles =>
        obtain ⟨hrole, hrest⟩ := List.forall_mem_cons.1 hroles
        rw [advance_provision hrole, advance_provision hrole, ← hR.hasAccount hm]
        split
        · exact .same (.provisioning hrest)
        · exact .same (.answered _)

/-- So they do when both make all the calls that they have left. -/
theorem InStep.run (hR : Lockstep keys keys' R A) (h : InStep A p p') (hm : R m m') :
    InStep A (.answer (p.run (Memory.backend keys) m).1) (.answer (p'.run (Memory.backend keys') m').1) ∧
      R (p.run (Memory.backend keys) m).2 (p'.run (Memory.backend keys') m').2 := by
  induction p generalizing p' m m' with
  | answer outcome =>
    cases h with
    | same hp => exact ⟨.same hp, hm⟩
    | answered h => exact ⟨.answered h, hm⟩
  | call c next ih =>
    have hnext := h.advance hR hm
    have hstore := advance_snd hR.toParallel h hm
    cases h with
    | same hp =>
      have hrest := ih _ hnext hstore
      exact hrest

end InStep

/-- Two pools have the requests with some numbers in step, over related stores. -/
structure Abreast (R : Memory → Memory → Prop) (A : Outcome → Outcome → Prop) (on : Nat → Prop)
    (pool pool' : Pool Memory Outcome) : Prop where
  plans : ∀ j, on j → Option.Rel (InStep A) pool.plans[j]? pool'.plans[j]?
  store : R pool.store pool'.store

section Abreast
variable {keys keys' : KeySource} {R : Memory → Memory → Prop} {A : Outcome → Outcome → Prop} {on : Nat → Prop}
  {pool pool' : Pool Memory Outcome}

/-- **Pools stay in step,** when the same request makes its next call in both. -/
theorem Abreast.step (hR : Lockstep keys keys' R A) (h : Abreast R A on pool pool') {i : Nat} (hi : on i) :
    Abreast R A on (pool.step (Memory.backend keys) i) (pool'.step (Memory.backend keys') i) := by
  refine ⟨fun j hj => ?_, ?_⟩
  · rw [Pool.plans_step, Pool.plans_step]
    split
    · exact Memory.rel_map (h.plans j hj) fun p p' hin => hin.advance hR h.store
    · exact h.plans j hj
  · rw [Pool.store_step, Pool.store_step]
    exact Memory.rel_getD (Memory.rel_map (h.plans i hi) fun p p' hin => advance_snd hR.toParallel hin h.store) h.store

theorem Abreast.run (hR : Lockstep keys keys' R A) {schedule : List Nat} (hon : ∀ i ∈ schedule, on i)
    (h : Abreast R A on pool pool') :
    Abreast R A on (pool.run (Memory.backend keys) schedule) (pool'.run (Memory.backend keys') schedule) := by
  induction schedule generalizing pool pool' with
  | nil => exact h
  | cons i schedule ih =>
    obtain ⟨hi, hon⟩ := List.forall_mem_cons.1 hon
    rw [Pool.run_cons, Pool.run_cons]
    exact ih hon (h.step hR hi)

theorem Abreast.finish (hR : Lockstep keys keys' R A) (h : Abreast R A on pool pool') {i : Nat} (hi : on i) :
    Abreast R A on (pool.finish (Memory.backend keys) i) (pool'.finish (Memory.backend keys') i) := by
  refine ⟨fun j hj => ?_, ?_⟩
  · rw [Pool.plans_finish, Pool.plans_finish]
    split
    · exact Memory.rel_map (h.plans j hj) fun p p' hin => (hin.run hR h.store).1
    · exact h.plans j hj
  · rw [Pool.store_finish, Pool.store_finish]
    exact Memory.rel_getD (Memory.rel_map (h.plans i hi) fun p p' hin => (hin.run hR h.store).2) h.store

theorem Abreast.inTurn (hR : Lockstep keys keys' R A) {turns : List Nat} (hon : ∀ i ∈ turns, on i)
    (h : Abreast R A on pool pool') :
    Abreast R A on (pool.inTurn (Memory.backend keys) turns) (pool'.inTurn (Memory.backend keys') turns) := by
  induction turns using List.reverseRecOn with
  | nil => exact h
  | append_singleton turns i ih =>
    rw [Pool.inTurn_concat, Pool.inTurn_concat]
    exact (ih fun j hj => hon j (List.mem_append_left _ hj)).finish hR (hon i (by simp))

/-- A request that is not in step may make its calls in one of the pools, as far as the stores show it. -/
theorem Abreast.step_left {R' : Memory → Memory → Prop} {b : Backend Memory} {i : Nat}
    (h : Abreast R A on pool pool') (hi : ¬ on i) (hstore : R' (pool.step b i).store pool'.store) :
    Abreast R' A on (pool.step b i) pool' := by
  refine ⟨fun j hj => ?_, hstore⟩
  have hne : i ≠ j := fun he => hi (he ▸ hj)
  rw [Pool.plans_step, if_neg hne]
  exact h.plans j hj

end Abreast

/-! ### Requests over a store that has been reached -/

/-- Queries that are asked at once, over some store. -/
def asked (allowPurge : Bool) (queries : List Query) (m : Memory) : Pool Memory Outcome :=
  ⟨queries.map (dispatch allowPurge), m⟩

section Asked
variable {keys : KeySource} {R : Memory → Memory → Prop} {m m' : Memory}

theorem plans_asked (allowPurge : Bool) (queries : List Query) (m : Memory) (i : Nat) :
    (asked allowPurge queries m).plans[i]? = (queries[i]?).map (dispatch allowPurge) :=
  List.getElem?_map

theorem abreast_asked (allowPurge : Bool) (queries : List Query) (A : Outcome → Outcome → Prop) (on : Nat → Prop)
    (hm : R m m') : Abreast R A on (asked allowPurge queries m) (asked allowPurge queries m') := by
  refine ⟨fun j _ => ?_, hm⟩
  rw [plans_asked, plans_asked]
  cases queries[j]? with
  | none => exact .none
  | some q => exact .some (.same (stage_dispatch allowPurge q))

theorem keysSound_reached (hkeys : Function.Injective keys) (calls : List Call) :
    (Memory.reached keys calls).KeysSound keys :=
  Memory.reached_keeps (Memory.keysSound_empty keys) (fun _ _ _ hm h => hm.change hkeys h) calls

/-- Calls of requests keep the keys sound, in whatever order they are made. -/
theorem keysSound_run (hkeys : Function.Injective keys) {pool : Pool Memory Outcome}
    (hm : pool.store.KeysSound keys) (schedule : List Nat) :
    (pool.run (Memory.backend keys) schedule).store.KeysSound keys :=
  (Pool.run_invariant (A := fun _ => True) (fun c m _ hm => hm.change hkeys (Memory.change_of_perform keys c m))
    ⟨fun p _ => p.asks_true, hm⟩ schedule).store

theorem keysSound_inTurn (hkeys : Function.Injective keys) {pool : Pool Memory Outcome}
    (hm : pool.store.KeysSound keys) (turns : List Nat) :
    (pool.inTurn (Memory.backend keys) turns).store.KeysSound keys := by
  obtain ⟨schedule, hschedule⟩ := pool.exists_run_eq_inTurn (Memory.backend keys) turns
  rw [hschedule]
  exact keysSound_run hkeys hm schedule

end Asked

/-! ### The same requests, with keys from another source -/

/-- Both outcomes are successes, or both are errors. -/
def SameFate (outcome outcome' : Outcome) : Prop := outcome.isOk = outcome'.isOk

theorem SameFate.failed {outcome : Outcome} {e : ApiError} (h : SameFate outcome (.error e)) :
    ∃ e', outcome = .error e' := by
  cases outcome with
  | ok r => cases h
  | error e' => exact ⟨e', rfl⟩

theorem showSecret_congr {m m' : Memory} {resource : ResourceId} (h : m.versions resource = m'.versions resource)
    (actor : Actor) (version : Option Nat) :
    m.showSecret actor resource version = m'.showSecret actor resource version := by
  simp only [Memory.showSecret, h]

/-- Where only the keys differ, every order has the same fate. -/
theorem lockstep_redrawn (keys keys' : KeySource) :
    Lockstep keys keys' (Memory.Redrawn keys keys') SameFate where
  toParallel := Memory.parallel_redrawn keys keys'
  effect {m m'} o h := by
    have haccount := (Memory.parallel_redrawn keys keys').hasAccount h
    cases o with
    | listAccounts | purge => rfl
    | createAccount id | destroyAccount id => simp only [Order.effect, ← haccount]; split <;> rfl
    | createSecret resource value | loadPolicy resource value roles =>
      simp only [Order.effect, ← haccount]; split <;> rfl
    | retrieveApiKey role =>
      have hkey := Memory.isSome_eq_of_rel (h.alike.key role (Memory.compared_none _ _))
      simp only [Order.effect]
      revert hkey
      cases m.key? role <;> cases m'.key? role <;> intro hkey
      · rfl
      · cases hkey
      · cases hkey
      · rfl
    | getSecret resource version =>
      have hversions := h.alike.versions resource (Memory.compared_none _ _)
      simp only [Order.effect, showSecret_congr hversions]
      cases m'.showSecret (adminFor resource) resource version <;> rfl

/-- A store that has been reached, with its keys told apart: in the end it does not matter whether a source repeats
them, or in which order those come that are drawn later. -/
theorem reached_redrawn {tag : KeySource} (htag : Function.Injective tag) (keys : KeySource) (past : List Call) :
    let m := Memory.reached tag past
    m.KeysSound tag ∧ m.drawn = (Memory.reached keys past).drawn ∧
      Memory.Redrawn tag keys m (.reached keys past) ∧
      ∀ σ : Equiv.Perm Nat, (∀ n < m.drawn, σ n = n) → Memory.Redrawn tag (keys ∘ σ) m (.reached keys past) := by
  intro m
  have hsound : m.KeysSound tag := keysSound_reached htag past
  have hredrawn : Memory.Redrawn tag keys m (.reached keys past) :=
    (Memory.parallel_redrawn tag keys).reached (Memory.redrawn_empty tag keys) past
  exact ⟨hsound, hredrawn.drawn, hredrawn, fun σ hσ => hredrawn.reorder htag hsound hσ⟩

/-- **With keys from another source, a run goes the same way.** -/
theorem redrawn_run {keys keys' : KeySource} {m m' : Memory} (hm : Memory.Redrawn keys keys' m m') (allowPurge : Bool)
    (queries : List Query) (schedule : List Nat) :
    Abreast (Memory.Redrawn keys keys') SameFate (fun _ => True)
      ((asked allowPurge queries m).run (Memory.backend keys) schedule)
      ((asked allowPurge queries m').run (Memory.backend keys') schedule) :=
  (abreast_asked allowPurge queries SameFate _ hm).run (lockstep_redrawn keys keys') fun _ _ => trivial

theorem redrawn_inTurn {keys keys' : KeySource} {m m' : Memory} (hm : Memory.Redrawn keys keys' m m')
    (allowPurge : Bool) (queries : List Query) (turns : List Nat) :
    Abreast (Memory.Redrawn keys keys') SameFate (fun _ => True)
      ((asked allowPurge queries m).inTurn (Memory.backend keys) turns)
      ((asked allowPurge queries m').inTurn (Memory.backend keys') turns) :=
  (abreast_asked allowPurge queries SameFate _ hm).inTurn (lockstep_redrawn keys keys') fun _ _ => trivial

theorem answered_of_rel {p : Option (Plan Outcome)} {outcome' : Outcome}
    (h : Option.Rel (InStep SameFate) p (some (.answer outcome'))) :
    ∃ outcome, p = some (.answer outcome) ∧ SameFate outcome outcome' := by
  generalize hp : some (Plan.answer outcome') = p' at h
  cases h with
  | none => cases hp
  | some hin =>
    cases hin with
    | same _ => exact ⟨outcome', hp.symm, rfl⟩
    | answered h =>
      cases hp
      exact ⟨_, rfl, h⟩

/-- Where a request has answered, it answers with keys from another source too, with the same fate. -/
theorem Abreast.answer? {R : Memory → Memory → Prop} {on : Nat → Prop} {pool pool' : Pool Memory Outcome}
    (h : Abreast R SameFate on pool pool') {i : Nat} (hi : on i) {outcome' : Outcome}
    (hanswer : pool'.answer? i = some outcome') :
    ∃ outcome, pool.answer? i = some outcome ∧ SameFate outcome outcome' := by
  have hplan := h.plans i hi
  rw [Pool.answer?_eq_some_iff.1 hanswer] at hplan
  obtain ⟨outcome, hp, hfate⟩ := answered_of_rel hplan
  exact ⟨outcome, Pool.answer?_eq_some_iff.2 hp, hfate⟩

end Postern.Gateway
