import Postern.Proofs.Gateway.Underway
import Postern.Proofs.Store.Ahead

/-!
Requests behind their turns.  A run in which calls are interleaved is compared with the run in which each request makes
all its calls when the first of them is due (`Pool.inTurn`).  Only a policy makes more than one call: there the second
run has given the roles their keys at once, so its store is ahead, with the roles of such policies due
(`Follows`, `Behind`).  A call in the one run and a turn in the other keep it so (`Behind.step`), as long as no request
removes an account.
-/

namespace Postern.Gateway

/-- No account is removed by an order. -/
def Order.Spares : Order → Prop
  | .destroyAccount _ | .purge => False
  | _ => True

/-- Outcomes of an order in two runs: they are the same, but for the key of a new account, which is the one that its
administrator has.  The key of a role is shown as it is at the time. -/
def Agree (m m' : Memory) : Order → Outcome → Outcome → Prop
  | .retrieveApiKey _, _, _ => True
  | .createAccount id, outcome, outcome' => outcome = outcome' ∨ ∃ k k',
    outcome = .ok (.json 201 (createdJson ⟨id, k⟩)) ∧ m.key? (.adminOf id) = some k ∧
      outcome' = .ok (.json 201 (createdJson ⟨id, k'⟩)) ∧ m'.key? (.adminOf id) = some k'
  | _, outcome, outcome' => outcome = outcome'

/-- How a query stands in a run and in the other one, where it has had its turn if it has made a call.  The roles are
those that it is still to give their keys. -/
inductive Follows (allowPurge : Bool) (q : Query) (m m' : Memory) : List RoleId → Plan Outcome → Plan Outcome → Prop
  | refused {e : CallerError} (h : order allowPurge q = .error e) :
    Follows allowPurge q m m' [] (.answer (.error (.ofCaller e))) (.answer (.error (.ofCaller e)))
  | waiting {o : Order} (h : order allowPurge q = .ok o) : Follows allowPurge q m m' [] o.plan o.plan
  | provisioning {resource : ResourceId} {document : String} {declared roles : List RoleId}
    (h : order allowPurge q = .ok (.loadPolicy resource document declared))
    (hroles : ∀ role ∈ roles, role.account = resource.account) (haccount : m.hasAccount resource.account)
    (hkeys : ∀ role ∈ roles, (m'.key? role).isSome) :
    Follows allowPurge q m m' roles (provisioning resource roles) (.answer (.ok (.empty 201)))
  | answered {o : Order} (h : order allowPurge q = .ok o) {outcome outcome' : Outcome}
    (hagree : Agree m m' o outcome outcome') :
    Follows allowPurge q m m' [] (.answer outcome) (.answer outcome')

section Follows
variable {keys keys' : KeySource} {d : Nat} {allowPurge : Bool} {q : Query} {m m' : Memory} {roles : List RoleId}
  {p p' : Plan Outcome} {o : Order}

theorem Agree.mono {m₁ m₁' : Memory} {outcome outcome' : Outcome} (h : Agree m m' o outcome outcome')
    (hm : m.Kept m₁) (hm' : m'.Kept m₁') : Agree m₁ m₁' o outcome outcome' := by
  cases o with
  | createAccount id =>
    rcases h with rfl | ⟨k, k', he, hk, he', hk'⟩
    · exact .inl rfl
    · exact .inr ⟨k, k', he, hm.key _ _ hk, he', hm'.key _ _ hk'⟩
  | _ => exact h

theorem Follows.mono {m₁ m₁' : Memory} (h : Follows allowPurge q m m' roles p p') (hm : m.Kept m₁)
    (hm' : m'.Kept m₁') : Follows allowPurge q m₁ m₁' roles p p' := by
  cases h with
  | refused h => exact .refused h
  | waiting h => exact .waiting h
  | provisioning h hroles haccount hkeys =>
    refine .provisioning h hroles (hm.account _ haccount) fun role hrole => ?_
    obtain ⟨k, hk⟩ := Option.isSome_iff_exists.1 (hkeys role hrole)
    exact Option.isSome_iff_exists.2 ⟨k, hm'.key role k hk⟩
  | answered h hagree => exact .answered h (hagree.mono hm hm')

/-- Where no policy is under way, no roles are left to be given keys. -/
theorem Follows.eq_nil {outcome : Outcome} (h : Follows allowPurge q m m' roles (.answer outcome) p') : roles = [] := by
  generalize hp : Plan.answer outcome = p at h
  cases h with
  | refused | waiting | answered => rfl
  | @provisioning resource _ _ roles _ _ _ _ =>
    cases roles with
    | nil => rfl
    | cons role roles => cases hp

/-! ### A call and a turn -/

theorem effect_ahead {due : RoleId → Prop} (ho : o.Spares) (hload : o.action ≠ .loadPolicy)
    (hm : Memory.Ahead keys keys' d due m m') :
    Agree (o.effect keys m).2 (o.effect keys' m').2 o (o.effect keys m).1 (o.effect keys' m').1 ∧
      Memory.Ahead keys keys' d due (o.effect keys m).2 (o.effect keys' m').2 := by
  cases o with
  | destroyAccount id | purge => cases ho
  | loadPolicy resource document declared => exact absurd rfl hload
  | listAccounts =>
    have hsame : (Order.listAccounts.effect keys m).1 = (Order.listAccounts.effect keys' m').1 := by
      simp only [Order.effect, hm.accounts]
    exact ⟨hsame, hm⟩
  | createAccount id =>
    simp only [Order.effect, ← hm.hasAccount]
    split
    · exact ⟨.inl rfl, hm⟩
    · exact ⟨.inr ⟨_, _, rfl, by simp, rfl, by simp⟩, hm.addAccount id⟩
  | retrieveApiKey role =>
    have hstore : ∀ (keys : KeySource) (m : Memory), ((Order.retrieveApiKey role).effect keys m).2 = m := by
      intro keys m
      simp only [Order.effect]
      split <;> rfl
    rw [hstore, hstore]
    exact ⟨trivial, hm⟩
  | getSecret resource version =>
    simp only [Order.effect, showSecret_congr (hm.versions resource)]
    split
    · exact ⟨rfl, hm⟩
    · exact ⟨rfl, hm⟩
  | createSecret resource value =>
    simp only [Order.effect, ← hm.hasAccount]
    split
    · exact ⟨rfl, hm.addVersion resource value⟩
    · exact ⟨rfl, hm⟩

variable {other : RoleId → Prop}

/-- A policy stores its document in both runs; its roles get their keys in the second one, and are due in the first. -/
theorem load_ahead {resource : ResourceId} {document : String} {declared : List RoleId}
    (h : order allowPurge q = .ok (.loadPolicy resource document declared))
    (hm : Memory.Ahead keys keys' d (fun role => role ∈ ([] : List RoleId) ∨ other role) m m') :
    let next := (Order.loadPolicy resource document declared).plan.advance (Memory.backend keys) m
    let done := (Order.loadPolicy resource document declared).plan.run (Memory.backend keys') m'
    ∃ roles, Follows allowPurge q next.2 done.2 roles next.1 (.answer done.1) ∧
      Memory.Ahead keys keys' d (fun role => role ∈ roles ∨ other role) next.2 done.2 := by
  intro next done
  have hwell := wellFormed_of_order h
  have hnext : next = _ := advance_load resource document declared
  have hdone : done = _ := Order.run_plan keys' m' hwell
  rw [hnext, hdone]
  simp only [Order.effect, ← hm.hasAccount]
  split
  · rename_i haccount
    refine ⟨declared, .provisioning h (fun role hrole => (hwell.2 role hrole).1) haccount fun role hrole => ?_, ?_⟩
    · exact Memory.isSome_key?_giveKeys keys' declared _ (.inl hrole)
    · refine Memory.Ahead.giveKeys_right ((hm.addVersion resource document).mono fun role hrole => ?_) fun role => .inl
      exact .inr (hrole.resolve_left (by simp))
  · exact ⟨[], .answered h rfl, hm⟩

/-- A policy gives the next of its roles a key, which the role has in the second run. -/
theorem provision_ahead {resource : ResourceId} {document : String} {declared : List RoleId} {role : RoleId}
    (h : order allowPurge q = .ok (.loadPolicy resource document declared))
    (hroles : ∀ r ∈ role :: roles, r.account = resource.account) (haccount : m.hasAccount resource.account)
    (hkeys : ∀ r ∈ role :: roles, (m'.key? r).isSome)
    (hm : Memory.Ahead keys keys' d (fun r => r ∈ role :: roles ∨ other r) m m') :
    let next := (provisioning resource (role :: roles)).advance (Memory.backend keys) m
    Follows allowPurge q next.2 m' roles next.1 (.answer (.ok (.empty 201))) ∧
      Memory.Ahead keys keys' d (fun r => r ∈ roles ∨ other r) next.2 m' := by
  intro next
  obtain ⟨hrole, hrest⟩ := List.forall_mem_cons.1 hroles
  obtain ⟨hkey, hkeys⟩ := List.forall_mem_cons.1 hkeys
  have hnext : next = _ := advance_provision hrole roles
  rw [hnext, if_pos haccount]
  refine ⟨.provisioning h hrest (by simpa using haccount) hkeys, hm.giveKey_left hkey fun r hne hr => ?_⟩
  rcases hr with hr | hr
  · exact .inl ((List.mem_cons.1 hr).resolve_left hne)
  · exact .inr hr

/-- **A call in the one run is a turn in the other,** which has been taken if the call is not the first one. -/
theorem Follows.advance (hspares : ∀ o, order allowPurge q = .ok o → o.Spares)
    (h : Follows allowPurge q m m' roles p p')
    (hm : Memory.Ahead keys keys' d (fun role => role ∈ roles ∨ other role) m m') :
    let next := p.advance (Memory.backend keys) m
    let done := p'.run (Memory.backend keys') m'
    ∃ roles, Follows allowPurge q next.2 done.2 roles next.1 (.answer done.1) ∧
      Memory.Ahead keys keys' d (fun role => role ∈ roles ∨ other role) next.2 done.2 := by
  cases h with
  | refused h => exact ⟨[], .refused h, hm⟩
  | answered h hagree => exact ⟨[], .answered h hagree, hm⟩
  | @waiting o h =>
    rcases o.policy_or with ⟨resource, document, declared, rfl⟩ | hload
    · exact load_ahead h hm
    · rw [advance_plan hload, Order.run_plan keys' m' (wellFormed_of_order h)]
      obtain ⟨hagree, hahead⟩ := effect_ahead (hspares o h) hload hm
      exact ⟨[], .answered h hagree, hahead⟩
  | provisioning h hroles haccount hkeys =>
    cases roles with
    | nil => exact ⟨[], .provisioning h hroles haccount hkeys, hm⟩
    | cons role roles => exact ⟨roles, provision_ahead h hroles haccount hkeys hm⟩

end Follows

/-! ### Whole runs -/

/-- A query that removes no account: it is neither of the two actions that do. -/
def Spares (q : Query) : Prop :=
  q.find? "action" ≠ some "destroy_account" ∧ q.find? "action" ≠ some "purge"

instance : DecidablePred Spares := fun q => by unfold Spares; infer_instance

theorem spares_of_order {allowPurge : Bool} {q : Query} {o : Order} (hq : Spares q)
    (ho : order allowPurge q = .ok o) : o.Spares := by
  obtain ⟨haction, -⟩ := order_eq_ok_iff.1 ho
  cases o with
  | destroyAccount id => exact absurd haction hq.1
  | purge => exact absurd haction hq.2
  | _ => trivial

theorem removes_of_spares {o : Order} (ho : o.Spares) : ∀ c ∈ o.calls, c.removes = false := by
  intro c hc
  cases o with
  | destroyAccount id | purge => cases ho
  | loadPolicy resource document roles =>
    simp only [Order.calls, List.mem_cons, List.mem_map] at hc
    rcases hc with rfl | ⟨role, -, rfl⟩ <;> rfl
  | _ =>
    obtain rfl := List.mem_singleton.1 hc
    rfl

/-- Requests that remove no account, over a store whose roles lie in accounts that exist. -/
abbrev Sparing (pool : Pool Memory Outcome) : Prop := pool.Keeps (fun c => c.removes = false) Memory.Housed

theorem sparing_asked {allowPurge : Bool} {queries : List Query} {m : Memory} (hm : m.Housed)
    (hqueries : ∀ q ∈ queries, Spares q) : Sparing (asked allowPurge queries m) := by
  refine ⟨fun p hp => ?_, hm⟩
  obtain ⟨q, hq, rfl⟩ := List.mem_map.1 hp
  exact dispatch_asks fun o ho => removes_of_spares (spares_of_order (hqueries q hq) ho)

/-- Such requests keep what is in the store, in whatever order their calls are made. -/
theorem Sparing.run {pool : Pool Memory Outcome} (h : Sparing pool) (keys : KeySource) (schedule : List Nat) :
    Sparing (pool.run (Memory.backend keys) schedule) ∧
      pool.store.Kept (pool.run (Memory.backend keys) schedule).store := by
  have hstep : ∀ c m, c.removes = false → m.Housed ∧ pool.store.Kept m →
      (Memory.perform keys c m).2.Housed ∧ pool.store.Kept (Memory.perform keys c m).2 := by
    rintro c m hc ⟨hm, hkept⟩
    have hchange := Memory.change_of_perform keys c m
    exact ⟨hm.change hchange, hkept.trans (hchange.kept hm hc)⟩
  have hrun := Pool.run_invariant (P := fun m => m.Housed ∧ pool.store.Kept m) (b := Memory.backend keys) hstep
    ⟨h.asks, h.store, .refl _⟩ schedule
  exact ⟨⟨hrun.asks, hrun.store.1⟩, hrun.store.2⟩

theorem Sparing.step {pool : Pool Memory Outcome} (h : Sparing pool) (keys : KeySource) (i : Nat) :
    Sparing (pool.step (Memory.backend keys) i) ∧ pool.store.Kept (pool.step (Memory.backend keys) i).store :=
  h.run keys [i]

theorem Sparing.finish {pool : Pool Memory Outcome} (h : Sparing pool) (keys : KeySource) (i : Nat) :
    Sparing (pool.finish (Memory.backend keys) i) ∧ pool.store.Kept (pool.finish (Memory.backend keys) i).store := by
  obtain ⟨schedule, hschedule⟩ := pool.exists_run_eq_finish (Memory.backend keys) i
  rw [hschedule]
  exact h.run keys schedule

/-- A run is behind the one in which requests have their turns: each query follows, and the store there is ahead by the
keys that are due. -/
structure Behind (keys keys' : KeySource) (d : Nat) (allowPurge : Bool) (queries : List Query)
    (roles : Nat → List RoleId) (pool pool' : Pool Memory Outcome) : Prop where
  plans : ∀ i q, queries[i]? = some q → ∃ p p', pool.plans[i]? = some p ∧ pool'.plans[i]? = some p' ∧
    Follows allowPurge q pool.store pool'.store (roles i) p p'
  outside : ∀ i, queries[i]? = none → pool.plans[i]? = none ∧ pool'.plans[i]? = none ∧ roles i = []
  store : Memory.Ahead keys keys' d (fun role => ∃ i, role ∈ roles i) pool.store pool'.store
  sparing : Sparing pool
  sparing' : Sparing pool'

section Behind
variable {keys keys' : KeySource} {d : Nat} {allowPurge : Bool} {queries : List Query} {roles : Nat → List RoleId}
  {pool pool' : Pool Memory Outcome}

theorem behind_asked (keys keys' : KeySource) (allowPurge : Bool) {m : Memory} (hm : m.Housed)
    (hqueries : ∀ q ∈ queries, Spares q) :
    Behind keys keys' m.drawn allowPurge queries (fun _ => []) (asked allowPurge queries m)
      (asked allowPurge queries m) where
  plans i q hq := by
    have hplan : (asked allowPurge queries m).plans[i]? = some (dispatch allowPurge q) := by
      rw [plans_asked, hq, Option.map_some]
    refine ⟨_, _, hplan, hplan, ?_⟩
    rw [dispatch_eq]
    cases ho : order allowPurge q with
    | error e => exact .refused ho
    | ok o => exact .waiting ho
  outside i hi := by
    have hplan : (asked allowPurge queries m).plans[i]? = none := by
      rw [plans_asked, hi, Option.map_none]
    exact ⟨hplan, hplan, rfl⟩
  store := .refl ..
  sparing := sparing_asked hm hqueries
  sparing' := sparing_asked hm hqueries

/-- **A run stays behind,** when a request makes a call in it and has its turn in the other one. -/
theorem Behind.step (hqueries : ∀ q ∈ queries, Spares q)
    (h : Behind keys keys' d allowPurge queries roles pool pool') (i : Nat) :
    ∃ roles', Behind keys keys' d allowPurge queries roles' (pool.step (Memory.backend keys) i)
      (pool'.finish (Memory.backend keys') i) := by
  cases hq : queries[i]? with
  | none =>
    obtain ⟨hnone, hnone', -⟩ := h.outside i hq
    have hstep : pool.step (Memory.backend keys) i = pool := by
      rw [Pool.step_eq, hnone]
    rw [hstep, Pool.finish_of_none _ _ _ hnone']
    exact ⟨roles, h⟩
  | some q =>
    obtain ⟨p, p', hp, hp', hfollows⟩ := h.plans i q hq
    let other : RoleId → Prop := fun role => ∃ j, j ≠ i ∧ role ∈ roles j
    have hdue : ∀ role, (∃ j, role ∈ roles j) → role ∈ roles i ∨ other role := by
      rintro role ⟨j, hj⟩
      rcases eq_or_ne j i with rfl | hne
      · exact .inl hj
      · exact .inr ⟨j, hne, hj⟩
    obtain ⟨roles', hfollows', hahead⟩ :=
      hfollows.advance (fun o ho => spares_of_order (hqueries q (List.mem_of_getElem? hq)) ho) (h.store.mono hdue)
    obtain ⟨hsparing, hkept⟩ := h.sparing.step keys i
    obtain ⟨hsparing', hkept'⟩ := h.sparing'.finish keys' i
    have hstore : (pool.step (Memory.backend keys) i).store = (p.advance (Memory.backend keys) pool.store).2 := by
      rw [Pool.store_step, hp]
      rfl
    have hstore' : (pool'.finish (Memory.backend keys') i).store = (p'.run (Memory.backend keys') pool'.store).2 := by
      rw [Pool.store_finish, hp']
      rfl
    refine ⟨Function.update roles i roles', ?plans, ?outside, ?store, hsparing, hsparing'⟩
    case plans =>
      intro j q' hq'
      rw [Pool.plans_step, Pool.plans_finish]
      rcases eq_or_ne j i with rfl | hne
      · obtain rfl := Option.some.inj (hq.symm.trans hq')
        rw [if_pos rfl, if_pos rfl, hp, hp', Function.update_self, hstore, hstore']
        exact ⟨_, _, rfl, rfl, hfollows'⟩
      · obtain ⟨r, r', hr, hr', hother⟩ := h.plans j q' hq'
        rw [if_neg (Ne.symm hne), if_neg (Ne.symm hne), Function.update_of_ne hne]
        exact ⟨r, r', hr, hr', hother.mono hkept hkept'⟩
    case outside =>
      intro j hj
      have hne : j ≠ i := by
        rintro rfl
        rw [hq] at hj
        cases hj
      rw [Pool.plans_step, Pool.plans_finish, if_neg (Ne.symm hne), if_neg (Ne.symm hne), Function.update_of_ne hne]
      exact h.outside j hj
    case store =>
      rw [hstore, hstore']
      refine hahead.mono fun role hrole => ?_
      rcases hrole with hrole | ⟨j, hne, hrole⟩
      · exact ⟨i, by rwa [Function.update_self]⟩
      · exact ⟨j, by rwa [Function.update_of_ne hne]⟩

theorem Behind.run (hqueries : ∀ q ∈ queries, Spares q)
    (h : Behind keys keys' d allowPurge queries roles pool pool') (schedule : List Nat) :
    ∃ roles', Behind keys keys' d allowPurge queries roles' (pool.run (Memory.backend keys) schedule)
      (pool'.inTurn (Memory.backend keys') schedule) := by
  induction schedule using List.reverseRecOn with
  | nil => exact ⟨roles, h⟩
  | append_singleton schedule i ih =>
    obtain ⟨roles', hbefore⟩ := ih
    rw [Pool.run_concat, Pool.inTurn_concat]
    exact hbefore.step hqueries i

/-- When all requests have answered, the run has caught up. -/
theorem Behind.alike (h : Behind keys keys' d allowPurge queries roles pool pool')
    (hdone : ∀ i < queries.length, (pool.answer? i).isSome) :
    Memory.AlikeSince keys keys' d none pool.store pool'.store := by
  refine h.store.alike fun role ⟨i, hi⟩ => ?_
  have hnone : roles i = [] := by
    cases hq : queries[i]? with
    | none => exact (h.outside i hq).2.2
    | some q =>
      obtain ⟨outcome, hanswer⟩ := Option.isSome_iff_exists.1 (hdone i (List.getElem?_eq_some_iff.1 hq).1)
      obtain ⟨p, p', hp, -, hfollows⟩ := h.plans i q hq
      rw [Pool.answer?_eq_some_iff.1 hanswer] at hp
      cases hp
      exact hfollows.eq_nil
  rw [hnone] at hi
  cases hi

/-- A query that has answered, is answered the same in its turn, unless it shows the key of a role. -/
theorem Follows.answer_eq {q : Query} {m m' : Memory} {due : List RoleId} {outcome : Outcome} {p' : Plan Outcome}
    (h : Follows allowPurge q m m' due (.answer outcome) p') (hsame : Memory.Same m m')
    (hq : q.find? "action" ≠ some "retrieve_api_key") : p' = .answer outcome := by
  generalize hp : Plan.answer outcome = p at h
  cases h with
  | refused | waiting => rfl
  | provisioning =>
    cases due with
    | nil => rfl
    | cons role due => cases hp
  | @answered o ho outcome outcome' hagree =>
    cases o with
    | retrieveApiKey role =>
      obtain ⟨haction, -⟩ := order_eq_ok_iff.1 ho
      exact absurd haction hq
    | createAccount id =>
      rcases hagree with rfl | ⟨k, k', rfl, hk, rfl, hk'⟩
      · rfl
      · rw [hsame.key, hk'] at hk
        cases hk
        rfl
    | _ =>
      obtain rfl : outcome = outcome' := hagree
      rfl

theorem Behind.answer?_eq (h : Behind keys keys' d allowPurge queries roles pool pool')
    (hdone : ∀ i < queries.length, (pool.answer? i).isSome)
    (hsame : Memory.Same pool.store pool'.store) {i : Nat} {q : Query} (hi : queries[i]? = some q)
    (hq : q.find? "action" ≠ some "retrieve_api_key") : pool.answer? i = pool'.answer? i := by
  obtain ⟨outcome, hanswer⟩ := Option.isSome_iff_exists.1 (hdone i (List.getElem?_eq_some_iff.1 hi).1)
  obtain ⟨p, p', hp, hp', hfollows⟩ := h.plans i q hi
  rw [Pool.answer?_eq_some_iff.1 hanswer] at hp
  cases hp
  rw [hfollows.answer_eq hsame hq] at hp'
  rw [hanswer, Pool.answer?_eq_some_iff.2 hp']

end Behind

end Postern.Gateway
