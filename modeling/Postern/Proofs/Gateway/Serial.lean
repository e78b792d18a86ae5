import Postern.Proofs.Gateway.Behind
import Postern.Proofs.Gateway.KeyLifecycle
import Postern.Proofs.Gateway.SecretHistory

/-!
Requests that are served at once are served as if one after another, in the order of their first calls, as long as none
of them removes an account (`serialised`).  The interleaved run is behind the run in turns, and has caught up when all
requests have answered; what remains is that keys have been drawn in another order.  What the turns leave behind is then
read off one turn after another: the versions of secrets (`versions_inTurn`) and who creates an account
(`created_inTurn`).
-/

namespace Postern.Gateway

/-- What became of some of the requests. -/
def exchanges (queries : List Query) (pool : Pool Memory Outcome) (turns : List Nat) : List Exchange :=
  turns.filterMap fun i => do return ⟨← queries[i]?, ← pool.answer? i⟩

/-- A request orders a new account. -/
def Creates (allowPurge : Bool) (queries : List Query) (id : String) (i : Nat) : Prop :=
  ∃ q, queries[i]? = some q ∧ order allowPurge q = .ok (.createAccount id)

/-! ### One turn -/

section Turn
variable {keys : KeySource} {allowPurge : Bool} {queries : List Query} {m : Memory} {turns : List Nat} {i : Nat}
  {q : Query}

theorem plans_of_turn (hi : i ∉ turns) (hq : queries[i]? = some q) :
    ((asked allowPurge queries m).inTurn (Memory.backend keys) turns).plans[i]? = some (dispatch allowPurge q) := by
  rw [Pool.plans_inTurn_of_notMem _ _ _ hi, plans_asked, hq, Option.map_some]

theorem store_turn (hi : i ∉ turns) (hq : queries[i]? = some q) :
    let pool := (asked allowPurge queries m).inTurn (Memory.backend keys) turns
    (pool.finish (Memory.backend keys) i).store = (serve (Memory.backend keys) allowPurge q pool.store).2 := by
  intro pool
  have hplan : pool.plans[i]? = _ := plans_of_turn hi hq
  rw [Pool.store_finish, hplan]
  rfl

theorem answer?_turn (hi : i ∉ turns) (hq : queries[i]? = some q) :
    let pool := (asked allowPurge queries m).inTurn (Memory.backend keys) turns
    (pool.finish (Memory.backend keys) i).answer? i = some (serve (Memory.backend keys) allowPurge q pool.store).1 := by
  intro pool
  have hplan : pool.plans[i]? = _ := plans_of_turn hi hq
  rw [Pool.answer?_eq_some_iff, Pool.plans_finish, if_pos rfl, hplan]
  rfl

theorem answer?_finish_of_ne {b : Backend Memory} {pool : Pool Memory Outcome} {j : Nat} (hj : j ≠ i) :
    (pool.finish b i).answer? j = pool.answer? j := by
  rw [Pool.answer?, Pool.answer?, Pool.plans_finish, if_neg (Ne.symm hj)]

theorem removes_eq_false (hq : Spares q) (outcome : Outcome) (account : String) :
    Exchange.removes ⟨q, outcome⟩ account = false := by
  have hpurge : Exchange.names ⟨q, outcome⟩ .purge = false := decide_eq_false hq.2
  have hdestroy : Exchange.names ⟨q, outcome⟩ .destroyAccount = false := decide_eq_false hq.1
  simp [Exchange.removes, hpurge, hdestroy]

theorem hasAccount_serve (hq : Spares q) (id : String) :
    (serve (Memory.backend keys) allowPurge q m).2.hasAccount id = true ↔
      m.hasAccount id = true ∨ order allowPurge q = .ok (.createAccount id) := by
  rw [serve_memory]
  cases ho : order allowPurge q with
  | error e => simp
  | ok o =>
    have hspares := spares_of_order hq ho
    cases o with
    | destroyAccount other | purge => cases hspares
    | createAccount other =>
      cases ha : m.hasAccount other with
      | false =>
        simp only [Order.effect, ha, Memory.hasAccount_addAccount, Bool.or_eq_true, decide_eq_true_eq,
          Bool.false_eq_true, if_false, Except.ok.injEq, Order.createAccount.injEq]
        exact or_congr_right eq_comm
      | true =>
        simp only [Order.effect, ha, if_true, Except.ok.injEq, Order.createAccount.injEq, iff_self_or]
        rintro rfl
        exact ha
    | retrieveApiKey role => cases hk : m.key? role <;> simp [Order.effect, hk]
    | getSecret resource version =>
      cases hs : m.showSecret (adminFor resource) resource version <;> simp [Order.effect, hs]
    | createSecret resource value | loadPolicy resource value roles =>
      cases ha : m.hasAccount resource.account <;> simp [Order.effect, ha]
    | listAccounts => simp [Order.effect]

end Turn

/-! ### All turns -/

section Turns
variable {keys : KeySource} {allowPurge : Bool} {queries : List Query} {m : Memory} {turns : List Nat}

theorem last_turn {i : Nat} (hturns : (turns ++ [i]).Nodup)
    (hthere : ∀ j ∈ turns ++ [i], ∃ q, queries[j]? = some q) :
    turns.Nodup ∧ i ∉ turns ∧ (∀ j ∈ turns, ∃ q, queries[j]? = some q) ∧ ∃ q, queries[i]? = some q := by
  rw [List.nodup_append_comm] at hturns
  obtain ⟨hi, hturns⟩ := List.nodup_cons.1 hturns
  exact ⟨hturns, hi, fun j hj => hthere j (List.mem_append_left _ hj), hthere i (by simp)⟩

theorem exchanges_finish {b : Backend Memory} {pool : Pool Memory Outcome} {i : Nat} (hi : i ∉ turns) :
    exchanges queries (pool.finish b i) turns = exchanges queries pool turns := by
  refine List.filterMap_congr fun j hj => ?_
  rw [answer?_finish_of_ne]
  rintro rfl
  exact hi hj

theorem exchanges_concat {pool : Pool Memory Outcome} {i : Nat} {q : Query} {outcome : Outcome}
    (hq : queries[i]? = some q) (hanswer : pool.answer? i = some outcome) :
    exchanges queries pool (turns ++ [i]) = exchanges queries pool turns ++ [⟨q, outcome⟩] := by
  simp [exchanges, hq, hanswer]

theorem filterMap_singleton {α β : Type} (f : α → Option β) (a : α) : [a].filterMap f = (f a).toList := by
  cases h : f a <;> simp [h]

/-- **Every turn that stores something appends one version.** -/
theorem versions_inTurn (hqueries : ∀ q ∈ queries, Spares q) (hturns : turns.Nodup)
    (hthere : ∀ i ∈ turns, ∃ q, queries[i]? = some q) (resource : ResourceId) :
    let pool := (asked allowPurge queries m).inTurn (Memory.backend keys) turns
    (pool.store.versions resource).getD [] =
      (m.versions resource).getD [] ++ (exchanges queries pool turns).filterMap (·.stored? resource) := by
  induction turns using List.reverseRecOn with
  | nil => simp [exchanges, Pool.inTurn, asked]
  | append_singleton turns i ih =>
    obtain ⟨hturns, hi, hthere, q, hq⟩ := last_turn hturns hthere
    have hbefore := ih hturns hthere
    have hspares := hqueries q (List.mem_of_getElem? hq)
    rw [Pool.inTurn_concat]
    intro pool
    rw [exchanges_concat hq (answer?_turn hi hq), exchanges_finish hi, store_turn hi hq, versions_serve,
      removes_eq_false hspares, if_neg Bool.false_ne_true, hbefore, List.filterMap_append, List.append_assoc,
      filterMap_singleton]

/-- **Of all who order a new account, the first one gets it.** -/
theorem created_inTurn (hqueries : ∀ q ∈ queries, Spares q) (hturns : turns.Nodup)
    (hthere : ∀ i ∈ turns, ∃ q, queries[i]? = some q) {id : String} (hid : m.hasAccount id = false) :
    let pool := (asked allowPurge queries m).inTurn (Memory.backend keys) turns
    (pool.store.hasAccount id = false ∧ ∀ i ∈ turns, ¬ Creates allowPurge queries id i) ∨
      (pool.store.hasAccount id = true ∧ ∃ i ∈ turns, Creates allowPurge queries id i ∧
        (pool.answer? i).map statusOf = some 201 ∧
        ∀ j ∈ turns, j ≠ i → Creates allowPurge queries id j → (pool.answer? j).map statusOf = some 409) := by
  induction turns using List.reverseRecOn with
  | nil => exact .inl ⟨hid, fun i hi => by cases hi⟩
  | append_singleton turns i ih =>
    obtain ⟨hturns, hi, hthere, q, hq⟩ := last_turn hturns hthere
    have hspares := hqueries q (List.mem_of_getElem? hq)
    have hcreates : Creates allowPurge queries id i ↔ order allowPurge q = .ok (.createAccount id) := by
      simp [Creates, hq]
    rw [Pool.inTurn_concat]
    intro pool
    rcases ih hturns hthere with ⟨hnew, hnone⟩ | ⟨hold, k, hk, hkcreates, hcreated, hconflict⟩
    · by_cases ho : order allowPurge q = .ok (.createAccount id)
      · refine .inr ⟨?_, i, by simp, hcreates.2 ho, ?_, fun j hj hne hjcreates => ?_⟩
        · rw [store_turn hi hq]
          exact (hasAccount_serve hspares id).2 (.inr ho)
        · rw [answer?_turn hi hq, Option.map_some, statusOf_serve_createAccount ho, hnew]
          rfl
        · exact absurd hjcreates (hnone j (by simpa [hne] using hj))
      · refine .inl ⟨?_, fun j hj hjcreates => ?_⟩
        · rw [store_turn hi hq, Bool.eq_false_iff]
          exact fun h => ((hasAccount_serve hspares id).1 h).elim (by simp [hnew]) ho
        · rcases List.mem_append.1 hj with hj | hj
          · exact hnone j hj hjcreates
          · obtain rfl := List.mem_singleton.1 hj
            exact ho (hcreates.1 hjcreates)
    · have hki : k ≠ i := fun he => hi (he ▸ hk)
      refine .inr ⟨?_, k, List.mem_append_left _ hk, hkcreates, ?_, fun j hj hne hjcreates => ?_⟩
      · rw [store_turn hi hq]
        exact (hasAccount_serve hspares id).2 (.inl hold)
      · rw [answer?_finish_of_ne hki, hcreated]
      · rcases eq_or_ne j i with rfl | hji
        · rw [answer?_turn hi hq, Option.map_some, statusOf_serve_createAccount (hcreates.1 hjcreates), hold]
          rfl
        · rw [answer?_finish_of_ne hji]
          exact hconflict j (by simpa [hji] using hj) hne hjcreates

end Turns

/-! ### Interleaved calls -/

/-- The calls of some queries that are asked at once over a store, made as a schedule says: as if the queries had been
served one after another, in the order of their first calls. -/
structure Serialised (keys : KeySource) (allowPurge : Bool) (queries : List Query) (m : Memory)
    (schedule : List Nat) : Prop where
  /-- Each query that makes a call has one turn. -/
  turns :
    let start := asked allowPurge queries m
    (start.firstCalls schedule).Nodup ∧
      ∀ i, i ∈ start.firstCalls schedule ↔ ∃ p, start.plans[i]? = some p ∧ p.answer? = none
  /-- The store holds the same in the end, and all are answered the same but those who ask for the key of a role, where
  the keys that have been drawn since the start may come in another order. -/
  same :
    let start := asked allowPurge queries m
    let run := start.run (Memory.backend keys) schedule
    ∃ σ : Equiv.Perm Nat, (∀ n < m.drawn, σ n = n) ∧
      let served := start.inTurn (Memory.backend (keys ∘ σ)) (start.firstCalls schedule)
      Memory.Same run.store served.store ∧
        ∀ i q, queries[i]? = some q → q.find? "action" ≠ some "retrieve_api_key" → run.answer? i = served.answer? i
  /-- What has been stored under a resource has been appended to its versions, once each and in the order of turns. -/
  appended : ∀ resource,
    let start := asked allowPurge queries m
    let run := start.run (Memory.backend keys) schedule
    (run.store.versions resource).getD [] = (m.versions resource).getD [] ++
      (exchanges queries run (start.firstCalls schedule)).filterMap (·.stored? resource)
  /-- Of all who order one new account, one gets it, and the others are told that it exists. -/
  created : ∀ id, m.hasAccount id = false → (∃ i, Creates allowPurge queries id i) →
    let run := (asked allowPurge queries m).run (Memory.backend keys) schedule
    ∃ i, Creates allowPurge queries id i ∧ (run.answer? i).map statusOf = some 201 ∧
      ∀ j, j ≠ i → Creates allowPurge queries id j → (run.answer? j).map statusOf = some 409

section Serialised
variable {allowPurge : Bool} {queries : List Query} {m : Memory} {schedule : List Nat}

/-- Who has answered has had a turn, if a call was needed. -/
theorem mem_turns {keys : KeySource} (hdone : ∀ i < queries.length,
      (((asked allowPurge queries m).run (Memory.backend keys) schedule).answer? i).isSome) (i : Nat) :
    i ∈ (asked allowPurge queries m).firstCalls schedule ↔
      ∃ p, (asked allowPurge queries m).plans[i]? = some p ∧ p.answer? = none := by
  rw [Pool.mem_firstCalls]
  refine and_iff_right_of_imp fun ⟨p, hp, hcall⟩ => by_contra fun hi => ?_
  have hlength : i < queries.length := by
    obtain ⟨hlength, -⟩ := List.getElem?_eq_some_iff.1 hp
    simpa [asked] using hlength
  obtain ⟨outcome, hanswer⟩ := Option.isSome_iff_exists.1 (hdone i hlength)
  rw [Pool.answer?_eq_some_iff, Pool.plans_run_of_notMem _ _ _ hi, hp] at hanswer
  cases hanswer
  cases hcall

/-- **The store holds the same as after the turns,** where the keys come in another order. -/
theorem exists_same_turns {keys : KeySource} {past : List Call} (hqueries : ∀ q ∈ queries, Spares q)
    (hdone : ∀ i < queries.length, (((asked allowPurge queries (.reached keys past)).run (Memory.backend keys)
      schedule).answer? i).isSome) :
    let start := asked allowPurge queries (.reached keys past)
    ∃ σ : Equiv.Perm Nat, (∀ n < start.store.drawn, σ n = n) ∧
      Memory.Same (start.run (Memory.backend keys) schedule).store
        (start.inTurn (Memory.backend (keys ∘ σ)) schedule).store := by
  intro start
  -- both runs once more, with keys that are told apart
  obtain ⟨hsound, hdrawn, hredrawn, hreordered⟩ := reached_redrawn tally_injective keys past
  have hlift := redrawn_run hredrawn allowPurge queries schedule
  obtain ⟨roles, hbehind⟩ :=
    (behind_asked tally tally allowPurge (fun _ _ => hsound.account) hqueries).run hqueries schedule
  have halike := hbehind.alike fun i hi => by
    obtain ⟨outcome', hanswer'⟩ := Option.isSome_iff_exists.1 (hdone i hi)
    obtain ⟨outcome, hanswer, -⟩ := hlift.answer? trivial hanswer'
    exact Option.isSome_iff_exists.2 ⟨outcome, hanswer⟩
  obtain ⟨σ, hfirst, hsame⟩ := Memory.exists_same tally_injective halike (keysSound_run tally_injective hsound _)
    (keysSound_inTurn tally_injective hsound _)
  refine ⟨σ, hdrawn ▸ hfirst, hsame keys _ _ hlift.store ?_⟩
  exact (redrawn_inTurn (hreordered σ hfirst) allowPurge queries schedule).store

theorem stored?_of_retrieve {q : Query} (hq : q.find? "action" = some "retrieve_api_key") (outcome : Outcome)
    (resource : ResourceId) : Exchange.stored? ⟨q, outcome⟩ resource = none := by
  have hcreate : Exchange.names ⟨q, outcome⟩ .createSecret = false := decide_eq_false (by rw [hq]; decide)
  have hload : Exchange.names ⟨q, outcome⟩ .loadPolicy = false := decide_eq_false (by rw [hq]; decide)
  simp [Exchange.stored?, hcreate, hload]

/-- What is stored can be read off either of two runs that answer the same but for the keys of roles. -/
theorem stored_congr {pool pool' : Pool Memory Outcome} (hsame : ∀ i q, queries[i]? = some q →
      q.find? "action" ≠ some "retrieve_api_key" → pool.answer? i = pool'.answer? i)
    (turns : List Nat) (resource : ResourceId) :
    (exchanges queries pool turns).filterMap (·.stored? resource) =
      (exchanges queries pool' turns).filterMap (·.stored? resource) := by
  rw [exchanges, exchanges, List.filterMap_filterMap, List.filterMap_filterMap]
  refine List.filterMap_congr fun i _ => ?_
  cases hq : queries[i]? with
  | none => rfl
  | some q =>
    by_cases haction : q.find? "action" = some "retrieve_api_key"
    · cases pool.answer? i <;> cases pool'.answer? i <;> simp [stored?_of_retrieve haction]
    · rw [hsame i q hq haction]

/-- **Requests are served as if one after another.**  Some queries, none of which removes an account, are asked at once
over a store that calls have led to, and their calls are made as a schedule says, until all have answered.  This is as
if those that make a call had been served one after another in the order of their first calls. -/
theorem serialised (keys : KeySource) (allowPurge : Bool) (past : List Call) (queries : List Query)
    (schedule : List Nat) (hqueries : ∀ q ∈ queries, Spares q)
    (hdone : ∀ i < queries.length, (((asked allowPurge queries (.reached keys past)).run (Memory.backend keys)
      schedule).answer? i).isSome) :
    Serialised keys allowPurge queries (.reached keys past) schedule := by
  let start := asked allowPurge queries (.reached keys past)
  obtain ⟨σ, hfirst, hstore⟩ := exists_same_turns hqueries hdone
  have hhoused : (Memory.reached keys past).Housed :=
    Memory.reached_keeps Memory.housed_empty (fun _ _ _ hm h => hm.change h) past
  obtain ⟨roles, hbehind⟩ := (behind_asked keys (keys ∘ σ) allowPurge hhoused hqueries).run hqueries schedule
  have hanswers := fun i q (hi : queries[i]? = some q) haction => hbehind.answer?_eq hdone hstore hi haction
  rw [← Pool.inTurn_firstCalls] at hstore hanswers
  have hturns := mem_turns hdone
  have hnodup := start.nodup_firstCalls schedule
  have hthere : ∀ i ∈ start.firstCalls schedule, ∃ q, queries[i]? = some q := by
    intro i hi
    obtain ⟨p, hp, -⟩ := (hturns i).1 hi
    rw [plans_asked, Option.map_eq_some_iff] at hp
    exact hp.imp fun q hq => hq.1
  refine ⟨⟨hnodup, hturns⟩, ⟨σ, hfirst, hstore, hanswers⟩, ?appended, ?created⟩
  case appended =>
    intro resource start run
    rw [hstore.versions, stored_congr hanswers]
    exact versions_inTurn hqueries hnodup hthere resource
  case created =>
    intro id hid hsome run
    have hcreator : ∀ i, Creates allowPurge queries id i → i ∈ start.firstCalls schedule ∧ run.answer? i =
        (start.inTurn (Memory.backend (keys ∘ σ)) (start.firstCalls schedule)).answer? i := by
      rintro i ⟨q, hi, ho⟩
      obtain ⟨haction, -⟩ := order_eq_ok_iff.1 ho
      have hother : some Action.createAccount.text ≠ some "retrieve_api_key" := by decide
      refine ⟨(hturns i).2 ⟨(Order.createAccount id).plan, ?_, rfl⟩, hanswers i q hi (haction ▸ hother)⟩
      rw [plans_asked, hi, Option.map_some, dispatch_eq, ho]
      rfl
    obtain ⟨i₀, hi₀⟩ := hsome
    rcases created_inTurn hqueries hnodup hthere hid with ⟨-, hnone⟩ | ⟨-, i, -, hi, hcreated, hconflict⟩
    · exact absurd hi₀ (hnone i₀ (hcreator i₀ hi₀).1)
    · refine ⟨i, hi, (hcreator i hi).2 ▸ hcreated, fun j hne hj => ?_⟩
      obtain ⟨hturn, hanswer⟩ := hcreator j hj
      rw [hanswer]
      exact hconflict j hturn hne hj

end Serialised

/-- Two policies that declare one role and two requests for one account, with their calls interleaved. -/
theorem serialised_interleaved :
    let load : Query :=
      ⟨[("action", "load_policy"), ("resource_id", "a:policy:root"), ("value", "[!user alice, !user bob]")]⟩
    let reload : Query := ⟨[("action", "load_policy"), ("resource_id", "a:policy:root"), ("value", "[!user bob]")]⟩
    let create : Query := ⟨[("action", "create_account"), ("id", "b")]⟩
    Serialised tally true [load, reload, create, create] (.reached tally [.createAccount .root "a"])
      [0, 1, 1, 3, 0, 2, 0] := by
  intro load reload create
  exact serialised tally true _ _ _ (by decide +kernel) (by decide +kernel)

end Postern.Gateway
