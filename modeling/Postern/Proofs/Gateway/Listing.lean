import Mathlib.Data.List.Induction
import Mathlib.Data.List.Nodup
import Postern.Proofs.Gateway.Session

/-!
Which accounts there are, told by the log of a session alone.  An account stands when it has been created and neither
been removed nor created again since, and accounts stand in the order in which they were created (`standing`).  Over the
store in memory these are the accounts that are listed (`accounts_after`), and what stands decides what becomes of who
creates or removes an account (`listing`).
-/

namespace Postern.Gateway

/-! ### What stands -/

/-- The account that an exchange created, if it did. -/
def Exchange.created? (x : Exchange) : Option String :=
  if statusOf x.outcome = 201 ∧ x.names .createAccount then x.query.find? "id" else none

/-- Whether earlier creations of an account count no more after an exchange: it removes the account, or creates it once
more. -/
def Exchange.supersedes (x : Exchange) (id : String) : Bool := decide (x.created? = some id) || x.removes id

/-- The accounts that stand at the end of a log: each creation counts that nothing later supersedes. -/
def standing : List Exchange → List String
  | [] => []
  | x :: later => (x.created?.filter fun id => !later.any (·.supersedes id)).toList ++ standing later

theorem supersedes_of_created? {x : Exchange} {id : String} (h : x.created? = some id) : x.supersedes id = true := by
  simp [Exchange.supersedes, h]

theorem standing_cons (x : Exchange) (later : List Exchange) :
    standing (x :: later) = (x.created?.toList.filter fun id => !later.any (·.supersedes id)) ++ standing later := by
  rw [standing, Option.toList_filter]

/-- One more exchange: what it supersedes stands no more, and what it creates stands last. -/
theorem standing_concat (xs : List Exchange) (x : Exchange) :
    standing (xs ++ [x]) = (standing xs).filter (fun id => !x.supersedes id) ++ x.created?.toList := by
  induction xs with
  | nil => simp [standing, standing_cons]
  | cons y xs ih =>
    have hhead : (y.created?.toList.filter fun id => !(xs ++ [x]).any (·.supersedes id)) =
        (y.created?.toList.filter fun id => !xs.any (·.supersedes id)).filter fun id => !x.supersedes id := by
      simp [List.filter_filter, Bool.and_comm]
    rw [List.cons_append, standing_cons, standing_cons, hhead, ih, List.filter_append, List.append_assoc]

theorem nodup_standing (xs : List Exchange) : (standing xs).Nodup := by
  induction xs using List.reverseRecOn with
  | nil => exact List.nodup_nil
  | append_singleton xs x ih =>
    rw [standing_concat]
    refine (ih.filter _).append (by cases x.created? <;> simp) fun id hold hnew => ?_
    obtain ⟨-, hkept⟩ := List.mem_filter.1 hold
    simp [supersedes_of_created? (Option.mem_toList.1 hnew)] at hkept

/-! ### Over the store in memory -/

/-- The account that an order creates, if it succeeds. -/
def Order.creates? : Order → Option String
  | .createAccount id => some id
  | _ => none

section Serve
variable {keys : KeySource} {allowPurge : Bool} {q : Query} {o : Order} {m : Memory}

theorem created?_of_order (ho : order allowPurge q = .ok o) (outcome : Outcome) :
    Exchange.created? ⟨q, outcome⟩ = if statusOf outcome = 201 then o.creates? else none := by
  obtain ⟨-, -, named, -, hgiven⟩ := order_eq_ok_iff.1 ho
  simp only [Exchange.created?, names_of_order ho, decide_eq_true_eq]
  cases o with
  | createAccount id =>
    obtain ⟨hid, -⟩ := Query.given?_eq_some_iff.1 hgiven.1
    simp [Order.action, Order.creates?, hid]
  | _ => simp [Order.action, Order.creates?]

theorem notMem_of_created? {id : String}
    (h : Exchange.created? ⟨q, (serve (Memory.backend keys) allowPurge q m).1⟩ = some id) : id ∉ m.accounts := by
  cases ho : order allowPurge q with
  | error e =>
    rw [serve_memory, ho] at h
    simp [Exchange.created?, statusOf, ApiError.ofCaller, ErrorKind.status] at h
  | ok o =>
    rw [created?_of_order ho] at h
    cases o with
    | createAccount id' =>
      rw [statusOf_serve_createAccount ho] at h
      cases ha : m.hasAccount id' with
      | true => simp [ha] at h
      | false =>
        obtain rfl : id' = id := by simpa [ha, Order.creates?] using h
        exact Memory.hasAccount_eq_false_iff.1 ha
    | _ => simp [Order.creates?] at h

/-- What an order does to the list of accounts: it takes out what it removes, and it appends what it creates. -/
theorem accounts_effect (keys : KeySource) (m : Memory) (o : Order) :
    (o.effect keys m).2.accounts =
      (m.accounts.filter fun id => !decide ((o.effect keys m).1.isOk = true ∧ (o = .purge ∨ o = .destroyAccount id))) ++
        (if statusOf (o.effect keys m).1 = 201 then o.creates? else none).toList := by
  cases o with
  | listAccounts | purge => simp [Order.effect, statusOf, Response.json, Except.isOk, Except.toBool]
  | createAccount id =>
    cases ha : m.hasAccount id <;>
      simp [Order.effect, Order.creates?, ha, statusOf, Response.json, ApiError.ofStore, ErrorKind.status]
  | destroyAccount id =>
    cases ha : m.hasAccount id <;>
      simp [Order.effect, Order.creates?, ha, Except.isOk, Except.toBool, eq_comm]
  | retrieveApiKey role => cases hk : m.key? role <;> simp [Order.effect, Order.creates?, hk]
  | getSecret resource version =>
    cases hs : m.showSecret (adminFor resource) resource version <;> simp [Order.effect, Order.creates?, hs]
  | createSecret resource value | loadPolicy resource value roles =>
    cases ha : m.hasAccount resource.account <;> simp [Order.effect, Order.creates?, ha]

/-- **One query, one step of the listing.** -/
theorem accounts_serve (keys : KeySource) (allowPurge : Bool) (q : Query) (m : Memory) :
    let served := serve (Memory.backend keys) allowPurge q m
    let x : Exchange := ⟨q, served.1⟩
    served.2.accounts = m.accounts.filter (fun id => !x.supersedes id) ++ x.created?.toList := by
  intro served x
  have hremoved : (m.accounts.filter fun id => !x.supersedes id) = m.accounts.filter fun id => !x.removes id := by
    refine List.filter_congr fun id hid => ?_
    have hold : x.created? ≠ some id := fun h => notMem_of_created? h hid
    simp [Exchange.supersedes, hold]
  have hserved : served = _ := serve_memory keys allowPurge q m
  rw [hremoved]
  cases ho : order allowPurge q with
  | error e =>
    rw [ho] at hserved
    simp [x, hserved, Exchange.created?, removes_error, statusOf, ApiError.ofCaller, ErrorKind.status]
  | ok o =>
    rw [ho] at hserved
    have hremoves : ∀ id, x.removes id = decide (served.1.isOk = true ∧ (o = .purge ∨ o = .destroyAccount id)) := by
      intro id
      rw [Bool.eq_iff_iff, decide_eq_true_eq]
      exact removes_iff_of_order ho
    simp only [hremoves]
    rw [created?_of_order ho, hserved]
    exact accounts_effect keys m o

end Serve

/-- **The accounts that are listed are those that stand.** -/
theorem accounts_after (keys : KeySource) (allowPurge : Bool) (qs : List Query) :
    (after (Memory.backend keys) allowPurge .empty qs).accounts =
      standing (log (Memory.backend keys) allowPurge .empty qs) := by
  induction qs using List.reverseRecOn with
  | nil => rfl
  | append_singleton qs q ih =>
    rw [after_append, log_append, after_cons, after_nil, accounts_serve, ih]
    exact (standing_concat ..).symm

example :
    let ask := fun (action id : String) => Store.Table.ofList [("action", action), ("id", id)]
    standing (log (Memory.backend fun _ => "") false .empty
      [ask "create_account" "a", ask "create_account" "b", ask "create_account" "a", ask "destroy_account" "a",
        ask "create_account" "a"]) = ["b", "a"] := by
  rfl

/-! ### Answers -/

/-- A query for an action; what it names as its resource, if anything, is one. -/
structure Invokes (q : Query) (a : Action) : Prop where
  action : q.find? "action" = some a.text
  resource : ∃ named, Request.resourceOf q = .ok named

/-- A query for an action on one account, whose id can be one. -/
structure InvokesOn (q : Query) (a : Action) (id : String) : Prop extends Invokes q a where
  given : q.given? "id" = some id
  part : ':' ∉ id.toList

section Invokes
variable {allowPurge : Bool} {q : Query} {id : String}

theorem Invokes.order {o : Order} (hq : Invokes q o.action) (hpurge : o.action = .purge → allowPurge = true)
    (hgiven : ∀ named, o.Given q named) : order allowPurge q = .ok o := by
  obtain ⟨named, hnamed⟩ := hq.resource
  exact order_eq_ok_iff.2 ⟨hq.action, hpurge, named, hnamed, hgiven named⟩

theorem InvokesOn.order_createAccount (hq : InvokesOn q .createAccount id) :
    order allowPurge q = .ok (.createAccount id) :=
  Invokes.order (o := .createAccount id) hq.toInvokes (fun h => by cases h) fun _ => ⟨hq.given, hq.part⟩

theorem InvokesOn.order_destroyAccount (hq : InvokesOn q .destroyAccount id) :
    order allowPurge q = .ok (.destroyAccount id) :=
  Invokes.order (o := .destroyAccount id) hq.toInvokes (fun h => by cases h) fun _ => ⟨hq.given, hq.part⟩

end Invokes

/-- How queries about accounts are answered over a store, where some accounts are said to stand. -/
structure Listing (keys : KeySource) (allowPurge : Bool) (m : Memory) (ids : List String) : Prop where
  /-- No account is listed twice. -/
  nodup : ids.Nodup
  /-- Who asks for the accounts is shown those that stand, in their order. -/
  listed : ∀ q, Invokes q .listAccounts →
    serve (Memory.backend keys) allowPurge q m = (.ok (.json 200 (.arr (ids.map .str))), m)
  /-- An account is created unless it stands. -/
  created : ∀ q id, InvokesOn q .createAccount id →
    statusOf (serve (Memory.backend keys) allowPurge q m).1 = if id ∈ ids then 409 else 201
  /-- An account is destroyed if it stands. -/
  destroyed : ∀ q id, InvokesOn q .destroyAccount id →
    statusOf (serve (Memory.backend keys) allowPurge q m).1 = if id ∈ ids then 204 else 404
  /-- A purge that is allowed counts the accounts that stand, and leaves nothing behind. -/
  purged : allowPurge = true → ∀ q, Invokes q .purge →
    let served := serve (Memory.backend keys) allowPurge q m
    served.1 = .ok (.json 200 (purgedJson ids.length)) ∧ served.2.accounts = [] ∧
      (∀ role, served.2.key? role = none) ∧ ∀ resource, served.2.versions resource = none

/-- Over a single store, the accounts that stand are those in it. -/
theorem listing_accounts (keys : KeySource) (allowPurge : Bool) {m : Memory} (hm : m.accounts.Nodup) :
    Listing keys allowPurge m m.accounts := by
  refine ⟨hm, ?listed, ?created, ?destroyed, ?purged⟩
  case listed =>
    intro q hq
    have ho : order allowPurge q = .ok .listAccounts :=
      Invokes.order (o := .listAccounts) hq (fun h => by cases h) fun _ => trivial
    rw [serve_memory, ho]
    rfl
  case created =>
    intro q id hq
    rw [statusOf_serve_createAccount hq.order_createAccount]
    simp only [Memory.hasAccount_iff]
  case destroyed =>
    intro q id hq
    rw [statusOf_serve_destroyAccount hq.order_destroyAccount]
    simp only [Memory.hasAccount_iff]
  case purged =>
    intro hallowed q hq served
    have ho : order allowPurge q = .ok .purge := Invokes.order (o := .purge) hq (fun _ => hallowed) fun _ => trivial
    have hserved : served = (.ok (.json 200 (purgedJson m.accounts.length)), m.cleared) := by
      simp only [served, serve_memory, ho]
      rfl
    rw [hserved]
    exact ⟨rfl, rfl, fun _ => rfl, fun _ => rfl⟩

/-- **The log of a session tells which accounts are listed,** and what becomes of who creates or removes one.  A purge
empties the list. -/
theorem listing (keys : KeySource) (allowPurge : Bool) (past : List Query) :
    let ids := fun qs => standing (log (Memory.backend keys) allowPurge .empty qs)
    Listing keys allowPurge (after (Memory.backend keys) allowPurge .empty past) (ids past) ∧
      ∀ q, allowPurge = true → Invokes q .purge → ids (past ++ [q]) = [] := by
  intro ids
  have hids : ∀ qs, ids qs = (after (Memory.backend keys) allowPurge .empty qs).accounts :=
    fun qs => (accounts_after keys allowPurge qs).symm
  have hlisting : Listing keys allowPurge (after (Memory.backend keys) allowPurge .empty past) (ids past) := by
    have hnodup : (ids past).Nodup := nodup_standing _
    rw [hids] at hnodup ⊢
    exact listing_accounts keys allowPurge hnodup
  refine ⟨hlisting, fun q hallowed hq => ?_⟩
  obtain ⟨-, hempty, -⟩ := hlisting.purged hallowed q hq
  rw [hids, after_append]
  exact hempty

end Postern.Gateway
