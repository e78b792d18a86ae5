import Mathlib.Data.List.DropRight
import Postern.Proofs.Gateway.Session

/-!
What a secret holds, told by the log of a session alone.  The history of a resource is what has been stored under it
since it was last removed (`history`).  Over the store in memory the versions of a secret are its history
(`versions_after`), so a reader gets the version that the history has at that place.
-/

namespace Postern.Gateway

/-- What an exchange stored under a resource, if it did. -/
def Exchange.stored? (x : Exchange) (resource : ResourceId) : Option String :=
  if statusOf x.outcome = 201 ∧ x.concerns resource then
    if x.names .createSecret then x.query.find? "value"
    else if x.names .loadPolicy then (x.query.given? "value").or (x.query.find? "policy")
    else none
  else none

/-- What a log says to have been stored under a resource since it was last removed, oldest first. -/
def history (resource : ResourceId) (xs : List Exchange) : List String :=
  (xs.rtakeWhile fun x => !x.removes resource.account).filterMap (·.stored? resource)

theorem history_concat (resource : ResourceId) (xs : List Exchange) (x : Exchange) :
    history resource (xs ++ [x]) =
      if x.removes resource.account then [] else history resource xs ++ (x.stored? resource).toList := by
  unfold history
  cases hx : x.removes resource.account with
  | true => rw [List.rtakeWhile_concat_neg _ _ _ (by simp [hx])]; rfl
  | false =>
    rw [List.rtakeWhile_concat_pos _ _ _ (by simp [hx]), List.filterMap_append]
    cases hs : x.stored? resource <;> simp [hs]

/-- What an order stores under a resource. -/
def Order.payload (resource : ResourceId) : Order → List String
  | .createSecret named value | .loadPolicy named value _ => if named = resource then [value] else []
  | _ => []

theorem stored?_of_order {allowPurge : Bool} {q : Query} {o : Order} (ho : order allowPurge q = .ok o)
    (outcome : Outcome) (resource : ResourceId) :
    (Exchange.stored? ⟨q, outcome⟩ resource).toList =
      if statusOf outcome = 201 then o.payload resource else [] := by
  obtain ⟨-, -, named, hnamed, hgiven⟩ := order_eq_ok_iff.1 ho
  have hconcerns : Exchange.concerns ⟨q, outcome⟩ resource = decide (named = some resource) := by
    rw [Bool.eq_iff_iff, concerns_iff, hnamed]
    simp
  simp only [Exchange.stored?, hconcerns, names_of_order ho, decide_eq_true_eq]
  cases o with
  | createSecret r value =>
    obtain ⟨rfl, hvalue⟩ := hgiven
    obtain ⟨hvalue, -⟩ := Query.given?_eq_some_iff.1 hvalue
    by_cases hs : statusOf outcome = 201 <;> by_cases hr : r = resource <;>
      simp [hs, hr, hvalue, Order.action, Order.payload]
  | loadPolicy r document roles =>
    obtain ⟨rfl, hdocument, -⟩ := hgiven
    have hpayload : (q.given? "value").or (q.find? "policy") = some document := by
      cases hv : q.given? "value" with
      | some value => simpa [hv] using hdocument
      | none =>
        rw [hv, Option.none_or] at hdocument
        simpa using (Query.given?_eq_some_iff.1 hdocument).1
    by_cases hs : statusOf outcome = 201 <;> by_cases hr : r = resource <;>
      simp [hs, hr, hpayload, Order.action, Order.payload]
  | _ => simp [Order.action, Order.payload]

/-- What an order does to the versions of a secret: it removes them all, or it appends what it stores. -/
theorem versions_effect (keys : KeySource) (m : Memory) (o : Order) (resource : ResourceId) :
    ((o.effect keys m).2.versions resource).getD [] =
      if (o.effect keys m).1.isOk = true ∧ (o = .purge ∨ o = .destroyAccount resource.account) then []
      else (m.versions resource).getD [] ++
        if statusOf (o.effect keys m).1 = 201 then o.payload resource else [] := by
  cases o with
  | listAccounts | purge => simp [Order.effect, statusOf, Response.json, Except.isOk, Except.toBool]
  | createAccount id => cases ha : m.hasAccount id <;> simp [Order.effect, Order.payload, ha]
  | destroyAccount id =>
    cases ha : m.hasAccount id with
    | false => simp [Order.effect, Order.payload, ha, Except.isOk, Except.toBool]
    | true =>
      rcases eq_or_ne id resource.account with rfl | hid
      · simp [Order.effect, ha, Except.isOk, Except.toBool]
      · simp [Order.effect, Order.payload, ha, hid, Ne.symm hid, Except.isOk, Except.toBool]
  | retrieveApiKey role => cases hk : m.key? role <;> simp [Order.effect, Order.payload, hk]
  | getSecret r version =>
    cases hs : m.showSecret (adminFor r) r version <;> simp [Order.effect, Order.payload, hs]
  | createSecret r value | loadPolicy r value roles =>
    cases ha : m.hasAccount r.account with
    | false => simp [Order.effect, ha, statusOf, ApiError.ofStore, ErrorKind.status]
    | true =>
      rcases eq_or_ne r resource with rfl | hr
      · simp [Order.effect, Order.payload, ha, statusOf, Response.empty]
      · simp [Order.effect, Order.payload, ha, hr, statusOf, Response.empty]

/-- **One query, one step of the history.** -/
theorem versions_serve (keys : KeySource) (allowPurge : Bool) (q : Query) (m : Memory) (resource : ResourceId) :
    let served := serve (Memory.backend keys) allowPurge q m
    (served.2.versions resource).getD [] =
      if Exchange.removes ⟨q, served.1⟩ resource.account then []
      else (m.versions resource).getD [] ++ (Exchange.stored? ⟨q, served.1⟩ resource).toList := by
  intro served
  have hserved : served = _ := serve_memory keys allowPurge q m
  cases ho : order allowPurge q with
  | error e =>
    rw [ho] at hserved
    simp [hserved, removes_error, Exchange.stored?, statusOf, ApiError.ofCaller, ErrorKind.status]
  | ok o =>
    rw [ho] at hserved
    rw [hserved, versions_effect, stored?_of_order ho, if_congr (removes_iff_of_order ho) rfl rfl]

/-- **The versions of a secret are its history.** -/
theorem versions_after (keys : KeySource) (allowPurge : Bool) (qs : List Query) (resource : ResourceId) :
    ((after (Memory.backend keys) allowPurge .empty qs).versions resource).getD [] =
      history resource (log (Memory.backend keys) allowPurge .empty qs) := by
  induction qs using List.reverseRecOn with
  | nil => rfl
  | append_singleton qs q ih =>
    rw [after_append, log_append, after_cons, after_nil, versions_serve, ih]
    exact (history_concat ..).symm

/-- **A reader gets the version that the history of the resource has at that place.**  Without a version it is the
last one, and a version is counted from one. -/
theorem getSecret_answers_history (keys : KeySource) (allowPurge : Bool) (past : List Query) {q : Query}
    {raw : String} {resource : ResourceId} (hq : Reads q raw) (hparse : ResourceId.parse raw = .ok resource) :
    let values := history resource (log (Memory.backend keys) allowPurge .empty past)
    let answer := (serve (Memory.backend keys) allowPurge q (after (Memory.backend keys) allowPurge .empty past)).1
    (q.given? "version" = none → Finds values.getLast? answer) ∧
    (∀ version n, q.given? "version" = some version → Text.unsigned? (Text.maxWord 32) version = some (n + 1) →
      Finds values[n]? answer) ∧
    (∀ version, q.given? "version" = some version →
      (∀ n, Text.unsigned? (Text.maxWord 32) version ≠ some (n + 1)) → statusOf answer = 400) := by
  intro values answer
  have hvalues : _ = values := versions_after keys allowPurge past resource
  rw [← hvalues]
  exact serve_getSecret keys allowPurge _ hq hparse

/-- What was stored before its account was removed is not read once the account is there again. -/
theorem getSecret_answers_history_recreated :
    let create : Query := ⟨[("action", "create_account"), ("id", "a")]⟩
    let destroy : Query := ⟨[("action", "destroy_account"), ("id", "a")]⟩
    let store (value : String) : Query :=
      ⟨[("action", "create_secret"), ("resource_id", "a:variable:x"), ("value", value)]⟩
    let read : Query := ⟨[("action", "get_secret"), ("resource_id", "a:variable:x"), ("version", "2")]⟩
    let past := [create, store "v", destroy, create, store "w", store "x"]
    (serve (Memory.backend fun _ => "key") true read
      (after (Memory.backend fun _ => "key") true .empty past)).1 = .ok (.text 200 "x") := by
  intro create destroy store read past
  have hhistory : history ⟨"a", "variable", "x"⟩ (log (Memory.backend fun _ => "key") true .empty past) =
      ["w", "x"] := by decide +kernel
  have hread : Reads read "a:variable:x" := ⟨by decide, by decide⟩
  have hparse : ResourceId.parse "a:variable:x" = .ok ⟨"a", "variable", "x"⟩ := by decide
  obtain ⟨-, hnumbered, -⟩ := getSecret_answers_history (fun _ => "key") true past hread hparse
  rw [hhistory] at hnumbered
  exact hnumbered "2" 1 (by decide) (by decide)

end Postern.Gateway
