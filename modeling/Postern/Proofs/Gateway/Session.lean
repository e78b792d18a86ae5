import Postern.Proofs.Gateway.Effect

/-!
Queries one after another.  `after` is the store after some queries, `log` what became of each; a log is judged by
its exchanges alone, a query and its outcome each.
-/

namespace Postern.Gateway

def statusOf : Outcome → Nat
  | .ok r => r.status
  | .error e => e.kind.status

/-- A query and what became of it. -/
structure Exchange where
  query : Query
  outcome : Outcome

namespace Exchange

def names (x : Exchange) (a : Action) : Bool := x.query.find? "action" = some a.text

/-- Whether the query names a resource. -/
def concerns (x : Exchange) (resource : ResourceId) : Bool :=
  match (x.query.find? "resource_id").map ResourceId.parse with
  | some (.ok named) => named = resource
  | _ => false

/-- Whether an account was removed, alone or with all others. -/
def removes (x : Exchange) (account : String) : Bool :=
  x.outcome.isOk &&
    (x.names .purge || (x.names .destroyAccount && decide (x.query.find? "id" = some account)))

end Exchange

section Session
variable {σ : Type} (b : Backend σ) (allowPurge : Bool)

/-- Answers a query. -/
def serve (q : Query) (s : σ) : Outcome × σ := (dispatch allowPurge q).run b s

/-- The store after some queries. -/
def after (s : σ) (qs : List Query) : σ := qs.foldl (fun s q => (serve b allowPurge q s).2) s

/-- What became of some queries. -/
def log : σ → List Query → List Exchange
  | _, [] => []
  | s, q :: qs => ⟨q, (serve b allowPurge q s).1⟩ :: log (serve b allowPurge q s).2 qs

variable {b : Backend σ} {allowPurge : Bool} {s : σ}

@[simp] theorem after_nil : after b allowPurge s [] = s := rfl

@[simp] theorem after_cons (q : Query) (qs : List Query) :
    after b allowPurge s (q :: qs) = after b allowPurge (serve b allowPurge q s).2 qs := rfl

theorem after_append (qs rs : List Query) :
    after b allowPurge s (qs ++ rs) = after b allowPurge (after b allowPurge s qs) rs := by
  simp [after]

theorem log_append (qs rs : List Query) :
    log b allowPurge s (qs ++ rs) = log b allowPurge s qs ++ log b allowPurge (after b allowPurge s qs) rs := by
  induction qs generalizing s with
  | nil => rfl
  | cons q qs ih => simp [log, ih]

theorem after_keeps {P : σ → Prop} (hserve : ∀ q s, P s → P (serve b allowPurge q s).2) (hs : P s)
    (qs : List Query) : P (after b allowPurge s qs) := by
  induction qs generalizing s with
  | nil => exact hs
  | cons q qs ih => exact ih (hserve q s hs)

end Session

/-! ### Over the store in memory -/

theorem serve_memory (keys : KeySource) (allowPurge : Bool) (q : Query) (m : Memory) :
    serve (Memory.backend keys) allowPurge q m =
      match order allowPurge q with
      | .ok o => o.effect keys m
      | .error e => (.error (.ofCaller e), m) :=
  run_dispatch keys allowPurge q m

section Accounts
variable {keys : KeySource} {allowPurge : Bool} {q : Query} {m : Memory} {id : String}

/-- Who asks for a new account gets it, or is told that it exists. -/
theorem statusOf_serve_createAccount (ho : order allowPurge q = .ok (.createAccount id)) :
    statusOf (serve (Memory.backend keys) allowPurge q m).1 = if m.hasAccount id then 409 else 201 := by
  rw [serve_memory, ho]
  simp only [Order.effect]
  split <;> rfl

/-- Who removes an account does so, or is told that there is none. -/
theorem statusOf_serve_destroyAccount (ho : order allowPurge q = .ok (.destroyAccount id)) :
    statusOf (serve (Memory.backend keys) allowPurge q m).1 = if m.hasAccount id then 204 else 404 := by
  rw [serve_memory, ho]
  simp only [Order.effect]
  split <;> rfl

end Accounts

/-- What every call keeps true of the store in memory, every query keeps. -/
theorem serve_keeps {keys : KeySource} {allowPurge : Bool} {q : Query} {m : Memory} {P : Memory → Prop}
    (hP : ∀ c m m', P m → Memory.Change keys m c m' → P m') (hm : P m) :
    P (serve (Memory.backend keys) allowPurge q m).2 := by
  have hcalls : (dispatch allowPurge q).Asks fun _ => True := dispatch_asks fun _ _ _ _ => trivial
  exact Plan.run_keeps (fun c m _ hm => hP c m _ hm (Memory.change_of_perform keys c m)) hcalls hm

/-! ### Exchanges of an order -/

section Exchange
variable {allowPurge : Bool} {q : Query} {o : Order} {outcome : Outcome}

theorem names_of_order (ho : order allowPurge q = .ok o) (a : Action) :
    Exchange.names ⟨q, outcome⟩ a = decide (o.action = a) := by
  obtain ⟨haction, -⟩ := order_eq_ok_iff.1 ho
  simp only [Exchange.names, haction, Option.some.injEq, decide_eq_decide]
  exact ⟨text_injective, fun h => h ▸ rfl⟩

theorem concerns_iff {resource : ResourceId} :
    Exchange.concerns ⟨q, outcome⟩ resource = true ↔ Request.resourceOf q = .ok (some resource) := by
  rw [resourceOf_eq_ok_some_iff]
  unfold Exchange.concerns
  cases q.find? "resource_id" with
  | none => simp
  | some raw => cases h : ResourceId.parse raw <;> simp [h]

theorem removes_iff_of_order (ho : order allowPurge q = .ok o) {account : String} :
    Exchange.removes ⟨q, outcome⟩ account = true ↔
      outcome.isOk = true ∧ (o = .purge ∨ o = .destroyAccount account) := by
  obtain ⟨-, -, named, -, hgiven⟩ := order_eq_ok_iff.1 ho
  simp only [Exchange.removes, names_of_order ho, Bool.and_eq_true, Bool.or_eq_true, decide_eq_true_eq]
  cases o with
  | destroyAccount id =>
    obtain ⟨hid, -⟩ := Query.given?_eq_some_iff.1 hgiven.1
    simp [Order.action, hid]
  | _ => simp [Order.action]

theorem removes_error {e : ApiError} {account : String} :
    Exchange.removes ⟨q, .error e⟩ account = false := rfl

theorem serve_removes {keys : KeySource} {m : Memory} {account : String}
    (h : Exchange.removes ⟨q, (serve (Memory.backend keys) allowPurge q m).1⟩ account = true) :
    (serve (Memory.backend keys) allowPurge q m).2 = m.cleared ∨
      (serve (Memory.backend keys) allowPurge q m).2 = m.removeAccount account := by
  rw [serve_memory] at h ⊢
  cases ho : order allowPurge q with
  | error e =>
    rw [ho, removes_error] at h
    cases h
  | ok o =>
    rw [ho, removes_iff_of_order ho] at h
    rcases h with ⟨hok, rfl | rfl⟩
    · exact .inl rfl
    · right
      cases ha : m.hasAccount account with
      | true => simp [Order.effect, ha]
      | false => simp [Order.effect, ha, Except.isOk, Except.toBool] at hok

end Exchange

/-! ### Readers -/

/-- An outcome that shows a text where one is found, and fails with status 404 where none is. -/
def Finds : Option String → Outcome → Prop
  | some value, outcome => outcome = .ok (.text 200 value)
  | none, outcome => statusOf outcome = 404

theorem effect_getSecret (keys : KeySource) (m : Memory) (resource : ResourceId) (version : Option Nat) :
    Finds (Memory.pick ((m.versions resource).getD []) version)
      ((Order.getSecret resource version).effect keys m).1 := by
  have h := Memory.showSecret_of_administers (m := m) (Actor.administers_adminOf resource.account) version
  simp only [Order.effect, adminFor]
  cases hp : Memory.pick ((m.versions resource).getD []) version with
  | some value =>
    rw [hp] at h
    simp only [h, Finds]
  | none =>
    rw [hp] at h
    obtain ⟨what, h⟩ := h
    simp only [h]
    rfl

/-- A query for a secret. -/
structure Reads (q : Query) (raw : String) : Prop where
  action : q.find? "action" = some "get_secret"
  resource : q.find? "resource_id" = some raw

/-- **A reader of a secret gets the version that it asks for,** the last one where it asks for none. -/
theorem serve_getSecret (keys : KeySource) (allowPurge : Bool) (m : Memory) {q : Query} {raw : String}
    {resource : ResourceId} (hq : Reads q raw) (hresource : ResourceId.parse raw = .ok resource) :
    let values := (m.versions resource).getD []
    let answer := (serve (Memory.backend keys) allowPurge q m).1
    (q.given? "version" = none → Finds values.getLast? answer) ∧
    (∀ version n, q.given? "version" = some version → Text.unsigned? (Text.maxWord 32) version = some (n + 1) →
      Finds values[n]? answer) ∧
    (∀ version, q.given? "version" = some version →
      (∀ n, Text.unsigned? (Text.maxWord 32) version ≠ some (n + 1)) → statusOf answer = 400) := by
  intro values answer
  have hnamed := resourceOf_eq_ok_some_iff.2 ⟨raw, hq.resource, hresource⟩
  have horder : ∀ version, (Order.getSecret resource version).Given q (some resource) →
      Finds (Memory.pick values version) answer := by
    intro version hgiven
    have ho : order allowPurge q = .ok (.getSecret resource version) :=
      order_eq_ok_iff.2 ⟨hq.action, by simp [Order.action], _, hnamed, hgiven⟩
    have h := effect_getSecret keys m resource version
    simp only [answer, serve_memory, ho]
    exact h
  refine ⟨fun hnone => ?_, fun version n hversion hn => ?_, fun version hversion hbad => ?_⟩
  · exact horder none ⟨rfl, .inl ⟨hnone, rfl⟩⟩
  · exact horder (some (n + 1)) ⟨rfl, .inr ⟨version, n + 1, hversion, hn, n.succ_pos, rfl⟩⟩
  · simp only [answer, serve_memory]
    cases ho : order allowPurge q with
    | error e => rfl
    | ok o =>
      obtain ⟨ha, -, named, -, hgiven⟩ := order_eq_ok_iff.1 ho
      have hact : o.action = .getSecret := text_injective (Option.some.inj (ha.symm.trans hq.action))
      cases o with
      | getSecret r v =>
        rcases hgiven with ⟨-, ⟨hnone, -⟩ | ⟨raw, k, hraw, hk, hpos, -⟩⟩
        · simp [hversion] at hnone
        · obtain rfl : version = _ := Option.some.inj (hversion.symm.trans hraw)
          exact absurd (by rw [hk, Nat.sub_add_cancel hpos]) (hbad (k - 1))
      | _ => cases hact

/-- A query for the API key of a role. -/
structure Retrieves (q : Query) (raw : String) : Prop where
  action : q.find? "action" = some "retrieve_api_key"
  role : q.find? "role_id" = some raw
  resource : ∃ named, Request.resourceOf q = .ok named

/-- **A reader of a key gets the one that the role holds.** -/
theorem serve_retrieveApiKey (keys : KeySource) (allowPurge : Bool) (m : Memory) {q : Query} {raw : String}
    {role : RoleId} (hq : Retrieves q raw) (hrole : RoleId.parse raw = .ok role) :
    serve (Memory.backend keys) allowPurge q m =
      match m.key? role with
      | some key => (.ok (.text 200 key), m)
      | none => (.error (roleNotFound role), m) := by
  obtain ⟨named, hnamed⟩ := hq.resource
  have hraw : raw ≠ "" := by rintro rfl; cases hrole
  have hgiven : (Order.retrieveApiKey role).Given q named :=
    ⟨raw, Query.given?_eq_some_iff.2 ⟨hq.role, hraw⟩, hrole⟩
  have ho : order allowPurge q = .ok (.retrieveApiKey role) :=
    order_eq_ok_iff.2 ⟨hq.action, by simp [Order.action], named, hnamed, hgiven⟩
  rw [serve_memory, ho]
  rfl

end Postern.Gateway
