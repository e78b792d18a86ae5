import Postern.Gateway.Dispatch
import Postern.Proofs.Policy.Declared

/-!
What a query orders.  A query is refused for what is wrong with its parameters, or it is one of eight orders, which
hold all that the answer and the effect on the store depend on (`dispatch_eq`).  Which order a query is can be read off
its parameters (`order_eq_ok_iff`).
-/

namespace Postern

/-- The value of a parameter that is there and not empty. -/
def Query.given? (q : Query) (name : String) : Option String := (q.find? name).filter (· ≠ "")

theorem Query.given?_eq_some_iff {q : Query} {name value : String} :
    q.given? name = some value ↔ q.find? name = some value ∧ value ≠ "" := by
  simp [given?, Option.filter_eq_some_iff]

namespace Gateway

/-- What a query that is not refused asks for. -/
inductive Order where
  | listAccounts
  | createAccount (id : String)
  | destroyAccount (id : String)
  | retrieveApiKey (role : RoleId)
  | getSecret (resource : ResourceId) (version : Option Nat)
  | createSecret (resource : ResourceId) (value : String)
  | loadPolicy (resource : ResourceId) (document : String) (roles : List RoleId)
  | purge
  deriving DecidableEq, Repr

def Order.action : Order → Action
  | .listAccounts => .listAccounts
  | .createAccount _ => .createAccount
  | .destroyAccount _ => .destroyAccount
  | .retrieveApiKey _ => .retrieveApiKey
  | .getSecret _ _ => .getSecret
  | .createSecret _ _ => .createSecret
  | .loadPolicy _ _ _ => .loadPolicy
  | .purge => .purge

theorem Order.policy_or (o : Order) :
    (∃ resource document roles, o = .loadPolicy resource document roles) ∨ o.action ≠ .loadPolicy := by
  cases o with
  | loadPolicy resource document roles => exact .inl ⟨resource, document, roles, rfl⟩
  | _ => exact .inr (by simp [Order.action])

/-- What an order asks of the store and answers. -/
def Order.plan : Order → Plan Outcome
  | .listAccounts => Gateway.listAccounts
  | .createAccount id =>
    ask (.createAccount .root id) fun created => succeed (.json 201 (createdJson created))
  | .destroyAccount id => ask (.destroyAccount .root id) fun _ => succeed (.empty 204)
  | .retrieveApiKey role =>
    ask (.findRole role) fun (found : Option Role) =>
      match found with
      | some role => succeed (.text 200 role.apiKey)
      | none => .answer (.error (roleNotFound role))
  | .getSecret resource version =>
    ask (.showSecret (adminFor resource) resource version) fun value => succeed (.text 200 value)
  | .createSecret resource value =>
    ask (.createSecret (adminFor resource) resource value) fun _ => succeed (.empty 201)
  | .loadPolicy resource document roles =>
    ask (.createSecret (adminFor resource) resource document) fun _ =>
      provisionAll (adminFor resource) (succeed (.empty 201)) roles
  | .purge => Gateway.purge

def Request.order (r : Request) : Except CallerError Order :=
  match r.action with
  | .listAccounts => .ok .listAccounts
  | .createAccount => (accountId r).map .createAccount
  | .destroyAccount => (accountId r).map .destroyAccount
  | .retrieveApiKey => (roleId r).map .retrieveApiKey
  | .getSecret => do return .getSecret (← r.requireResource) (← version r)
  | .createSecret => do return .createSecret (← r.requireResource) (← r.require "value")
  | .loadPolicy => do
    let resource ← r.requireResource
    let document ← document r
    return .loadPolicy resource document (← declared resource document)
  | .purge => .ok .purge

def order (allowPurge : Bool) (q : Query) : Except CallerError Order := do (← Request.parse allowPurge q).order

section Check
variable {α β : Type} (x : Except CallerError α) (f : α → β) (g : α → Except CallerError β)
  (next : β → Plan Outcome)

theorem check_map : check (x.map f) next = check x fun a => next (f a) := by
  cases x <;> rfl

theorem check_bind : check (x >>= g) next = check x fun a => check (g a) next := by
  cases x <;> rfl

end Check

/-- **A query does what it orders, or is refused.** -/
theorem dispatch_eq (allowPurge : Bool) (q : Query) :
    dispatch allowPurge q = check (order allowPurge q) Order.plan := by
  unfold dispatch order
  rw [check_bind]
  congr 1
  funext r
  unfold handle Request.order
  cases r.action with
  | listAccounts | purge => rfl
  | createAccount | destroyAccount | retrieveApiKey => simp only [check_map]; rfl
  | getSecret | createSecret | loadPolicy => simp only [check_bind]; rfl

/-! ### Reading an order -/

/-- The parameters of a query, and the resource that they name, are those of an order. -/
def Order.Given (q : Query) (named : Option ResourceId) : Order → Prop
  | .listAccounts | .purge => True
  | .createAccount id | .destroyAccount id => q.given? "id" = some id ∧ ':' ∉ id.toList
  | .retrieveApiKey role => ∃ raw, q.given? "role_id" = some raw ∧ RoleId.parse raw = .ok role
  | .getSecret resource version => named = some resource ∧
    (q.given? "version" = none ∧ version = none ∨
      ∃ raw n, q.given? "version" = some raw ∧ Text.unsigned? (Text.maxWord 32) raw = some n ∧ 0 < n ∧
        version = some n)
  | .createSecret resource value => named = some resource ∧ q.given? "value" = some value
  | .loadPolicy resource document roles => named = some resource ∧
    (q.given? "value").or (q.given? "policy") = some document ∧
    Policy.declaredRoles resource document = .ok roles

theorem get?_eq (r : Request) (name : String) : r.get? name = r.query.given? name := rfl

theorem require_eq_ok_iff {r : Request} {name value : String} :
    r.require name = .ok value ↔ r.query.given? name = some value := by
  unfold Request.require
  rw [get?_eq]
  cases r.query.given? name <;> simp

theorem requireResource_eq_ok_iff {r : Request} {resource : ResourceId} :
    r.requireResource = .ok resource ↔ r.resource = some resource := by
  unfold Request.requireResource
  cases r.resource <;> simp

theorem accountId_eq_ok_iff {r : Request} {id : String} :
    accountId r = .ok id ↔ r.query.given? "id" = some id ∧ ':' ∉ id.toList := by
  rw [← require_eq_ok_iff]
  unfold accountId
  cases r.require "id" with
  | error e => simp
  | ok given => by_cases hc : ':' ∈ given.toList <;> simp [hc] <;> grind

theorem roleId_eq_ok_iff {r : Request} {role : RoleId} :
    roleId r = .ok role ↔ ∃ raw, r.query.given? "role_id" = some raw ∧ RoleId.parse raw = .ok role := by
  simp only [← require_eq_ok_iff]
  unfold roleId
  cases r.require "role_id" with
  | error e => simp
  | ok raw => cases hp : RoleId.parse raw <;> simp [hp]

theorem version_eq_ok_iff {r : Request} {v : Option Nat} :
    version r = .ok v ↔ r.query.given? "version" = none ∧ v = none ∨
      ∃ raw n, r.query.given? "version" = some raw ∧ Text.unsigned? (Text.maxWord 32) raw = some n ∧ 0 < n ∧
        v = some n := by
  unfold version
  rw [get?_eq]
  cases r.query.given? "version" with
  | none => simp [eq_comm]
  | some raw =>
    cases hn : Text.unsigned? (Text.maxWord 32) raw with
    | none => simp [hn]
    | some n => by_cases h0 : 0 < n <;> simp [hn, h0, Option.filter, eq_comm]

theorem document_eq_ok_iff {r : Request} {d : String} :
    document r = .ok d ↔ (r.query.given? "value").or (r.query.given? "policy") = some d := by
  unfold document
  simp only [get?_eq]
  cases r.query.given? "value" <;> cases r.query.given? "policy" <;> simp

theorem declared_eq_ok_iff {resource : ResourceId} {d : String} {roles : List RoleId} :
    declared resource d = .ok roles ↔ Policy.declaredRoles resource d = .ok roles := by
  unfold declared
  split <;> simp [*]

theorem Request.order_eq_ok_iff {r : Request} {o : Order} :
    r.order = .ok o ↔ r.action = o.action ∧ o.Given r.query r.resource := by
  unfold Request.order
  cases hr : r.action with
  | listAccounts | purge => cases o <;> simp [Order.action, Order.Given]
  | createAccount | destroyAccount =>
    simp only [map_eq_ok_iff, accountId_eq_ok_iff]
    cases o <;> simp [Order.action, Order.Given]
  | retrieveApiKey =>
    simp only [map_eq_ok_iff, roleId_eq_ok_iff]
    cases o <;> simp [Order.action, Order.Given]
  | getSecret =>
    simp only [bind_eq_ok_iff, requireResource_eq_ok_iff, version_eq_ok_iff, pure, Except.pure, Except.ok.injEq]
    cases o <;> simp [Order.action, Order.Given]
  | createSecret =>
    simp only [bind_eq_ok_iff, requireResource_eq_ok_iff, require_eq_ok_iff, pure, Except.pure, Except.ok.injEq]
    cases o <;> simp [Order.action, Order.Given]
  | loadPolicy =>
    simp only [bind_eq_ok_iff, requireResource_eq_ok_iff, document_eq_ok_iff, declared_eq_ok_iff, pure, Except.pure,
      Except.ok.injEq]
    cases o with
    | loadPolicy resource document roles =>
      constructor
      · rintro ⟨_, hr, _, hd, _, hroles, he⟩
        cases he
        exact ⟨rfl, hr, hd, hroles⟩
      · rintro ⟨-, hr, hd, hroles⟩
        exact ⟨_, hr, _, hd, _, hroles, rfl⟩
    | _ => simp [Order.action]

theorem text_injective {a b : Action} (h : a.text = b.text) : a = b := by
  have ha := Action.ofText?_text a
  rw [h, Action.ofText?_text b] at ha
  exact (Option.some.inj ha).symm

theorem permittedAction_eq_ok_iff {allowPurge : Bool} {name : String} {a : Action} :
    Request.permittedAction allowPurge name = .ok a ↔ name = a.text ∧ (a = .purge → allowPurge = true) := by
  unfold Request.permittedAction
  cases hn : Action.ofText? name with
  | none =>
    have : name ≠ a.text := by rintro rfl; rw [Action.ofText?_text] at hn; cases hn
    simp [this]
  | some b =>
    obtain rfl := Action.text_of_ofText? hn
    by_cases hb : b = a
    · subst hb
      cases allowPurge <;> simp
    · refine iff_of_false ?_ fun h => hb (text_injective h.1)
      dsimp only
      split
      · simp
      · simpa using hb

theorem parse_eq_ok_iff {allowPurge : Bool} {q : Query} {r : Request} :
    Request.parse allowPurge q = .ok r ↔ q.find? "action" = some r.action.text ∧
      Request.resourceOf q = .ok r.resource ∧ (r.action = .purge → allowPurge = true) ∧ r.query = q := by
  have hne : r.action.text ≠ "" := by cases r.action <;> decide
  unfold Request.parse
  cases hn : (q.find? "action").filter (· ≠ "") with
  | none =>
    refine iff_of_false (by simp) ?_
    rintro ⟨ha, -⟩
    simp [ha, hne] at hn
  | some name =>
    obtain ⟨hname, -⟩ := Query.given?_eq_some_iff.1 hn
    cases hres : Request.resourceOf q with
    | error e => simp
    | ok named =>
      cases hact : Request.permittedAction allowPurge name with
      | error e =>
        refine iff_of_false (by simp [hact]) ?_
        rintro ⟨ha, -, hp, -⟩
        rw [hname, Option.some.injEq] at ha
        rw [permittedAction_eq_ok_iff.2 ⟨ha, hp⟩] at hact
        cases hact
      | ok a =>
        obtain ⟨rfl, hp⟩ := permittedAction_eq_ok_iff.1 hact
        obtain ⟨action, query, resource⟩ := r
        simp only [hname, hact, Except.ok.injEq, Request.mk.injEq, Option.some.injEq]
        constructor
        · rintro ⟨rfl, rfl, rfl⟩
          exact ⟨rfl, rfl, hp, rfl⟩
        · rintro ⟨ha, rfl, -, rfl⟩
          exact ⟨text_injective ha, rfl, rfl⟩

/-- **Which orders there are.**  A query is an order exactly when it names the order's action, what it names as its
resource is one, a purge is allowed where it is one, and its parameters are those of the order. -/
theorem order_eq_ok_iff {allowPurge : Bool} {q : Query} {o : Order} :
    order allowPurge q = .ok o ↔ q.find? "action" = some o.action.text ∧
      (o.action = .purge → allowPurge = true) ∧
      ∃ named, Request.resourceOf q = .ok named ∧ o.Given q named := by
  unfold order
  simp only [bind_eq_ok_iff, Request.order_eq_ok_iff, parse_eq_ok_iff]
  constructor
  · rintro ⟨r, ⟨ha, hr, hp, rfl⟩, hact, hgiven⟩
    rw [hact] at ha hp
    exact ⟨ha, hp, r.resource, hr, hgiven⟩
  · rintro ⟨ha, hp, named, hr, hgiven⟩
    exact ⟨⟨o.action, q, named⟩, ⟨ha, hr, hp, rfl⟩, rfl, hgiven⟩

/-! ### What an order can name -/

/-- All that an order names can be addressed, and the roles that it declares lie in the account of its resource. -/
def Order.WellFormed : Order → Prop
  | .listAccounts | .purge => True
  | .createAccount id | .destroyAccount id => IsPart id
  | .retrieveApiKey role => role.WellFormed
  | .getSecret resource _ | .createSecret resource _ => resource.WellFormed
  | .loadPolicy resource _ roles =>
    resource.WellFormed ∧ ∀ role ∈ roles, role.account = resource.account ∧ role.WellFormed

theorem resourceOf_eq_ok_some_iff {q : Query} {resource : ResourceId} :
    Request.resourceOf q = .ok (some resource) ↔ ∃ raw, q.find? "resource_id" = some raw ∧
      ResourceId.parse raw = .ok resource := by
  unfold Request.resourceOf
  cases q.find? "resource_id" with
  | none => simp
  | some raw => cases h : ResourceId.parse raw <;> simp [h]

theorem wellFormed_of_resourceOf {q : Query} {resource : ResourceId}
    (h : Request.resourceOf q = .ok (some resource)) : resource.WellFormed := by
  obtain ⟨raw, -, hparse⟩ := resourceOf_eq_ok_some_iff.1 h
  exact (ResourceId.parse_eq_ok_iff.1 hparse).2

theorem wellFormed_of_order {allowPurge : Bool} {q : Query} {o : Order} (h : order allowPurge q = .ok o) :
    o.WellFormed := by
  obtain ⟨-, -, named, hnamed, hgiven⟩ := order_eq_ok_iff.1 h
  cases o with
  | listAccounts | purge => trivial
  | createAccount id | destroyAccount id =>
    obtain ⟨hid, hcolon⟩ := hgiven
    exact ⟨(Query.given?_eq_some_iff.1 hid).2, hcolon⟩
  | retrieveApiKey role =>
    obtain ⟨raw, -, hparse⟩ := hgiven
    exact (RoleId.parse_eq_ok_iff.1 hparse).2
  | getSecret resource version | createSecret resource value =>
    obtain ⟨rfl, -⟩ := hgiven
    exact wellFormed_of_resourceOf hnamed
  | loadPolicy resource document roles =>
    obtain ⟨rfl, -, hroles⟩ := hgiven
    have hresource := wellFormed_of_resourceOf hnamed
    exact ⟨hresource, Policy.declaredRoles_forall hresource hroles⟩

end Gateway
end Postern
