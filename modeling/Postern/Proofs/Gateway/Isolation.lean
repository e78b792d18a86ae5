import Postern.Proofs.Gateway.Refusals
import Postern.Proofs.Store.Within

/-!
Accounts kept apart at the gateway.  A query for one account makes only calls that concern this account
(`account?_of_mem_calls`), so it changes nothing beyond it (`sameBeyond_serve`).  What it answers and what it leaves
there depends on what was there before, whatever else the store holds (`Order.within_effect`).  For policies this rests
on the roles that they declare: whatever ids are qualified to, they lie in the account of the policy.
-/

namespace Postern

/-- The account that a query names: as its `id`, or as the first part of its role or its resource. -/
def Query.account? (q : Query) : Option String :=
  match (q.find? "action").bind Gateway.Action.ofText? with
  | some .createAccount | some .destroyAccount => q.given? "id"
  | some .retrieveApiKey => ((q.find? "role_id").bind fun raw => (RoleId.parse raw).toOption).map (·.account)
  | some .getSecret | some .createSecret | some .loadPolicy =>
    ((q.find? "resource_id").bind fun raw => (ResourceId.parse raw).toOption).map (·.account)
  | some .listAccounts | some .purge | none => none

namespace Gateway

def Order.account? : Order → Option String
  | .createAccount id | .destroyAccount id => some id
  | .retrieveApiKey role => some role.account
  | .getSecret resource _ | .createSecret resource _ | .loadPolicy resource _ _ => some resource.account
  | .listAccounts | .purge => none

section Order
variable {allowPurge : Bool} {q : Query} {o : Order} {account : String}

theorem account?_of_order (ho : order allowPurge q = .ok o) : q.account? = o.account? := by
  obtain ⟨haction, -, named, hnamed, hgiven⟩ := order_eq_ok_iff.1 ho
  unfold Query.account?
  rw [haction, Option.bind_some, Action.ofText?_text]
  cases o with
  | listAccounts | purge => rfl
  | createAccount id | destroyAccount id => exact hgiven.1
  | retrieveApiKey role =>
    obtain ⟨raw, hraw, hparse⟩ := hgiven
    obtain ⟨hfind, -⟩ := Query.given?_eq_some_iff.1 hraw
    simp [Order.action, Order.account?, hfind, hparse, Except.toOption]
  | getSecret resource _ | createSecret resource _ | loadPolicy resource _ _ =>
    obtain ⟨rfl, -⟩ := hgiven
    obtain ⟨raw, hfind, hparse⟩ := resourceOf_eq_ok_some_iff.1 hnamed
    simp [Order.action, Order.account?, hfind, hparse, Except.toOption]

theorem account?_of_mem_calls (ho : o.WellFormed) (haccount : o.account? = some account) {c : Call}
    (hc : c ∈ o.calls) : c.account? = some account := by
  cases o with
  | listAccounts | purge => cases haccount
  | loadPolicy resource document roles =>
    rcases mem_calls_loadPolicy.1 hc with rfl | ⟨role, hrole, rfl⟩
    · exact haccount
    · obtain ⟨hsame, -⟩ := ho.2 role hrole
      exact (congrArg some hsame).trans haccount
  | _ =>
    obtain rfl := List.mem_singleton.1 hc
    exact haccount

/-- **A query for an account changes nothing beyond it.** -/
theorem sameBeyond_serve (keys : KeySource) (m : Memory) (ho : order allowPurge q = .ok o)
    (haccount : o.account? = some account) :
    Memory.SameBeyond account m (serve (Memory.backend keys) allowPurge q m).2 := by
  have hcalls : (dispatch allowPurge q).Asks fun c => c.account? = some account := by
    refine dispatch_asks fun o' ho' c hc => ?_
    obtain rfl := Except.ok.inj (ho.symm.trans ho')
    exact account?_of_mem_calls (wellFormed_of_order ho) haccount hc
  refine Plan.run_keeps (fun c s hc hs => ?_) hcalls (Memory.SameBeyond.refl account m)
  exact hs.trans ((Memory.change_of_perform keys c s).sameBeyond hc)

end Order

/-! ### Two stores -/

/-- Two outcomes of one query are the same, or both show the new account with the next key of its store. -/
def SameAnswer (keys keys' : KeySource) (m m' : Memory) (account : String) (outcome outcome' : Outcome) : Prop :=
  outcome = outcome' ∨
    outcome = .ok (.json 201 (createdJson ⟨account, keys m.drawn⟩)) ∧
      outcome' = .ok (.json 201 (createdJson ⟨account, keys' m'.drawn⟩))

section Effect
variable {keys keys' : KeySource} {m m' : Memory} {o : Order} {account : String}

/-- **What an order answers and leaves in its account** is the same over all stores that hold the same there. -/
theorem Order.within_effect (ho : o.WellFormed) (haccount : o.account? = some account)
    (h : Memory.SameWithin account m m') :
    SameAnswer keys keys' m m' account (o.effect keys m).1 (o.effect keys' m').1 ∧
      Memory.AgreeSince keys keys' m.drawn m'.drawn account (o.effect keys m).2 (o.effect keys' m').2 := by
  have hsince := h.agreeSince keys keys'
  cases o with
  | listAccounts | purge => cases haccount
  | createAccount id =>
    obtain rfl := Option.some.inj haccount
    simp only [Order.effect, ← h.hasAccount]
    cases m.hasAccount id with
    | true => exact ⟨.inl rfl, hsince⟩
    | false => exact ⟨.inr ⟨rfl, rfl⟩, hsince.addAccount⟩
  | destroyAccount id =>
    obtain rfl := Option.some.inj haccount
    simp only [Order.effect, ← h.hasAccount]
    cases m.hasAccount id with
    | true => exact ⟨.inl rfl, hsince.removeAccount⟩
    | false => exact ⟨.inl rfl, hsince⟩
  | retrieveApiKey role =>
    simp only [Order.effect, ← h.key role (Option.some.inj haccount)]
    cases m.key? role with
    | some key => exact ⟨.inl rfl, hsince⟩
    | none => exact ⟨.inl rfl, hsince⟩
  | getSecret resource version =>
    simp only [Order.effect, ← h.showSecret (Option.some.inj haccount) _ version]
    cases m.showSecret (adminFor resource) resource version with
    | ok value => exact ⟨.inl rfl, hsince⟩
    | error e => exact ⟨.inl rfl, hsince⟩
  | createSecret resource value =>
    obtain rfl := Option.some.inj haccount
    simp only [Order.effect, ← h.hasAccount]
    cases m.hasAccount resource.account with
    | true => exact ⟨.inl rfl, hsince.addVersion rfl value⟩
    | false => exact ⟨.inl rfl, hsince⟩
  | loadPolicy resource document roles =>
    obtain rfl := Option.some.inj haccount
    simp only [Order.effect, ← h.hasAccount]
    cases m.hasAccount resource.account with
    | true =>
      have hroles : ∀ role ∈ roles, role.account = resource.account := fun role hrole => (ho.2 role hrole).1
      exact ⟨.inl rfl, (hsince.addVersion rfl document).giveKeys hroles⟩
    | false => exact ⟨.inl rfl, hsince⟩

end Effect

/-! ### Isolation -/

/-- A query for an account reaches no other. -/
structure Isolated (keys : KeySource) (allowPurge : Bool) (q : Query) (account : String) (m : Memory) : Prop where
  /-- The other accounts stay, in their order, with their roles and secrets. -/
  beyond : Memory.SameBeyond account m (serve (Memory.backend keys) allowPurge q m).2
  others : ∀ other, other ≠ account →
    (serve (Memory.backend keys) allowPurge q m).2.hasAccount other = m.hasAccount other
  /-- Over every store that holds the same within the account, the answer is the same, and the same is left there. -/
  within : ∀ keys' m', Memory.SameWithin account m m' →
    let served := serve (Memory.backend keys) allowPurge q m
    let served' := serve (Memory.backend keys') allowPurge q m'
    SameAnswer keys keys' m m' account served.1 served'.1 ∧
      Memory.AgreeSince keys keys' m.drawn m'.drawn account served.2 served'.2

section Isolated
variable {keys : KeySource} {allowPurge : Bool} {q : Query} {m : Memory}

theorem account?_ne_none {o : Order} (hlist : o.action ≠ .listAccounts) (hpurge : o.action ≠ .purge) :
    ∃ account, o.account? = some account := by
  cases o with
  | listAccounts => exact absurd rfl hlist
  | purge => exact absurd rfl hpurge
  | _ => exact ⟨_, rfl⟩

/-- **Accounts are kept apart:** a query that is not refused, and asks neither for the list of accounts nor for a
purge, names one account, and reaches no other. -/
theorem isolated (hq : ∀ message, (serve (Memory.backend keys) allowPurge q m).1 ≠ .error ⟨.badRequest, message⟩)
    (hlist : q.find? "action" ≠ some "list_accounts") (hpurge : q.find? "action" ≠ some "purge") :
    ∃ account, q.account? = some account ∧ Isolated keys allowPurge q account m := by
  cases ho : order allowPurge q with
  | error e => exact absurd ((serve_eq_badRequest_iff _ m).2 ⟨e, ho, rfl⟩) (hq e.message)
  | ok o =>
    obtain ⟨haction, -⟩ := order_eq_ok_iff.1 ho
    rw [haction] at hlist hpurge
    have hne : ∀ {a}, some o.action.text ≠ some (Action.text a) → o.action ≠ a := by
      rintro a h rfl
      exact h rfl
    obtain ⟨account, haccount⟩ := account?_ne_none (hne (a := .listAccounts) hlist) (hne (a := .purge) hpurge)
    have hbeyond := sameBeyond_serve keys m ho haccount
    refine ⟨account, (account?_of_order ho).trans haccount, hbeyond, fun other hother => hbeyond.hasAccount hother,
      fun keys' m' h => ?_⟩
    simp only [serve_memory, ho]
    exact Order.within_effect (wellFormed_of_order ho) haccount h

/-- An account whose name begins with that of the removed one, and a role that is called like it, stay. -/
theorem isolated_beside :
    let backend := Memory.backend fun _ => "key"
    let create (id : String) : Query := ⟨[("action", "create_account"), ("id", id)]⟩
    let load : Query := ⟨[("action", "load_policy"), ("resource_id", "a/b:policy:a"), ("value", "- !host a")]⟩
    let destroy : Query := ⟨[("action", "destroy_account"), ("id", "a")]⟩
    let m := after backend false .empty [create "a", create "a/b", load]
    (serve backend false destroy m).2.key? ⟨"a/b", "host", "a/a"⟩ = some "key" := by
  intro backend create load destroy m
  have hgone : (serve backend false destroy m).1.isOk = true := by decide +kernel
  have hq : ∀ message, (serve backend false destroy m).1 ≠ .error ⟨.badRequest, message⟩ := by
    intro message herror
    rw [herror] at hgone
    cases hgone
  obtain ⟨account, haccount, hisolated⟩ := isolated hq (by decide) (by decide)
  obtain rfl : account = "a" := Option.some.inj (haccount.symm.trans (by decide))
  have hloaded : m.key? ⟨"a/b", "host", "a/a"⟩ = some "key" := by decide +kernel
  exact (hisolated.beyond.key ⟨"a/b", "host", "a/a"⟩ (by decide)).trans hloaded

end Isolated
end Gateway
end Postern
