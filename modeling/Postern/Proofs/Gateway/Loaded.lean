import Postern.Proofs.Gateway.Session
import Postern.Proofs.Store.Ahead
import Postern.Proofs.Store.Keyless

/-!
What a policy leaves behind.  A document that is loaded adds a version to its resource, and keys for the roles that it
declares and that had none; loaded once more it adds another version and no key (`loaded`).  It is loaded exactly if it
can be read and its account is there.
-/

namespace Postern.Gateway

/-- A query that loads a document into a policy. -/
structure Loads (q : Query) (resource : ResourceId) (document : String) : Prop where
  action : q.find? "action" = some "load_policy"
  resource : ∃ raw, q.find? "resource_id" = some raw ∧ ResourceId.parse raw = .ok resource
  document : (q.given? "value").or (q.given? "policy") = some document

section Loads
variable {q : Query} {resource : ResourceId} {document : String} {roles : List RoleId}

theorem Loads.order (hq : Loads q resource document) (allowPurge : Bool)
    (hroles : Policy.declaredRoles resource document = .ok roles) :
    order allowPurge q = .ok (.loadPolicy resource document roles) :=
  order_eq_ok_iff.2 ⟨hq.action, by simp [Order.action], _, resourceOf_eq_ok_some_iff.2 hq.resource, rfl, hq.document,
    hroles⟩

theorem Loads.roles_of_order {allowPurge : Bool} {o : Order} (hq : Loads q resource document)
    (ho : Gateway.order allowPurge q = .ok o) : ∃ roles, Policy.declaredRoles resource document = .ok roles := by
  obtain ⟨haction, -, named, hnamed, hgiven⟩ := order_eq_ok_iff.1 ho
  have hload : o.action = .loadPolicy := text_injective (Option.some.inj (haction.symm.trans hq.action))
  cases o with
  | loadPolicy resource' document' roles =>
    obtain ⟨rfl, hdocument, hroles⟩ := hgiven
    have hresource := hnamed.symm.trans (resourceOf_eq_ok_some_iff.2 hq.resource)
    obtain rfl : document' = document := Option.some.inj (hdocument.symm.trans hq.document)
    cases hresource
    exact ⟨roles, hroles⟩
  | _ => cases hload

end Loads

/-- What is in the store after a document has been loaded that declares some roles. -/
structure Loaded (keys : KeySource) (allowPurge : Bool) (q : Query) (resource : ResourceId) (document : String)
    (roles : List RoleId) (m m' : Memory) : Prop where
  versions : m'.versions resource = some ((m.versions resource).getD [] ++ [document])
  /-- Who reads the policy gets the document. -/
  read : ∀ read raw, Reads read raw → ResourceId.parse raw = .ok resource → read.given? "version" = none →
    (serve (Memory.backend keys) allowPurge read m').1 = .ok (.text 200 document)
  /-- The roles that it declares have keys. -/
  retrieved : ∀ role ∈ roles, ∀ retrieve, Retrieves retrieve role.text →
    ∃ key, (serve (Memory.backend keys) allowPurge retrieve m').1 = .ok (.text 200 key)
  kept : ∀ role key, m.key? role = some key → m'.key? role = some key
  /-- The new roles are those that it declares and that were missing, each with one of the keys that have been drawn. -/
  new : ∀ role, m.key? role = none → ((m'.key? role).isSome ↔ role ∈ roles)
  fresh : ∀ role ∈ roles, m.key? role = none →
    ∃ i, (m.keyless roles)[i]? = some role ∧ m'.key? role = some (keys (m.drawn + i))
  drawn : m'.drawn = m.drawn + (m.keyless roles).length
  /-- Nothing else has changed. -/
  accounts : m'.accounts = m.accounts
  others : ∀ other, other ≠ resource → m'.versions other = m.versions other
  undeclared : ∀ role, role ∉ roles → m'.key? role = m.key? role
  /-- Loaded once more, it adds one more version and nothing else. -/
  again : serve (Memory.backend keys) allowPurge q m' = (.ok (.empty 201), m'.addVersion resource document)

section Loaded
variable {keys : KeySource} {m : Memory} {q : Query} {resource : ResourceId} {document : String} {roles : List RoleId}

theorem serve_loads (hq : Loads q resource document) (allowPurge : Bool)
    (hroles : Policy.declaredRoles resource document = .ok roles) :
    serve (Memory.backend keys) allowPurge q m =
      if m.hasAccount resource.account then (.ok (.empty 201), (m.addVersion resource document).giveKeys keys roles)
      else (.error (.ofStore (.notFound ("account '" ++ resource.account ++ "'"))), m) := by
  rw [serve_memory, hq.order allowPurge hroles]
  rfl

theorem loaded_giveKeys (hq : Loads q resource document) (allowPurge : Bool)
    (hroles : Policy.declaredRoles resource document = .ok roles) (haccount : m.hasAccount resource.account = true) :
    Loaded keys allowPurge q resource document roles m ((m.addVersion resource document).giveKeys keys roles) := by
  set m' := (m.addVersion resource document).giveKeys keys roles with hm'
  have hversions : m'.versions resource = some ((m.versions resource).getD [] ++ [document]) := by simp [hm']
  have hkeys : ∀ role ∈ roles, (m'.key? role).isSome :=
    fun role hrole => Memory.isSome_key?_giveKeys keys roles _ (.inl hrole)
  refine
    { versions := hversions
      read := fun read raw hread hraw hnone => ?_
      retrieved := fun role hrole retrieve hretrieve => ?_
      kept := fun role key hkey => Memory.key?_giveKeys_of_some hkey
      new := fun role hnone => ⟨fun hsome => ?_, hkeys role⟩
      fresh := fun role hrole hnone => ?_
      drawn := Memory.drawn_giveKeys keys (m.addVersion resource document) roles
      accounts := by simp [hm']
      others := fun other hne => by simp [hm', Ne.symm hne]
      undeclared := fun role hrole => Memory.key?_giveKeys_of_notMem hrole
      again := ?_ }
  · obtain ⟨hlast, -⟩ := serve_getSecret keys allowPurge m' hread hraw
    rw [hversions, Option.getD_some, List.getLast?_concat] at hlast
    exact hlast hnone
  · obtain ⟨-, hroles⟩ := wellFormed_of_order (hq.order allowPurge hroles)
    obtain ⟨-, hrole'⟩ := hroles role hrole
    obtain ⟨key, hkey⟩ := Option.isSome_iff_exists.1 (hkeys role hrole)
    refine ⟨key, ?_⟩
    rw [serve_retrieveApiKey keys allowPurge m' hretrieve hrole'.parse_text, hkey]
  · by_contra hnot
    rw [Memory.key?_giveKeys_of_notMem hnot, Memory.key?_addVersion, hnone] at hsome
    cases hsome
  · obtain ⟨i, hi⟩ := List.getElem?_of_mem (Memory.mem_keyless.2 ⟨hrole, hnone⟩)
    exact ⟨i, hi, Memory.key?_of_keyless (m := m.addVersion resource document) hi⟩
  · have hthere : m'.hasAccount resource.account = true := by simpa [hm'] using haccount
    have hagain : ∀ role ∈ roles, ((m'.addVersion resource document).key? role).isSome := hkeys
    rw [serve_loads hq allowPurge hroles, if_pos hthere, Memory.giveKeys_of_isSome hagain]

/-- **What it is to load a policy.**  It is answered with status 201 exactly if its document can be read and its account
is there, and then it leaves behind what `Loaded` says. -/
theorem loaded (keys : KeySource) (allowPurge : Bool) (m : Memory) (hq : Loads q resource document) :
    let served := serve (Memory.backend keys) allowPurge q m
    (statusOf served.1 = 201 ↔
      (∃ roles, Policy.declaredRoles resource document = .ok roles) ∧ m.hasAccount resource.account = true) ∧
    (statusOf served.1 = 201 → ∃ roles, Policy.declaredRoles resource document = .ok roles ∧
      Loaded keys allowPurge q resource document roles m served.2) := by
  intro served
  have hserved : served = serve (Memory.backend keys) allowPurge q m := rfl
  cases hroles : Policy.declaredRoles resource document with
  | error e =>
    have hrefused : statusOf served.1 ≠ 201 := by
      cases ho : order allowPurge q with
      | error e' =>
        rw [hserved, serve_memory, ho]
        exact (by decide : 400 ≠ 201)
      | ok o =>
        obtain ⟨roles, hroles'⟩ := hq.roles_of_order ho
        cases hroles.symm.trans hroles'
    refine ⟨iff_of_false hrefused ?_, fun h => absurd h hrefused⟩
    rintro ⟨⟨roles, ⟨⟩⟩, -⟩
  | ok roles =>
    rw [serve_loads hq allowPurge hroles] at hserved
    cases haccount : m.hasAccount resource.account with
    | false =>
      rw [haccount, if_neg Bool.false_ne_true] at hserved
      have hmissing : statusOf served.1 ≠ 201 := by
        rw [hserved]
        exact (by decide : 404 ≠ 201)
      refine ⟨iff_of_false hmissing ?_, fun h => absurd h hmissing⟩
      rintro ⟨-, ⟨⟩⟩
    | true =>
      rw [haccount, if_pos rfl] at hserved
      have hcreated : statusOf served.1 = 201 := by
        rw [hserved]
        rfl
      refine ⟨iff_of_true hcreated ⟨⟨roles, rfl⟩, rfl⟩, fun _ => ⟨roles, rfl, ?_⟩⟩
      rw [hserved]
      exact loaded_giveKeys hq allowPurge hroles haccount

/-- Of two roles that are declared, one of them twice, the administrator has a key and keeps it. -/
theorem loaded_repeated :
    let keys : KeySource := fun n => if n = 0 then "first" else "second"
    let q : Query := ⟨[("action", "load_policy"), ("resource_id", "a:policy:root"),
      ("value", "- !user bob\n- !user admin\n- !user bob")]⟩
    let m := Memory.empty.addAccount keys "a"
    let served := serve (Memory.backend keys) false q m
    served.2.drawn = 2 ∧ served.2.key? ⟨"a", "user", "admin"⟩ = some "first" ∧
      served.2.key? ⟨"a", "user", "bob"⟩ = some "second" := by
  intro keys q m served
  have hq : Loads q ⟨"a", "policy", "root"⟩ "- !user bob\n- !user admin\n- !user bob" :=
    ⟨by decide, ⟨"a:policy:root", by decide, by decide⟩, by decide +kernel⟩
  have hroles : Policy.declaredRoles ⟨"a", "policy", "root"⟩ "- !user bob\n- !user admin\n- !user bob" =
      .ok [⟨"a", "user", "bob"⟩, ⟨"a", "user", "admin"⟩, ⟨"a", "user", "bob"⟩] := by decide +kernel
  have hkeyless : m.keyless [⟨"a", "user", "bob"⟩, ⟨"a", "user", "admin"⟩, ⟨"a", "user", "bob"⟩] =
      [⟨"a", "user", "bob"⟩] := by decide +kernel
  have haccount : m.hasAccount "a" = true := by decide
  have hadmin : m.key? ⟨"a", "user", "admin"⟩ = some "first" := by decide +kernel
  have hmissing : m.key? ⟨"a", "user", "bob"⟩ = none := by decide +kernel
  obtain ⟨hstatus, hloaded⟩ := loaded keys false m hq
  obtain ⟨roles, hdeclared, h⟩ := hloaded (hstatus.2 ⟨⟨_, hroles⟩, haccount⟩)
  obtain rfl := Except.ok.inj (hroles.symm.trans hdeclared)
  have hdrawn := h.drawn
  obtain ⟨i, hi, hbob⟩ := h.fresh ⟨"a", "user", "bob"⟩ (List.mem_cons_self ..) hmissing
  rw [hkeyless] at hdrawn hi
  cases i with
  | zero =>
    refine ⟨?_, h.kept _ _ hadmin, hbob⟩
    rw [hdrawn]
    rfl
  | succ i => cases hi

end Loaded

end Postern.Gateway
