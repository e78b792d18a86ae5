import Mathlib.Data.List.Forall2
import Postern.Proofs.Policy.Declared

/-!
What a document declares, read off its records.  The records of a document are its statements of a kind that counts and,
after each policy, those in its body (`reached`); whether they have ids plays no part in that list.  If all of them do,
the users and hosts among them are the declared roles, one after another, and else the document is refused for the first
record that does not (`Outcome`).

`Below` is what the collection keeps on its way down: its path is written from the target and from the ids of the
policies around.  So the outcome is carried from the statements in a body and from those behind a record to the
statements that begin with it (`outcome_collectItems`).
-/

namespace Postern.Policy

/-! ### Bodies -/

/-- The statements of a value, which is a list of them or has none. -/
def itemsOf : Yaml → List Yaml
  | .seq items => items
  | _ => []

def bodyOf (record : Yaml) : List Yaml :=
  match record.untagged with
  | .map entries => ((Yaml.findIn "body" entries).map itemsOf).getD []
  | _ => []

section
variable (account path : String)

theorem collect_eq (v : Yaml) : collect account path v = collectItems account path (itemsOf v) := by
  cases v <;> simp only [collect, itemsOf, collectItems]

theorem collectEntry_eq (entries : List (Yaml × Yaml)) : collectEntry account path entries =
    collectItems account path (((Yaml.findIn "body" entries).map itemsOf).getD []) := by
  induction entries with
  | nil => simp [collectEntry, Yaml.findIn, collectItems]
  | cons entry entries ih =>
    obtain ⟨key, value⟩ := entry
    cases key with
    | str name => by_cases hname : name = "body" <;> simp [collectEntry, Yaml.findIn, hname, collect_eq, ih]
    | _ => simpa [collectEntry, Yaml.findIn] using ih

theorem collectBody_eq : ∀ record : Yaml, collectBody account path record = collectItems account path (bodyOf record)
  | .tagged _ record => by
    have ih := collectBody_eq record
    rw [collectBody, ih]
    rfl
  | .map entries => by
    rw [collectBody, collectEntry_eq]
    rfl
  | .null | .bool _ | .int _ | .real _ | .str _ | .seq _ => by
    simp [collectBody, bodyOf, Yaml.untagged, collectItems]

end

/-! ### One record -/

section Statement
variable {account path tag id : String} {kind : RecordKind} {record : Yaml} {rest : List Yaml}
  (hkind : RecordKind.ofTag? tag = some kind)
include hkind

theorem collectItems_of_refused {e : DeclarationError} (he : recordId kind record = .error e) :
    collectItems account path (.tagged tag record :: rest) = .error e := by
  simp only [collectItems, hkind, he]
  rfl

theorem collectItems_of_owner (howner : kind ≠ .policy) (hid : recordId kind record = .ok id) :
    collectItems account path (.tagged tag record :: rest) =
      (collectItems account path rest).map (roleOf account path kind id :: ·) := by
  simp only [collectItems, hkind, hid, howner, if_false]
  cases collectItems account path rest <;> rfl

omit hkind in
theorem collectItems_of_policy (hkind : RecordKind.ofTag? tag = some .policy)
    (hid : recordId .policy record = .ok id) :
    collectItems account path (.tagged tag record :: rest) = (do
      let inner ← collectItems account (extend path id) (bodyOf record)
      return inner ++ (← collectItems account path rest)) := by
  simp only [collectItems, hkind, hid, if_true, collectBody_eq]
  rfl

end Statement

/-! ### The records of a document -/

theorem sizeOf_untagged_le (v : Yaml) : sizeOf v.untagged ≤ sizeOf v := by
  fun_induction Yaml.untagged v with
  | case1 tag v ih =>
    rw [Yaml.tagged.sizeOf_spec]
    omega
  | case2 => exact Nat.le_refl _

theorem sizeOf_findIn_lt {name : String} {v : Yaml} {entries : List (Yaml × Yaml)}
    (h : Yaml.findIn name entries = some v) : sizeOf v < sizeOf entries := by
  fun_induction Yaml.findIn name entries with
  | case1 => cases h
  | case2 =>
    cases h
    simp only [List.cons.sizeOf_spec, Prod.mk.sizeOf_spec]
    omega
  | case3 _ _ _ _ ih =>
    have hrest := ih h
    rw [List.cons.sizeOf_spec]
    omega
  | case4 _ _ _ ih =>
    have hrest := ih h
    rw [List.cons.sizeOf_spec]
    omega

theorem sizeOf_pos (v : Yaml) : 1 ≤ sizeOf v := by
  cases v with
  | tagged tag v =>
    rw [Yaml.tagged.sizeOf_spec]
    omega
  | _ => simp

theorem sizeOf_itemsOf_le (v : Yaml) : sizeOf (itemsOf v) ≤ sizeOf v := by
  cases v with
  | seq items => simp [itemsOf]
  | _ => exact sizeOf_pos _

theorem sizeOf_bodyOf_le (record : Yaml) : sizeOf (bodyOf record) ≤ sizeOf record := by
  have huntagged := sizeOf_untagged_le record
  unfold bodyOf
  split
  · rename_i entries he
    rw [he, Yaml.map.sizeOf_spec] at huntagged
    cases hfind : Yaml.findIn "body" entries with
    | none => exact sizeOf_pos _
    | some v =>
      have hv := sizeOf_findIn_lt hfind
      have hitems := sizeOf_itemsOf_le v
      rw [Option.map_some, Option.getD_some]
      omega
  · exact sizeOf_pos _

/-- A record with the policies that it stands in, the outermost first. -/
structure Record where
  around : List Yaml
  kind : RecordKind
  value : Yaml

/-- The records among statements, each policy before those in its body. -/
def reached (around : List Yaml) : List Yaml → List Record
  | [] => []
  | .tagged tag value :: rest =>
    match RecordKind.ofTag? tag with
    | some .policy => ⟨around, .policy, value⟩ :: (reached (around ++ [value]) (bodyOf value) ++ reached around rest)
    | some kind => ⟨around, kind, value⟩ :: reached around rest
    | none => reached around rest
  | _ :: rest => reached around rest
termination_by statements => sizeOf statements
decreasing_by
  · have hbody := sizeOf_bodyOf_le value
    rw [List.cons.sizeOf_spec, Yaml.tagged.sizeOf_spec]
    omega
  all_goals
    rw [List.cons.sizeOf_spec]
    omega

/-- What a record is called: its value, or what it has as its `id`, in which tags do not count. -/
inductive IsCalled : Yaml → String → Prop
  | text (id : String) : IsCalled (.str id) id
  | entry {entries : List (Yaml × Yaml)} {v : Yaml} {id : String} (h : Yaml.findIn "id" entries = some v)
    (hid : v.untagged = .str id) : IsCalled (.map entries) id

/-- A record has an id that can stand in an address. -/
def Record.WellFormed (r : Record) : Prop := ∃ id, IsCalled r.value id ∧ IsPart id

/-- What the path of a target's statements begins with. -/
def startOf (target : ResourceId) : List String :=
  if target.identifier = "root" ∨ target.identifier = "" then [] else [target.identifier]

/-- How the id of a user or host is written below a path. -/
inductive Qualified : RecordKind → String → String → String → Prop
  | bare (kind : RecordKind) (id : String) : Qualified kind "" id id
  | user {path : String} (h : path ≠ "") (id : String) : Qualified .user path id (id ++ "@" ++ dashed path)
  | host {path : String} (h : path ≠ "") (id : String) : Qualified .host path id (path ++ "/" ++ id)

/-- The role of a record: it lies in the account of the target, is of the record's kind, and its id is that of the
record below the ids of the policies around. -/
structure Declares (target : ResourceId) (r : Record) (role : RoleId) : Prop where
  account : role.account = target.account
  kind : role.kind = r.kind.text
  id : ∃ ids id, List.Forall₂ IsCalled r.around ids ∧ IsCalled r.value id ∧
    Qualified r.kind ("/".intercalate (startOf target ++ ids)) id role.id

/-- What comes of the records of a document. -/
inductive Outcome (target : ResourceId) (rs : List Record) : Except DeclarationError (List RoleId) → Prop
  /-- They all have ids, and users and hosts declare one role each. -/
  | declared {roles : List RoleId} (h : ∀ r ∈ rs, r.WellFormed)
    (hroles : List.Forall₂ (Declares target) (rs.filter (·.kind ≠ .policy)) roles) : Outcome target rs (.ok roles)
  /-- The first of them that has no good id has none at all. -/
  | missing {before after : List Record} {r : Record} (h : rs = before ++ r :: after)
    (hbefore : ∀ q ∈ before, q.WellFormed) (hid : ∀ id, ¬ IsCalled r.value id) :
    Outcome target rs (.error (.missingId r.kind))
  /-- The first of them that has no good id has a bad one. -/
  | invalid {before after : List Record} {r : Record} {id : String} (h : rs = before ++ r :: after)
    (hbefore : ∀ q ∈ before, q.WellFormed) (hid : IsCalled r.value id) (hbad : ¬ IsPart id) :
    Outcome target rs (.error (.invalidId r.kind id))

section Ids
variable {v : Yaml} {id : String}

theorem isCalled_iff : IsCalled v id ↔ writtenId? v = some id := by
  constructor
  · rintro (_ | ⟨hfind, hid⟩)
    · rfl
    · simp [writtenId?, hfind, Yaml.text?, hid]
  · intro h
    unfold writtenId? at h
    split at h
    · cases h
      exact .text id
    · rename_i entries
      obtain ⟨w, hfind, hid⟩ := Option.bind_eq_some_iff.1 h
      unfold Yaml.text? at hid
      split at hid
      · rename_i hw
        cases hid
        exact .entry hfind hw
      · cases hid
    · cases h

theorem rightUnique_isCalled : Relator.RightUnique IsCalled := by
  intro v id id' h h'
  exact Option.some.inj ((isCalled_iff.1 h).symm.trans (isCalled_iff.1 h'))

theorem isCalled_of_recordId {kind : RecordKind} (h : recordId kind v = .ok id) : IsCalled v id ∧ IsPart id := by
  have hpart := recordId_eq_ok h
  unfold recordId at h
  split at h
  · rename_i id' hid
    split at h
    · cases h
      exact ⟨isCalled_iff.2 hid, hpart⟩
    · cases h
  · cases h

theorem recordId_of_isCalled (kind : RecordKind) (h : IsCalled v id) (hpart : IsPart id) :
    recordId kind v = .ok id := by
  rw [recordId, isCalled_iff.1 h]
  exact if_pos (isValidId_iff.2 hpart)

end Ids

section Outcomes
variable {target : ResourceId} {r : Record} {rs rs' : List Record} {x y : Except DeclarationError (List RoleId)}

theorem outcome_nil : Outcome target [] (.ok []) := .declared (fun _ h => nomatch h) .nil

/-- Nothing behind a record without a good id counts. -/
theorem outcome_refused {e : DeclarationError} (h : recordId r.kind r.value = .error e) :
    Outcome target (r :: rs) (.error e) := by
  have hfirst : r :: rs = [] ++ r :: rs := rfl
  have hbefore : ∀ q ∈ ([] : List Record), q.WellFormed := fun _ h => nomatch h
  unfold recordId at h
  split at h
  · rename_i id hid
    have hcalled := isCalled_iff.2 hid
    split at h
    · cases h
    · rename_i hbad
      cases h
      exact .invalid hfirst hbefore hcalled fun hpart => hbad (isValidId_iff.2 hpart)
  · rename_i hnone
    cases h
    refine .missing hfirst hbefore fun id hid => ?_
    rw [isCalled_iff.1 hid] at hnone
    cases hnone

/-- What comes before a list of records, comes before the first bad one of them too. -/
theorem Outcome.behind (hr : r.WellFormed) {e : DeclarationError} (h : Outcome target rs (.error e)) :
    Outcome target (r :: rs) (.error e) := by
  cases h with
  | missing hsplit hbefore hid =>
    exact .missing (by rw [hsplit, List.cons_append]) (List.forall_mem_cons.2 ⟨hr, hbefore⟩) hid
  | invalid hsplit hbefore hid hbad =>
    exact .invalid (by rw [hsplit, List.cons_append]) (List.forall_mem_cons.2 ⟨hr, hbefore⟩) hid hbad

theorem Outcome.policy (hr : r.WellFormed) (hkind : r.kind = .policy) (h : Outcome target rs x) :
    Outcome target (r :: rs) x := by
  cases x with
  | error e => exact h.behind hr
  | ok roles =>
    obtain ⟨hgood, hroles⟩ := h
    refine .declared (List.forall_mem_cons.2 ⟨hr, hgood⟩) ?_
    rwa [List.filter_cons_of_neg (by simp [hkind])]

theorem Outcome.owner {role : RoleId} (hr : r.WellFormed) (hkind : r.kind ≠ .policy) (hrole : Declares target r role)
    (h : Outcome target rs x) : Outcome target (r :: rs) (x.map (role :: ·)) := by
  cases x with
  | error e => exact h.behind hr
  | ok roles =>
    obtain ⟨hgood, hroles⟩ := h
    refine .declared (List.forall_mem_cons.2 ⟨hr, hgood⟩) ?_
    rw [List.filter_cons_of_pos (by simp [hkind])]
    exact .cons hrole hroles

/-- Records one after another, the first of which count first. -/
theorem Outcome.append (h : Outcome target rs x) (h' : Outcome target rs' y) :
    Outcome target (rs ++ rs') (do return (← x) ++ (← y)) := by
  cases h with
  | declared hgood hroles =>
    have hbehind : ∀ before : List Record, (∀ q ∈ before, q.WellFormed) → ∀ q ∈ rs ++ before, q.WellFormed :=
      fun before hbefore => List.forall_mem_append.2 ⟨hgood, hbefore⟩
    cases h' with
    | declared hgood' hroles' =>
      refine .declared (hbehind _ hgood') ?_
      rw [List.filter_append]
      exact List.rel_append hroles hroles'
    | missing hsplit hbefore hid =>
      exact .missing (by rw [hsplit, List.append_assoc]) (hbehind _ hbefore) hid
    | invalid hsplit hbefore hid hbad =>
      exact .invalid (by rw [hsplit, List.append_assoc]) (hbehind _ hbefore) hid hbad
  | missing hsplit hbefore hid =>
    exact .missing (by rw [hsplit, List.append_assoc, List.cons_append]) hbefore hid
  | invalid hsplit hbefore hid hbad =>
    exact .invalid (by rw [hsplit, List.append_assoc, List.cons_append]) hbefore hid hbad

end Outcomes

/-! ### Paths -/

/-- A path is written from a target and the ids of the policies around. -/
def Below (target : ResourceId) (around : List Yaml) (path : String) : Prop :=
  ∃ ids, List.Forall₂ IsCalled around ids ∧ path = "/".intercalate (startOf target ++ ids) ∧
    ∀ part ∈ startOf target ++ ids, part ≠ ""

section Parts
variable {parts : List String} (h : ∀ part ∈ parts, part ≠ "")
include h

theorem intercalate_eq_empty : "/".intercalate parts = "" ↔ parts = [] := by
  constructor
  · intro he
    cases parts with
    | nil => rfl
    | cons part parts =>
      exfalso
      obtain ⟨hpart, -⟩ := List.forall_mem_cons.1 h
      by_cases hparts : parts = []
      · rw [hparts, String.intercalate_singleton] at he
        exact hpart he
      · rw [String.intercalate_cons_of_ne_nil hparts, String.append_assoc, String.append_eq_empty_iff] at he
        exact hpart he.1
  · rintro rfl
    rfl

theorem extend_intercalate (id : String) :
    extend ("/".intercalate parts) id = "/".intercalate (parts ++ [id]) := by
  unfold extend
  split
  · rename_i he
    rw [(intercalate_eq_empty h).1 he]
    rfl
  · rename_i hne
    have hparts : parts ≠ [] := by
      rintro rfl
      exact hne rfl
    rw [String.intercalate_append_of_ne_nil hparts (List.cons_ne_nil id []), String.intercalate_singleton]

end Parts

section Below
variable {target : ResourceId} {around : List Yaml} {path id : String} {v : Yaml}

theorem below_pathOf (target : ResourceId) : Below target [] (pathOf target) := by
  refine ⟨[], .nil, ?_, ?_⟩
  · unfold pathOf startOf rootPolicy
    by_cases hroot : target.identifier = "root"
    · simp [hroot]
    · by_cases hempty : target.identifier = "" <;> simp [hroot, hempty]
  · unfold startOf
    split
    · simp
    · rename_i h
      simpa using fun hempty => h (.inr hempty)

theorem Below.extend (h : Below target around path) (hid : IsCalled v id) (hpart : IsPart id) :
    Below target (around ++ [v]) (Policy.extend path id) := by
  obtain ⟨ids, hids, rfl, hparts⟩ := h
  refine ⟨ids ++ [id], List.rel_append hids (.cons hid .nil), ?_, ?_⟩
  · rw [extend_intercalate hparts, List.append_assoc]
  · rw [← List.append_assoc]
    exact List.forall_mem_append.2 ⟨hparts, by simpa using hpart.1⟩

theorem Below.declares (h : Below target around path) {kind : RecordKind} (hkind : kind ≠ .policy)
    (hid : IsCalled v id) : Declares target ⟨around, kind, v⟩ (roleOf target.account path kind id) := by
  obtain ⟨ids, hids, rfl, -⟩ := h
  refine ⟨rfl, rfl, ids, id, hids, hid, ?_⟩
  show Qualified kind _ id (qualify kind _ id)
  unfold qualify
  split
  · rename_i he
    rw [he]
    exact .bare kind id
  · rename_i hne
    cases kind with
    | user => exact .user hne id
    | host => exact .host hne id
    | policy => exact absurd rfl hkind

end Below

/-! ### The outcome -/

/-- **Statements declare what their records say.** -/
theorem outcome_collectItems {target : ResourceId} {around : List Yaml} {statements : List Yaml} {path : String}
    (h : Below target around path) :
    Outcome target (reached around statements) (collectItems target.account path statements) := by
  fun_induction reached around statements generalizing path with
  | case1 around => exact outcome_nil
  | case2 around tag v rest hkind ihbody ihrest =>
    cases hid : recordId .policy v with
    | error e =>
      rw [collectItems_of_refused hkind hid]
      exact outcome_refused hid
    | ok id =>
      obtain ⟨hcalled, hpart⟩ := isCalled_of_recordId hid
      have hinner := ihbody (h.extend hcalled hpart)
      rw [collectItems_of_policy hkind hid]
      exact .policy ⟨id, hcalled, hpart⟩ rfl (hinner.append (ihrest h))
  | case3 around tag v rest kind howner hkind ihrest =>
    cases hid : recordId kind v with
    | error e =>
      rw [collectItems_of_refused hkind hid]
      exact outcome_refused hid
    | ok id =>
      obtain ⟨hcalled, hpart⟩ := isCalled_of_recordId hid
      rw [collectItems_of_owner hkind howner hid]
      exact .owner ⟨id, hcalled, hpart⟩ howner (h.declares howner hcalled) (ihrest h)
  | case4 around tag v rest hnone ihrest =>
    rw [collectItems_of_other_tag hnone]
    exact ihrest h
  | case5 around s rest hs ihrest =>
    rw [collectItems_of_not_tagged hs]
    exact ihrest h

theorem Outcome.isOk_iff {target : ResourceId} {rs : List Record} {x : Except DeclarationError (List RoleId)}
    (h : Outcome target rs x) : (∃ roles, x = .ok roles) ↔ ∀ r ∈ rs, r.WellFormed := by
  cases h with
  | declared hgood hroles => exact iff_of_true ⟨_, rfl⟩ hgood
  | @missing before after r hsplit hbefore hid =>
    refine iff_of_false (fun ⟨roles, hroles⟩ => nomatch hroles) fun hgood => ?_
    obtain ⟨id, hcalled, -⟩ := hgood r (by simp [hsplit])
    exact hid id hcalled
  | @invalid before after r id hsplit hbefore hid hbad =>
    refine iff_of_false (fun ⟨roles, hroles⟩ => nomatch hroles) fun hgood => ?_
    obtain ⟨id', hcalled, hpart⟩ := hgood r (by simp [hsplit])
    exact hbad (rightUnique_isCalled hcalled hid ▸ hpart)

/-- **What a document declares.**  It declares roles exactly if each of its records has an id that can stand in an
address, one role for each user and host; and else it is refused for the first record that has none. -/
theorem flattened {document : String} {v : Yaml} (h : Yaml.read document = .ok v) (target : ResourceId) :
    ((∃ roles, declaredRoles target document = .ok roles) ↔ ∀ r ∈ reached [] (itemsOf v), r.WellFormed) ∧
      Outcome target (reached [] (itemsOf v)) (declaredRoles target document) := by
  have hcollect : declaredRoles target document =
      collectItems target.account (pathOf target) (itemsOf v) := by
    rw [← collect_eq]
    simp only [declaredRoles, statements, h]
    rfl
  have houtcome : Outcome target (reached [] (itemsOf v)) (declaredRoles target document) := by
    rw [hcollect]
    exact outcome_collectItems (below_pathOf target)
  exact ⟨houtcome.isOk_iff, houtcome⟩

/-- A policy in a policy that is not the root, with a host whose id has a tag, and a user behind it. -/
theorem flattened_nested :
    let document := "- !policy\n  id: app\n  body:\n  - !host {id: !x web}\n  - !grant {role: !user bob}\n- !user carol"
    let target : ResourceId := ⟨"a", "policy", "db/main"⟩
    ∃ v, Yaml.read document = .ok v ∧ (∀ r ∈ reached [] (itemsOf v), r.WellFormed) ∧
      declaredRoles target document = .ok [⟨"a", "host", "db/main/app/web"⟩, ⟨"a", "user", "carol@db-main"⟩] := by
  intro document target
  have hroles : declaredRoles target document =
      .ok [⟨"a", "host", "db/main/app/web"⟩, ⟨"a", "user", "carol@db-main"⟩] := by decide +kernel
  cases hread : Yaml.read document with
  | error fault =>
    exfalso
    rw [declaredRoles, statements, hread] at hroles
    cases hroles
  | ok v => exact ⟨v, rfl, (flattened hread target).1.1 ⟨_, hroles⟩, hroles⟩

end Postern.Policy
