import Postern.Proofs.Policy.Composed
import Postern.Proofs.Store.Keys

/-!
Ids that do not collide.  The qualified id of a user is cut at its first at sign and that of a host at its last slash,
so that what has been written of the path and the id come apart again.  For a host that is the path itself
(`qualify_host_inj`), for a user it is the path with dashes for its slashes (`qualify_user_inj`), and that tells paths
apart that have no dashes of their own (`dashed_inj`).  So below plain paths, plain ids are qualified apart, and records
get roles and keys apart (`qualified_apart`).
-/

namespace Postern.Policy

/-! ### Plain names -/

/-- A path is plain if it is made of parts that are not empty and hold no mark which separates parts. -/
def IsPlainPath (path : String) : Prop :=
  ∃ parts : List String, (∀ part ∈ parts, part ≠ "" ∧ '/' ∉ part.toList ∧ '-' ∉ part.toList) ∧
    path = "/".intercalate parts

/-- An id is plain if it is not empty and holds no mark which separates it from a path. -/
def IsPlainId (id : String) : Prop := id ≠ "" ∧ '/' ∉ id.toList ∧ '@' ∉ id.toList

instance (id : String) : Decidable (IsPlainId id) := inferInstanceAs (Decidable (_ ∧ _))

theorem IsPlainPath.no_dash {path : String} (h : IsPlainPath path) : '-' ∉ path.toList := by
  obtain ⟨parts, hparts, rfl⟩ := h
  induction parts with
  | nil => simp
  | cons part parts ih =>
    obtain ⟨⟨-, -, hpart⟩, hrest⟩ := List.forall_mem_cons.1 hparts
    by_cases hnil : parts = []
    · rw [hnil, String.intercalate_singleton]
      exact hpart
    · rw [String.intercalate_cons_of_ne_nil hnil, String.toList_append, String.toList_append]
      simp only [List.mem_append, not_or]
      exact ⟨⟨hpart, by decide⟩, ih hrest⟩

section Qualify
variable {path : String} (id : String)

theorem qualify_empty (kind : RecordKind) : qualify kind "" id = id := if_pos rfl

theorem qualify_user (h : path ≠ "") : qualify .user path id = id ++ "@" ++ dashed path := if_neg h

theorem qualify_host (h : path ≠ "") : qualify .host path id = path ++ "/" ++ id := if_neg h

end Qualify

/-! ### Ids of users -/

theorem dashed_eq_empty {path : String} : dashed path = "" ↔ path = "" := by
  simp [dashed, ← String.toList_eq_nil_iff]

/-- Dashes that have been slashes become slashes again. -/
theorem dashed_inj {path path' : String} (h : '-' ∉ path.toList) (h' : '-' ∉ path'.toList) :
    dashed path = dashed path' ↔ path = path' := by
  have hslashed : ∀ {path : String}, '-' ∉ path.toList →
      (dashed path).map (fun c => if c = '-' then '/' else c) = path := by
    intro path hpath
    refine String.toList_injective ?_
    rw [dashed, String.toList_map, String.toList_map, List.map_map]
    refine (List.map_congr_left fun c hc => ?_).trans (List.map_id _)
    have hne : c ≠ '-' := fun he => hpath (he ▸ hc)
    by_cases hslash : c = '/' <;> simp [hslash, hne]
  refine ⟨fun he => ?_, congrArg dashed⟩
  rw [← hslashed h, he, hslashed h']

section User
variable {path path' id id' : String}

/-- What stands before the first at sign is the id, and what stands behind it is written of the path. -/
theorem fields_qualify_user (path : String) (hid : '@' ∉ id.toList) : ∃ rest,
    Text.fields '@' (qualify .user path id).toList = id.toList :: rest ∧
      Text.joined '@' rest = (dashed path).toList := by
  by_cases hpath : path = ""
  · refine ⟨[], ?_, ?_⟩
    · rw [hpath, qualify_empty, Text.fields_of_not_mem hid]
    · rw [dashed_eq_empty.2 hpath]
      rfl
  · have hchars : (qualify .user path id).toList = id.toList ++ '@' :: (dashed path).toList := by
      simp [qualify_user id hpath]
    refine ⟨Text.fields '@' (dashed path).toList, ?_, Text.joined_fields _⟩
    rw [hchars, Text.fields_append_sep hid]

theorem qualify_user_inj (hid : '@' ∉ id.toList) (hid' : '@' ∉ id'.toList) :
    qualify .user path id = qualify .user path' id' ↔ dashed path = dashed path' ∧ id = id' := by
  constructor
  · intro h
    obtain ⟨rest, hfields, hrest⟩ := fields_qualify_user path hid
    obtain ⟨rest', hfields', hrest'⟩ := fields_qualify_user path' hid'
    rw [h, hfields'] at hfields
    obtain ⟨hhead, rfl⟩ := List.cons.inj hfields
    exact ⟨String.toList_injective (hrest.symm.trans hrest'), String.toList_injective hhead.symm⟩
  · rintro ⟨hpath, rfl⟩
    have hempty : path = "" ↔ path' = "" := by rw [← dashed_eq_empty, hpath, dashed_eq_empty]
    by_cases hpath' : path' = ""
    · rw [hempty.2 hpath', hpath']
    · rw [qualify_user id hpath', qualify_user id (mt hempty.1 hpath'), hpath]

end User

/-! ### Ids of hosts -/

section Host
variable {path path' id id' : String}

/-- What stands before the last slash is the path, and what stands behind it is the id. -/
theorem splitLast?_qualify_host (path : String) (hid : '/' ∉ id.toList) :
    Text.splitLast? '/' (qualify .host path id).toList = if path = "" then none else some (path.toList, id.toList) := by
  by_cases hpath : path = ""
  · rw [if_pos hpath, hpath, qualify_empty, Text.splitLast?_eq_none hid]
  · have hchars : (qualify .host path id).toList = path.toList ++ '/' :: id.toList := by
      simp [qualify_host id hpath]
    rw [hchars, Text.splitLast?_append_sep hid, if_neg hpath]

theorem qualify_host_inj (hid : '/' ∉ id.toList) (hid' : '/' ∉ id'.toList) :
    qualify .host path id = qualify .host path' id' ↔ path = path' ∧ id = id' := by
  constructor
  · intro h
    have hsplit := splitLast?_qualify_host path hid
    rw [h, splitLast?_qualify_host path' hid'] at hsplit
    split at hsplit <;> split at hsplit
    · rename_i hpath' hpath
      rw [hpath, hpath', qualify_empty, qualify_empty] at h
      exact ⟨hpath.trans hpath'.symm, h⟩
    · cases hsplit
    · cases hsplit
    · obtain ⟨hpath, hid⟩ := Prod.mk.inj (Option.some.inj hsplit)
      exact ⟨String.toList_injective hpath.symm, String.toList_injective hid.symm⟩
  · rintro ⟨rfl, rfl⟩
    rfl

end Host

/-- **Plain names are qualified apart.** -/
theorem qualify_inj {kind : RecordKind} (hkind : kind ≠ .policy) {path path' id id' : String} (hpath : IsPlainPath path)
    (hpath' : IsPlainPath path') (hid : IsPlainId id) (hid' : IsPlainId id') :
    qualify kind path id = qualify kind path' id' ↔ path = path' ∧ id = id' := by
  cases kind with
  | user => rw [qualify_user_inj hid.2.2 hid'.2.2, dashed_inj hpath.no_dash hpath'.no_dash]
  | host => exact qualify_host_inj hid.2.1 hid'.2.1
  | policy => exact absurd rfl hkind

-- a dash in the path of a user, and a slash in the id of a host
example : qualify .user "db/app" "alice" = qualify .user "db-app" "alice" := by decide +kernel
example : qualify .host "" "db/web" = qualify .host "db" "web" := by decide +kernel

/-! ### Records -/

/-- Of the records among statements that are loaded into a target, one that declares a role. -/
def IsDeclared (target : ResourceId) (statements : List Yaml) (r : Record) (role : RoleId) : Prop :=
  ∃ roles, rolesOf target statements = .ok roles ∧
    (r, role) ∈ ((reached [] statements).filter (·.kind ≠ .policy)).zip roles

/-- A role that a record declares, where the path of the policies around it is plain and so is its id. -/
structure IsPlainlyDeclared (target : ResourceId) (statements : List Yaml) (r : Record) (path id : String)
    (role : RoleId) : Prop where
  declared : IsDeclared target statements r role
  around : ∃ ids, List.Forall₂ IsCalled r.around ids ∧ path = "/".intercalate (startOf target ++ ids)
  called : IsCalled r.value id
  plainPath : IsPlainPath path
  plainId : IsPlainId id

theorem Qualified.eq_qualify {kind : RecordKind} {path id text : String} (h : Qualified kind path id text) :
    text = qualify kind path id := by
  cases h with
  | bare => rw [qualify_empty]
  | user hpath => rw [qualify_user _ hpath]
  | host hpath => rw [qualify_host _ hpath]

theorem text_kind_inj {kind kind' : RecordKind} : kind.text = kind'.text ↔ kind = kind' := by
  cases kind <;> cases kind' <;> decide

section Records
variable {target target' : ResourceId} {statements statements' : List Yaml} {r r' : Record}
  {path path' id id' : String} {role role' : RoleId}

theorem IsDeclared.declares (h : IsDeclared target statements r role) : r.kind ≠ .policy ∧ Declares target r role := by
  obtain ⟨roles, hroles, hmem⟩ := h
  have houtcome : Outcome target (reached [] statements) (rolesOf target statements) :=
    outcome_collectItems (below_pathOf target)
  rw [hroles] at houtcome
  obtain ⟨-, hdeclares⟩ := houtcome
  have howner := (List.mem_filter.1 (List.of_mem_zip hmem).1).2
  exact ⟨of_decide_eq_true howner, (List.forall₂_iff_zip.1 hdeclares).2 hmem⟩

theorem IsPlainlyDeclared.eq_roleOf (h : IsPlainlyDeclared target statements r path id role) :
    role = roleOf target.account path r.kind id := by
  obtain ⟨ids, hids, rfl⟩ := h.around
  obtain ⟨haccount, hkind, ids', id', hids', hid', hqualified⟩ := h.declared.declares.2
  obtain rfl := rightUnique_isCalled.forall₂ hids hids'
  obtain rfl := rightUnique_isCalled h.called hid'
  obtain ⟨account, kind, name⟩ := role
  rw [roleOf, RoleId.mk.injEq]
  exact ⟨haccount, hkind, hqualified.eq_qualify⟩

/-- **Records share a role only if they agree in all of that.** -/
theorem IsPlainlyDeclared.role_inj (h : IsPlainlyDeclared target statements r path id role)
    (h' : IsPlainlyDeclared target' statements' r' path' id' role') : role = role' ↔
      target.account = target'.account ∧ r.kind = r'.kind ∧ path = path' ∧ id = id' := by
  rw [h.eq_roleOf, h'.eq_roleOf, roleOf, roleOf, RoleId.mk.injEq, text_kind_inj]
  refine and_congr_right fun _ => and_congr_right fun hkind => ?_
  rw [← hkind, qualify_inj h.declared.declares.1 h.plainPath h'.plainPath h.plainId h'.plainId]

end Records

/-- **Plain names do not collide.**  No other path and id are qualified alike.  So records share a role only if they are
of one kind and one id in one policy, and in a store whose keys do not repeat no others share a key. -/
theorem qualified_apart :
    (∀ kind path path' id id', kind ≠ .policy → IsPlainPath path → IsPlainPath path' → IsPlainId id → IsPlainId id' →
      (qualify kind path id = qualify kind path' id' ↔ path = path' ∧ id = id')) ∧
    ∀ target target' statements statements' r r' path path' id id' role role',
      IsPlainlyDeclared target statements r path id role → IsPlainlyDeclared target' statements' r' path' id' role' →
      (role = role' ↔ target.account = target'.account ∧ r.kind = r'.kind ∧ path = path' ∧ id = id') ∧
      ∀ (keys : KeySource) (m : Memory) (key : String), Function.Injective keys → m.Reachable keys →
        m.key? role = some key → m.key? role' = some key →
        target.account = target'.account ∧ r.kind = r'.kind ∧ path = path' ∧ id = id' := by
  refine ⟨fun kind path path' id id' hkind hpath hpath' hid hid' => qualify_inj hkind hpath hpath' hid hid', ?_⟩
  intro target target' statements statements' r r' path path' id id' role role' h h'
  have hsame := h.role_inj h'
  refine ⟨hsame, ?_⟩
  intro keys m key hkeys hm hkey hkey'
  exact hsame.1 ((hm.keysSound hkeys).unique hkey hkey')

/-- A user of the same name in a policy and in a policy below it. -/
theorem qualified_apart_nested :
    let target : ResourceId := ⟨"a", "policy", "db"⟩
    let app : Yaml := .map [(.str "id", .str "app"), (.str "body", .seq [.tagged "user" (.str "alice")])]
    let statements : List Yaml := [.tagged "user" (.str "alice"), .tagged "policy" app]
    let role : RoleId := ⟨"a", "user", "alice@db"⟩
    let role' : RoleId := ⟨"a", "user", "alice@db-app"⟩
    IsPlainlyDeclared target statements ⟨[], .user, .str "alice"⟩ "db" "alice" role ∧
      IsPlainlyDeclared target statements ⟨[app], .user, .str "alice"⟩ "db/app" "alice" role' ∧ role ≠ role' ∧
      ∀ (keys : KeySource) (m : Memory) (key : String), Function.Injective keys → m.Reachable keys →
        m.key? role = some key → m.key? role' ≠ some key := by
  intro target app statements role role'
  have hroles : rolesOf target statements = .ok [role, role'] := by decide +kernel
  have happ : IsCalled app "app" := .entry rfl rfl
  have hplain : IsPlainPath "db" := ⟨["db"], by decide, rfl⟩
  have hplain' : IsPlainPath "db/app" := ⟨["db", "app"], by decide, rfl⟩
  have hreached : (reached [] statements).filter (·.kind ≠ .policy) =
      [⟨[], .user, .str "alice"⟩, ⟨[app], .user, .str "alice"⟩] := by
    have huser : RecordKind.ofTag? "user" = some .user := by decide
    have hpolicy : RecordKind.ofTag? "policy" = some .policy := by decide
    have hbody : bodyOf app = [.tagged "user" (.str "alice")] := rfl
    simp [statements, reached, huser, hpolicy, hbody]
  have hdeclared : IsDeclared target statements ⟨[], .user, .str "alice"⟩ role := by
    refine ⟨_, hroles, ?_⟩
    rw [hreached]
    exact List.mem_cons_self
  have hdeclared' : IsDeclared target statements ⟨[app], .user, .str "alice"⟩ role' := by
    refine ⟨_, hroles, ?_⟩
    rw [hreached]
    exact List.mem_cons_of_mem _ List.mem_cons_self
  have h : IsPlainlyDeclared target statements ⟨[], .user, .str "alice"⟩ "db" "alice" role :=
    ⟨hdeclared, ⟨[], .nil, rfl⟩, .text "alice", hplain, by decide⟩
  have h' : IsPlainlyDeclared target statements ⟨[app], .user, .str "alice"⟩ "db/app" "alice" role' :=
    ⟨hdeclared', ⟨["app"], .cons happ .nil, rfl⟩, .text "alice", hplain', by decide⟩
  obtain ⟨hsame, hkeys⟩ := qualified_apart.2 target target statements statements _ _ "db" "db/app" "alice" "alice"
    role role' h h'
  refine ⟨h, h', fun heq => ?_, fun keys m key hinjective hm hkey hkey' => ?_⟩
  · obtain ⟨-, -, hpaths, -⟩ := hsame.1 heq
    exact absurd hpaths (by decide)
  · obtain ⟨-, -, hpaths, -⟩ := hkeys keys m key hinjective hm hkey hkey'
    exact absurd hpaths (by decide)

end Postern.Policy
