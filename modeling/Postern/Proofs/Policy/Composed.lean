import Postern.Proofs.Policy.Flattened

/-!
Policies put together.  Statements that stand one after another declare what they declare alone, up to the first that is
refused (`collectItems_append`).  A policy that stands in another one declares what its body declares when it is loaded
into the policy's own place (`rolesOf_policy`): the path that a target begins with and the path that a policy hands down
meet in `extend_pathOf`, except below a policy that is itself called like the root.
-/

namespace Postern.Policy

/-- What statements declare when they are loaded into a target. -/
def rolesOf (target : ResourceId) (statements : List Yaml) : Except DeclarationError (List RoleId) :=
  collectItems target.account (pathOf target) statements

theorem declaredRoles_eq {document : String} {v : Yaml} (h : Yaml.read document = .ok v) (target : ResourceId) :
    declaredRoles target document = rolesOf target (itemsOf v) := by
  unfold rolesOf
  rw [← collect_eq]
  simp only [declaredRoles, statements, h]
  rfl

/-- What comes of statements and then of others. -/
def andThen (x y : Except DeclarationError (List RoleId)) : Except DeclarationError (List RoleId) :=
  match x, y with
  | .error e, _ => .error e
  | .ok _, .error e => .error e
  | .ok roles, .ok roles' => .ok (roles ++ roles')

theorem andThen_nil (x : Except DeclarationError (List RoleId)) : andThen (.ok []) x = x := by
  cases x <;> rfl

theorem andThen_assoc (x y z : Except DeclarationError (List RoleId)) :
    andThen (andThen x y) z = andThen x (andThen y z) := by
  cases x with
  | error e => rfl
  | ok roles =>
    cases y with
    | error e => rfl
    | ok roles' =>
      cases z with
      | error e => rfl
      | ok roles'' => exact congrArg Except.ok (List.append_assoc ..)

section
variable {account path : String}

theorem collectItems_cons (s : Yaml) (rest : List Yaml) :
    collectItems account path (s :: rest) =
      andThen (collectItems account path [s]) (collectItems account path rest) := by
  have hnil : collectItems account path [] = .ok [] := by simp only [collectItems]
  cases s with
  | tagged tag value =>
    cases hkind : RecordKind.ofTag? tag with
    | none => rw [collectItems_of_other_tag hkind, collectItems_of_other_tag hkind, hnil, andThen_nil]
    | some kind =>
      cases hid : recordId kind value with
      | error e =>
        rw [collectItems_of_refused hkind hid, collectItems_of_refused hkind hid]
        rfl
      | ok id =>
        by_cases hpolicy : kind = .policy
        · subst hpolicy
          rw [collectItems_of_policy hkind hid, collectItems_of_policy hkind hid, hnil]
          cases collectItems account (extend path id) (bodyOf value) with
          | error e => rfl
          | ok inner =>
            cases collectItems account path rest with
            | error e => rfl
            | ok roles =>
              show Except.ok (inner ++ roles) = Except.ok (inner ++ [] ++ roles)
              rw [List.append_nil]
        · rw [collectItems_of_owner hkind hpolicy hid, collectItems_of_owner hkind hpolicy hid, hnil]
          cases collectItems account path rest <;> rfl
  | _ => rw [collectItems_of_not_tagged (by simp), collectItems_of_not_tagged (by simp), hnil, andThen_nil]

/-- **Statements one after another.** -/
theorem collectItems_append (xs ys : List Yaml) :
    collectItems account path (xs ++ ys) = andThen (collectItems account path xs) (collectItems account path ys) := by
  induction xs with
  | nil =>
    rw [List.nil_append, collectItems, andThen_nil]
  | cons s rest ih =>
    rw [List.cons_append, collectItems_cons, ih, collectItems_cons s rest, andThen_assoc]

end

/-! ### Policies in policies -/

/-- The identifier of a policy that stands in another one. -/
def nested (outer inner : String) : String := if outer = "root" then inner else outer ++ "/" ++ inner

theorem nested_ne_root {outer inner : String} (hinner : ¬ (outer = "root" ∧ inner = "root")) :
    nested outer inner ≠ "root" := by
  unfold nested
  split
  · rename_i houter
    exact fun h => hinner ⟨houter, h⟩
  · intro h
    have hslash : '/' ∈ (outer ++ "/" ++ inner).toList := by simp
    rw [h] at hslash
    exact absurd hslash (by decide)

/-- The path that a policy hands down is the one that its own statements begin with. -/
theorem extend_pathOf {account kind kind' outer inner : String} (houter : outer ≠ "")
    (hinner : ¬ (outer = "root" ∧ inner = "root")) :
    extend (pathOf ⟨account, kind, outer⟩) inner = pathOf ⟨account, kind', nested outer inner⟩ := by
  have hne := nested_ne_root hinner
  have hpath : pathOf ⟨account, kind', nested outer inner⟩ = nested outer inner := if_neg hne
  rw [hpath]
  unfold pathOf extend nested rootPolicy
  by_cases hroot : outer = "root" <;> simp [hroot, houter]

/-- A statement is the policy of this id, with these statements in its body. -/
inductive IsPolicy : Yaml → String → List Yaml → Prop
  | intro {tag id : String} {value : Yaml} (htag : RecordKind.ofTag? tag = some .policy)
    (hcalled : IsCalled value id) : IsPolicy (.tagged tag value) id (bodyOf value)

theorem isPolicy_map (id : String) (body : List Yaml) :
    IsPolicy (.tagged "policy" (.map [(.str "id", .str id), (.str "body", .seq body)])) id body :=
  .intro (by decide) (.entry rfl rfl)

/-- **A policy declares what its body declares in its place.** -/
theorem rolesOf_policy {account kind kind' outer inner : String} {s : Yaml} {body : List Yaml} (houter : outer ≠ "")
    (hpart : IsPart inner) (hinner : ¬ (outer = "root" ∧ inner = "root")) (hs : IsPolicy s inner body) :
    rolesOf ⟨account, kind, outer⟩ [s] = rolesOf ⟨account, kind', nested outer inner⟩ body := by
  obtain ⟨htag, hcalled⟩ := hs
  unfold rolesOf
  rw [collectItems_of_policy htag (recordId_of_isCalled .policy hcalled hpart), extend_pathOf houter hinner]
  show _ = collectItems account _ _
  cases collectItems account (pathOf ⟨account, kind', nested outer inner⟩) (bodyOf _) with
  | error e => rfl
  | ok roles =>
    simp only [collectItems]
    exact congrArg Except.ok (List.append_nil roles)

/-- **Policies compose.**  Statements declare in turn what they declare alone, and a policy in another one declares what
its body declares in its place, unless it stands in the root and is called like it. -/
theorem composed :
    (∀ target document v, Yaml.read document = .ok v → declaredRoles target document = rolesOf target (itemsOf v)) ∧
    (∀ target xs ys, rolesOf target (xs ++ ys) = andThen (rolesOf target xs) (rolesOf target ys)) ∧
    ∀ account kind kind' outer inner s body, outer ≠ "" → IsPart inner → ¬ (outer = "root" ∧ inner = "root") →
      IsPolicy s inner body →
      rolesOf ⟨account, kind, outer⟩ [s] = rolesOf ⟨account, kind', nested outer inner⟩ body := by
  refine ⟨fun target document v h => declaredRoles_eq h target, fun target xs ys => collectItems_append xs ys, ?_⟩
  intro account kind kind' outer inner s body houter hpart hinner hs
  exact rolesOf_policy houter hpart hinner hs

/-- A user and a host in a policy of the root, and a policy that is refused for its host. -/
theorem composed_below_root :
    let body : List Yaml := [.tagged "user" (.str "alice"), .tagged "host" (.map [(.str "id", .str "web")])]
    let policy : Yaml := .tagged "policy" (.map [(.str "id", .str "app"), (.str "body", .seq body)])
    rolesOf ⟨"a", "policy", "root"⟩ [policy] = .ok [⟨"a", "user", "alice@app"⟩, ⟨"a", "host", "app/web"⟩] ∧
      rolesOf ⟨"a", "policy", "db"⟩ ([policy] ++ [.tagged "host" .null]) = .error (.missingId .host) := by
  intro body policy
  obtain ⟨-, happend, hnested⟩ := composed
  have hpolicy : IsPolicy policy "app" body := isPolicy_map "app" body
  refine ⟨?_, ?_⟩
  · rw [hnested "a" "policy" "policy" "root" "app" policy body (by decide) (by decide) (by decide) hpolicy]
    decide +kernel
  · rw [happend]
    decide +kernel

end Postern.Policy
