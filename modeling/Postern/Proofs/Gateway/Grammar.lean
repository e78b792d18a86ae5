import Postern.Proofs.Gateway.Order

/-!
Which queries are requests.  A query has to name something to do, what it names as its resource has to be an address,
and what it names has to be known: three conditions that are said here without the reader (`NamesAction`,
`WellAddressed`, `Recognised`).  They are looked at in this order, and the first that fails gives the message
(`parse_eq_error_iff`); a query for which all of them hold is read as what it says (`reading`).
-/

namespace Postern.Gateway

/-! ### Conditions -/

/-- The tags of actions. -/
def tags : List String :=
  ["list_accounts", "create_account", "destroy_account", "retrieve_api_key", "get_secret", "create_secret",
    "load_policy", "purge"]

/-- A query names something to do. -/
def NamesAction (q : Query) : Prop := ∃ name, q.find? "action" = some name ∧ name ≠ ""

/-- What a query names as its resource consists of three parts between colons. -/
def WellAddressed (q : Query) : Prop := ∀ raw, q.find? "resource_id" = some raw →
  ∃ account kind name, raw = account ++ ":" ++ kind ++ ":" ++ name ∧ IsPart account ∧ IsPart kind ∧ IsPart name

/-- What a query names is one of the tags, and no purge where that is not allowed. -/
def Recognised (allowPurge : Bool) (q : Query) : Prop :=
  ∃ name ∈ tags, q.find? "action" = some name ∧ (name = "purge" → allowPurge = true)

/-- What is wrong with a query: the first condition that fails. -/
inductive Refused (allowPurge : Bool) (q : Query) : CallerError → Prop
  | unnamed (haction : ¬ NamesAction q) : Refused allowPurge q (.missing "action")
  | unaddressed (haction : NamesAction q) (hresource : ¬ WellAddressed q) : Refused allowPurge q .malformedResourceId
  | unrecognised (haction : NamesAction q) (hresource : WellAddressed q) (htag : ¬ Recognised allowPurge q) :
    Refused allowPurge q .unknownAction

/-- A request says what its query says: its action by name, its resource by address, and each parameter that is not
empty. -/
structure Mirrors (q : Query) (r : Request) : Prop where
  action : q.find? "action" = some r.action.text
  resource : r.resource.map ResourceId.text = q.find? "resource_id"
  parameter : ∀ name value, r.get? name = some value ↔ q.find? name = some value ∧ value ≠ ""

/-! ### One by one -/

theorem mem_tags_iff {name : String} : name ∈ tags ↔ ∃ a : Action, a.text = name := by
  constructor
  · intro h
    simp only [tags, List.mem_cons, List.not_mem_nil, or_false] at h
    rcases h with rfl | rfl | rfl | rfl | rfl | rfl | rfl | rfl
    · exact ⟨.listAccounts, rfl⟩
    · exact ⟨.createAccount, rfl⟩
    · exact ⟨.destroyAccount, rfl⟩
    · exact ⟨.retrieveApiKey, rfl⟩
    · exact ⟨.getSecret, rfl⟩
    · exact ⟨.createSecret, rfl⟩
    · exact ⟨.loadPolicy, rfl⟩
    · exact ⟨.purge, rfl⟩
  · rintro ⟨a, rfl⟩
    cases a <;> decide

theorem namesAction_iff {q : Query} : NamesAction q ↔ ∃ name, q.given? "action" = some name := by
  simp only [NamesAction, Query.given?_eq_some_iff]

theorem wellAddressed_iff {q : Query} : WellAddressed q ↔ ∃ named, Request.resourceOf q = .ok named := by
  unfold WellAddressed Request.resourceOf
  cases q.find? "resource_id" with
  | none => simp
  | some raw =>
    have hparse : (∃ account kind name, raw = account ++ ":" ++ kind ++ ":" ++ name ∧ IsPart account ∧ IsPart kind ∧
        IsPart name) ↔ ∃ resource, ResourceId.parse raw = .ok resource := by
      constructor
      · rintro ⟨account, kind, name, hraw, haccount, hkind, hname⟩
        exact ⟨⟨account, kind, name⟩, ResourceId.parse_eq_ok_iff.2 ⟨hraw, haccount, hkind, hname⟩⟩
      · rintro ⟨resource, hresource⟩
        obtain ⟨hraw, haccount, hkind, hname⟩ := ResourceId.parse_eq_ok_iff.1 hresource
        exact ⟨_, _, _, hraw, haccount, hkind, hname⟩
    simp only [Option.some.injEq, forall_eq', hparse]
    cases ResourceId.parse raw <;> simp

theorem recognised_iff {allowPurge : Bool} {q : Query} {name : String} (h : q.given? "action" = some name) :
    Recognised allowPurge q ↔ ∃ a, Request.permittedAction allowPurge name = .ok a := by
  obtain ⟨hname, -⟩ := Query.given?_eq_some_iff.1 h
  have hpurge : ∀ a : Action, a.text = "purge" ↔ a = .purge :=
    fun a => ⟨fun h => text_injective h, fun h => h ▸ rfl⟩
  simp only [permittedAction_eq_ok_iff, Recognised, hname, Option.some.injEq]
  constructor
  · rintro ⟨_, htag, rfl, hallowed⟩
    obtain ⟨a, rfl⟩ := mem_tags_iff.1 htag
    exact ⟨a, rfl, fun ha => hallowed ((hpurge a).2 ha)⟩
  · rintro ⟨a, rfl, hallowed⟩
    exact ⟨_, mem_tags_iff.2 ⟨a, rfl⟩, rfl, fun ha => hallowed ((hpurge a).1 ha)⟩

theorem eq_of_resourceOf {q : Query} {e : CallerError} (h : Request.resourceOf q = .error e) :
    e = .malformedResourceId := by
  unfold Request.resourceOf at h
  split at h
  · cases h
  · split at h
    · cases h
    · exact (Except.error.inj h).symm

theorem eq_of_permittedAction {allowPurge : Bool} {name : String} {e : CallerError}
    (h : Request.permittedAction allowPurge name = .error e) : e = .unknownAction := by
  unfold Request.permittedAction at h
  split at h
  · exact (Except.error.inj h).symm
  · split at h
    · exact (Except.error.inj h).symm
    · cases h

/-! ### One after another -/

/-- A query is refused for the first condition that fails, or read where none does. -/
theorem refused_or_ok (allowPurge : Bool) (q : Query) :
    (∃ e, Request.parse allowPurge q = .error e ∧ Refused allowPurge q e) ∨
    ∃ r, Request.parse allowPurge q = .ok r ∧ NamesAction q ∧ WellAddressed q ∧ Recognised allowPurge q := by
  unfold Request.parse
  cases hname : (q.find? "action").filter (· ≠ "") with
  | none =>
    have haction : ¬ NamesAction q := by
      rintro haction
      obtain ⟨name, hgiven⟩ := namesAction_iff.1 haction
      rw [Query.given?, hname] at hgiven
      cases hgiven
    exact .inl ⟨_, rfl, .unnamed haction⟩
  | some name =>
    have haction : NamesAction q := namesAction_iff.2 ⟨name, hname⟩
    dsimp only
    cases hnamed : Request.resourceOf q with
    | error e =>
      have hresource : ¬ WellAddressed q := by
        rw [wellAddressed_iff, hnamed]
        rintro ⟨_, ⟨⟩⟩
      obtain rfl := eq_of_resourceOf hnamed
      exact .inl ⟨_, rfl, .unaddressed haction hresource⟩
    | ok named =>
      have hresource : WellAddressed q := wellAddressed_iff.2 ⟨named, hnamed⟩
      dsimp only
      cases hpermitted : Request.permittedAction allowPurge name with
      | error e =>
        have htag : ¬ Recognised allowPurge q := by
          rw [recognised_iff hname, hpermitted]
          rintro ⟨_, ⟨⟩⟩
        obtain rfl := eq_of_permittedAction hpermitted
        exact .inl ⟨_, rfl, .unrecognised haction hresource htag⟩
      | ok a => exact .inr ⟨_, rfl, haction, hresource, (recognised_iff hname).2 ⟨a, hpermitted⟩⟩

section
variable {allowPurge : Bool} {q : Query}

theorem Refused.not_all {e : CallerError} (h : Refused allowPurge q e) :
    ¬ (NamesAction q ∧ WellAddressed q ∧ Recognised allowPurge q) := by
  rintro ⟨haction, hresource, htag⟩
  cases h with
  | unnamed hno => exact hno haction
  | unaddressed _ hno => exact hno hresource
  | unrecognised _ _ hno => exact hno htag

theorem Refused.unique {e e' : CallerError} (h : Refused allowPurge q e) (h' : Refused allowPurge q e') : e = e' := by
  cases h <;> cases h' <;> first | rfl | contradiction

/-- **The first condition that fails is what a query is refused for.** -/
theorem parse_eq_error_iff {e : CallerError} :
    Request.parse allowPurge q = .error e ↔ Refused allowPurge q e := by
  rcases refused_or_ok allowPurge q with ⟨e', hparse, hrefused⟩ | ⟨r, hparse, hall⟩
  · rw [hparse, Except.error.injEq]
    exact ⟨fun h => h ▸ hrefused, hrefused.unique⟩
  · rw [hparse]
    exact ⟨nofun, fun h => absurd hall h.not_all⟩

theorem exists_parse_iff :
    (∃ r, Request.parse allowPurge q = .ok r) ↔ NamesAction q ∧ WellAddressed q ∧ Recognised allowPurge q := by
  rcases refused_or_ok allowPurge q with ⟨e, hparse, hrefused⟩ | ⟨r, hparse, hall⟩
  · rw [hparse]
    exact ⟨nofun, fun h => absurd h hrefused.not_all⟩
  · exact iff_of_true ⟨r, hparse⟩ hall

theorem text_of_resourceOf {named : Option ResourceId} (h : Request.resourceOf q = .ok named) :
    named.map ResourceId.text = q.find? "resource_id" := by
  cases named with
  | none =>
    unfold Request.resourceOf at h
    split at h
    · simp [*]
    · split at h <;> cases h
  | some resource =>
    obtain ⟨raw, hraw, hparse⟩ := resourceOf_eq_ok_some_iff.1 h
    rw [hraw, Option.map_some, (ResourceId.parse_eq_ok_iff.1 hparse).1]

theorem mirrors_of_parse {r : Request} (h : Request.parse allowPurge q = .ok r) : Mirrors q r := by
  obtain ⟨haction, hresource, -, rfl⟩ := parse_eq_ok_iff.1 h
  exact ⟨haction, text_of_resourceOf hresource, fun _ _ => Query.given?_eq_some_iff⟩

end

/-- **How queries are read.**  A query is a request exactly if it names something to do, its resource is an address and
what it names is known; then the request says what the query says.  Else the first of these that fails is what the
caller is told, whatever else is wrong. -/
theorem reading (allowPurge : Bool) (q : Query) :
    ((∃ r, Request.parse allowPurge q = .ok r) ↔ NamesAction q ∧ WellAddressed q ∧ Recognised allowPurge q) ∧
    (∀ r, Request.parse allowPurge q = .ok r → Mirrors q r) ∧
    ∀ message, (∃ e, Request.parse allowPurge q = .error e ∧ ApiError.ofCaller e = ⟨.badRequest, message⟩) ↔
      ¬ NamesAction q ∧ message = "action required" ∨
      NamesAction q ∧ ¬ WellAddressed q ∧ message = "malformed resource_id" ∨
      NamesAction q ∧ WellAddressed q ∧ ¬ Recognised allowPurge q ∧ message = "action not recognized" := by
  refine ⟨exists_parse_iff, fun r => mirrors_of_parse, fun message => ?_⟩
  simp only [parse_eq_error_iff, ApiError.ofCaller, ApiError.mk.injEq, true_and]
  constructor
  · rintro ⟨e, hrefused, rfl⟩
    cases hrefused with
    | unnamed haction => exact .inl ⟨haction, rfl⟩
    | unaddressed haction hresource => exact .inr (.inl ⟨haction, hresource, rfl⟩)
    | unrecognised haction hresource htag => exact .inr (.inr ⟨haction, hresource, htag, rfl⟩)
  · rintro (⟨haction, rfl⟩ | ⟨haction, hresource, rfl⟩ | ⟨haction, hresource, htag, rfl⟩)
    · exact ⟨_, .unnamed haction, rfl⟩
    · exact ⟨_, .unaddressed haction hresource, rfl⟩
    · exact ⟨_, .unrecognised haction hresource htag, rfl⟩

end Postern.Gateway
