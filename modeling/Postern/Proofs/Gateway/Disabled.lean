import Postern.Proofs.Gateway.Rendering

/-!
A purge that is not allowed.  No query is an order for it, so no store is asked for it, however requests take turns
(`asks_of_disabled`).  Nor can it be told from an action that there is not: the resource that a query names is looked at
first, and then both are refused in the same words (`respond_of_disabled`, `respond_renamed`).  So purges can be
given any name that means nothing, and nobody sees a difference (`purge_hidden`).
-/

namespace Postern.Gateway

/-! ### What is refused -/

/-- A name for an action that there is not. -/
structure Unrecognized (name : String) : Prop where
  nonempty : name ≠ ""
  unknown : ∀ a : Action, a.text ≠ name

/-- What is said to a query without an action to carry out: what is wrong with its resource comes first. -/
def refusal (q : Query) : CallerError :=
  match (q.find? "resource_id").map ResourceId.parse with
  | some (.error _) => .malformedResourceId
  | _ => .unknownAction

/-- The response that says so. -/
def refused (mode : ErrorMode) (q : Query) : Response := (ApiError.ofCaller (refusal q)).render mode

section Refused
variable {mode : ErrorMode} {allowPurge : Bool} {q : Query} {name : String}

/-- An action that is not permitted is refused, unless the resource is refused before. -/
theorem respond_of_notPermitted (hgiven : q.given? "action" = some name)
    (h : Request.permittedAction allowPurge name = .error .unknownAction) :
    respond mode allowPurge q = .answer (refused mode q) := by
  have hparse : Request.parse allowPurge q = .error (refusal q) := by
    unfold Request.parse refusal Request.resourceOf
    rw [show (q.find? "action").filter (· ≠ "") = some name from hgiven]
    cases q.find? "resource_id" with
    | none => simp [h]
    | some raw => cases hraw : ResourceId.parse raw <;> simp [h, hraw]
  rw [respond, dispatch, hparse]
  rfl

theorem respond_of_unrecognized (hname : Unrecognized name) (haction : q.find? "action" = some name) :
    respond mode allowPurge q = .answer (refused mode q) := by
  have hnone : Action.ofText? name = none := by
    rw [Action.ofText?, List.find?_eq_none]
    intro a _
    simpa using hname.unknown a
  refine respond_of_notPermitted (Query.given?_eq_some_iff.2 ⟨haction, hname.nonempty⟩) ?_
  rw [Request.permittedAction, hnone]

theorem respond_of_disabled (haction : q.find? "action" = some "purge") :
    respond mode false q = .answer (refused mode q) :=
  respond_of_notPermitted (Query.given?_eq_some_iff.2 ⟨haction, by decide⟩) rfl

/-- The name is not said: only the resource decides between refusals. -/
theorem respond_renamed (hname : Unrecognized name) (q : Query) :
    respond mode allowPurge (q.insert "action" name) = .answer (refused mode q) := by
  have hother : "action" ≠ "resource_id" := by decide
  rw [respond_of_unrecognized hname (by simp)]
  simp [refused, refusal, hother]

example : Unrecognized "purge_all" := ⟨by decide, fun a => by cases a <;> decide⟩

end Refused

/-! ### What is asked -/

theorem asks_of_disabled (mode : ErrorMode) (q : Query) : (respond mode false q).Asks (·.method ≠ .purge) := by
  refine Plan.Asks.map (dispatch_asks fun o ho c hc hpurge => ?_)
  obtain ⟨-, hallowed, -⟩ := order_eq_ok_iff.1 ho
  have hneeded := method_mem_methods hc
  rw [hpurge] at hneeded
  cases hallowed (Action.purge_mem_methods.1 hneeded)

/-- No purge has been noted. -/
def Unpurged {σ : Type} (t : σ × List Call) : Prop := ∀ c ∈ t.2, c.method ≠ .purge

theorem unpurged_nil {σ : Type} (s : σ) : Unpurged (s, []) := fun c hc => nomatch (hc : c ∈ [])

theorem unpurged_perform {σ : Type} {b : Backend σ} (c : Call) (t : σ × List Call) (hc : c.method ≠ .purge)
    (ht : Unpurged t) : Unpurged (b.noting.perform c t).2 := by
  intro c' hc'
  rcases List.mem_append.1 hc' with hold | hnew
  · exact ht c' hold
  · rwa [List.mem_singleton.1 hnew]

/-! ### Purges under another name -/

/-- A query with another name for purges. -/
def disguise (name : String) (q : Query) : Query :=
  if q.find? "action" = some "purge" then q.insert "action" name else q

theorem respond_disguise {name : String} (hname : Unrecognized name) (mode : ErrorMode) (q : Query) :
    respond mode false (disguise name q) = respond mode false q := by
  by_cases haction : q.find? "action" = some "purge"
  · rw [disguise, if_pos haction, respond_renamed hname, respond_of_disabled haction]
  · rw [disguise, if_neg haction]

/-- What is seen of purges that are not allowed, over any store. -/
structure PurgeHidden {σ : Type} (mode : ErrorMode) (b : Backend σ) (s : σ) : Prop where
  /-- No store is asked for one, by queries one after another. -/
  unasked : ∀ qs : List Query, Unpurged (answered b.noting mode false (s, []) qs)
  /-- Nor by queries that take turns. -/
  unaskedInTurns : ∀ (qs : List Query) (schedule : List Nat),
    Unpurged (Pool.run b.noting ⟨qs.map (respond mode false), (s, [])⟩ schedule).store
  /-- Who asks for one is answered as if there were no such action, and nothing is done. -/
  hidden : ∀ (q : Query) (name : String), q.find? "action" = some "purge" → Unrecognized name →
    (respond mode false q).run b s = (refused mode q, s) ∧
      (respond mode false (q.insert "action" name)).run b s = (refused mode q, s)
  /-- So it does not matter what purges are called, whatever others ask for meanwhile. -/
  disguised : ∀ (qs : List Query) (name : String) (schedule : List Nat), Unrecognized name →
    Pool.run b ⟨(qs.map (disguise name)).map (respond mode false), s⟩ schedule =
      Pool.run b ⟨qs.map (respond mode false), s⟩ schedule

/-- **A purge that is not allowed cannot be seen.** -/
theorem purge_hidden {σ : Type} (mode : ErrorMode) (b : Backend σ) (s : σ) : PurgeHidden mode b s := by
  refine ⟨?unasked, ?unaskedInTurns, ?hidden, ?disguised⟩
  case unasked =>
    intro qs
    rw [answered_eq]
    refine after_keeps (fun q t ht => ?_) (unpurged_nil s) qs
    rw [← run_respond_snd b.noting mode]
    exact Plan.run_keeps unpurged_perform (asks_of_disabled mode q) ht
  case unaskedInTurns =>
    intro qs schedule
    refine (Pool.run_invariant unpurged_perform ⟨fun p hp => ?_, unpurged_nil s⟩ schedule).store
    obtain ⟨q, -, rfl⟩ := List.mem_map.1 hp
    exact asks_of_disabled mode q
  case hidden =>
    intro q name haction hname
    rw [respond_of_disabled haction, respond_renamed hname]
    exact ⟨rfl, rfl⟩
  case disguised =>
    intro qs name schedule hname
    have hsame : (qs.map (disguise name)).map (respond mode false) = qs.map (respond mode false) := by
      rw [List.map_map]
      exact List.map_congr_left fun q _ => respond_disguise hname mode q
    rw [hsame]

end Postern.Gateway
