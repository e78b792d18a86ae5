import Postern.Proofs.Gateway.Session

/-!
Which queries never reach a store.  A query that is an order begins with a store call, and whatever becomes of its
calls it is not refused as the caller's fault (`Order.answers_plan`): store failures have other kinds, and nothing is
left to be checked behind the first call.  So the faults of callers are found without the store, whatever that is
(`badRequest_iff_callFree`).
-/

namespace Postern.Gateway

/-- An outcome that does not blame the caller. -/
def Blameless (outcome : Outcome) : Prop := ∀ message, outcome ≠ .error ⟨.badRequest, message⟩

/-- No store failure is the caller's fault. -/
theorem kind_ofStore (e : StoreError) : (ApiError.ofStore e).kind ≠ .badRequest := by
  cases e <;> simp [ApiError.ofStore]

theorem blameless_of_kind {e : ApiError} (h : e.kind ≠ .badRequest) : Blameless (.error e) := by
  rintro message ⟨⟩
  exact h rfl

theorem blameless_ok (r : Response) : Blameless (.ok r) := by
  rintro message ⟨⟩

/-! ### Orders -/

theorem answers_ask {c : Call} {next : c.Result → Plan Outcome} (h : ∀ r, (next r).Answers Blameless) :
    (ask c next).Answers Blameless := by
  intro r
  cases r with
  | ok r => exact h r
  | error e => exact blameless_of_kind (kind_ofStore e)

theorem answers_provisionAll {actor : Actor} {last : Plan Outcome} (hlast : last.Answers Blameless)
    (roles : List RoleId) : (provisionAll actor last roles).Answers Blameless := by
  induction roles with
  | nil => exact hlast
  | cons role roles ih => exact answers_ask fun _ => ih

/-- **An order is never refused as the caller's fault,** whatever the store says. -/
theorem Order.answers_plan (o : Order) : o.plan.Answers Blameless := by
  cases o with
  | loadPolicy resource document roles =>
    have hlast : (succeed (.empty 201)).Answers Blameless := blameless_ok _
    exact answers_ask fun _ => answers_provisionAll hlast roles
  | retrieveApiKey role =>
    refine answers_ask fun found => ?_
    cases found with
    | some role => exact blameless_ok _
    | none => exact blameless_of_kind (by simp [roleNotFound])
  | _ => exact answers_ask fun _ => blameless_ok _

theorem Order.made_plan_ne_nil {σ : Type} (b : Backend σ) (s : σ) (o : Order) : o.plan.made b s ≠ [] := by
  cases o <;> exact List.cons_ne_nil _ _

/-! ### Queries -/

section
variable {σ : Type} (b : Backend σ) (s : σ) {allowPurge : Bool} {q : Query}

theorem serve_of_error {e : CallerError} (h : order allowPurge q = .error e) :
    serve b allowPurge q s = (.error (.ofCaller e), s) := by
  rw [serve, dispatch_eq, h]
  rfl

/-- A query is refused as the caller's fault exactly for what is wrong with its order, whatever the store is. -/
theorem serve_eq_badRequest_iff {message : String} :
    (serve b allowPurge q s).1 = .error ⟨.badRequest, message⟩ ↔
      ∃ e, order allowPurge q = .error e ∧ e.message = message := by
  cases ho : order allowPurge q with
  | error e =>
    rw [serve_of_error b s ho]
    simp [ApiError.ofCaller]
  | ok o =>
    have hblameless : Blameless (serve b allowPurge q s).1 := by
      rw [serve, dispatch_eq, ho]
      exact Plan.run_answers b o.answers_plan s
    have hnot := hblameless message
    simp [hnot]

/-- A query makes no call exactly if it is no order. -/
theorem made_dispatch_eq_nil_iff :
    (dispatch allowPurge q).made b s = [] ↔ ∃ e, order allowPurge q = .error e := by
  rw [dispatch_eq]
  cases ho : order allowPurge q with
  | error e => exact ⟨fun _ => ⟨e, rfl⟩, fun _ => rfl⟩
  | ok o =>
    have hcalls : (check (.ok o) Order.plan).made b s ≠ [] := o.made_plan_ne_nil b s
    simp [hcalls]

end

/-- **A query is refused as the caller's fault exactly if it makes no store call,** and what is then said does not
depend on the store. -/
theorem badRequest_iff_callFree (allowPurge : Bool) (q : Query) :
    (∀ (σ : Type) (b : Backend σ) (s : σ),
      (∃ message, (serve b allowPurge q s).1 = .error ⟨.badRequest, message⟩) ↔
        (dispatch allowPurge q).made b s = []) ∧
    ∀ (σ τ : Type) (b : Backend σ) (b' : Backend τ) (s : σ) (t : τ) (message : String),
      (serve b allowPurge q s).1 = .error ⟨.badRequest, message⟩ ↔
        (serve b' allowPurge q t).1 = .error ⟨.badRequest, message⟩ := by
  refine ⟨fun σ b s => ?_, fun σ τ b b' s t message => ?_⟩
  · rw [made_dispatch_eq_nil_iff]
    constructor
    · rintro ⟨message, hrefused⟩
      obtain ⟨e, he, -⟩ := (serve_eq_badRequest_iff b s).1 hrefused
      exact ⟨e, he⟩
    · rintro ⟨e, he⟩
      exact ⟨e.message, (serve_eq_badRequest_iff b s).2 ⟨e, he, rfl⟩⟩
  · rw [serve_eq_badRequest_iff, serve_eq_badRequest_iff]

end Postern.Gateway
