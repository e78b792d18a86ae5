import Postern.Proofs.Gateway.Attempts
import Postern.Proofs.Json.Written

/-!
What the mode of rendering changes.  It is looked at when everything else is done: the store goes through the same
states in both modes (`answered_eq`), and of all failures only those that the caller has caused are said in another way
(`softened_render`).  Those are the queries that have asked nothing of the store.  So two gateways that differ in their
modes alone stay in step, whatever their stores do (`modes_in_step`).
-/

namespace Postern

/-! ### Bodies of failures -/

namespace ApiError
variable (e : ApiError)

theorem json_eq : e.json =
    .obj [("code", .str e.kind.code), ("error", .bool true), ("message", .str e.message)] := by
  have hmessage : "message" ≠ "error" ∧ ¬ "message" < "error" := by decide
  have hcode : "code" ≠ "error" ∧ "code" < "error" := by decide
  simp only [ApiError.json, Json.object, Json.sortMembers, List.foldl_cons, List.foldl_nil, Json.insertMember,
    if_neg hmessage.1, if_neg hmessage.2, if_neg hcode.1, if_pos hcode.2]

theorem legacyJson_eq : e.legacyJson = .obj [("error", .str e.message)] := rfl

theorem fits_json : Json.Fits Json.maxDepth e.json := by
  rw [json_eq]
  simp [Json.Fits, Json.maxDepth]

theorem fits_legacyJson : Json.Fits Json.maxDepth e.legacyJson := by
  rw [legacyJson_eq]
  simp [Json.Fits, Json.maxDepth]

end ApiError

namespace Gateway

/-! ### Responses -/

/-- What the legacy mode makes of a strict response. -/
structure Softened (strict legacy : Response) : Prop where
  /-- Nothing else, unless it says that the request was wrong. -/
  same : strict.status ≠ 400 → legacy = strict
  /-- If it does, its message becomes all that the body holds, and the request counts as answered. -/
  refused : strict.status = 400 → ∃ message,
    Json.read? strict.body =
      some (.obj [("code", .str "BAD_REQUEST"), ("error", .bool true), ("message", .str message)]) ∧
    Json.read? legacy.body = some (.obj [("error", .str message)]) ∧
    legacy.status = 200 ∧ legacy.headers = strict.headers ∧
    legacy.header? "content-type" = some "application/json"

theorem softened_self {r : Response} (h : r.status ≠ 400) : Softened r r := ⟨fun _ => rfl, fun h' => absurd h' h⟩

theorem status_eq_badRequest_iff {kind : ErrorKind} : kind.status = 400 ↔ kind = .badRequest := by
  cases kind <;> simp [ErrorKind.status]

/-- **Only the caller's own failures are softened.** -/
theorem softened_render (e : ApiError) : Softened (e.render .strict) (e.render .legacy) := by
  by_cases hkind : e.kind = .badRequest
  · have hlegacy : e.render .legacy = .json 200 e.legacyJson := by
      simp [ApiError.render, ApiError.isCallerError, hkind]
    have hstrict : Json.read? (e.render .strict).body = some e.json := Json.read?_compact e.fits_json
    refine ⟨fun h => absurd (status_eq_badRequest_iff.2 hkind) h, fun _ => ⟨e.message, ?_, ?_, ?_⟩⟩
    · rw [hstrict, e.json_eq, hkind]
      rfl
    · rw [hlegacy]
      exact Json.read?_compact e.fits_legacyJson
    · rw [hlegacy]
      exact ⟨rfl, rfl, rfl⟩
  · rw [render_of_kind hkind, render_of_kind hkind]
    exact softened_self fun h => hkind (status_eq_badRequest_iff.1 h)

/-! ### Queries in two modes -/

section Answered
variable {σ : Type} (b : Backend σ) (mode : ErrorMode) (allowPurge : Bool) (s : σ)

/-- The store after some queries that are answered in a mode. -/
def answered (qs : List Query) : σ := qs.foldl (fun s q => ((respond mode allowPurge q).run b s).2) s

theorem run_respond_snd (q : Query) :
    ((respond mode allowPurge q).run b s).2 = (serve b allowPurge q s).2 := by
  simp only [respond, serve, Plan.run_map]

/-- **The mode does not reach the store.** -/
theorem answered_eq (qs : List Query) : answered b mode allowPurge s qs = after b allowPurge s qs := by
  induction qs generalizing s with
  | nil => rfl
  | cons q qs ih =>
    rw [after_cons, ← run_respond_snd b mode]
    exact ih _

end Answered

/-- A query answered in both modes, each response with the store that it leaves behind. -/
structure Paired {σ : Type} (b : Backend σ) (allowPurge : Bool) (q : Query) (s : σ) (strict legacy : Response × σ) :
    Prop where
  store : legacy.2 = strict.2
  softened : Softened strict.1 legacy.1
  /-- The request is said to be wrong exactly if nothing was asked of the store. -/
  refused : strict.1.status = 400 ↔ (dispatch allowPurge q).made b s = []
  /-- A success is sent as it is. -/
  success : ∀ r, (serve b allowPurge q s).1 = .ok r → strict.1 = r ∧ legacy.1 = r ∧ r.status < 400
  /-- A failure that is not the caller's is sent as it is, with its own status. -/
  failure : ∀ e, (serve b allowPurge q s).1 = .error e → e.kind ≠ .badRequest →
    strict.1 = e.response ∧ legacy.1 = e.response
  /-- No failure of the store is the caller's. -/
  failed : ∀ c e, ⟨c, some e⟩ ∈ (dispatch allowPurge q).tried b s →
    strict.1 = (ApiError.ofStore e).response ∧ legacy.1 = (ApiError.ofStore e).response ∧
      strict.1.status ∈ [403, 404, 409, 500]

section Queries
variable {σ : Type} {b : Backend σ} {s : σ} {allowPurge : Bool} {q : Query}

theorem serve_of_failure {c : Call} {failure : StoreError}
    (h : ⟨c, some failure⟩ ∈ (dispatch allowPurge q).tried b s) :
    (serve b allowPurge q s).1 = .error (.ofStore failure) := by
  cases ho : order allowPurge q with
  | error e =>
    rw [dispatch_eq, ho] at h
    cases h
  | ok o => exact ((carriedOut_of_order ho).attempted b s).eq_of_failure h

theorem status_ofStore (failure : StoreError) : (ApiError.ofStore failure).kind.status ∈ [403, 404, 409, 500] := by
  cases failure <;> simp [ApiError.ofStore, ErrorKind.status]

/-- Who is told that the request was wrong has asked nothing of the store. -/
theorem status_strict_iff (b : Backend σ) (allowPurge : Bool) (q : Query) (s : σ) :
    ((respond .strict allowPurge q).run b s).1.status = 400 ↔ (dispatch allowPurge q).made b s = [] := by
  rw [made_dispatch_eq_nil_iff]
  cases houtcome : (serve b allowPurge q s).1 with
  | ok r =>
    rw [run_respond_ok _ houtcome]
    refine iff_of_false (status_of_ok houtcome).ne ?_
    rintro ⟨e, he⟩
    rw [serve_of_error b s he] at houtcome
    cases houtcome
  | error e =>
    have hstatus : (e.render .strict).status = e.kind.status := rfl
    rw [run_respond_error _ houtcome, hstatus, status_eq_badRequest_iff]
    constructor
    · intro hkind
      obtain ⟨kind, message⟩ := e
      obtain rfl : kind = .badRequest := hkind
      obtain ⟨e, he, -⟩ := (serve_eq_badRequest_iff b s).1 houtcome
      exact ⟨e, he⟩
    · rintro ⟨e', he'⟩
      rw [serve_of_error b s he'] at houtcome
      cases houtcome
      rfl

/-- **A mode changes only how the caller's own failures are said.** -/
theorem paired_respond (b : Backend σ) (allowPurge : Bool) (q : Query) (s : σ) :
    Paired b allowPurge q s ((respond .strict allowPurge q).run b s) ((respond .legacy allowPurge q).run b s) := by
  have hfailure : ∀ e, (serve b allowPurge q s).1 = .error e → e.kind ≠ .badRequest →
      ∀ mode, ((respond mode allowPurge q).run b s).1 = e.response := by
    intro e he hkind mode
    rw [run_respond_error mode he, render_of_kind hkind]
  refine ⟨?store, ?softened, ?refused, ?success, ?failure, ?failed⟩
  case store => rw [run_respond_snd, run_respond_snd]
  case softened =>
    cases houtcome : (serve b allowPurge q s).1 with
    | ok r =>
      rw [run_respond_ok _ houtcome, run_respond_ok _ houtcome]
      exact softened_self (status_of_ok houtcome).ne
    | error e =>
      rw [run_respond_error _ houtcome, run_respond_error _ houtcome]
      exact softened_render e
  case refused => exact status_strict_iff b allowPurge q s
  case success =>
    intro r hr
    exact ⟨run_respond_ok _ hr, run_respond_ok _ hr, status_of_ok hr⟩
  case failure =>
    intro e he hkind
    exact ⟨hfailure e he hkind _, hfailure e he hkind _⟩
  case failed =>
    intro c failure hfailed
    have hboth := hfailure _ (serve_of_failure hfailed) (kind_ofStore failure)
    refine ⟨hboth _, hboth _, ?_⟩
    rw [hboth]
    exact status_ofStore failure

end Queries

/-- **Two gateways that differ in their modes alone stay in step,** over any store and after any queries. -/
theorem modes_in_step {σ : Type} (b : Backend σ) (allowPurge : Bool) (s : σ) (past : List Query) (q : Query) :
    let answer := fun mode => (respond mode allowPurge q).run b (answered b mode allowPurge s past)
    Paired b allowPurge q (after b allowPurge s past) (answer .strict) (answer .legacy) := by
  intro answer
  simp only [answer, answered_eq]
  exact paired_respond b allowPurge q _

end Gateway
end Postern
