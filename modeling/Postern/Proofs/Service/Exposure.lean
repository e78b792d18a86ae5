import Postern.Proofs.Gateway.Effect
import Postern.Proofs.Service.Gate

/-!
Where the gateway can be reached.  Whether the service starts depends on three settings (`Exposed`), and if it does, the
gateway answers those without a token just where it is enabled.  So no environment of a production deployment gives a
service that runs an action of the gateway (`exposure`).
-/

namespace Postern

/-- The gateway's dispatcher answers a request. -/
def RunsGateway (s : Settings) (app : App) (now : Instant) (r : HttpRequest) : Prop :=
  (app.handle now r).map Service.unshared =
    (Gateway.respond s.gateway.errorMode s.gateway.allowPurge r.parameters).map Service.unshared

/-- Whether the service for some settings starts, and whom its gateway answers. -/
structure Exposed (s : Settings) : Prop where
  /-- A gateway in production is refused first. -/
  inProduction : App.build s = .error .gatewayInProduction ↔
    s.gateway.enabled = true ∧ s.deployment = .production
  /-- A missing secret is refused next. -/
  withoutSecret : App.build s = .error .authenticatorMissing ↔
    ¬ (s.gateway.enabled = true ∧ s.deployment = .production) ∧ s.secret = ""
  /-- Nothing else is refused. -/
  starts : (∃ app, App.build s = .ok app) ↔
    ¬ (s.gateway.enabled = true ∧ s.deployment = .production) ∧ s.secret ≠ ""
  /-- The patterns of open paths can be read. -/
  patterns : ∀ pattern, App.build s ≠ .error (.invalidBypassPattern pattern)
  /-- Who asks for the gateway without a token reaches it where it is enabled. -/
  reached : ∀ app now r, App.build s = .ok app → r.method = "GET" → r.path = "/dev" →
    r.value? "authorization" = none → (RunsGateway s app now r ↔ s.gateway.enabled = true)
  /-- Elsewhere the request is refused without a store call. -/
  refused : ∀ app now r, App.build s = .ok app → r.method = "GET" → r.path = "/dev" →
    r.value? "authorization" = none → s.gateway.enabled = false →
      ∃ response, app.handle now r = .answer response ∧ response.status = 401

section Exposed
variable {s : Settings} {app : App} {now : Instant} {r : HttpRequest}

/-- What the dispatcher answers at once is no refusal of the gate. -/
theorem status_of_respond {mode : ErrorMode} {allowPurge : Bool} {q : Query} {response : Response}
    (h : Gateway.respond mode allowPurge q = .answer response) : response.status ≠ 401 := by
  unfold Gateway.respond at h
  rw [Gateway.dispatch_eq] at h
  cases ho : Gateway.order allowPurge q with
  | ok o =>
    rw [ho] at h
    cases o <;> cases h
  | error e =>
    rw [ho] at h
    cases h
    cases mode <;> simp [ApiError.render, ApiError.ofCaller, ApiError.isCallerError, ApiError.response, Response.json,
      ErrorKind.status]

/-- Without the gateway its path is not open, nor has it a route. -/
theorem gatewayPath_closed (hbuild : App.build s = .ok app) (hdisabled : s.gateway.enabled = false) :
    app.authenticator.isExempt "/dev" = false ∧ app.router.find? "/dev" = none := by
  have happ := App.built_of_build hbuild
  constructor
  · rw [Bool.eq_false_iff, ne_eq, happ.isExempt_iff, hdisabled]
    decide
  · rw [happ.find?_router, App.find?_table, hdisabled]
    rfl

theorem refused_of_disabled (hbuild : App.build s = .ok app) (hmethod : r.method = "GET") (hpath : r.path = "/dev")
    (hheader : r.value? "authorization" = none) (hdisabled : s.gateway.enabled = false) :
    ∃ response, app.handle now r = .answer response ∧ response.status = 401 := by
  have hclosed : app.authenticator.isExempt r.path = false := hpath ▸ (gatewayPath_closed hbuild hdisabled).1
  have hcors : s.enableCors = true → r.method ≠ "OPTIONS" := fun _ => by rw [hmethod]; decide
  exact handle_of_unidentified (App.built_of_build hbuild) hcors hclosed (.missing hheader)

theorem runsGateway_of_enabled (hbuild : App.build s = .ok app) (hmethod : r.method = "GET") (hpath : r.path = "/dev")
    (henabled : s.gateway.enabled = true) : RunsGateway s app now r := by
  have happ := App.built_of_build hbuild
  have hcors : s.enableCors = true → r.method ≠ "OPTIONS" := fun _ => by rw [hmethod]; decide
  have hopen : app.authenticator.isExempt r.path = true :=
    (happ.isExempt_iff r.path).2 (.inr (.inr ⟨henabled, hpath ▸ List.prefix_refl _⟩))
  have hroute : app.router.find? r.path = some (Service.gateway s.gateway) := by
    rw [happ.find?_router, App.find?_table, hpath, henabled]
    rfl
  rw [RunsGateway, handle_of_exempt happ hcors hopen]
  simp only [App.routed, Service.answer, hroute, hmethod, if_true]
  rfl

/-- Who asks for the gateway without a token reaches it just where it is enabled. -/
theorem runsGateway_iff (hbuild : App.build s = .ok app) (hmethod : r.method = "GET") (hpath : r.path = "/dev")
    (hheader : r.value? "authorization" = none) : RunsGateway s app now r ↔ s.gateway.enabled = true := by
  refine ⟨fun hruns => ?_, runsGateway_of_enabled hbuild hmethod hpath⟩
  rw [← Bool.not_eq_false]
  intro hdisabled
  obtain ⟨response, hanswer, hstatus⟩ : ∃ response, app.handle now r = .answer response ∧ response.status = 401 :=
    refused_of_disabled hbuild hmethod hpath hheader hdisabled
  rw [RunsGateway, hanswer] at hruns
  obtain ⟨response', hrespond, hsame⟩ := Plan.map_eq_answer hruns.symm
  have hstatus' : (Service.unshared response').status = (Service.unshared response).status := by rw [hsame]
  exact status_of_respond hrespond (hstatus'.trans hstatus)

/-- **Three settings say whether the service starts, and one whom its gateway answers.** -/
theorem exposed (s : Settings) : Exposed s := by
  refine ⟨?_, ?_, ?_, ?_, fun _ _ _ => runsGateway_iff, fun _ _ _ => refused_of_disabled⟩
  all_goals
    simp only [App.build_eq]
    by_cases hproduction : s.gateway.enabled = true ∧ s.deployment = .production <;>
      by_cases hsecret : s.secret = "" <;> simp [hproduction, hsecret]

/-! ### Production -/

/-- A service that runs no action of the gateway: it has no route for it, asks the store for nothing but its health,
and does not answer on the path of the gateway but for refusals. -/
structure Shielded (app : App) : Prop where
  routes : ∀ path handler, app.router.find? path = some handler →
    handler = Service.about ∨ handler = Service.health ∨ handler = Service.whoami
  calls : ∀ now r, (app.handle now r).Asks (· = .healthCheck)
  unreached : ∀ now r, r.path = "/dev" → (app.enableCors = true → r.method ≠ "OPTIONS") →
    ∃ response, app.handle now r = .answer response ∧ (response.status = 401 ∨ response.status = 404)

variable {A : Call → Prop}

theorem asks_layers {inner : Handler} (h : ∀ v, (inner v).Asks A) (v : Visit) : (app.layers inner v).Asks A := by
  have hauth : (Service.authLayer app.authenticator inner v).Asks A := by
    unfold Service.authLayer
    split
    · exact h v
    · split
      · exact h _
      · trivial
  unfold App.layers
  cases app.enableCors with
  | false => exact hauth
  | true =>
    simp only [if_true, Service.corsLayer]
    split
    · trivial
    · exact hauth.map

/-- Only the route of a request's path is asked, and only for two methods. -/
theorem asks_handle
    (h : r.method = "GET" ∨ r.method = "HEAD" → ∀ handler, app.router.find? r.path = some handler →
      ∀ v, (handler v).Asks A) :
    (app.handle now r).Asks A := by
  have hnotFound : ∀ v, (Service.notFound v).Asks A := fun _ => trivial
  have hwrongMethod : ∀ v, (Service.wrongMethod v).Asks A := fun _ => trivial
  simp only [App.handle, Service.answer]
  split
  · exact asks_layers hnotFound _
  · rename_i handler hhandler
    split
    · rename_i hget
      exact asks_layers (h (.inl hget) handler hhandler) _
    · split
      · rename_i hhead
        exact (asks_layers (h (.inr hhead) handler hhandler) _).map
      · exact (asks_layers hwrongMethod _).map

theorem shielded_of_disabled (hbuild : App.build s = .ok app) (hdisabled : s.gateway.enabled = false) :
    Shielded app := by
  have happ := App.built_of_build hbuild
  have hroutes : ∀ path handler, app.router.find? path = some handler →
      handler = Service.about ∨ handler = Service.health ∨ handler = Service.whoami := by
    intro path handler hhandler
    rw [happ.find?_router] at hhandler
    rcases App.handler_cases hhandler with ⟨⟨-, henabled⟩, -⟩ | ⟨-, rfl⟩ | ⟨-, rfl⟩ | ⟨-, rfl⟩
    · rw [hdisabled] at henabled
      cases henabled
    · exact .inl rfl
    · exact .inr (.inl rfl)
    · exact .inr (.inr rfl)
  refine ⟨hroutes, fun now r => asks_handle fun _ handler hhandler v => ?calls,
    fun now r hpath hmethod => ?unreached⟩
  case calls =>
    rcases hroutes r.path handler hhandler with rfl | rfl | rfl
    · trivial
    · exact ⟨rfl, fun result => by cases result <;> trivial⟩
    · unfold Service.whoami
      split <;> trivial
  case unreached =>
    obtain ⟨hclosed, hroute⟩ := gatewayPath_closed hbuild hdisabled
    rw [← hpath] at hclosed hroute
    have hcors : s.enableCors = true → r.method ≠ "OPTIONS" := happ.cors ▸ hmethod
    rcases unidentified_or_identified now s.secret r with hunidentified | ⟨c, token, hidentified⟩
    · obtain ⟨response, hanswer, hstatus⟩ := handle_of_unidentified happ hcors hclosed hunidentified
      exact ⟨response, hanswer, .inl hstatus⟩
    · have hadmitted := handle_of_identified happ hcors hclosed hidentified
      rw [routed_of_none hroute] at hadmitted
      obtain ⟨response, hanswer, hsame⟩ := Plan.map_eq_answer hadmitted
      have hstatus : (Service.unshared response).status = (Service.unshared (.empty 404)).status := by rw [hsame]
      exact ⟨response, hanswer, .inr hstatus⟩

end Exposed

theorem deployment_of_production {env : Environment}
    (h : env "APP_ENV" = some "production" ∨ env "APP_ENV" = some "prod") :
    (Settings.ofEnvironment env).deployment = .production := by
  have hname : Settings.override env "APP_ENV" Deployment.ofName? .development = .production := by
    rcases h with h | h <;> rw [Settings.override, h] <;> rfl
  simp only [Settings.ofEnvironment, hname]
  rfl

/-- **The gateway is exposed as the environment says,** and never in production: whatever the other variables are, the
service then runs none of its actions, if it starts. -/
theorem exposure (env : Environment) : Exposed (Settings.ofEnvironment env) ∧
    (env "APP_ENV" = some "production" ∨ env "APP_ENV" = some "prod" →
      ∀ app, App.build (Settings.ofEnvironment env) = .ok app → Shielded app) := by
  refine ⟨exposed _, fun hproduction app hbuild => shielded_of_disabled hbuild ?_⟩
  rw [← Bool.not_eq_true]
  exact fun henabled => (App.built_of_build hbuild).allowed ⟨henabled, deployment_of_production hproduction⟩

end Postern
