import Postern.Proofs.Http.Literal
import Postern.Proofs.Pattern.Anchored
import Postern.Service.App

/-!
What the service is put together from.  It starts unless it is not allowed to or has no secret (`build_eq`).  Then its
authenticator knows the secret and lets pass the paths that are open (`Built.isExempt_iff`), and its router finds what
was drawn for the settings (`Built.find?_router`).
-/

namespace Postern.App

/-! ### The authenticator -/

def publicPaths : List (String × Pattern) :=
  [("^/$", .exactly "/".toList), ("^/health$", .exactly "/health".toList)]

/-- The patterns of the paths that need no token. -/
def openPaths (s : Settings) : List (String × Pattern) :=
  if s.gateway.enabled then publicPaths ++ [("^/dev", .beginning "/dev".toList)] else publicPaths

theorem mapM_exempt_public (secret : String) :
    (Authenticator.ofSecret? secret).mapM (fun a => publicPatterns.foldlM exempt a) =
      .ok (if secret = "" then none else some ⟨secret, publicPaths⟩) := by
  unfold Authenticator.ofSecret?
  split <;> rfl

theorem registerGateway_public (secret : String) :
    registerGateway (some ⟨secret, publicPaths⟩) =
      .ok ⟨secret, publicPaths ++ [("^/dev", .beginning "/dev".toList)]⟩ :=
  rfl

theorem authenticatorFor_eq (s : Settings) : authenticatorFor s =
    if s.gateway.enabled ∧ s.deployment = .production then .error .gatewayInProduction
    else if s.secret = "" then .error .authenticatorMissing
    else .ok ⟨s.secret, openPaths s⟩ := by
  unfold authenticatorFor openPaths
  rw [mapM_exempt_public]
  cases s.gateway.enabled with
  | false => by_cases hsecret : s.secret = "" <;> simp [hsecret] <;> rfl
  | true =>
    by_cases hproduction : s.deployment = .production
    · simp [hproduction]
      rfl
    · by_cases hsecret : s.secret = ""
      · simp [hproduction, hsecret]
        rfl
      · simp [hproduction, hsecret]
        exact registerGateway_public s.secret

/-- **Whether the service starts.** -/
theorem build_eq (s : Settings) : build s =
    if s.gateway.enabled ∧ s.deployment = .production then .error .gatewayInProduction
    else if s.secret = "" then .error .authenticatorMissing
    else .ok ⟨(table s).router?.getD ⟨[]⟩, ⟨s.secret, openPaths s⟩, s.enableCors⟩ := by
  unfold build
  rw [authenticatorFor_eq]
  split
  · rfl
  · split <;> rfl

theorem exists_build {s : Settings} (hallowed : ¬ (s.gateway.enabled = true ∧ s.deployment = .production))
    (hsecret : s.secret ≠ "") : ∃ app, build s = .ok app := by
  have hbuild := build_eq s
  rw [if_neg hallowed, if_neg hsecret] at hbuild
  exact ⟨_, hbuild⟩

/-! ### The routes -/

theorem entries_table (s : Settings) : (table s).entries =
    (if s.gateway.enabled then [("/dev", Service.gateway s.gateway)] else []) ++ Service.applicationRoutes := by
  unfold table Service.draw
  cases s.gateway.enabled <;> rfl

theorem paths_table (s : Settings) : (table s).paths =
    (if s.gateway.enabled then ["/dev"] else []) ++ ["/", "/health", "/api/auth/whoami"] := by
  rw [RouteTable.paths, entries_table]
  cases s.gateway.enabled <;> rfl

theorem literal_table (s : Settings) : ∀ path ∈ (table s).paths, IsLiteral path := by
  rw [paths_table]
  cases s.gateway.enabled <;> decide

theorem find?_application (path : String) : (Service.applicationRoutes.find? (·.1 = path)).map (·.2) =
    if path = "/" then some Service.about
    else if path = "/health" then some Service.health
    else if path = "/api/auth/whoami" then some Service.whoami
    else none := by
  simp only [Service.applicationRoutes, List.find?_cons, List.find?_nil, eq_comm (b := path)]
  by_cases hroot : path = "/"
  · simp [hroot]
  · by_cases hhealth : path = "/health"
    · simp [hhealth]
    · by_cases hwhoami : path = "/api/auth/whoami" <;> simp [hroot, hhealth, hwhoami]

theorem find?_table (s : Settings) (path : String) : (table s).find? path =
    if path = "/dev" ∧ s.gateway.enabled then some (Service.gateway s.gateway)
    else if path = "/" then some Service.about
    else if path = "/health" then some Service.health
    else if path = "/api/auth/whoami" then some Service.whoami
    else none := by
  rw [RouteTable.find?, entries_table, List.find?_append, ← find?_application]
  cases s.gateway.enabled with
  | false => simp
  | true => by_cases hdev : path = "/dev" <;> simp [hdev, eq_comm]

theorem handler_cases {s : Settings} {path : String} {handler : Handler} (h : (table s).find? path = some handler) :
    ((path = "/dev" ∧ s.gateway.enabled = true) ∧ handler = Service.gateway s.gateway) ∨
      (path = "/" ∧ handler = Service.about) ∨ (path = "/health" ∧ handler = Service.health) ∨
      (path = "/api/auth/whoami" ∧ handler = Service.whoami) := by
  rw [find?_table] at h
  split at h
  · exact .inl ⟨‹_›, (Option.some.inj h).symm⟩
  · split at h
    · exact .inr (.inl ⟨‹_›, (Option.some.inj h).symm⟩)
    · split at h
      · exact .inr (.inr (.inl ⟨‹_›, (Option.some.inj h).symm⟩))
      · split at h
        · exact .inr (.inr (.inr ⟨‹_›, (Option.some.inj h).symm⟩))
        · cases h

theorem isSome_find?_table (s : Settings) (path : String) : ((table s).find? path).isSome = true ↔
    path ∈ (if s.gateway.enabled then ["/dev"] else []) ++ ["/", "/health", "/api/auth/whoami"] := by
  rw [← paths_table, RouteTable.find?, Option.isSome_map, List.find?_isSome, RouteTable.paths, List.mem_map]
  simp only [decide_eq_true_eq]

/-! ### The service -/

/-- What the service for some settings consists of. -/
structure Built (s : Settings) (app : App) : Prop where
  allowed : ¬ (s.gateway.enabled = true ∧ s.deployment = .production)
  secret : s.secret ≠ ""
  authenticator : app.authenticator = ⟨s.secret, openPaths s⟩
  cors : app.enableCors = s.enableCors
  find?_router : ∀ path, app.router.find? path = (table s).find? path

theorem built_of_build {s : Settings} {app : App} (h : build s = .ok app) : Built s app := by
  rw [build_eq] at h
  split at h
  · cases h
  · rename_i hallowed
    split at h
    · cases h
    · rename_i hsecret
      obtain rfl := Except.ok.inj h
      obtain ⟨router, hrouter, hfind⟩ := RouteTable.router?_of_literal (literal_table s)
      refine ⟨hallowed, hsecret, rfl, rfl, fun path => ?_⟩
      rw [hrouter]
      exact hfind path

/-- **Which paths need no token.** -/
theorem Built.isExempt_iff {s : Settings} {app : App} (h : Built s app) (path : String) :
    app.authenticator.isExempt path = true ↔
      path = "/" ∨ path = "/health" ∨ (s.gateway.enabled = true ∧ "/dev".toList <+: path.toList) := by
  rw [h.authenticator, Authenticator.isExempt, openPaths, publicPaths]
  cases s.gateway.enabled <;>
    simp only [Bool.false_eq_true, if_false, if_true, List.cons_append, List.nil_append, List.any_cons, List.any_nil,
      Bool.or_false, Bool.or_eq_true, Pattern.matcher_isMatch, Pattern.isMatch_exactly, Pattern.isMatch_beginning,
      false_and, or_false, true_and]

end Postern.App
