import Mathlib.Tactic.ByContra
import Postern.Proofs.Gateway.Refusals
import Postern.Proofs.Service.Exposure

/-!
Which methods act.  Routes are there for GET and for HEAD, and a request of any other method asks nothing of the store
(`made_of_otherMethod`).  HEAD is answered by the handler of GET, of whose answer it only drops the body.  So on the
path of the gateway it runs the action that its query asks for (`handle_head`), which no other method than GET does
(`acts_iff`).
-/

namespace Postern

section
variable {s : Settings} {app : App} {now : Instant} {r : HttpRequest} {σ : Type} (b : Backend σ) (t : σ)

theorem made_of_otherMethod (hget : r.method ≠ "GET") (hhead : r.method ≠ "HEAD") :
    (app.handle now r).made b t = [] := by
  have hasks : (app.handle now r).Asks fun _ => False := by
    refine asks_handle fun hmethod => ?_
    rcases hmethod with h | h
    · exact absurd h hget
    · exact absurd h hhead
  exact List.eq_nil_iff_forall_not_mem.2 fun c hc => hasks.of_mem_made hc

/-- Beside the gateway the store is asked for nothing but its health. -/
theorem asks_beside_gateway (hbuild : App.build s = .ok app) (hpath : r.path ≠ "/dev") :
    (app.handle now r).Asks (· = .healthCheck) := by
  refine asks_handle fun _ handler hhandler v => ?_
  rw [(App.built_of_build hbuild).find?_router] at hhandler
  rcases App.handler_cases hhandler with ⟨⟨hdev, -⟩, -⟩ | ⟨-, rfl⟩ | ⟨-, rfl⟩ | ⟨-, rfl⟩
  · exact absurd hdev hpath
  · trivial
  · exact ⟨rfl, fun result => by cases result <;> trivial⟩
  · unfold Service.whoami
    split <;> trivial

/-- **On the path of the gateway HEAD runs the action of its query,** as GET does. -/
theorem handle_head (hbuild : App.build s = .ok app) (henabled : s.gateway.enabled = true) (hpath : r.path = "/dev")
    (hhead : r.method = "HEAD") :
    app.handle now r = (Gateway.respond s.gateway.errorMode s.gateway.allowPurge r.parameters).map fun response =>
      Service.withoutBody (Service.framed app.enableCors response) := by
  have happ := App.built_of_build hbuild
  have hopen : app.authenticator.isExempt r.path = true :=
    (happ.isExempt_iff r.path).2 (.inr (.inr ⟨henabled, hpath ▸ List.prefix_refl _⟩))
  have hroute : app.router.find? r.path = some (Service.gateway s.gateway) := by
    rw [happ.find?_router, App.find?_table, hpath, henabled]
    rfl
  have hcors : s.enableCors = true → r.method ≠ "OPTIONS" := fun _ => by rw [hhead]; decide
  have hlayers : app.layers (Service.gateway s.gateway) ⟨now, r, none⟩ =
      (Service.gateway s.gateway ⟨now, r, none⟩).map (Service.framed app.enableCors) :=
    layers_of_exempt happ hcors hopen _
  simp only [App.handle, Service.answer, hroute, hhead, if_true]
  rw [hlayers, Plan.map_map]
  rfl

/-- What becomes of the store under HEAD is what becomes of it under the query. -/
theorem run_handle_head (hbuild : App.build s = .ok app) (henabled : s.gateway.enabled = true)
    (hpath : r.path = "/dev") (hhead : r.method = "HEAD") :
    ((app.handle now r).run b t).2 = (Gateway.serve b s.gateway.allowPurge r.parameters t).2 := by
  rw [handle_head hbuild henabled hpath hhead, Plan.run_map, Gateway.respond, Plan.run_map]
  rfl

theorem made_handle_head (hbuild : App.build s = .ok app) (henabled : s.gateway.enabled = true)
    (hpath : r.path = "/dev") (hhead : r.method = "HEAD") :
    (app.handle now r).made b t = (Gateway.dispatch s.gateway.allowPurge r.parameters).made b t := by
  rw [handle_head hbuild henabled hpath hhead, Plan.made_map, Gateway.respond, Plan.made_map]

theorem run_beside_gateway (hbuild : App.build s = .ok app) (hpath : r.path ≠ "/dev") (keys : KeySource) (m : Memory) :
    ((app.handle now r).run (Memory.backend keys) m).2 = m := by
  have hstep : ∀ c m', c = Call.healthCheck → m' = m → ((Memory.backend keys).perform c m').2 = m := by
    rintro c m' rfl rfl
    rfl
  exact Plan.run_keeps (P := (· = m)) hstep (asks_beside_gateway hbuild hpath) rfl

/-- What makes no call leaves the store as it is. -/
theorem run_of_made_nil {α : Type} {p : Plan α} (h : p.made b t = []) : (p.run b t).2 = t := by
  cases p with
  | answer a => rfl
  | call c next => cases h

end

/-- **What acts besides GET:** HEAD on the path of the gateway, and nothing else.  It makes calls if its query is an
order, and it changes the store if the order does.  The other methods are refused on that path. -/
theorem acts_iff {s : Settings} {app : App} (hbuild : App.build s = .ok app) (henabled : s.gateway.enabled = true)
    {r : HttpRequest} (hmethod : r.method ≠ "GET") (now : Instant) (keys : KeySource) (m : Memory) :
    (((app.handle now r).run (Memory.backend keys) m).2 ≠ m ↔
      r.method = "HEAD" ∧ r.path = "/dev" ∧
        (Gateway.serve (Memory.backend keys) s.gateway.allowPurge r.parameters m).2 ≠ m) ∧
    (r.path = "/dev" →
      ((app.handle now r).made (Memory.backend keys) m ≠ [] ↔
        r.method = "HEAD" ∧ ∃ o, Gateway.order s.gateway.allowPurge r.parameters = .ok o) ∧
      (r.method ≠ "HEAD" → (s.enableCors = true → r.method ≠ "OPTIONS") →
        ∃ response, app.handle now r = .answer response ∧ response.status = 405)) := by
  refine ⟨⟨fun hchanged => ?changed, ?_⟩, fun hpath => ⟨⟨fun hmade => ?made, ?_⟩, fun hhead hcors => ?refused⟩⟩
  case changed =>
    have hpath : r.path = "/dev" := by
      by_contra hne
      exact hchanged (run_beside_gateway hbuild hne keys m)
    have hhead : r.method = "HEAD" := by
      by_contra hne
      exact hchanged (run_of_made_nil _ _ (made_of_otherMethod _ m hmethod hne))
    rw [run_handle_head _ m hbuild henabled hpath hhead] at hchanged
    exact ⟨hhead, hpath, hchanged⟩
  · rintro ⟨hhead, hpath, hchanged⟩
    rwa [run_handle_head _ m hbuild henabled hpath hhead]
  case made =>
    have hhead : r.method = "HEAD" := by
      by_contra hne
      exact hmade (made_of_otherMethod _ m hmethod hne)
    rw [made_handle_head _ m hbuild henabled hpath hhead, ne_eq, Gateway.made_dispatch_eq_nil_iff] at hmade
    cases ho : Gateway.order s.gateway.allowPurge r.parameters with
    | ok o => exact ⟨hhead, o, rfl⟩
    | error e => exact absurd ⟨e, ho⟩ hmade
  · rintro ⟨hhead, o, ho⟩
    rw [made_handle_head _ m hbuild henabled hpath hhead, ne_eq, Gateway.made_dispatch_eq_nil_iff, ho]
    rintro ⟨e, he⟩
    cases he
  case refused =>
    have happ := App.built_of_build hbuild
    have hopen : app.authenticator.isExempt r.path = true :=
      (happ.isExempt_iff r.path).2 (.inr (.inr ⟨henabled, hpath ▸ List.prefix_refl _⟩))
    have hroute : app.router.find? r.path = some (Service.gateway s.gateway) := by
      rw [happ.find?_router, App.find?_table, hpath, henabled]
      rfl
    have hpassed : (app.handle now r).map Service.unshared = (app.routed ⟨now, r, none⟩).map Service.unshared :=
      handle_of_exempt happ hcors hopen
    rw [routed_of_wrongMethod hroute hmethod hhead] at hpassed
    obtain ⟨response, hanswer, hsame⟩ := Plan.map_eq_answer hpassed
    have hstatus := congrArg Response.status hsame
    exact ⟨response, hanswer, hstatus⟩

/-- A purge by POST is refused, and the account is still there. -/
theorem acts_iff_post :
    let s := Settings.ofDeployment .development
    let r : HttpRequest := ⟨"POST", "/dev", some "action=purge", []⟩
    let m := Memory.addAccount (fun _ => "key") "a" .empty
    ∃ app, App.build s = .ok app ∧ ((app.handle default r).run (Memory.backend fun _ => "key") m).2 = m ∧
      ∃ response, app.handle default r = .answer response ∧ response.status = 405 := by
  intro s r m
  obtain ⟨app, hbuild⟩ : ∃ app, App.build s = .ok app := App.exists_build (by decide) (by decide)
  have hmethod : r.method ≠ "GET" := by decide
  have hpost : r.method ≠ "HEAD" := by decide
  obtain ⟨hchanged, hdev⟩ := acts_iff hbuild rfl hmethod default (fun _ => "key") m
  refine ⟨_, hbuild, ?_, (hdev rfl).2 hpost fun _ => by decide⟩
  by_contra hne
  exact hpost (hchanged.1 hne).1

/-- An account is created by HEAD. -/
theorem head_creates_account :
    let s := Settings.ofDeployment .development
    let r : HttpRequest := ⟨"HEAD", "/dev", some "action=create_account&id=cucumber", []⟩
    ∃ app, App.build s = .ok app ∧ s.gateway.enabled = true ∧ r.method ≠ "GET" ∧
      ((app.handle default r).run (Memory.backend fun _ => "key") .empty).2 ≠ .empty ∧
      (app.handle default r).made (Memory.backend fun _ => "key") .empty ≠ [] := by
  intro s r
  obtain ⟨app, hbuild⟩ : ∃ app, App.build s = .ok app := App.exists_build (by decide) (by decide)
  have hcreated : (Gateway.serve (Memory.backend fun _ => "key") s.gateway.allowPurge r.parameters .empty).2.accounts =
      ["cucumber"] := by decide +kernel
  refine ⟨_, hbuild, rfl, by decide, fun hsame => ?_, fun hnone => ?_⟩
  · rw [run_handle_head _ _ hbuild rfl rfl rfl] at hsame
    rw [hsame] at hcreated
    cases hcreated
  · have hsame := run_of_made_nil _ _ hnone
    rw [run_handle_head _ _ hbuild rfl rfl rfl] at hsame
    rw [hsame] at hcreated
    cases hcreated

end Postern
