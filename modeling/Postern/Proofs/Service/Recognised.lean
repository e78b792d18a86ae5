import Postern.Proofs.Service.Gate

/-!
Tokens at the service.  A token that is accepted can be sent (`exists_asksWho`), and whoever sends it is told whom it
stands for (`handle_asksWho`).  So the service knows the claims again for which it has issued a token (`recognised`).
-/

namespace Postern

/-- A request for the user that brings a token. -/
structure AsksWho (r : HttpRequest) (token : String) : Prop where
  method : r.method = "GET"
  path : r.path = "/api/auth/whoami"
  header : r.value? "authorization" = some ("Bearer " ++ token)

theorem exists_asksWho {token : String} (h : HttpRequest.isTextValue ("Bearer " ++ token) = true) :
    ∃ r, HttpRequest.ofParts? "GET" "/api/auth/whoami" [("Authorization", "Bearer " ++ token)] = some r ∧
      AsksWho r token := by
  have hmethod : HttpRequest.isMethod "GET" = true := by decide
  have htarget : HttpRequest.target? "/api/auth/whoami" = some ("/api/auth/whoami", none) := by decide
  have hname : HttpRequest.isHeaderName "Authorization" = true := by decide
  have hlower : "Authorization".map Char.toLower = "authorization" := by
    rw [← String.toList_inj, String.toList_map]
    decide
  have hheader : HttpRequest.header? ("Authorization", "Bearer " ++ token) =
      some ("authorization", "Bearer " ++ token) := by
    simp [HttpRequest.header?, hname, hlower, Token.isHeaderValue_of_isTextValue h]
  refine ⟨⟨"GET", "/api/auth/whoami", none, [("authorization", "Bearer " ++ token)]⟩, ?_, rfl, rfl, rfl⟩
  simp [HttpRequest.ofParts?, hmethod, htarget, hheader]

theorem handle_asksWho {s : Settings} {app : App} (hbuild : App.build s = .ok app) {now : Instant} {r : HttpRequest}
    {token : String} (hr : AsksWho r token) {c : Claims} (hidentified : Identified now s.secret r c token) :
    app.handle now r = .answer (Service.framed app.enableCors (.json 200 (Service.userJson c.user))) := by
  have happ := App.built_of_build hbuild
  have hcors : s.enableCors = true → r.method ≠ "OPTIONS" := fun _ => by rw [hr.method]; decide
  have hclosed : app.authenticator.isExempt r.path = false := hr.path ▸ whoami_closed happ
  have hroute : app.router.find? r.path = some Service.whoami := hr.path ▸ find?_whoami happ
  have hlayers : app.layers Service.whoami ⟨now, r, none⟩ =
      (Service.whoami ⟨now, r, some c.user⟩).map (Service.framed app.enableCors) :=
    layers_of_identified happ hcors hclosed hidentified _
  simp only [App.handle, Service.answer, hroute, hr.method, if_true]
  rw [hlayers]
  rfl

/-- What a token for claims is good for at a time. -/
structure Recognised (now : Instant) (secret : String) (c : Claims) (token : String) : Prop where
  issue : Token.issue secret c = .ok token
  verify : Token.verify now.seconds secret token = .ok c
  /-- It can be sent. -/
  sent : ∃ r, HttpRequest.ofParts? "GET" "/api/auth/whoami" [("Authorization", "Bearer " ++ token)] = some r ∧
    AsksWho r token
  /-- Whoever sends it is told whom it stands for. -/
  told : ∀ s app r, App.build s = .ok app → s.secret = secret → AsksWho r token → ∃ response,
    app.handle now r = .answer response ∧ response.status = 200 ∧
      response.header? "content-type" = some "application/json" ∧
        Json.read? response.body = some (.obj [("account", .str c.account), ("role_id", .str c.sub)])

/-- **Tokens go round.**  Claims that are not over can be issued, and the token is accepted for them.  A service with
the same secret then names their role and account. -/
theorem recognised {now : Instant} {secret : String} (hsecret : secret ≠ "") {c : Claims} (hexp : Token.IsLong c.exp)
    (hiat : Token.IsLong c.iat) (hpositive : 0 ≤ c.exp) (hlive : now.seconds - 60 ≤ c.exp) :
    ∃ token, Recognised now secret c token := by
  have hverify : Token.verify now.seconds secret (Token.tokenOf secret c) = .ok c :=
    Token.verify_tokenOf hsecret hexp hiat hpositive hlive
  refine ⟨Token.tokenOf secret c, Token.issue_eq hsecret, hverify, exists_asksWho Token.isTextValue_bearer, ?_⟩
  rintro s app r hbuild rfl hr
  have hidentified : Identified now s.secret r c (Token.tokenOf s.secret c) :=
    ⟨hr.header, Token.isTextValue_bearer, Token.isAllBlank_tokenOf, hverify⟩
  have hfits : Json.Fits Json.maxDepth (Service.userJson c.user) := by
    rw [userJson_eq]
    simp [Json.Fits, Json.maxDepth]
  refine ⟨_, handle_asksWho hbuild hr hidentified, ?_, ?_, ?_⟩
  · rw [Service.status_framed]
    rfl
  · cases app.enableCors <;> rfl
  · have hbody : (Service.framed app.enableCors (.json 200 (Service.userJson c.user))).body =
        (Service.userJson c.user).compact := by
      cases app.enableCors <;> rfl
    rw [hbody, Json.read?_compact hfits, userJson_eq]
    rfl

/-- A role that is asked for in development. -/
theorem recognised_development :
    let s := Settings.ofDeployment .development
    let c : Claims := ⟨"cucumber:user:alice", "cucumber", 3600, 0⟩
    s.secret ≠ "" ∧ Token.IsLong c.exp ∧ Token.IsLong c.iat ∧ 0 ≤ c.exp ∧ (default : Instant).seconds - 60 ≤ c.exp ∧
      ∃ token app, App.build s = .ok app ∧ Recognised default s.secret c token := by
  intro s c
  have hsecret : s.secret ≠ "" := by decide
  have hexp : Token.IsLong c.exp := ⟨by decide, by decide⟩
  have hiat : Token.IsLong c.iat := ⟨by decide, by decide⟩
  have hpositive : 0 ≤ c.exp := by decide
  have hlive : (default : Instant).seconds - 60 ≤ c.exp := by decide
  obtain ⟨app, hbuild⟩ : ∃ app, App.build s = .ok app := App.exists_build (by decide) hsecret
  obtain ⟨token, htoken⟩ := recognised hsecret hexp hiat hpositive hlive
  exact ⟨hsecret, hexp, hiat, hpositive, hlive, token, app, hbuild, htoken⟩

end Postern
