import Postern.Proofs.Plan
import Postern.Proofs.Service.Built
import Postern.Proofs.Token.Issued

/-!
The gate in front of the service.  On a path that needs a token the answer is a refusal or that of the routes with the
user of the token; on any other path it is that of the routes without a user (`gated`).  What the layers do around a
handler does not depend on the handler, so it is said once for all of them (`layers_eq`, `answer_of_layers`).
-/

namespace Postern

/-! ### Credentials -/

/-- A request does not say whose it is: its first `authorization` header is not there, is no text, does not begin as it
must, has nothing but blanks after that, or brings a token that is not accepted. -/
inductive Unidentified (now : Instant) (secret : String) (r : HttpRequest) : Prop
  | missing (h : r.value? "authorization" = none)
  | notText {value : String} (h : r.value? "authorization" = some value)
    (htext : HttpRequest.isTextValue value = false)
  | notBearer {value : String} (h : r.value? "authorization" = some value)
    (hscheme : ¬ "Bearer ".toList <+: value.toList)
  | blank {token : String} (h : r.value? "authorization" = some ("Bearer " ++ token))
    (hblank : Text.isAllBlank token = true)
  | rejected {token : String} (h : r.value? "authorization" = some ("Bearer " ++ token)) {e : Token.Error}
    (hverify : Token.verify now.seconds secret token = .error e)

/-- A request brings a token that is accepted, with these claims. -/
structure Identified (now : Instant) (secret : String) (r : HttpRequest) (c : Claims) (token : String) : Prop where
  header : r.value? "authorization" = some ("Bearer " ++ token)
  text : HttpRequest.isTextValue ("Bearer " ++ token) = true
  notBlank : Text.isAllBlank token = false
  verified : Token.verify now.seconds secret token = .ok c

namespace Authenticator
variable {a : Authenticator} {now : Instant} {r : HttpRequest}

theorem token_of_header {token : String} (h : r.value? "authorization" = some ("Bearer " ++ token)) :
    Authenticator.token r =
      if HttpRequest.isTextValue ("Bearer " ++ token) = false then .error .notText
      else if Text.isAllBlank token = true then .error .blank else .ok token := by
  have hscheme : scheme.isPrefixOf ("Bearer " ++ token).toList = true := by
    simp [scheme]
  have hdrop : String.ofList (("Bearer " ++ token).toList.drop scheme.length) = token := by
    simp [scheme]
  simp only [Authenticator.token, h, hscheme, hdrop]
  cases HttpRequest.isTextValue ("Bearer " ++ token) <;> simp

theorem authenticate_of_token {e : CredentialError} (h : Authenticator.token r = .error e) :
    a.authenticate now r = .error e := by
  simp only [authenticate, h]

theorem authenticate_of_unidentified (h : Unidentified now a.secret r) : ∃ e, a.authenticate now r = .error e := by
  cases h with
  | missing h => exact ⟨.missing, authenticate_of_token (by simp [Authenticator.token, h])⟩
  | notText h htext => exact ⟨.notText, authenticate_of_token (by simp [Authenticator.token, h, htext])⟩
  | @notBearer value h hscheme =>
    have hprefix : scheme.isPrefixOf value.toList = false := by
      rw [Bool.eq_false_iff, ne_eq, List.isPrefixOf_iff_prefix]
      exact hscheme
    cases htext : HttpRequest.isTextValue value with
    | false => exact ⟨.notText, authenticate_of_token (by simp [Authenticator.token, h, htext])⟩
    | true => exact ⟨.notBearer, authenticate_of_token (by simp [Authenticator.token, h, htext, hprefix])⟩
  | @blank token h hblank =>
    have htoken := token_of_header h
    cases htext : HttpRequest.isTextValue ("Bearer " ++ token) with
    | false => exact ⟨.notText, authenticate_of_token (by simp [htoken, htext])⟩
    | true => exact ⟨.blank, authenticate_of_token (by simp [htoken, htext, hblank])⟩
  | @rejected token h e hverify =>
    have htoken := token_of_header h
    split at htoken
    · exact ⟨.notText, authenticate_of_token htoken⟩
    · split at htoken
      · exact ⟨.blank, authenticate_of_token htoken⟩
      · exact ⟨.refused e, by simp only [authenticate, htoken, hverify]⟩

theorem authenticate_of_identified {c : Claims} {token : String} (h : Identified now a.secret r c token) :
    a.authenticate now r = .ok c.user := by
  have htoken : Authenticator.token r = .ok token := by
    rw [token_of_header h.header, h.text, h.notBlank]
    rfl
  simp only [authenticate, htoken, h.verified]

end Authenticator

theorem unidentified_or_identified (now : Instant) (secret : String) (r : HttpRequest) :
    Unidentified now secret r ∨ ∃ c token, Identified now secret r c token := by
  cases hvalue : r.value? "authorization" with
  | none => exact .inl (.missing hvalue)
  | some value =>
    cases htext : HttpRequest.isTextValue value with
    | false => exact .inl (.notText hvalue htext)
    | true =>
      by_cases hscheme : "Bearer ".toList <+: value.toList
      · obtain ⟨rest, hrest⟩ := hscheme
        obtain rfl : value = "Bearer " ++ String.ofList rest := by
          rw [← String.toList_inj, ← hrest]
          simp
        cases hblank : Text.isAllBlank (String.ofList rest) with
        | true => exact .inl (.blank hvalue hblank)
        | false =>
          cases hverify : Token.verify now.seconds secret (String.ofList rest) with
          | error e => exact .inl (.rejected hvalue hverify)
          | ok c => exact .inr ⟨c, _, hvalue, htext, hblank, hverify⟩
      · exact .inl (.notBearer hvalue hscheme)

/-! ### Layers -/

namespace Service

/-- A response for other sites, where they are let in. -/
def framed (cors : Bool) (r : Response) : Response := if cors then shared r else r

/-- The names of the headers that other sites read. -/
def sharedNames : List String := ["access-control-allow-origin", "access-control-expose-headers", "vary"]

/-- A response without the headers for other sites. -/
def unshared (r : Response) : Response := { r with headers := r.headers.filter fun h => !sharedNames.contains h.1 }

section
variable (cors : Bool) (r : Response)

@[simp] theorem status_framed : (framed cors r).status = r.status := by
  cases cors <;> rfl

@[simp] theorem unshared_framed : unshared (framed cors r) = unshared r := by
  cases cors with
  | false => rfl
  | true => simp [framed, unshared, shared, sharedNames, anyOrigin, varyHeader]

@[simp] theorem unshared_withoutBody : unshared (withoutBody r) = withoutBody (unshared r) := rfl

@[simp] theorem unshared_withMethods : unshared (withMethods r) = withMethods (unshared r) := by
  simp [unshared, withMethods, sharedNames]

end

/-- A request that the answers for other sites do not settle is answered behind the authenticator. -/
theorem layers_eq {app : App} {v : Visit} (h : app.enableCors = true → v.request.method ≠ "OPTIONS")
    (inner : Handler) : app.layers inner v = (authLayer app.authenticator inner v).map (framed app.enableCors) := by
  unfold App.layers
  cases hcors : app.enableCors with
  | false => exact (Plan.map_id _).symm
  | true => exact if_neg (h hcors)

/-- Where the layers hand a request on, the answer is that of the routes alone, but for headers for other sites. -/
theorem answer_of_layers {layers : Layer} {router : Router Handler} {v v' : Visit} (cors : Bool)
    (hrequest : v'.request = v.request) (h : ∀ inner, layers inner v = (inner v').map (framed cors)) :
    (answer layers router v).map unshared = (answer id router v').map unshared := by
  unfold answer
  rw [hrequest]
  cases router.find? v.request.path with
  | none => simp [h, Plan.map_map]
  | some handler =>
    by_cases hget : v.request.method = "GET"
    · simp [h, hget, Plan.map_map]
    · by_cases hhead : v.request.method = "HEAD"
      · simp [h, hhead, Plan.map_map]
      · simp [h, hget, hhead, Plan.map_map]

/-- Where they refuse a request, it is refused whatever its route and its method are. -/
theorem answer_of_refusal {layers : Layer} {v : Visit} {refusal : Response}
    (h : ∀ inner, layers inner v = .answer refusal) (router : Router Handler) :
    ∃ r, answer layers router v = .answer r ∧ r.status = refusal.status := by
  unfold answer
  cases router.find? v.request.path with
  | none => exact ⟨refusal, h notFound, rfl⟩
  | some handler =>
    by_cases hget : v.request.method = "GET"
    · exact ⟨refusal, by simp [h, hget], rfl⟩
    · by_cases hhead : v.request.method = "HEAD"
      · exact ⟨withoutBody refusal, by simp [h, hhead, Plan.map], rfl⟩
      · exact ⟨withMethods refusal, by simp [h, hget, hhead, Plan.map], rfl⟩

end Service

/-! ### The gate -/

/-- What the drawn routes answer by themselves. -/
def App.routed (app : App) : Handler := Service.answer id app.router

section Routed
variable {s : Settings} {app : App} {now : Instant} {r : HttpRequest}

theorem handler_ignores_headers {path : String} {handler : Handler}
    (h : (App.table s).find? path = some handler) (v : Visit) (headers : List (String × String)) :
    handler { v with request := { v.request with headers := headers } } = handler v := by
  rcases App.handler_cases h with ⟨-, rfl⟩ | ⟨-, rfl⟩ | ⟨-, rfl⟩ | ⟨-, rfl⟩ <;> rfl

theorem handler_ignores_user {path : String} {handler : Handler} (h : (App.table s).find? path = some handler)
    (hpath : path ≠ "/api/auth/whoami") (v : Visit) (user : Option User) :
    handler { v with user := user } = handler v := by
  rcases App.handler_cases h with ⟨-, rfl⟩ | ⟨-, rfl⟩ | ⟨-, rfl⟩ | ⟨rfl, -⟩
  · rfl
  · rfl
  · rfl
  · exact absurd rfl hpath

theorem routed_of_none (h : app.router.find? r.path = none) (user : Option User) :
    app.routed ⟨now, r, user⟩ = .answer (.empty 404) := by
  simp only [App.routed, Service.answer, h]
  rfl

theorem routed_of_wrongMethod {handler : Handler} (h : app.router.find? r.path = some handler)
    (hget : r.method ≠ "GET") (hhead : r.method ≠ "HEAD") (user : Option User) :
    app.routed ⟨now, r, user⟩ = .answer (Service.withMethods (.empty 405)) := by
  simp only [App.routed, Service.answer, h, hget, hhead, if_false]
  rfl

theorem routed_ignores_user (happ : App.Built s app) (hpath : r.path ≠ "/api/auth/whoami") (user : Option User) :
    app.routed ⟨now, r, user⟩ = app.routed ⟨now, r, none⟩ := by
  cases hfind : app.router.find? r.path with
  | none => rw [routed_of_none hfind, routed_of_none hfind]
  | some handler =>
    have hsame : handler ⟨now, r, user⟩ = handler ⟨now, r, none⟩ :=
      handler_ignores_user (happ.find?_router _ ▸ hfind) hpath ⟨now, r, none⟩ user
    simp only [App.routed, Service.answer, hfind, id, hsame]
    rfl

/-- On a path that needs no token the layers do not look at the headers either. -/
theorem layers_ignore_headers (hexempt : app.authenticator.isExempt r.path = true) (headers : List (String × String))
    (inner : Handler) (h : inner ⟨now, { r with headers := headers }, none⟩ = inner ⟨now, r, none⟩) :
    app.layers inner ⟨now, { r with headers := headers }, none⟩ = app.layers inner ⟨now, r, none⟩ := by
  have hauth : Service.authLayer app.authenticator inner ⟨now, { r with headers := headers }, none⟩ =
      Service.authLayer app.authenticator inner ⟨now, r, none⟩ := by
    simp only [Service.authLayer, hexempt, if_true, h]
  unfold App.layers
  cases app.enableCors with
  | false => exact hauth
  | true => simp only [if_true, Service.corsLayer, hauth]

theorem handle_ignores_headers (happ : App.Built s app) (hexempt : app.authenticator.isExempt r.path = true)
    (headers : List (String × String)) : app.handle now { r with headers := headers } = app.handle now r := by
  simp only [App.handle, Service.answer]
  cases hfind : app.router.find? r.path with
  | none => exact layers_ignore_headers hexempt headers Service.notFound rfl
  | some handler =>
    have hsame : handler ⟨now, { r with headers := headers }, none⟩ = handler ⟨now, r, none⟩ :=
      handler_ignores_headers (happ.find?_router _ ▸ hfind) ⟨now, r, none⟩ headers
    have hhandler := layers_ignore_headers hexempt headers handler hsame
    have hwrong : Service.wrongMethod ⟨now, { r with headers := headers }, none⟩ =
        Service.wrongMethod ⟨now, r, none⟩ := rfl
    simp only [hhandler, layers_ignore_headers hexempt headers Service.wrongMethod hwrong]

theorem whoami_closed (happ : App.Built s app) : app.authenticator.isExempt "/api/auth/whoami" = false := by
  rw [Bool.eq_false_iff, ne_eq, happ.isExempt_iff]
  rintro (h | h | ⟨-, h⟩) <;> exact absurd h (by decide)

theorem find?_whoami (happ : App.Built s app) : app.router.find? "/api/auth/whoami" = some Service.whoami := by
  rw [happ.find?_router, App.find?_table]
  rfl

theorem userJson_eq (u : User) :
    Service.userJson u = .obj [("account", .str u.account), ("role_id", .str u.roleId)] := by
  have hlt : "account" < "role_id" := by decide
  have hne : "account" ≠ "role_id" := by decide
  simp [Service.userJson, Json.object, Json.sortMembers, Json.insertMember, hlt, hne]

theorem routed_whoami (happ : App.Built s app) (hpath : r.path = "/api/auth/whoami") (hget : r.method = "GET")
    (u : User) : app.routed ⟨now, r, some u⟩ = .answer (.json 200
      (.obj [("account", .str u.account), ("role_id", .str u.roleId)])) := by
  have hroute : app.router.find? r.path = some Service.whoami := hpath ▸ find?_whoami happ
  simp only [App.routed, Service.answer, hroute, hget, if_true, ← userJson_eq]
  rfl

section
variable (happ : App.Built s app) (hmethod : s.enableCors = true → r.method ≠ "OPTIONS")
include happ hmethod

/-- On a path that needs a token a request that does not say whose it is, is refused. -/
theorem handle_of_unidentified (hclosed : app.authenticator.isExempt r.path = false)
    (hr : Unidentified now s.secret r) : ∃ response, app.handle now r = .answer response ∧ response.status = 401 := by
  have hsecret : app.authenticator.secret = s.secret := by rw [happ.authenticator]
  obtain ⟨e, hauthenticate⟩ := Authenticator.authenticate_of_unidentified (a := app.authenticator) (hsecret ▸ hr)
  have hrefusal : ∀ inner, app.layers inner ⟨now, r, none⟩ =
      .answer (Service.framed app.enableCors (ApiError.ofCredentials e).response) := by
    intro inner
    rw [Service.layers_eq (happ.cors ▸ hmethod)]
    simp [Service.authLayer, hclosed, hauthenticate, Plan.map]
  obtain ⟨response, hresponse, hstatus⟩ := Service.answer_of_refusal hrefusal app.router
  refine ⟨response, hresponse, ?_⟩
  rw [hstatus, Service.status_framed]
  rfl

theorem layers_of_identified (hclosed : app.authenticator.isExempt r.path = false) {c : Claims} {token : String}
    (hr : Identified now s.secret r c token) (inner : Handler) : app.layers inner ⟨now, r, none⟩ =
      (inner ⟨now, r, some c.user⟩).map (Service.framed app.enableCors) := by
  have hsecret : app.authenticator.secret = s.secret := by rw [happ.authenticator]
  have hauthenticate := Authenticator.authenticate_of_identified (a := app.authenticator) (hsecret ▸ hr)
  rw [Service.layers_eq (happ.cors ▸ hmethod)]
  simp [Service.authLayer, hclosed, hauthenticate]

theorem layers_of_exempt (hopen : app.authenticator.isExempt r.path = true) (inner : Handler) :
    app.layers inner ⟨now, r, none⟩ = (inner ⟨now, r, none⟩).map (Service.framed app.enableCors) := by
  rw [Service.layers_eq (happ.cors ▸ hmethod)]
  simp [Service.authLayer, hopen]

/-- A request that says whose it is, is answered by the routes, which know the user. -/
theorem handle_of_identified (hclosed : app.authenticator.isExempt r.path = false) {c : Claims} {token : String}
    (hr : Identified now s.secret r c token) :
    (app.handle now r).map Service.unshared = (app.routed ⟨now, r, some c.user⟩).map Service.unshared :=
  Service.answer_of_layers app.enableCors rfl (layers_of_identified happ hmethod hclosed hr)

/-- On an open path the routes answer, which know no user. -/
theorem handle_of_exempt (hopen : app.authenticator.isExempt r.path = true) :
    (app.handle now r).map Service.unshared = (app.routed ⟨now, r, none⟩).map Service.unshared :=
  Service.answer_of_layers app.enableCors rfl (layers_of_exempt happ hmethod hopen)

end

end Routed

/-- What becomes of a request to the service for some settings. -/
structure Gated (s : Settings) (app : App) (now : Instant) (r : HttpRequest) : Prop where
  /-- The open paths. -/
  exempt : app.authenticator.isExempt r.path = true ↔
    r.path = "/" ∨ r.path = "/health" ∨ (s.gateway.enabled = true ∧ "/dev".toList <+: r.path.toList)
  /-- On other paths a request that does not say whose it is, is refused without a store call. -/
  refused : app.authenticator.isExempt r.path = false → Unidentified now s.secret r →
    ∃ response, app.handle now r = .answer response ∧ response.status = 401
  /-- One that does is answered by the routes, for the user that the token stands for. -/
  admitted : app.authenticator.isExempt r.path = false → ∀ c token, Identified now s.secret r c token →
    (app.handle now r).map Service.unshared =
      (app.routed ⟨now, r, some { roleId := c.sub, account := c.account }⟩).map Service.unshared
  /-- There are no other requests. -/
  decided : Unidentified now s.secret r ∨ ∃ c token, Identified now s.secret r c token
  /-- On an open path the routes answer, which know no user. -/
  passed : app.authenticator.isExempt r.path = true →
    (app.handle now r).map Service.unshared = (app.routed ⟨now, r, none⟩).map Service.unshared
  /-- There the headers of the request do not matter, the `authorization` header among them. -/
  headers : app.authenticator.isExempt r.path = true → ∀ headers,
    app.handle now { r with headers := headers } = app.handle now r
  /-- No open path is the one that is there for users, and a user would make no difference. -/
  guarded : app.authenticator.isExempt r.path = true → r.path ≠ "/api/auth/whoami" ∧
    ∀ user, app.routed ⟨now, r, user⟩ = app.routed ⟨now, r, none⟩
  /-- The paths that have a route. -/
  routes : (app.router.find? r.path).isSome = true ↔
    r.path ∈ (if s.gateway.enabled then ["/dev"] else []) ++ ["/", "/health", "/api/auth/whoami"]
  /-- A path without a route is not found. -/
  unrouted : (app.router.find? r.path).isSome = false → ∀ user,
    app.routed ⟨now, r, user⟩ = .answer (.empty 404)
  /-- A route is there for two methods. -/
  wrongMethod : (app.router.find? r.path).isSome = true → r.method ≠ "GET" → r.method ≠ "HEAD" → ∀ user,
    app.routed ⟨now, r, user⟩ = .answer (Service.withMethods (.empty 405))

/-- **The gate.**  Every request to the service is let in as its path and its token allow, unless it asks what other
sites may do and these are let in. -/
theorem gated {s : Settings} {app : App} (hbuild : App.build s = .ok app) (now : Instant) (r : HttpRequest)
    (hmethod : s.enableCors = true → r.method ≠ "OPTIONS") : Gated s app now r := by
  have happ := App.built_of_build hbuild
  refine ⟨happ.isExempt_iff r.path, handle_of_unidentified happ hmethod,
    fun hclosed c token => handle_of_identified happ hmethod hclosed, unidentified_or_identified now s.secret r,
    handle_of_exempt happ hmethod, handle_ignores_headers happ, fun hopen => ?guarded, ?routes,
    fun hnone => ?unrouted, fun hsome hget hhead => ?wrongMethod⟩
  case guarded =>
    have hpath : r.path ≠ "/api/auth/whoami" := by
      intro hpath
      rw [hpath, whoami_closed happ] at hopen
      cases hopen
    exact ⟨hpath, routed_ignores_user happ hpath⟩
  case routes =>
    rw [happ.find?_router, App.isSome_find?_table]
  case unrouted => exact routed_of_none (by simpa using hnone)
  case wrongMethod =>
    obtain ⟨handler, hhandler⟩ := Option.isSome_iff_exists.1 hsome
    exact routed_of_wrongMethod hhandler hget hhead

/-- Requests for the protected path where the gateway is open and other sites are let in: one without a token, which is
refused, and one with the token that has been issued to a role, which is told whom it stands for. -/
theorem gated_development :
    let s := Settings.ofDeployment .development
    let c : Claims := ⟨"cucumber:user:alice", "cucumber", 3600, 0⟩
    let bare : HttpRequest := ⟨"GET", "/api/auth/whoami", none, []⟩
    ∃ app token, App.build s = .ok app ∧ Token.issue s.secret c = .ok token ∧
      (Gated s app default bare ∧ ∃ response, app.handle default bare = .answer response ∧ response.status = 401) ∧
      let sent : HttpRequest := { bare with headers := [("authorization", "Bearer " ++ token)] }
      Gated s app default sent ∧ Identified default s.secret sent c token ∧
        (app.handle default sent).map Service.unshared = .answer (.json 200
          (.obj [("account", .str "cucumber"), ("role_id", .str "cucumber:user:alice")])) := by
  intro s c bare
  have hbuild : App.build s = .ok ⟨(App.table s).router?.getD ⟨[]⟩, ⟨s.secret, App.openPaths s⟩, s.enableCors⟩ := by
    rw [App.build_eq]
    rfl
  have hclosed := whoami_closed (App.built_of_build hbuild)
  have hsecret : s.secret ≠ "" := by decide
  have hverify : Token.verify (default : Instant).seconds s.secret (Token.tokenOf s.secret c) = .ok c :=
    Token.verify_tokenOf hsecret ⟨by decide, by decide⟩ ⟨by decide, by decide⟩ (by decide) (by decide)
  refine ⟨_, Token.tokenOf s.secret c, hbuild, Token.issue_eq hsecret, ⟨?_, ?_⟩, ?_⟩
  · exact gated hbuild default bare (by decide)
  · exact (gated hbuild default bare (by decide)).refused hclosed (.missing rfl)
  · intro sent
    have hgated := gated hbuild default sent (by decide)
    have hidentified : Identified default s.secret sent c (Token.tokenOf s.secret c) :=
      ⟨rfl, Token.isTextValue_bearer, Token.isAllBlank_tokenOf, hverify⟩
    refine ⟨hgated, hidentified, ?_⟩
    rw [hgated.admitted hclosed c _ hidentified, routed_whoami (App.built_of_build hbuild) rfl rfl]
    rfl

end Postern
