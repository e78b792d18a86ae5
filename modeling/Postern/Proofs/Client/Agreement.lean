import Postern.Proofs.Client.Reply
import Postern.Proofs.Gateway.Session
import Postern.Proofs.Service.Exposure
import Postern.Proofs.Store.Keys
import Postern.Proofs.Text.Form
import Postern.Service.App

/-!
Client and service.  What a client sends reaches the gateway as the query of its call (`parameters_requestFor`), and
what the gateway makes of that query is what the call comes to: the same effect on the store, the result that was
rendered, or the failure with its message and status (`agreement`).
-/

namespace Postern

/-- The query that asks the gateway for what a call is there for. -/
def Client.Call.query : Client.Call → Query
  | .listAccounts => .ofList [("action", "list_accounts")]
  | .createAccount id => .ofList [("id", id), ("action", "create_account")]
  | .destroyAccount id => .ofList [("id", id), ("action", "destroy_account")]
  | .retrieveApiKey role => .ofList [("role_id", role), ("action", "retrieve_api_key")]
  | .getSecret resource none => .ofList [("resource_id", resource), ("action", "get_secret")]
  | .getSecret resource (some version) =>
    .ofList [("resource_id", resource), ("version", Text.showNat version), ("action", "get_secret")]
  | .createSecret resource value => .ofList [("resource_id", resource), ("value", value), ("action", "create_secret")]
  | .loadPolicy resource policy => .ofList [("resource_id", resource), ("value", policy), ("action", "load_policy")]
  | .purge => .ofList [("action", "purge")]

theorem Client.Call.query_eq (call : Client.Call) :
    call.query = .ofList (call.params ++ [("action", call.action.text)]) := by
  cases call with
  | getSecret resource version => cases version <;> rfl
  | _ => rfl

/-- The service at the other end of a client.  Some headers are added to requests on the way, and nothing else is
changed in either direction. -/
def App.transport {σ : Type} (app : App) (now : Instant) (headers : List (String × String)) (b : Backend σ) :
    Client.Transport (StateM σ) := fun r t =>
  let out := (app.handle now { r with headers := headers }).run b t
  (.ok out.1, out.2)

/-- The response that an outcome is shown by. -/
def Gateway.shown (mode : ErrorMode) : Gateway.Outcome → Response
  | .ok response => response
  | .error e => e.render mode

/-- What a call gives back agrees with what its query comes to. -/
structure Client.Agrees (mode : ErrorMode) (call : Client.Call) (outcome : Gateway.Outcome)
    (result : Except ClientError call.Result) : Prop where
  /-- A success gives back the value that was rendered. -/
  granted : ∀ response, outcome = .ok response →
    ∃ value, response = call.response value ∧ result = .ok (call.delivered value)
  /-- A failure keeps its message, and its status unless that has been hidden. -/
  refused : ∀ e, outcome = .error e →
    result = .error (.refused (if mode = .legacy ∧ e.kind = .badRequest then 200 else e.kind.status) e.message)
  /-- Nothing else goes wrong. -/
  answered : ∀ e, result = .error e → ∃ status message, e = .refused status message

/-! ### On the way there -/

namespace Client

theorem ofServer_root {address : String} {root : Url} (hread : Url.read address = .ok root)
    (hroot : root.path = .segments [""]) :
    ofServer address = .ok ⟨{ root with path := .segments ["dev"], query := none, fragment := none }⟩ := by
  simp [ofServer, hread, Except.bind, Url.asDirectory, Url.sibling, hroot, gatewayName]

theorem read_localhost : ∃ root, Url.read "http://localhost:3000/" = .ok root ∧ root.path = .segments [""] :=
  ⟨_, rfl, rfl⟩

/-- **The parameters that are sent are those that arrive,** whatever characters they hold. -/
theorem parameters_requestFor (c : Client) (action : String) (params : List (String × String)) :
    (requestFor (c.address action params)).parameters = .ofList (params ++ [("action", action)]) := by
  simp [HttpRequest.parameters, requestFor, address, Url.withQuery, Text.Form.decode_encode]

end Client

/-! ### At the gateway -/

section
variable {s : Settings} {app : App} (hbuild : App.build s = .ok app) (henabled : s.gateway.enabled = true)
include hbuild henabled

/-- Behind the layers a query does what it does, and a client cannot tell the difference. -/
theorem run_handle_gateway {r : HttpRequest} (hmethod : r.method = "GET") (hpath : r.path = "/dev") {σ : Type}
    (b : Backend σ) (t : σ) (now : Instant) :
    let out := (app.handle now r).run b t
    let served := Gateway.serve b s.gateway.allowPurge r.parameters t
    Reply.ofResponse out.1 = Reply.ofResponse (Gateway.shown s.gateway.errorMode served.1) ∧ out.2 = served.2 := by
  intro out served
  have hruns : RunsGateway s app now r := runsGateway_of_enabled hbuild hmethod hpath henabled
  have hrespond : Gateway.respond s.gateway.errorMode s.gateway.allowPurge r.parameters =
      (Gateway.dispatch s.gateway.allowPurge r.parameters).map (Gateway.shown s.gateway.errorMode) := by
    refine congrArg (fun f => (Gateway.dispatch s.gateway.allowPurge r.parameters).map f) (funext fun outcome => ?_)
    cases outcome <;> rfl
  have hboth := congrArg (fun p => p.run b t) hruns
  simp only [hrespond, Plan.run_map] at hboth
  obtain ⟨hresponse, hstore⟩ := Prod.mk.inj hboth
  have hreply := congrArg Reply.ofResponse hresponse
  rw [Reply.ofResponse_unshared, Reply.ofResponse_unshared] at hreply
  exact ⟨hreply, hstore⟩

end

/-! ### On the way back -/

namespace Client.Call

theorem find?_action (call : Call) : call.query.find? "action" = some call.action.text := by
  simp [query_eq, Store.Table.ofList]

theorem action_of_order {call : Call} {allowPurge : Bool} {o : Gateway.Order}
    (ho : Gateway.order allowPurge call.query = .ok o) : o.action = call.action := by
  obtain ⟨haction, -⟩ := Gateway.order_eq_ok_iff.1 ho
  rw [find?_action] at haction
  exact (Gateway.text_injective (Option.some.inj haction)).symm

/-- An order that answers one thing if it succeeds has answered that. -/
theorem eq_of_granted {p : Prop} [Decidable p] {response response' : Response} {e : ApiError} {m m' : Memory}
    (h : (if p then ((.ok response, m) : Gateway.Outcome × Memory) else (.error e, m')).1 = .ok response') :
    response' = response := by
  split at h
  · exact (Except.ok.inj h).symm
  · cases h

/-- What a successful order answers is a result of the call. -/
theorem exists_response_of_effect {keys : KeySource} (hkeys : keys.Genuine) {m : Memory} (hm : m.Reachable keys)
    {call : Call} (hcount : call = .purge → m.accounts.length ≤ Text.maxWord 64) {o : Gateway.Order}
    (haction : o.action = call.action) {response : Response} (h : (o.effect keys m).1 = .ok response) :
    ∃ value, response = call.response value ∧ call.Legible value := by
  cases call with
  | listAccounts =>
    cases o with
    | listAccounts =>
      cases h
      exact ⟨m.accounts, rfl, trivial⟩
    | _ => cases haction
  | purge =>
    cases o with
    | purge =>
      cases h
      exact ⟨m.accounts.length, rfl, hcount rfl⟩
    | _ => cases haction
  | retrieveApiKey raw =>
    cases o with
    | retrieveApiKey role =>
      simp only [Gateway.Order.effect] at h
      split at h
      · rename_i key hk
        cases h
        exact ⟨key, rfl, hm.isHex hkeys hk⟩
      · cases h
    | _ => cases haction
  | createAccount id =>
    cases o with
    | createAccount id =>
      simp only [Gateway.Order.effect] at h
      split at h
      · cases h
      · cases h
        exact ⟨_, rfl, trivial⟩
    | _ => cases haction
  | getSecret raw version =>
    cases o with
    | getSecret resource version =>
      simp only [Gateway.Order.effect] at h
      split at h
      · cases h
        exact ⟨_, rfl, trivial⟩
      · cases h
    | _ => cases haction
  | destroyAccount id =>
    cases o with
    | destroyAccount id =>
      obtain rfl := eq_of_granted h
      exact ⟨(), rfl, trivial⟩
    | _ => cases haction
  | createSecret raw value =>
    cases o with
    | createSecret resource value =>
      obtain rfl := eq_of_granted h
      exact ⟨(), rfl, trivial⟩
    | _ => cases haction
  | loadPolicy raw policy =>
    cases o with
    | loadPolicy resource document roles =>
      obtain rfl := eq_of_granted h
      exact ⟨(), rfl, trivial⟩
    | _ => cases haction

/-- What a successful query shows is a result of its call. -/
theorem exists_response {keys : KeySource} (hkeys : keys.Genuine) {m : Memory} (hm : m.Reachable keys)
    {allowPurge : Bool} {call : Call} (hcount : call = .purge → m.accounts.length ≤ Text.maxWord 64)
    {response : Response} (h : (Gateway.serve (Memory.backend keys) allowPurge call.query m).1 = .ok response) :
    ∃ value, response = call.response value ∧ call.Legible value := by
  rw [Gateway.serve_memory] at h
  cases ho : Gateway.order allowPurge call.query with
  | error e =>
    rw [ho] at h
    cases h
  | ok o =>
    rw [ho] at h
    exact exists_response_of_effect hkeys hm hcount (action_of_order ho) h

end Client.Call

/-! ### There and back -/

namespace Client

/-- A client whose calls come to what the dispatcher makes of their queries, as far as that can be read from a
response. -/
def Reaches (c : Client) (s : Settings) (app : App) : Prop :=
  ∀ {σ : Type} (b : Backend σ) (now : Instant) (headers : List (String × String)) (call : Call) (t : σ),
    let served := Gateway.serve b s.gateway.allowPurge call.query t
    (c.perform (app.transport now headers b) call).run t =
      (call.result (Reply.ofResponse (Gateway.shown s.gateway.errorMode served.1)), served.2)

/-- **The client of the root of a service reaches its gateway.** -/
theorem exists_reaches {s : Settings} {app : App} (hbuild : App.build s = .ok app)
    (henabled : s.gateway.enabled = true) {address : String} {root : Url} (hread : Url.read address = .ok root)
    (hroot : root.path = .segments [""]) : ∃ c, ofServer address = .ok c ∧ c.Reaches s app := by
  refine ⟨_, ofServer_root hread hroot, ?_⟩
  intro σ b now headers call t served
  let c : Client := ⟨{ root with path := .segments ["dev"], query := none, fragment := none }⟩
  let r : HttpRequest := { requestFor (c.address call.action.text call.params) with headers := headers }
  have hquery : r.parameters = call.query := by
    rw [Call.query_eq]
    exact parameters_requestFor c call.action.text call.params
  have hpath : r.path = "/dev" := rfl
  obtain ⟨hreply, hstore⟩ := run_handle_gateway hbuild henabled rfl hpath b t now
  rw [hquery] at hreply hstore
  have hcalled : (c.perform (app.transport now headers b) call).run t =
      (call.result (Reply.ofResponse ((app.handle now r).run b t).1), ((app.handle now r).run b t).2) := rfl
  rw [hcalled, hreply, hstore]

theorem agrees_of_shown {mode : ErrorMode} {call : Call} {outcome : Gateway.Outcome}
    (hsuccess : ∀ response, outcome = .ok response → ∃ value, response = call.response value ∧ call.Legible value) :
    Agrees mode call outcome (call.result (Reply.ofResponse (Gateway.shown mode outcome))) := by
  cases outcome with
  | ok response =>
    obtain ⟨value, rfl, hlegible⟩ := hsuccess response rfl
    have hresult : call.result (Reply.ofResponse (call.response value)) = .ok (call.delivered value) :=
      Call.result_response hlegible
    refine ⟨?_, ?_, ?_⟩
    · rintro _ ⟨⟩
      exact ⟨value, rfl, hresult⟩
    · rintro e ⟨⟩
    · intro e he
      rw [Gateway.shown, hresult] at he
      cases he
  | error e =>
    have hcheck := Reply.check_render e mode
    have hresult : call.result (Reply.ofResponse (e.render mode)) =
        .error (.refused (if mode = .legacy ∧ e.kind = .badRequest then 200 else e.kind.status) e.message) := by
      rw [Call.result, hcheck]
      rfl
    refine ⟨?_, ?_, ?_⟩
    · rintro response ⟨⟩
    · rintro _ ⟨⟩
      exact hresult
    · intro e' he
      rw [Gateway.shown, hresult] at he
      cases he
      exact ⟨_, _, rfl⟩

end Client

/-- **A client agrees with the service that it talks to.**  Whatever it calls, and whatever texts it passes, the store
and the answer are what the dispatcher makes of the same parameters. -/
theorem agreement {s : Settings} {app : App} (hbuild : App.build s = .ok app) (henabled : s.gateway.enabled = true)
    {keys : KeySource} (hkeys : keys.Genuine) {m : Memory} (hm : m.Reachable keys) {address : String} {root : Url}
    (hread : Url.read address = .ok root) (hroot : root.path = .segments [""]) (now : Instant)
    (headers : List (String × String)) (call : Client.Call)
    (hcount : call = .purge → m.accounts.length ≤ Text.maxWord 64) :
    ∃ c, Client.ofServer address = .ok c ∧
      let served := Gateway.serve (Memory.backend keys) s.gateway.allowPurge call.query m
      let called := (c.perform (app.transport now headers (Memory.backend keys)) call).run m
      called.2 = served.2 ∧ Client.Agrees s.gateway.errorMode call served.1 called.1 := by
  obtain ⟨c, hc, hreaches⟩ := Client.exists_reaches hbuild henabled hread hroot
  refine ⟨c, hc, ?_⟩
  intro served called
  have hcalled : called = (call.result (Reply.ofResponse (Gateway.shown s.gateway.errorMode served.1)), served.2) :=
    hreaches (Memory.backend keys) now headers call m
  rw [hcalled]
  exact ⟨rfl, Client.agrees_of_shown fun response => Client.Call.exists_response hkeys hm hcount⟩

/-- Calls on a store with one account, where purges are not allowed and bad requests answer with success: a value with
characters that mean something in a query is stored as it is, a version that is not there is missed, and a purge is
refused under a status of success. -/
theorem agreement_calls :
    let s := { Settings.ofDeployment .development with gateway := ⟨true, .legacy, false⟩ }
    let keys := ApiKey.source []
    let m := (Memory.perform keys (.createAccount .root "cucumber") .empty).2
    ∃ app c, App.build s = .ok app ∧ m.Reachable keys ∧ Client.ofServer "http://localhost:3000/" = .ok c ∧
      let called (call : Client.Call) := (c.perform (app.transport default [] (Memory.backend keys)) call).run m
      called (.createSecret "cucumber:variable:db/pass word" "50%&\"ü\"=+x") =
        (.ok (), m.addVersion ⟨"cucumber", "variable", "db/pass word"⟩ "50%&\"ü\"=+x") ∧
      called (.getSecret "cucumber:variable:db/pass word" (some 2)) =
        (.error (.refused 404 "secret 'cucumber:variable:db/pass word' not found"), m) ∧
      called .purge = (.error (.refused 200 "action not recognized"), m) := by
  intro s keys m
  obtain ⟨app, hbuild⟩ : ∃ app, App.build s = .ok app := App.exists_build (by decide) (by decide)
  obtain ⟨root, hread, hroot⟩ := Client.read_localhost
  have hm : m.Reachable keys := .perform _ .empty
  have hagrees := fun call => agreement hbuild rfl (ApiKey.genuine_source []) hm hread hroot default [] call
    fun _ => by decide
  have hstored : Gateway.serve (Memory.backend keys) false
      (Client.Call.query (.createSecret "cucumber:variable:db/pass word" "50%&\"ü\"=+x")) m =
        (.ok (.empty 201), m.addVersion ⟨"cucumber", "variable", "db/pass word"⟩ "50%&\"ü\"=+x") := rfl
  have hmissed : Gateway.serve (Memory.backend keys) false
      (Client.Call.query (.getSecret "cucumber:variable:db/pass word" (some 2))) m =
        (.error (.ofStore (Memory.missing ⟨"cucumber", "variable", "db/pass word"⟩ none)), m) := rfl
  have hrefused : Gateway.serve (Memory.backend keys) false (Client.Call.query .purge) m =
      (.error (.ofCaller .unknownAction), m) := rfl
  obtain ⟨c, hc, -⟩ := hagrees .purge
  refine ⟨app, c, hbuild, hm, hc, ?_, ?_, ?_⟩
  · obtain ⟨c', hc', hstore, hresult⟩ := hagrees _
    obtain rfl := Except.ok.inj (hc.symm.trans hc')
    obtain ⟨⟨⟩, -, hresult⟩ := hresult.granted _ (congrArg Prod.fst hstored)
    exact Prod.ext hresult (hstore.trans (congrArg Prod.snd hstored))
  · obtain ⟨c', hc', hstore, hresult⟩ := hagrees _
    obtain rfl := Except.ok.inj (hc.symm.trans hc')
    exact Prod.ext (hresult.refused _ (congrArg Prod.fst hmissed)) (hstore.trans (congrArg Prod.snd hmissed))
  · obtain ⟨c', hc', hstore, hresult⟩ := hagrees _
    obtain rfl := Except.ok.inj (hc.symm.trans hc')
    exact Prod.ext (hresult.refused _ (congrArg Prod.fst hrefused)) (hstore.trans (congrArg Prod.snd hrefused))

end Postern
