import Postern.Client.Call
import Postern.Proofs.Gateway.Rendering
import Postern.Proofs.Json.Record
import Postern.Proofs.Service.Gate
import Postern.Store.Memory

/-!
What clients read from the gateway's responses.  A failure is found in both of its renderings, with its message
(`check_render`), and the body of a success comes through as it was sent but for a mark of byte order before it.  So a
result that can be taken in is read from the response that shows it (`result_response`).
-/

namespace Postern

/-! ### Replies -/

namespace Reply

theorem withoutMark_eq_self_iff {s : String} : withoutMark s = s ↔ s.toList.head? ≠ some '\uFEFF' := by
  unfold withoutMark
  cases hs : s.toList with
  | nil => simp
  | cons c cs =>
    by_cases hc : c = '\uFEFF'
    · have hshort : String.ofList cs ≠ s := by
        intro he
        have hlength := congrArg (fun s => s.toList.length) he
        simp [hs] at hlength
      simp [hc, hshort]
    · simp [hc]

theorem withoutMark_compact {depth : Nat} {j : Json} (h : Json.Fits depth j) : withoutMark j.compact = j.compact := by
  refine withoutMark_eq_self_iff.2 fun hmark => ?_
  have htaken := Json.value?_compactChars depth j h [] Json.ends_nil
  rw [List.append_nil] at htaken
  rw [Json.compact, String.toList_ofList] at hmark
  cases hchars : j.compactChars with
  | nil => rw [hchars] at hmark; cases hmark
  | cons c cs =>
    rw [hchars] at hmark htaken
    obtain rfl : c = '\uFEFF' := Option.some.inj hmark
    have hwire : Json.wire ('\uFEFF' :: cs) = '\u00EF' :: '\u00BB' :: '\u00BF' :: Json.wire cs := rfl
    have hnone : Json.value? depth ('\u00EF' :: '\u00BB' :: '\u00BF' :: Json.wire cs) = none := by cases depth <;> rfl
    rw [hwire, hnone] at htaken
    cases htaken

theorem ofResponse_unshared (r : Response) : ofResponse (Service.unshared r) = ofResponse r := by
  have hkept : ∀ h : String × String,
      decide ((!Service.sharedNames.contains h.1) = true ∧ decide (h.1 = "content-type") = true) =
        decide (h.1 = "content-type") := by
    intro h
    by_cases hname : h.1 = "content-type"
    · rw [hname]
      decide
    · simp [hname]
  have htype : (Service.unshared r).header? "content-type" = r.header? "content-type" := by
    simp only [Response.header?, Service.unshared, List.find?_filter, hkept]
  simp only [ofResponse, htype]
  rfl

theorem ofResponse_json (status : Nat) {j : Json} (hfits : Json.Fits Json.maxDepth j) :
    ofResponse (.json status j) = ⟨status, true, j.compact⟩ := by
  have htype : (Response.header? "content-type" (.json status j)).any isJsonType = true := rfl
  rw [ofResponse, htype]
  simp [Response.json, withoutMark_compact hfits]

theorem ofResponse_text (status : Nat) (value : String) :
    ofResponse (.text status value) = ⟨status, false, withoutMark value⟩ := rfl

theorem ofResponse_empty (status : Nat) : ofResponse (.empty status) = ⟨status, false, ""⟩ := rfl

section
variable {status : Nat} (hstatus : Status.isSuccess status = true)
include hstatus

theorem check_plain (body : String) : check ⟨status, false, body⟩ = .ok body := by
  simp [check, hstatus]

/-- A JSON body without an error is a body like others. -/
theorem check_json {j : Json} (hfits : Json.Fits Json.maxDepth j)
    (hclean : (j.member? "error").bind Json.text? = none) : check ⟨status, true, j.compact⟩ = .ok j.compact := by
  have hhidden : hiddenError? j.compact = none := by
    rw [hiddenError?, Json.read?_compact hfits]
    exact hclean
  simp [check, hstatus, hhidden]

end

/-! ### Failures -/

section Failures
variable (e : ApiError)

theorem not_isSuccess (kind : ErrorKind) : Status.isSuccess kind.status = false := by cases kind <;> decide

theorem check_response : (ofResponse e.response).check = .error (.refused e.kind.status e.message) := by
  have hstatus := not_isSuccess e.kind
  have hmessage : errorMessage? e.json.compact = some e.message := by
    rw [errorMessage?, Json.read?_compact e.fits_json, e.json_eq]
    rfl
  rw [ApiError.response, ofResponse_json _ e.fits_json]
  simp [check, hstatus, hmessage]

theorem check_legacy : (ofResponse (.json 200 e.legacyJson)).check = .error (.refused 200 e.message) := by
  have hmessage : hiddenError? e.legacyJson.compact = some e.message := by
    rw [hiddenError?, Json.read?_compact e.fits_legacyJson, e.legacyJson_eq]
    rfl
  have hstatus : Status.isSuccess 200 = true := by decide
  rw [ofResponse_json _ e.fits_legacyJson]
  simp [check, hstatus, hmessage]

/-- **A failure is found in both of its renderings,** with its message and the status that it was given. -/
theorem check_render (mode : ErrorMode) : (ofResponse (e.render mode)).check =
    .error (.refused (if mode = .legacy ∧ e.kind = .badRequest then 200 else e.kind.status) e.message) := by
  cases mode with
  | strict => simpa [ApiError.render] using check_response e
  | legacy =>
    by_cases hkind : e.kind = .badRequest
    · simpa [ApiError.render, ApiError.isCallerError, hkind] using check_legacy e
    · simpa [ApiError.render, ApiError.isCallerError, hkind] using check_response e

theorem render_eq (mode : ErrorMode) :
    e.render mode = if mode = .legacy ∧ e.kind = .badRequest then .json 200 e.legacyJson else e.response := by
  cases mode <;> simp [ApiError.render, ApiError.isCallerError]

/-- In both renderings a failure is JSON, and so a client sees the body as it is. -/
theorem ofResponse_render (mode : ErrorMode) :
    ofResponse (e.render mode) = ⟨(e.render mode).status, true, (e.render mode).body⟩ := by
  rw [render_eq]
  split
  · exact ofResponse_json _ e.fits_legacyJson
  · exact ofResponse_json _ e.fits_json

theorem length_lt_render (mode : ErrorMode) : e.message.toList.length < (e.render mode).body.toList.length := by
  have hquoted := Json.length_lt_quoted e.message
  rw [render_eq]
  split
  · rw [Response.json, e.legacyJson_eq, Json.compact, String.toList_ofList]
    simp only [Json.compactChars, Json.compactMembers, Json.scalar, List.length_cons, List.length_append]
    omega
  · rw [ApiError.response, Response.json, e.json_eq, Json.compact, String.toList_ofList]
    simp only [Json.compactChars, Json.compactMembers, Json.scalar, List.length_cons, List.length_append]
    omega

/-- **What the gateway says of a failure is what its clients are told,** in both modes and whatever the message is:
they fail with the status of the response and with the message itself, which is never the body that carried it. -/
theorem failure_told (mode : ErrorMode) :
    let response := e.render mode
    ofResponse response = ⟨response.status, true, response.body⟩ ∧
      (ofResponse response).check = .error (.refused response.status e.message) ∧ e.message ≠ response.body := by
  intro response
  have hstatus : response.status = if mode = .legacy ∧ e.kind = .badRequest then 200 else e.kind.status := by
    simp only [response, render_eq]
    split <;> rfl
  refine ⟨ofResponse_render e mode, ?_, fun hsame => ?_⟩
  · rw [check_render e mode, hstatus]
  · have hlonger := length_lt_render e mode
    exact absurd (congrArg (fun s => s.toList.length) hsame) (Nat.ne_of_lt hlonger)

end Failures
end Reply

/-! ### Results -/

namespace Client.Call

/-- The response that shows a result. -/
def response : (call : Call) → call.Result → Response
  | .listAccounts, ids => .json 200 (.arr (ids.map .str))
  | .createAccount _, account => .json 201 (Gateway.createdJson account)
  | .destroyAccount _, _ => .empty 204
  | .retrieveApiKey _, key => .text 200 key
  | .getSecret _ _, value => .text 200 value
  | .createSecret _ _, _ => .empty 201
  | .loadPolicy _ _, _ => .empty 201
  | .purge, count => .json 200 (Gateway.purgedJson count)

/-- A result as it arrives: a secret loses a mark of byte order before it. -/
def delivered : (call : Call) → call.Result → call.Result
  | .getSecret _ _, value => Reply.withoutMark value
  | .listAccounts, ids => ids
  | .createAccount _, account => account
  | .destroyAccount _, done => done
  | .retrieveApiKey _, key => key
  | .createSecret _ _, done => done
  | .loadPolicy _ _, done => done
  | .purge, count => count

/-- A result that can be taken in: API keys are hexadecimal, and a number of accounts is a machine word. -/
def Legible : (call : Call) → call.Result → Prop
  | .retrieveApiKey _, key => ApiKey.isHex key = true
  | .purge, count => count ≤ Text.maxWord 64
  | _, _ => True

theorem withoutMark_of_isHex {key : String} (h : ApiKey.isHex key = true) : Reply.withoutMark key = key := by
  refine Reply.withoutMark_eq_self_iff.2 fun hmark => ?_
  have hmem : '\uFEFF' ∈ key.toList := List.mem_of_head? hmark
  rw [ApiKey.isHex, List.all_eq_true] at h
  exact absurd (h _ hmem) (by decide)

theorem fits_accounts (ids : List String) : Json.Fits Json.maxDepth (.arr (ids.map .str)) := by
  intro j hj
  obtain ⟨id, -, rfl⟩ := List.mem_map.1 hj
  trivial

theorem accounts?_compact (ids : List String) : accounts? (Json.arr (ids.map .str)).compact = some ids := by
  have htexts : (ids.map Json.str).mapM Json.text? = some ids := Json.mapM_text?_eq_some_iff.2 rfl
  rw [accounts?, Json.read?_compact (fits_accounts ids)]
  exact htexts

theorem fits_createdJson (account : CreatedAccount) : Json.Fits Json.maxDepth (Gateway.createdJson account) := by
  simp [Gateway.createdJson, Json.Fits, Json.maxDepth]

theorem created?_compact (account : CreatedAccount) :
    created? (Gateway.createdJson account).compact = some account := by
  rw [created?, Json.readFields?_of_read? (Json.read?_compact (fits_createdJson account))]
  rfl

theorem fits_purgedJson {count : Nat} (h : count ≤ Text.maxWord 64) :
    Json.Fits Json.maxDepth (Gateway.purgedJson count) := by
  have hword : Json.IsWord count := ⟨by omega, by omega⟩
  simp [Gateway.purgedJson, Json.Fits, Json.maxDepth, hword]

theorem purged?_compact {count : Nat} (h : count ≤ Text.maxWord 64) :
    purged? (Gateway.purgedJson count).compact = some count := by
  have hfields : (Gateway.purgedJson count).fields? ["purged_accounts"] = some [some (.int count)] := rfl
  have hcount : (Json.int count).intBetween? 0 (Text.maxWord 64) = some (count : Int) :=
    Json.intBetween?_eq_some_iff.2 ⟨rfl, by omega, Int.ofNat_le.2 h⟩
  rw [purged?, Json.readFields?_of_read? (Json.read?_compact (fits_purgedJson h)), hfields]
  simp [hcount]

/-- Only a number that fits into a word is read off a body. -/
theorem le_of_purged? {body : String} {count : Nat} (h : purged? body = some count) : count ≤ Text.maxWord 64 := by
  unfold purged? at h
  split at h
  · obtain ⟨n, hn, rfl⟩ := Option.map_eq_some_iff.1 h
    obtain ⟨-, -, hhigh⟩ := Json.intBetween?_eq_some_iff.1 hn
    exact Int.toNat_le.2 hhigh
  · cases h

theorem readable_eq_ok_iff {α : Type} {a? : Option α} {a : α} : readable a? = .ok a ↔ a? = some a := by
  cases a? <;> simp [readable]

theorem result_of_check {call : Call} {reply : Reply} {body : String} (h : reply.check = .ok body) :
    call.result reply = call.read body := by
  rw [result, h]
  rfl

/-- **A result is read from the response that shows it.** -/
theorem result_response {call : Call} {value : call.Result} (h : call.Legible value) :
    call.result (Reply.ofResponse (call.response value)) = .ok (call.delivered value) := by
  have hok : Status.isSuccess 200 = true := by decide
  have hcreated : Status.isSuccess 201 = true := by decide
  cases call with
  | listAccounts =>
    have hcheck := Reply.check_json hok (fits_accounts value) rfl
    rw [response, Reply.ofResponse_json _ (fits_accounts value), result_of_check hcheck, read, accounts?_compact]
    rfl
  | createAccount id =>
    have hcheck := Reply.check_json hcreated (fits_createdJson value) rfl
    rw [response, Reply.ofResponse_json _ (fits_createdJson value), result_of_check hcheck, read, created?_compact]
    rfl
  | purge =>
    have hcheck := Reply.check_json hok (fits_purgedJson h) rfl
    rw [response, Reply.ofResponse_json _ (fits_purgedJson h), result_of_check hcheck, read, purged?_compact h]
    rfl
  | retrieveApiKey role =>
    rw [response, Reply.ofResponse_text, result_of_check (Reply.check_plain (by decide) _), withoutMark_of_isHex h]
    rfl
  | getSecret resource version =>
    rw [response, Reply.ofResponse_text, result_of_check (Reply.check_plain (by decide) _)]
    rfl
  | destroyAccount _ | createSecret _ _ | loadPolicy _ _ =>
    rw [response, Reply.ofResponse_empty, result_of_check (Reply.check_plain (by decide) _)]
    rfl

end Client.Call
end Postern
