import Postern.CommandLine.Run
import Postern.Proofs.Client.Reply

/-!
What is shown of results.  As JSON the result of a call is shown by one document (`shown_json`), from which the result
can be recovered whatever texts it holds (`recovered?_document`); the document says that the call has succeeded exactly
where it says what has been done.  As text a value stands alone (`shown_text`).
-/

namespace Postern.CommandLine

/-- What is printed for the result of a call; `file` is where the text of a policy has been read. -/
def shown (format : Format) (file : String) : (call : Client.Call) → call.Result → String
  | .listAccounts, ids => format.list "accounts" ids "No accounts"
  | .createAccount _, created => showCreated format created
  | .destroyAccount id, _ => format.success ("Destroyed account '" ++ id ++ "'") none
  | .retrieveApiKey _, key => format.value "api_key" key
  | .getSecret _ _, value => format.value "value" value
  | .createSecret resource _, _ => format.success ("Stored '" ++ resource ++ "'") none
  | .loadPolicy resource _, _ => format.success ("Loaded " ++ file ++ " into '" ++ resource ++ "'") none
  | .purge, count => showPurged format count

/-- What is said to have been done, where anything is. -/
def done? (file : String) : (call : Client.Call) → call.Result → Option String
  | .createAccount _, created => some ("Created account '" ++ created.id ++ "'")
  | .destroyAccount id, _ => some ("Destroyed account '" ++ id ++ "'")
  | .createSecret resource _, _ => some ("Stored '" ++ resource ++ "'")
  | .loadPolicy resource _, _ => some ("Loaded " ++ file ++ " into '" ++ resource ++ "'")
  | .purge, count => some ("Purged " ++ Text.showNat count ++ " account(s)")
  | .listAccounts, _ | .retrieveApiKey _, _ | .getSecret _ _, _ => none

/-- The value that a script takes from a result. -/
def value? : (call : Client.Call) → call.Result → Option String
  | .createAccount _, created => some created.apiKey
  | .retrieveApiKey _, key => some key
  | .getSecret _ _, value => some value
  | .listAccounts, _ | .destroyAccount _, _ | .createSecret _ _, _ | .loadPolicy _ _, _ | .purge, _ => none

/-! ### Documents -/

/-- The member of a document that is an object with members of its own. -/
def within? (name inner : String) (j : Json) : Option Json := (j.member? name).bind (Json.member? inner)

/-- The result of a call as a document shows it. -/
def recovered? : (call : Client.Call) → Json → Option call.Result
  | .listAccounts, j => (j.member? "accounts").bind (Json.list? Json.text?)
  | .createAccount _, j =>
    ((within? "data" "id" j).bind Json.text?).bind fun id =>
      ((within? "data" "api_key" j).bind Json.text?).map fun apiKey => ⟨id, apiKey⟩
  | .retrieveApiKey _, j => (j.member? "api_key").bind Json.text?
  | .getSecret _ _, j => (j.member? "value").bind Json.text?
  | .purge, j =>
    ((within? "data" "purged_accounts" j).bind (Json.intBetween? 0 (Text.maxWord 64))).map Int.toNat
  | .destroyAccount _, _ | .createSecret _ _, _ | .loadPolicy _ _, _ => some ()

/-- The members by which a document says that something has been done. -/
def saying (message : String) : List (String × Json) := [("message", .str message), ("success", .bool true)]

/-- The members of a document that show a result. -/
def members : (call : Client.Call) → call.Result → List (String × Json)
  | .listAccounts, ids => [("accounts", .arr (ids.map .str))]
  | .createAccount _, created => [("data", .obj [("api_key", .str created.apiKey), ("id", .str created.id)])]
  | .retrieveApiKey _, key => [("api_key", .str key)]
  | .getSecret _ _, value => [("value", .str value)]
  | .purge, count => [("data", Gateway.purgedJson count)]
  | .destroyAccount _, _ | .createSecret _ _, _ | .loadPolicy _ _, _ => []

/-- The document that shows a result. -/
def document (file : String) (call : Client.Call) (result : call.Result) : Json :=
  .obj (members call result ++ ((done? file call result).map saying).getD [])

theorem success_json (message : String) (data : Option Json) : Format.json.success message data =
    (Json.obj ((data.toList.map fun d => ("data", d)) ++ saying message)).pretty ++ "\n" := by
  have hmessage : "message" ≠ "success" ∧ "message" < "success" := by decide
  have hdata : "data" ≠ "message" ∧ "data" < "message" := by decide
  cases data <;>
    simp [Format.success, Format.document, Format.line, Json.object, Json.sortMembers, Json.insertMember, saying,
      hmessage, hdata]

theorem canonical_createdJson (created : CreatedAccount) : (Gateway.createdJson created).canonical =
    .obj [("api_key", .str created.apiKey), ("id", .str created.id)] := by
  have hkey : "api_key" ≠ "id" ∧ "api_key" < "id" := by decide
  simp [Gateway.createdJson, Json.canonical, Json.canonicalMembers, Json.sortMembers, Json.insertMember, hkey]

section Shown
variable (file : String) (call : Client.Call) (result : call.Result)

theorem shown_json : shown .json file call result = (document file call result).pretty ++ "\n" := by
  cases call with
  | createAccount id =>
    rw [shown, showCreated, success_json, canonical_createdJson]
    rfl
  | purge =>
    rw [shown, showPurged, success_json]
    rfl
  | destroyAccount _ | createSecret _ _ | loadPolicy _ _ =>
    rw [shown, success_json]
    rfl
  | listAccounts | retrieveApiKey _ | getSecret _ _ => rfl

theorem shown_text {value : String} (h : value? call result = some value) :
    shown .text file call result = value ++ "\n" := by
  cases call with
  | createAccount _ | retrieveApiKey _ | getSecret _ _ =>
    cases h
    rfl
  | _ => cases h

theorem line_ne_empty (s : String) : Format.line s ≠ "" := by
  intro h
  rw [Format.line, String.append_eq_empty_iff] at h
  exact absurd h.2 (by decide)

theorem shown_ne_empty (format : Format) : shown format file call result ≠ "" := by
  cases format with
  | json =>
    rw [shown_json]
    exact line_ne_empty _
  | text =>
    cases call with
    | listAccounts =>
      cases result with
      | nil => exact line_ne_empty _
      | cons id ids =>
        have hlines : shown .text file .listAccounts (id :: ids) = String.join ((id :: ids).map Format.line) := rfl
        rw [hlines, List.map_cons, String.join_cons, ne_eq, String.append_eq_empty_iff]
        exact fun h => line_ne_empty id h.1
    | _ => exact line_ne_empty _

/-- A number of accounts that fits into a word. -/
def IsCounted : (call : Client.Call) → call.Result → Prop
  | .purge, count => count ≤ Text.maxWord 64
  | _, _ => True

variable {call result}

/-- Only such numbers are read off a reply. -/
theorem isCounted_of_result {reply : Reply} (h : call.result reply = .ok result) : IsCounted call result := by
  obtain ⟨body, -, hread⟩ := bind_eq_ok_iff.1 h
  cases call with
  | purge => exact Client.Call.le_of_purged? (Client.Call.readable_eq_ok_iff.1 hread)
  | _ => trivial

theorem fits_saying (depth : Nat) (message : String) : ∀ m ∈ saying message, Json.Fits depth m.2 := by
  simp [saying, Json.Fits]

theorem fits_members (depth : Nat) (h : IsCounted call result) :
    ∀ m ∈ members call result, Json.Fits (depth + 2) m.2 := by
  cases call with
  | purge =>
    have hword : Json.IsWord (result : Nat) := ⟨by omega, Int.ofNat_le.2 h⟩
    simp [members, Gateway.purgedJson, Json.Fits, hword]
  | _ => simp [members, Json.Fits]

/-- Documents are nowhere nested deeper than the data in them. -/
theorem fits_document (depth : Nat) (h : IsCounted call result) :
    Json.Fits (depth + 3) (document file call result) := by
  refine List.forall_mem_append.2 ⟨fits_members depth h, ?_⟩
  cases done? file call result with
  | none => exact fun _ hm => absurd hm List.not_mem_nil
  | some message => exact fits_saying (depth + 2) message

/-- **A document is read off what is printed of it.** -/
theorem read?_shown (h : IsCounted call result) :
    Json.read? (shown .json file call result) = some (document file call result) := by
  rw [shown_json]
  exact Json.read?_pretty_line (fits_document file (Json.maxDepth - 3) h)

/-- **From its document a result is recovered,** whatever texts it holds. -/
theorem recovered?_document (h : IsCounted call result) :
    recovered? call (document file call result) = some result := by
  cases call with
  | listAccounts => exact Json.mapM_text?_eq_some_iff.2 rfl
  | purge =>
    have hwithin : within? "data" "purged_accounts" (document file .purge result) = some (.int (result : Nat)) := rfl
    have hcount : (Json.int (result : Nat)).intBetween? 0 (Text.maxWord 64) = some ((result : Nat) : Int) :=
      Json.intBetween?_eq_some_iff.2 ⟨rfl, by omega, Int.ofNat_le.2 h⟩
    rw [recovered?, hwithin, Option.bind_some, hcount]
    rfl
  | _ => rfl

variable (call result)

theorem member?_message : (document file call result).member? "message" = (done? file call result).map .str := by
  cases call <;> rfl

theorem member?_success :
    (document file call result).member? "success" = (done? file call result).map fun _ => .bool true := by
  cases call <;> rfl

end Shown

end Postern.CommandLine
