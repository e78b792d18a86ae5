import Postern.Proofs.Client.Agreement
import Postern.Proofs.CommandLine.Shown

/-!
What a run comes to.  A command makes one call, after it has read the file that it names, if any, and nothing is shown
before the call has succeeded (`perform_eq`).  So a run has failed if the server's address, the file or the call has
(`FailsWith`), and else it shows the result of the call (`Obtains`).  In the first case nothing has been printed, and in
the second the result can be told from what has been printed (`all_or_nothing`).
-/

namespace Postern.CommandLine

def Command.file : Command → String
  | .loadPolicy _ file => file
  | _ => ""

section
variable {m : Type → Type} [Monad m]

/-- The call that a command makes, unless there is a file to be read first and it cannot be read. -/
def Command.call (fileText : String → m (Option String)) : Command → m (Except Failure Client.Call)
  | .listAccounts => return .ok .listAccounts
  | .createAccount id => return .ok (.createAccount id)
  | .destroyAccount id => return .ok (.destroyAccount id)
  | .apiKey role => return .ok (.retrieveApiKey role)
  | .getSecret resource version => return .ok (.getSecret resource version)
  | .setSecret resource value => return .ok (.createSecret resource value)
  | .loadPolicy resource file => do
    match ← fileText file with
    | none => return .error (.unreadableFile file)
    | some policy => return .ok (.loadPolicy resource policy)
  | .purge => return .ok .purge

/-- **A command is its call and what is shown of it.** -/
theorem Command.perform_eq [LawfulMonad m] (transport : Client.Transport m) (fileText : String → m (Option String))
    (client : Client) (format : Format) (command : Command) :
    command.perform transport fileText client format = (do
      match ← command.call fileText with
      | .error e => return .error e
      | .ok call => report (shown format command.file call) <$> client.perform transport call) := by
  cases command with
  | loadPolicy resource file =>
    simp only [Command.perform, Command.call, bind_assoc]
    refine congrArg (fileText file >>= ·) (funext fun text => ?_)
    cases text with
    | none => rw [pure_bind]
    | some policy =>
      rw [pure_bind]
      rfl
  | _ =>
    simp only [Command.perform, Command.call, pure_bind]
    rfl

end

/-! ### Runs -/

namespace Invocation

section
variable {σ : Type} (transport : Client.Transport (StateM σ)) (fileText : String → StateM σ (Option String))
  (i : Invocation) (t : σ)

/-- A call that an invocation comes to make, the client that makes it, and the state of the world by then. -/
structure Calls (client : Client) (call : Client.Call) (t' : σ) : Prop where
  server : Client.ofServer i.server = .ok client
  command : (i.command.call fileText).run t = (.ok call, t')

/-- A call that an invocation makes gives back a result. -/
def Obtains (call : Client.Call) (result : call.Result) : Prop :=
  ∃ client t', i.Calls fileText t client call t' ∧ ((client.perform transport call).run t').1 = .ok result

/-- Why an invocation fails. -/
inductive FailsWith : Failure → Prop
  | server {e : ClientError} (h : Client.ofServer i.server = .error e) : FailsWith (.badServer i.server e)
  | file {client : Client} {resource file : String} (hserver : Client.ofServer i.server = .ok client)
    (hcommand : i.command = .loadPolicy resource file) (hfile : ((fileText file).run t).1 = none) :
    FailsWith (.unreadableFile file)
  | call {client : Client} {call : Client.Call} {t' : σ} {e : ClientError} (hcalls : i.Calls fileText t client call t')
    (he : ((client.perform transport call).run t').1 = .error e) : FailsWith (.failedCall e)

variable {transport fileText i t}

/-- Only a file that cannot be read keeps a command from its call. -/
theorem call_eq_error_iff {e : Failure} : ((i.command.call fileText).run t).1 = .error e ↔
    ∃ resource file, i.command = .loadPolicy resource file ∧ ((fileText file).run t).1 = none ∧
      e = .unreadableFile file := by
  cases hcommand : i.command with
  | loadPolicy resource file =>
    rw [Command.call, StateT.run_bind]
    cases hfile : (fileText file).run t with
    | mk text t' =>
      cases text with
      | none =>
        constructor
        · intro h
          exact ⟨resource, file, rfl, by rw [hfile], (Except.error.inj h).symm⟩
        · rintro ⟨_, _, ⟨⟩, -, rfl⟩
          rfl
      | some policy =>
        refine iff_of_false (fun h => nomatch h) ?_
        rintro ⟨_, _, ⟨⟩, hnone, -⟩
        rw [hfile] at hnone
        cases hnone
  | _ =>
    refine iff_of_false (fun h => nomatch h) ?_
    rintro ⟨_, _, ⟨⟩, -⟩

theorem run_of_badServer {e : ClientError} (h : Client.ofServer i.server = .error e) :
    ((i.run transport fileText).run t).1 = .error (.badServer i.server e) := by
  rw [run, h]
  rfl

section
variable {client : Client} (hserver : Client.ofServer i.server = .ok client) {t' : σ}
include hserver

theorem run_of_server : i.run transport fileText = (do
    match ← i.command.call fileText with
    | .error e => return .error e
    | .ok call => report (shown i.format i.command.file call) <$> client.perform transport call) := by
  rw [run, hserver]
  exact i.command.perform_eq transport fileText client i.format

theorem run_of_error {e : Failure} (hcall : (i.command.call fileText).run t = (.error e, t')) :
    ((i.run transport fileText).run t).1 = .error e := by
  rw [run_of_server hserver, StateT.run_bind, hcall]
  rfl

theorem run_of_call {call : Client.Call} (hcall : (i.command.call fileText).run t = (.ok call, t')) :
    ((i.run transport fileText).run t).1 =
      report (shown i.format i.command.file call) ((client.perform transport call).run t').1 := by
  rw [run_of_server hserver, StateT.run_bind, hcall]
  rfl

end

theorem FailsWith.run_eq {e : Failure} (h : i.FailsWith transport fileText t e) :
    ((i.run transport fileText).run t).1 = .error e := by
  cases h with
  | server h => exact run_of_badServer h
  | file hserver hcommand hfile =>
    exact run_of_error hserver (Prod.ext (call_eq_error_iff.2 ⟨_, _, hcommand, hfile, rfl⟩) rfl)
  | call hcalls he =>
    rw [run_of_call hcalls.server hcalls.command, he]
    rfl

/-- **A run has a reason to fail, or it shows what its call gives back.** -/
theorem run_cases (transport : Client.Transport (StateM σ)) (fileText : String → StateM σ (Option String))
    (i : Invocation) (t : σ) :
    (∃ e, i.FailsWith transport fileText t e) ∨ ∃ call result, i.Obtains transport fileText t call result ∧
      ((i.run transport fileText).run t).1 = .ok (shown i.format i.command.file call result) := by
  cases hserver : Client.ofServer i.server with
  | error e => exact .inl ⟨_, .server hserver⟩
  | ok client =>
    obtain ⟨outcome, t', hcall⟩ : ∃ outcome t', (i.command.call fileText).run t = (outcome, t') := ⟨_, _, rfl⟩
    cases outcome with
    | error e =>
      obtain ⟨resource, file, hcommand, hfile, -⟩ := call_eq_error_iff.1 (congrArg Prod.fst hcall)
      exact .inl ⟨_, .file hserver hcommand hfile⟩
    | ok call =>
      cases hresult : ((client.perform transport call).run t').1 with
      | error e => exact .inl ⟨_, .call ⟨hserver, hcall⟩ hresult⟩
      | ok result =>
        refine .inr ⟨call, result, ⟨client, t', ⟨hserver, hcall⟩, hresult⟩, ?_⟩
        rw [run_of_call hserver hcall, hresult]
        rfl

theorem run_eq_error_iff {e : Failure} :
    ((i.run transport fileText).run t).1 = .error e ↔ i.FailsWith transport fileText t e := by
  refine ⟨fun h => ?_, FailsWith.run_eq⟩
  rcases run_cases transport fileText i t with ⟨e', he⟩ | ⟨call, result, -, hrun⟩
  · obtain rfl := Except.error.inj (h.symm.trans he.run_eq)
    exact he
  · cases h.symm.trans hrun

theorem Obtains.isCounted {call : Client.Call} {result : call.Result} (h : i.Obtains transport fileText t call result) :
    IsCounted call result := by
  obtain ⟨client, t', -, hresult⟩ := h
  obtain ⟨reply, -, hreply⟩ := bind_eq_ok_iff.1 hresult
  exact isCounted_of_result hreply

end

end Invocation

/-! ### What is printed -/

/-- What is told of the result of a call. -/
structure Tells (format : Format) (file : String) (call : Client.Call) (result : call.Result) (text : String) :
    Prop where
  /-- As JSON it is one document, from which the result can be recovered, and which says that the call has succeeded
  where it says what has been done. -/
  document : format = .json → ∃ j, text = j.pretty ++ "\n" ∧ Json.read? text = some j ∧
    recovered? call j = some result ∧ j.member? "message" = (done? file call result).map .str ∧
    j.member? "success" = (done? file call result).map fun _ => .bool true
  /-- As text a value stands alone. -/
  alone : format = .text → ∀ value, value? call result = some value → text = value ++ "\n"

theorem tells_shown (format : Format) (file : String) {call : Client.Call} {result : call.Result}
    (h : IsCounted call result) : Tells format file call result (shown format file call result) := by
  constructor
  · rintro rfl
    exact ⟨document file call result, shown_json file call result, read?_shown file h, recovered?_document file h,
      member?_message file call result, member?_success file call result⟩
  · rintro rfl value hvalue
    exact shown_text file call result hvalue

/-- **All or nothing.**  A run fails exactly if the address of the server is bad, the file of a policy cannot be read or
the call gives back an error; nothing is printed exactly then, and else what is printed tells the result of the call. -/
theorem all_or_nothing {σ : Type} (transport : Client.Transport (StateM σ))
    (fileText : String → StateM σ (Option String)) (i : Invocation) (t : σ) :
    let out := ((i.run transport fileText).run t).1
    (∀ e, out = .error e ↔ i.FailsWith transport fileText t e) ∧ (printed out = "" ↔ ∃ e, out = .error e) ∧
      ∀ text, out = .ok text → ∃ call result, i.Obtains transport fileText t call result ∧
        Tells i.format i.command.file call result text := by
  intro out
  refine ⟨fun e => Invocation.run_eq_error_iff, ?_, ?_⟩
  · rcases Invocation.run_cases transport fileText i t with ⟨e, he⟩ | ⟨call, result, -, hrun⟩
    · have hout : out = .error e := he.run_eq
      rw [hout]
      exact iff_of_true rfl ⟨e, rfl⟩
    · have hout : out = .ok (shown i.format i.command.file call result) := hrun
      rw [hout]
      exact iff_of_false (shown_ne_empty i.command.file call result i.format) (fun ⟨_, h⟩ => nomatch h)
  · intro text htext
    rcases Invocation.run_cases transport fileText i t with ⟨e, he⟩ | ⟨call, result, hobtains, hrun⟩
    · cases htext.symm.trans he.run_eq
    · obtain rfl := Except.ok.inj (hrun.symm.trans htext)
      exact ⟨call, result, hobtains, tells_shown i.format i.command.file hobtains.isCounted⟩

/-- A secret that has to be escaped is told, and where there is no response nothing is printed. -/
theorem all_or_nothing_secret :
    let value := "a\"\\\n\u0001é"
    let i : Invocation := ⟨"http://localhost:3000/", .json, .getSecret "c:variable:x" none⟩
    let noFile : String → StateM Unit (Option String) := fun _ => return none
    let answered := ((i.run (fun _ => return .ok (.text 200 value)) noFile).run ()).1
    let unanswered := ((i.run (fun _ => return .error "connection refused") noFile).run ()).1
    (∃ text j, answered = .ok text ∧ Json.read? text = some j ∧ (j.member? "value").bind Json.text? = some value) ∧
      unanswered = .error (.failedCall (.unreachable "connection refused")) ∧ printed unanswered = "" := by
  intro value i noFile answered unanswered
  obtain ⟨root, hread, hroot⟩ := Client.read_localhost
  have hserver := Client.ofServer_root hread hroot
  constructor
  · obtain ⟨-, -, htells⟩ := all_or_nothing (fun _ => return .ok (.text 200 value)) noFile i ()
    have hreply : Client.Call.result (.getSecret "c:variable:x" none) (Reply.ofResponse (.text 200 value)) =
        .ok value := by
      rw [Reply.ofResponse_text]
      decide
    have hanswered : answered = report (shown .json "" (.getSecret "c:variable:x" none)) (.ok value) :=
      (Invocation.run_of_call hserver rfl).trans (congrArg (report _) hreply)
    obtain ⟨call, result, ⟨client, t', ⟨-, hcommand⟩, hresult⟩, htold⟩ := htells _ hanswered
    obtain rfl : Client.Call.getSecret "c:variable:x" none = call := Except.ok.inj (congrArg Prod.fst hcommand)
    obtain rfl : value = result := Except.ok.inj (hreply.symm.trans hresult)
    obtain ⟨j, -, hj, hrecovered, -⟩ := htold.document rfl
    exact ⟨_, j, hanswered, hj, hrecovered⟩
  · obtain ⟨hfails, hsilent, -⟩ := all_or_nothing (fun _ => return .error "connection refused") noFile i ()
    have hfailed := (hfails _).2 (.call ⟨hserver, rfl⟩ rfl)
    exact ⟨hfailed, hsilent.2 ⟨_, hfailed⟩⟩

end Postern.CommandLine
