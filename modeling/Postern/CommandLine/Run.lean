import Postern.Client.Call
import Postern.CommandLine.Command
import Postern.Gateway.Dispatch
import Postern.Json.Printer

/-!
Carrying out commands.  A command prints only when it has succeeded: in JSON one document, and as text values that
stand alone so that scripts can use them.
-/

namespace Postern.CommandLine.Format

/-! ### Output -/

def line (s : String) : String := s ++ "\n"

def document (j : Json) : String := line j.pretty

/-- That something has been done, in JSON with what has come of it. -/
def success (format : Format) (message : String) (data : Option Json) : String :=
  match format with
  | .json =>
    document (.object ([("success", .bool true), ("message", .str message)] ++ data.toList.map fun d => ("data", d)))
  | .text => line ("✓ " ++ message)

def value (format : Format) (key content : String) : String :=
  match format with
  | .json => document (.object [(key, .str content)])
  | .text => line content

/-- Names, one to a line, or as text a message where there are none. -/
def list (format : Format) (key : String) (names : List String) (whenEmpty : String) : String :=
  match format, names with
  | .json, names => document (.object [(key, .arr (names.map .str))])
  | .text, [] => line whenEmpty
  | .text, names => String.join (names.map line)

end Postern.CommandLine.Format

namespace Postern.CommandLine

/-! ### Commands -/

inductive Failure where
  | badServer (address : String) (error : ClientError)
  | unreadableFile (file : String)
  | failedCall (error : ClientError)
  deriving DecidableEq, Repr

def Failure.message : Failure → String
  | .badServer address _ => "bad --url '" ++ address ++ "'"
  | .unreadableFile file => "failed to read " ++ file
  | .failedCall error => error.message

/-- What a run leaves on the standard output. -/
def printed : Except Failure String → String
  | .ok text => text
  | .error _ => ""

/-- What a call's result is printed as. -/
def report {α : Type} (shown : α → String) : Except ClientError α → Except Failure String
  | .ok a => .ok (shown a)
  | .error e => .error (.failedCall e)

/-- What is printed for a new account: as text, its key alone. -/
def showCreated (format : Format) (created : CreatedAccount) : String :=
  match format with
  | .json => format.success ("Created account '" ++ created.id ++ "'") (some (Gateway.createdJson created).canonical)
  | .text => format.value "api_key" created.apiKey

def showPurged (format : Format) (count : Nat) : String :=
  format.success ("Purged " ++ Text.showNat count ++ " account(s)") (some (Gateway.purgedJson count))

section
variable {m : Type → Type} [Monad m]

/-- Carries out a command; `fileText` gives the text of a file that can be read. -/
def Command.perform (transport : Client.Transport m) (fileText : String → m (Option String)) (client : Client)
    (format : Format) : Command → m (Except Failure String)
  | .listAccounts =>
    report (fun ids => format.list "accounts" ids "No accounts") <$> client.perform transport .listAccounts
  | .createAccount id => report (showCreated format) <$> client.perform transport (.createAccount id)
  | .destroyAccount id =>
    report (fun _ => format.success ("Destroyed account '" ++ id ++ "'") none)
      <$> client.perform transport (.destroyAccount id)
  | .apiKey role => report (format.value "api_key") <$> client.perform transport (.retrieveApiKey role)
  | .getSecret resource version =>
    report (format.value "value") <$> client.perform transport (.getSecret resource version)
  | .setSecret resource value =>
    report (fun _ => format.success ("Stored '" ++ resource ++ "'") none)
      <$> client.perform transport (.createSecret resource value)
  | .loadPolicy resource file => do
    match ← fileText file with
    | none => return .error (.unreadableFile file)
    | some policy =>
      report (fun _ => format.success ("Loaded " ++ file ++ " into '" ++ resource ++ "'") none)
        <$> client.perform transport (.loadPolicy resource policy)
  | .purge => report (showPurged format) <$> client.perform transport .purge

def Invocation.run (transport : Client.Transport m) (fileText : String → m (Option String)) (i : Invocation) :
    m (Except Failure String) :=
  match Client.ofServer i.server with
  | .ok client => i.command.perform transport fileText client i.format
  | .error e => return .error (.badServer i.server e)

end

end Postern.CommandLine
