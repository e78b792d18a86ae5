import Postern.Id
import Postern.Yaml.Document
import Postern.Yaml.Value

/-!
Policy documents.  A document is a list of statements, each of them a tagged value; users and hosts own API keys and so
declare roles, a policy holds more statements in its body.  Whatever else stands in a document declares nothing.
`declaredRoles` reads the roles that a document declares when it is loaded into a policy.

Ids are qualified by the path of the enclosing policies: a user is `alice@db-app`, a host is `db/app/bob`, and
under the empty path an id stands alone.
-/

namespace Postern.Policy

/-! ### Statements -/

/-- The statements that count. -/
inductive RecordKind where
  | user | host | policy
  deriving DecidableEq, Repr

def RecordKind.text : RecordKind → String
  | .user => "user"
  | .host => "host"
  | .policy => "policy"

/-- The kind of statement that a tag names; exclamation marks at its start do not count. -/
def RecordKind.ofTag? (tag : String) : Option RecordKind :=
  let name := String.ofList (tag.toList.dropWhile (· = '!'))
  if name = "user" then some .user
  else if name = "host" then some .host
  else if name = "policy" then some .policy
  else none

/-- Why a document declares no roles at all. -/
inductive DeclarationError where
  | malformed (reason : String)
  | missingId (kind : RecordKind)
  | invalidId (kind : RecordKind) (id : String)
  deriving DecidableEq, Repr

/-- What is said about a document that declares no roles at all. -/
def DeclarationError.message : DeclarationError → String
  | .malformed reason => "malformed policy: " ++ reason
  | .missingId kind => "!" ++ kind.text ++ " record without an id"
  | .invalidId kind id => "invalid " ++ kind.text ++ " id '" ++ id ++ "'"

/-! ### Ids -/

/-- The text that a record gives as its id: the record itself, or the entry `id` of a mapping. -/
def writtenId? : Yaml → Option String
  | .str id => some id
  | .map entries => (Yaml.findIn "id" entries).bind Yaml.text?
  | _ => none

/-- An id is not empty and holds no colon. -/
def isValidId (id : String) : Bool := id ≠ "" && !id.toList.contains ':'

def recordId (kind : RecordKind) (record : Yaml) : Except DeclarationError String :=
  match writtenId? record with
  | some id => if isValidId id then .ok id else .error (.invalidId kind id)
  | none => .error (.missingId kind)

def dashed (path : String) : String := path.map fun c => if c = '/' then '-' else c

/-- The id of a record below a path. -/
def qualify (kind : RecordKind) (path id : String) : String :=
  if path = "" then id
  else
    match kind with
    | .user => id ++ "@" ++ dashed path
    | _ => path ++ "/" ++ id

def extend (path id : String) : String := if path = "" then id else path ++ "/" ++ id

/-! ### Declarations -/

def roleOf (account path : String) (kind : RecordKind) (id : String) : RoleId :=
  ⟨account, kind.text, qualify kind path id⟩

mutual

/-- The roles that a list of statements declares below a path, in order.  Anything but a list declares none. -/
def collect (account path : String) : Yaml → Except DeclarationError (List RoleId)
  | .seq statements => collectItems account path statements
  | _ => .ok []

def collectItems (account path : String) : List Yaml → Except DeclarationError (List RoleId)
  | [] => .ok []
  | .tagged tag record :: rest =>
    match RecordKind.ofTag? tag with
    | none => collectItems account path rest
    | some kind => do
      let id ← recordId kind record
      let declared ←
        if kind = .policy then collectBody account (extend path id) record
        else pure [roleOf account path kind id]
      return declared ++ (← collectItems account path rest)
  | _ :: rest => collectItems account path rest

def collectBody (account path : String) : Yaml → Except DeclarationError (List RoleId)
  | .map entries => collectEntry account path entries
  | .tagged _ record => collectBody account path record
  | _ => .ok []

/-- The roles that the first entry `body` declares. -/
def collectEntry (account path : String) : List (Yaml × Yaml) → Except DeclarationError (List RoleId)
  | [] => .ok []
  | (key, value) :: rest =>
    match key with
    | .str name => if name = "body" then collect account path value else collectEntry account path rest
    | _ => collectEntry account path rest

end

/-! ### Documents -/

/-- The identifier of the policy that every account starts with. -/
def rootPolicy : String := "root"

/-- The path below which a policy's statements stand. -/
def pathOf (target : ResourceId) : String :=
  if target.identifier = rootPolicy then "" else target.identifier

def statements (document : String) : Except DeclarationError Yaml :=
  match Yaml.read document with
  | .ok v => .ok v
  | .error fault => .error (.malformed fault.message)

/-- The roles that a document declares when it is loaded into the policy `target`. -/
def declaredRoles (target : ResourceId) (document : String) : Except DeclarationError (List RoleId) := do
  collect target.account (pathOf target) (← statements document)

end Postern.Policy
