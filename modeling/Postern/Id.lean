import Postern.Text.Fields

/-!
Addresses of resources and roles.  Both are written `account:kind:name` with three non-empty parts that hold no
colon; `parse` reads exactly these texts and `text` writes them.
-/

namespace Postern

/-- A text that is no address. -/
structure MalformedId where
  raw : String
  deriving DecidableEq, Repr

/-- What is said about a text that is no address. -/
def MalformedId.message (e : MalformedId) : String :=
  "expected 'account:kind:identifier', got '" ++ e.raw ++ "'"

/-- The three parts of an address. -/
def triple? (raw : String) : Option (String × String × String) :=
  match Text.fields ':' raw.toList with
  | [a, k, i] =>
    if a ≠ [] ∧ k ≠ [] ∧ i ≠ [] then some (String.ofList a, String.ofList k, String.ofList i) else none
  | _ => none

/-- Three parts as an address. -/
def tripleText (account kind name : String) : String := account ++ ":" ++ kind ++ ":" ++ name

structure ResourceId where
  account : String
  kind : String
  identifier : String
  deriving DecidableEq, Repr, Inhabited

structure RoleId where
  account : String
  kind : String
  id : String
  deriving DecidableEq, Repr, Inhabited

namespace ResourceId

def text (r : ResourceId) : String := tripleText r.account r.kind r.identifier

def parse (raw : String) : Except MalformedId ResourceId :=
  match triple? raw with
  | some (a, k, i) => .ok ⟨a, k, i⟩
  | none => .error ⟨raw⟩

end ResourceId

namespace RoleId

def text (r : RoleId) : String := tripleText r.account r.kind r.id

def parse (raw : String) : Except MalformedId RoleId :=
  match triple? raw with
  | some (a, k, i) => .ok ⟨a, k, i⟩
  | none => .error ⟨raw⟩

def adminOf (account : String) : RoleId := ⟨account, "user", "admin"⟩

end RoleId
end Postern
