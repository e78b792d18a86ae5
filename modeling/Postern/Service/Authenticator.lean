import Postern.Gateway.Error
import Postern.Http.Message
import Postern.Instant
import Postern.Pattern.Reader
import Postern.Settings
import Postern.Token.Signed

/-!
Authentication by signed tokens.  An authenticator knows the secret that tokens are signed with, and patterns of paths
that need no token.  The patterns can be of any kind that is read from texts and matches texts (`Matcher`); the service
uses those of `Pattern`.
-/

namespace Postern

structure User where
  roleId : String
  account : String
  deriving DecidableEq, Repr

def Claims.user (c : Claims) : User := ⟨c.sub, c.account⟩

inductive CredentialError where
  | missing
  | notText
  | notBearer
  | blank
  | refused (error : Token.Error)
  deriving DecidableEq, Repr

/-- What is said about the credentials of a request. -/
def CredentialError.message : CredentialError → String
  | .missing => "Missing Authorization header"
  | .notText => "Invalid Authorization header format"
  | .notBearer => "Authorization header must use Bearer token format"
  | .blank => "Empty JWT token"
  | .refused error => error.message

/-- A request without the right credentials. -/
def ApiError.ofCredentials (e : CredentialError) : ApiError := ⟨.unauthorized, e.message⟩

/-- A text that is no pattern. -/
structure BadPattern where
  text : String
  deriving DecidableEq, Repr

/-- What is said about a text that is no pattern.  It stands for whatever the reader of patterns says itself, which
shows the text with a mark under the place where it cannot be read. -/
def BadPattern.message (_ : BadPattern) : String := "not a regular expression"

/-- A kind of patterns. -/
class Matcher (ρ : Type) where
  /-- The pattern that a text writes. -/
  read? : String → Option ρ
  /-- Whether a pattern matches somewhere in a text. -/
  isMatch : ρ → String → Bool

instance : Matcher Pattern := ⟨Pattern.read?, Pattern.isMatch⟩

@[simp] theorem Pattern.matcher_isMatch (p : Pattern) (text : String) : Matcher.isMatch p text = p.isMatch text := rfl

/-- What decides whether a request is let in. -/
structure Authenticator (ρ : Type := Pattern) where
  secret : String
  /-- Patterns with the texts that they were read from. -/
  bypass : List (String × ρ)
  deriving Repr

namespace Authenticator

section
variable {ρ : Type}

/-- An authenticator that lets no path in without a token. -/
def new (secret : String) : Authenticator ρ := ⟨secret, []⟩

def ofSecret? (secret : String) : Option (Authenticator ρ) := if secret = "" then none else some (new secret)

/-- The patterns of paths that need no token, in order. -/
def patterns (a : Authenticator ρ) : List String := a.bypass.map (·.1)

variable [Matcher ρ]

/-- Adds a pattern unless it is there already; says also whether it was added. -/
def exempt (a : Authenticator ρ) (pattern : String) : Except BadPattern (Bool × Authenticator ρ) :=
  if a.patterns.contains pattern then .ok (false, a)
  else
    match Matcher.read? pattern with
    | some p => .ok (true, { a with bypass := a.bypass ++ [(pattern, p)] })
    | none => .error ⟨pattern⟩

def isExempt (a : Authenticator ρ) (path : String) : Bool := a.bypass.any fun b => Matcher.isMatch b.2 path

end

/-- What comes before a token in the header that brings it. -/
def scheme : List Char := ['B', 'e', 'a', 'r', 'e', 'r', ' ']

def token (r : HttpRequest) : Except CredentialError String :=
  match r.value? "authorization" with
  | none => .error .missing
  | some value =>
    if !HttpRequest.isTextValue value then .error .notText
    else if !scheme.isPrefixOf value.toList then .error .notBearer
    else
      let token := String.ofList (value.toList.drop scheme.length)
      if Text.isAllBlank token then .error .blank else .ok token

/-- The user of a request at a time. -/
def authenticate (a : Authenticator) (now : Instant) (r : HttpRequest) : Except CredentialError User :=
  match token r with
  | .error e => .error e
  | .ok token =>
    match Token.verify now.seconds a.secret token with
    | .ok claims => .ok claims.user
    | .error e => .error (.refused e)

end Authenticator
end Postern
