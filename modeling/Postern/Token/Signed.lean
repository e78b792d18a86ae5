import Postern.Digest
import Postern.Id
import Postern.Json.Printer
import Postern.Json.Record
import Postern.Text.Encoding
import Postern.Text.Fields
import Postern.Text.Number

/-!
Signed tokens: a header, claims and a signature, each in base64, joined by dots.  Claims say whom a token stands for, in
which account, and from when until when, in seconds since the start of 1970.  The signature is an HMAC-SHA256 of what
stands before it.  `issue` writes a token and `verify` accepts one.
-/

namespace Postern

/-! ### Claims -/

structure Claims where
  sub : String
  account : String
  exp : Int
  iat : Int
  deriving DecidableEq, Repr

namespace Claims

def firstSecond : Int := -8334601228800

def lastSecond : Int := 8210266876799

/-- A number of hours as a signed word of 64 bits. -/
def signedHours (hours : Nat) : Int := Int.bmod hours (Text.wordCount 64)

/-- The longest lifetime in seconds: as many milliseconds as a signed word of 64 bits holds. -/
def longestLifetime : Int := Text.maxWord 63 / 1000

/-- The claims of a role from `now` on, for a number of hours.  There are none where the end is no date. -/
def ofRole? (now : Int) (role : RoleId) (hours : Nat) : Option Claims :=
  let lifetime := signedHours hours * 3600
  let exp := now + lifetime
  if -longestLifetime ≤ lifetime ∧ lifetime ≤ longestLifetime ∧ firstSecond ≤ exp ∧ exp ≤ lastSecond then
    some ⟨role.text, role.account, exp, now⟩
  else none

end Claims

end Postern

namespace Postern.Token

/-! ### Tokens -/

/-- Why a token is not accepted. -/
inductive Fault where
  | missingPart
  | badEncoding
  | badJson
  | wrongAlgorithm
  | wrongSignature
  | missingExpiry
  | expired
  | wrongAudience
  deriving DecidableEq, Repr

/-- What is said about a token that is not accepted.  Behind `Base64 error` and `JSON error` the text stands for what
the readers of these formats say themselves. -/
def Fault.message : Fault → String
  | .missingPart => "InvalidToken"
  | .badEncoding => "Base64 error: not URL-safe base64 without padding"
  | .badJson => "JSON error: not a record of the expected members"
  | .wrongAlgorithm => "InvalidAlgorithm"
  | .wrongSignature => "InvalidSignature"
  | .missingExpiry => "Missing required claim: exp"
  | .expired => "ExpiredSignature"
  | .wrongAudience => "InvalidAudience"

/-- Why a token is neither issued nor accepted. -/
inductive Error where
  | emptySecret
  | invalid (fault : Fault)
  deriving DecidableEq, Repr

/-- What is said about a token that is neither issued nor accepted. -/
def Error.message : Error → String
  | .emptySecret => "Invalid JWT secret"
  | .invalid fault => "Invalid JWT token: " ++ fault.message

/-! ### Issuing -/

def header : Json := .obj [("typ", .str "JWT"), ("alg", .str "HS256")]

def payload (c : Claims) : Json :=
  .obj [("sub", .str c.sub), ("account", .str c.account), ("exp", .int c.exp), ("iat", .int c.iat)]

def part (j : Json) : List Char := Text.Base64.encode (Text.Utf8.encode j.compact)

def signature (secret : String) (message : List Char) : List Char :=
  Text.Base64.encode
    (Digest.hmacSha256 (Text.Utf8.encode secret) (Text.Utf8.encode (String.ofList message)))

def issue (secret : String) (c : Claims) : Except Error String :=
  if secret = "" then .error .emptySecret
  else
    let message := part header ++ '.' :: part (payload c)
    .ok (String.ofList (message ++ '.' :: signature secret message))

/-! ### Reading headers -/

/-- A member that may be missing or null, and else satisfies `p`. -/
def isOptional (p : Json → Bool) : Option Json → Bool
  | none | some .null => true
  | some j => p j

def isText (j : Json) : Bool := j.text?.isSome

def isTexts (j : Json) : Bool := (j.list? Json.text?).isSome

def algorithms : List String :=
  ["HS256", "HS384", "HS512", "ES256", "ES384", "RS256", "RS384", "RS512", "PS256", "PS384", "PS512", "EdDSA"]

/-- The name of a choice without parameters: a string, or an object with that name and null. -/
def choice? : Json → Option String
  | .str s => some s
  | .obj [(name, .null)] => some name
  | _ => none

/-- Whether a member is one of the given names. -/
def isChoice (names : List String) (j : Json) : Bool := (choice? j).any names.contains

def hasMember (name : String) (p : Json → Bool) (j : Json) : Bool := (j.member? name).any p

/-- Whether a value describes a key: of an elliptic curve, of RSA, a plain one, or a pair. -/
def isKey (j : Json) : Bool :=
  let optional (name : String) (p : Json → Bool) : Bool := isOptional p (j.member? name)
  let kind (name : String) : Bool := hasMember "kty" (isChoice [name]) j
  let curve : Bool := hasMember "crv" (isChoice ["P-256", "P-384", "P-521", "Ed25519"]) j
  let text (name : String) : Bool := hasMember name isText j
  optional "use" isText && optional "key_ops" isTexts
    && optional "alg" (isChoice (algorithms ++ ["RSA1_5", "RSA-OAEP", "RSA-OAEP-256"]))
    && optional "kid" isText && optional "x5u" isText && optional "x5c" isTexts && optional "x5t" isText
    && optional "x5t#S256" isText
    && ((kind "EC" && curve && text "x" && text "y") || (kind "RSA" && text "n" && text "e")
      || (kind "oct" && text "k") || (kind "OKP" && curve && text "x"))

def headerNames : List String := ["typ", "alg", "cty", "jku", "jwk", "kid", "x5u", "x5c", "x5t", "x5t#S256"]

def headerReaders : List (String × Json.ValueReader) := headerNames.map (·, Json.within?)

/-- The algorithm that a header names, its other members being of the right types. -/
def algorithm? (j : Json) : Option String :=
  match j.fields? headerNames with
  | some [typ, some alg, cty, jku, jwk, kid, x5u, x5c, x5t, x5tS256] =>
    if [typ, cty, jku, kid, x5u, x5t, x5tS256].all (isOptional isText) && isOptional isKey jwk
        && isOptional isTexts x5c then
      (choice? alg).filter algorithms.contains
    else none
  | _ => none

/-! ### Reading claims -/

def int64? (j : Json) : Option Int := j.intBetween? (-Text.wordCount 63) (Text.maxWord 63)

/-- Whether a value holds others. -/
def holdsValues : Json → Bool
  | .arr (_ :: _) => true
  | .obj (_ :: _) => true
  | _ => false

/-- How the members of a payload are read.  The claims have to be readable, what is only looked at need not be. -/
def claimReaders : List (String × Json.ValueReader) :=
  ["sub", "account", "exp", "iat"].map (·, Json.within?)
    ++ [("nbf", Json.orNull 0), ("iss", Json.orNull (Json.maxDepth - 1)), ("aud", Json.orNull (Json.maxDepth - 1))]

/-- The claims of a payload, and its audience.  A member that counts occurs at most once. -/
def claims? (j : Json) : Option (Claims × Option Json) :=
  match j with
  | .obj _ =>
    match j.fields? ["sub", "account", "exp", "iat", "nbf", "iss", "aud"] with
    | some [some sub, some account, some exp, some iat, nbf, _, aud] => do
      if nbf.any holdsValues then none
      return (⟨← sub.text?, ← account.text?, ← int64? exp, ← int64? iat⟩, aud)
    | _ => none
  | _ => none

/-- Whether a payload names its audience. -/
def namesAudience (aud : Option Json) : Bool := aud.any fun j => isText j || isTexts j

/-! ### Accepting -/

def record? (readers : List (String × Json.ValueReader)) (part : List Char) : Except Fault Json :=
  match Text.Base64.decode? part with
  | none => .error .badEncoding
  | some bytes =>
    match Json.record? readers bytes with
    | some j => .ok j
    | none => .error .badJson

/-- The three parts of a token: those around its last two dots. -/
def parts? (token : List Char) : Option (List Char × List Char × List Char) :=
  match Text.splitLast? '.' token with
  | none => none
  | some (message, signature) => (Text.splitLast? '.' message).map fun (h, p) => (h, p, signature)

/-- How many seconds a token is accepted after its end. -/
def leeway : Int := 60

/-- Whether claims hold at the time `now`; no audience is expected. -/
def validate (now : Int) (c : Claims) (aud : Option Json) : Except Fault Claims :=
  if c.exp < 0 then .error .missingExpiry
  else if c.exp < now - leeway then .error .expired
  else if namesAudience aud then .error .wrongAudience
  else .ok c

/-- The claims of a token that is signed by a secret and holds at the time `now`. -/
def check (now : Int) (secret token : String) : Except Fault Claims :=
  match parts? token.toList with
  | none => .error .missingPart
  | some (headerPart, payloadPart, sig) =>
    match record? headerReaders headerPart with
    | .error e => .error e
    | .ok h =>
      match algorithm? h with
      | none => .error .badJson
      | some name =>
        if name ≠ "HS256" then .error .wrongAlgorithm
        else if sig ≠ signature secret (headerPart ++ '.' :: payloadPart) then .error .wrongSignature
        else
          match record? claimReaders payloadPart with
          | .error e => .error e
          | .ok p =>
            match claims? p with
            | none => .error .badJson
            | some (c, aud) => validate now c aud

/-- The claims of a token, where a secret is set. -/
def verify (now : Int) (secret token : String) : Except Error Claims :=
  if secret = "" then .error .emptySecret
  else
    match check now secret token with
    | .ok c => .ok c
    | .error fault => .error (.invalid fault)

end Postern.Token
