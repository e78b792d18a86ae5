import Postern.Service.Handlers

/-!
The whole service.  `App.build` puts it together from settings, and `App.handle` answers requests.

A request passes, from the outside in, the answers for other sites, the authenticator, and its route.  Both also stand
before the answers for unknown paths and wrong methods.
-/

namespace Postern

/-- Why the service does not start. -/
inductive StartupError where
  | authenticatorMissing
  | invalidBypassPattern (pattern : BadPattern)
  | gatewayInProduction
  | store (error : StoreError)
  | bind (address reason : String)
  | serve (reason : String)
  deriving DecidableEq, Repr

def StartupError.message : StartupError → String
  | .authenticatorMissing => "no authenticator configured (set SECURITY_JWT_SECRET)"
  | .invalidBypassPattern pattern => "invalid bypass pattern '" ++ pattern.text ++ "': " ++ pattern.message
  | .gatewayInProduction => "the /dev gateway cannot be enabled in production"
  | .store error => "store unavailable: " ++ error.message
  | .bind address reason => "failed to bind " ++ address ++ ": " ++ reason
  | .serve reason => "server error: " ++ reason

namespace Service

/-! ### Layers -/

/-- What stands around handlers. -/
abbrev Layer := Handler → Handler

/-- Lets requests pass that need no token or bring a good one; handlers then know the user. -/
def authLayer (a : Authenticator) : Layer := fun inner v =>
  if a.isExempt v.request.path then inner v
  else
    match a.authenticate v.now v.request with
    | .ok user => inner { v with user := some user }
    | .error e => .answer (ApiError.ofCredentials e).response

/-- The request headers that answers for other sites depend on. -/
def varyHeader : String × String :=
  ("vary", "origin, access-control-request-method, access-control-request-headers")

/-- The header that allows every other site. -/
def anyOrigin : String × String := ("access-control-allow-origin", "*")

/-- The answer to a question of what other sites may do: everything. -/
def preflight : Response :=
  ⟨200, [("access-control-allow-headers", "*"), ("access-control-allow-methods", "*"), anyOrigin, varyHeader], ""⟩

def shared (r : Response) : Response :=
  { r with headers := r.headers ++ [anyOrigin, ("access-control-expose-headers", "*"), varyHeader] }

/-- Lets other sites in. -/
def corsLayer : Layer := fun inner v =>
  if v.request.method = "OPTIONS" then .answer preflight else (inner v).map shared

/-! ### Routing -/

def notFound : Handler := fun _ => .answer (.empty 404)

def wrongMethod : Handler := fun _ => .answer (.empty 405)

def withoutBody (r : Response) : Response := { r with body := "" }

def withMethods (r : Response) : Response := { r with headers := r.headers ++ [("allow", "GET,HEAD")] }

/-- What answers a request inside of layers: the route of its path, for the methods GET and HEAD. -/
def answer (layers : Layer) (router : Router Handler) : Handler := fun v =>
  match router.find? v.request.path with
  | none => layers notFound v
  | some handler =>
    if v.request.method = "GET" then layers handler v
    else if v.request.method = "HEAD" then (layers handler v).map withoutBody
    else (layers wrongMethod v).map withMethods

end Service

/-! ### The service -/

/-- The service, ready to answer. -/
structure App where
  router : Router Handler
  authenticator : Authenticator
  enableCors : Bool

namespace App

def publicPatterns : List String := ["^/$", "^/health$"]

def gatewayPattern : String := "^/dev"

def exempt {ρ : Type} [Matcher ρ] (a : Authenticator ρ) (pattern : String) :
    Except StartupError (Authenticator ρ) :=
  match a.exempt pattern with
  | .ok (_, a) => .ok a
  | .error e => .error (.invalidBypassPattern e)

/-- Lets the gateway's path in without a token; there must be an authenticator to do that. -/
def registerGateway {ρ : Type} [Matcher ρ] : Option (Authenticator ρ) → Except StartupError (Authenticator ρ)
  | some a => exempt a gatewayPattern
  | none => .error .authenticatorMissing

def authenticatorFor (s : Settings) : Except StartupError Authenticator := do
  let a ← (Authenticator.ofSecret? s.secret).mapM fun a => publicPatterns.foldlM exempt a
  if s.gateway.enabled then
    if s.deployment = .production then throw .gatewayInProduction
    registerGateway a
  else
    match a with
    | some a => return a
    | none => throw .authenticatorMissing

def table (s : Settings) : RouteTable Handler := Service.draw s.gateway Service.applicationRoutes

/-- The service for settings.  Its own paths never conflict. -/
def build (s : Settings) : Except StartupError App := do
  let a ← authenticatorFor s
  return ⟨(table s).router?.getD ⟨[]⟩, a, s.enableCors⟩

/-- What stands around the handlers. -/
def layers (app : App) : Service.Layer := fun inner =>
  if app.enableCors then Service.corsLayer (Service.authLayer app.authenticator inner)
  else Service.authLayer app.authenticator inner

def handle (app : App) (now : Instant) (r : HttpRequest) : Plan Response :=
  Service.answer app.layers app.router ⟨now, r, none⟩

end App
end Postern
