import Postern.Gateway.Error
import Postern.Text.Number
import Postern.Text.Unicode

/-!
Settings, read from environment variables.  The kind of deployment gives the defaults; a variable that is there
overrides one of them unless its text cannot be used.
-/

namespace Postern

abbrev Environment := String → Option String

inductive Deployment where
  | development | staging | production
  deriving DecidableEq, Repr

structure GatewaySettings where
  enabled : Bool
  errorMode : ErrorMode
  allowPurge : Bool
  deriving DecidableEq, Repr

structure Settings where
  deployment : Deployment
  bindAddress : String
  port : Nat
  databaseUrl : Option String
  maxConnections : Nat
  enableCors : Bool
  secret : String
  gateway : GatewaySettings
  deriving DecidableEq, Repr

def Deployment.ofName? (name : String) : Option Deployment :=
  if name = "production" ∨ name = "prod" then some .production
  else if name = "staging" ∨ name = "stage" then some .staging
  else none

/-- The way of rendering errors that a name means, in either case and with blanks around it. -/
def ErrorMode.ofName? (name : String) : Option ErrorMode :=
  let name := (Text.trim name).map Char.toLower
  if name = "strict" then some .strict
  else if name = "legacy" ∨ name = "soft" then some .legacy
  else none

namespace Settings

def ofDeployment : Deployment → Settings
  | .development =>
    { deployment := .development, bindAddress := "0.0.0.0", port := 3000, databaseUrl := none
      maxConnections := 5, enableCors := true, secret := "development-secret"
      gateway := { enabled := true, errorMode := .strict, allowPurge := true } }
  | .staging =>
    { deployment := .staging, bindAddress := "0.0.0.0", port := 3000, databaseUrl := none
      maxConnections := 20, enableCors := true, secret := ""
      gateway := { enabled := false, errorMode := .strict, allowPurge := false } }
  | .production =>
    { deployment := .production, bindAddress := "0.0.0.0", port := 3000, databaseUrl := none
      maxConnections := 50, enableCors := false, secret := ""
      gateway := { enabled := false, errorMode := .strict, allowPurge := false } }

def bool? (text : String) : Option Bool :=
  if text = "true" then some true else if text = "false" then some false else none

def port? (text : String) : Option Nat := Text.unsigned? (Text.maxWord 16) text

def count? (text : String) : Option Nat := Text.unsigned? (Text.maxWord 32) text

def url? (text : String) : Option String := if Text.isAllBlank text then none else some text

/-- The value of a variable where it can be used, and else `fallback`. -/
def override {α : Type} (env : Environment) (name : String) (read? : String → Option α) (fallback : α) : α :=
  ((env name).bind read?).getD fallback

/-- The text of the port: the gateway's own variable counts before the general one. -/
def portText (env : Environment) : Option String := (env "DEV_GATEWAY_PORT").or (env "PORT")

def ofEnvironment (env : Environment) : Settings :=
  let base := ofDeployment (override env "APP_ENV" Deployment.ofName? .development)
  { base with
    bindAddress := override env "BIND_ADDR" some base.bindAddress
    port := ((portText env).bind port?).getD base.port
    databaseUrl := override env "DATABASE_URL" (fun text => (url? text).map some) base.databaseUrl
    maxConnections := override env "DATABASE_MAX_CONNECTIONS" count? base.maxConnections
    enableCors := override env "SECURITY_ENABLE_CORS" bool? base.enableCors
    secret := override env "SECURITY_JWT_SECRET" some base.secret
    gateway :=
      { enabled := override env "DEV_GATEWAY_ENABLED" bool? base.gateway.enabled
        errorMode := override env "DEV_GATEWAY_ERROR_MODE" ErrorMode.ofName? base.gateway.errorMode
        allowPurge := override env "DEV_GATEWAY_ALLOW_PURGE" bool? base.gateway.allowPurge } }

end Settings
end Postern
