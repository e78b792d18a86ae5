import Postern.Gateway.Dispatch
import Postern.Http.Router
import Postern.Service.Authenticator

/-!
What the service answers on each of its paths, and the table of them.  The gateway's path comes first where it is
enabled, so that no other route can take its place.
-/

namespace Postern

/-- A request being answered: when it came, and the user where one is known. -/
structure Visit where
  now : Instant
  request : HttpRequest
  user : Option User
  deriving Repr

abbrev Handler := Visit → Plan Response

namespace Service

/-! ### Handlers -/

def aboutJson : Json :=
  .object
    [ ("name", .str "Dev Gateway"),
      ("version", .str "0.1.0"),
      ("endpoints",
        .object
          [ ("home", .str "/ (public)"),
            ("health", .str "/health (public)"),
            ("whoami", .str "/api/auth/whoami (protected)"),
            ("dev", .str "/dev?action=<tag> (development only, unauthenticated)") ]) ]

def about : Handler := fun _ => .answer (.json 200 aboutJson)

/-- Says whether the store answers. -/
def health : Handler := fun v =>
  .call .healthCheck fun
    | .ok _ =>
      .answer (.json 200 (.object
        [("status", .str "ok"), ("timestamp", .str v.now.text), ("store", .str "ok")]))
    | .error e =>
      .answer (.json 503 (.object
        [("status", .str "degraded"), ("timestamp", .str v.now.text), ("store_error", .str e.message)]))

def userJson (u : User) : Json := .object [("role_id", .str u.roleId), ("account", .str u.account)]

/-- What is said where a request that must have a user has none. -/
def missingUserText : String :=
  "Missing request extension: Extension of type `dev_gateway::middleware::auth::AuthUser` was not found. Perhaps you "
    ++ "forgot to add it? See `axum::Extension`."

/-- Says who the user of a request is. -/
def whoami : Handler := fun v =>
  match v.user with
  | some user => .answer (.json 200 (userJson user))
  | none => .answer (.text 500 missingUserText)

/-- Runs the gateway's action that the query asks for. -/
def gateway (s : GatewaySettings) : Handler := fun v =>
  Gateway.respond s.errorMode s.allowPurge v.request.parameters

/-! ### Routes -/

def gatewayPath : String := "/dev"

def applicationRoutes : List (String × Handler) :=
  [("/", about), ("/health", health), ("/api/auth/whoami", whoami)]

/-- The gateway's route where it is enabled, and then others. -/
def draw (s : GatewaySettings) (application : List (String × Handler)) : RouteTable Handler :=
  (if s.enabled then RouteTable.empty.route gatewayPath (gateway s) else .empty).routes application

end Service
end Postern
