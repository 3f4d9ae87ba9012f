import Datapress.Text
import Datapress.Errors

/-! Who may call a route: the `[auth]` block of the configuration, the bearer-token
middleware, the admin token, and the guards the handlers call. -/
namespace Datapress

structure AuthConfig where
  enabled : Bool := false
  issuer : String := ""
  audience : String := ""
  readScopes : List String := []
  reloadScopes : List String := []
  manageScopes : List String := ["datasets:manage"]
  anonymousRead : Bool := false
  startDegraded : Bool := true
  algorithms : List String := ["RS256"]
  leewaySecs : UInt64 := 60
  jwksRefreshSecs : UInt64 := 3600
  tenantClaim : String := ""
  allowedTenants : List String := []
  adminTokenFallback : Bool := true
deriving Repr, DecidableEq

namespace AuthConfig

/-- Scopes are compared with the lowered scopes of a token. -/
def normalize (config : AuthConfig) : AuthConfig :=
  { config with
    readScopes := config.readScopes.map toAsciiLowercase
    reloadScopes := config.reloadScopes.map toAsciiLowercase
    manageScopes := config.manageScopes.map toAsciiLowercase }

def allowedAlgorithms : List String :=
  ["RS256", "RS384", "RS512", "ES256", "ES384", "PS256", "PS384", "PS512"]

/-- The checks of the auth block; they are skipped unless auth is enabled. -/
def validate (config : AuthConfig) : Except AppError Unit :=
  if !config.enabled then .ok ()
  else if (trim config.issuer).isEmpty then
    .error (.internal "auth.issuer must not be empty when auth.enabled = true")
  else if !(startsWith "https://" config.issuer || startsWith "http://" config.issuer) then
    .error (.internal s!"auth.issuer must be an absolute http(s) URL (got '{config.issuer}')")
  else
    match config.algorithms.find? fun alg => !allowedAlgorithms.contains alg with
    | some other => .error (.internal s!"auth.algorithms[{other}] is not allowed; pick one of RS256/RS384/RS512, ES256/ES384, PS256/PS384/PS512")
    | none =>
      if config.algorithms.isEmpty then .error (.internal "auth.algorithms must not be empty")
      else if !config.tenantClaim.isEmpty && !startsWith "/" config.tenantClaim then
        .error (.internal s!"auth.tenant_claim must be a JSON pointer starting with '/' (got '{config.tenantClaim}')")
      else if !config.allowedTenants.isEmpty && config.tenantClaim.isEmpty then
        .error (.internal "auth.allowed_tenants is set but auth.tenant_claim is empty — can't enforce a tenant allow-list without a claim to extract from")
      else .ok ()

/-- What the server runs with: the configured block, normalised and accepted. -/
def load (raw : AuthConfig) : Except AppError AuthConfig := do
  let config := raw.normalize
  config.validate
  .ok config

end AuthConfig

/-- The authenticated caller, which the middleware attaches to a request. -/
structure Principal where
  sub : String
  scopes : List String
  tenant : Option String
deriving Repr, DecidableEq

def Principal.hasAllScopes (principal : Principal) (required : List String) : Bool :=
  required.all fun r => principal.scopes.any fun s => s == r

/-- The two headers the guards read; a header that is no visible text reads as absent. -/
structure HttpRequest where
  authorization : Option String := none
  adminToken : Option String := none
deriving Repr, DecidableEq

/-- The token of an `Authorization: Bearer` header. -/
def bearerToken (request : HttpRequest) : Option String := do
  let header ← request.authorization
  let (scheme, value) ← splitOnce ' ' (trim header)
  if eqIgnoreAsciiCase scheme "bearer" then some (trim value) else none

/-- The verdict of `verify_token` on a token, which rests on the signature check of the JWT
library and the issuer's current keys. -/
abbrev TokenVerifier := String → Except AppError Principal

/-- The middleware: a valid token attaches its principal, an invalid one ends the request,
and a request without a token passes with no principal. -/
def authenticate (verify : TokenVerifier) (request : HttpRequest) :
    Except AppError (Option Principal) :=
  match bearerToken request with
  | some token => do
    let principal ← verify token
    .ok (some principal)
  | none => .ok none

/-- With nothing required, even a request without a principal passes. -/
def requireScopes (principal : Option Principal) (required : List String) :
    Except AppError Unit :=
  if required.isEmpty then .ok ()
  else
    match principal with
    | some p =>
      if p.hasAllScopes required then .ok ()
      else
        let missing := " ".intercalate required
        .error (.forbidden s!"token is missing required scope(s): {missing}")
    | none => .error (.unauthorized "missing or invalid bearer token")

/-- Compares bytes without stopping at the first difference. -/
def constantTimeEq (a b : List UInt8) : Bool :=
  if a.length ≠ b.length then false
  else (List.zipWith (· ^^^ ·) a b).foldl (· ||| ·) 0 == 0

/-- The configured admin token: an empty one counts as none. -/
abbrev AdminToken := { token : Option String // token ≠ some "" }

def utf8 (text : String) : List UInt8 := text.toUTF8.data.toList

def requireAdmin (expected : AdminToken) (request : HttpRequest) : Except AppError Unit :=
  match expected.val with
  | none => .error (.forbidden
      "admin endpoints are disabled (set ADMIN_TOKEN env var to enable)")
  | some token =>
    let presented := request.adminToken.getD ""
    if constantTimeEq (utf8 presented) (utf8 token) then .ok ()
    else .error (.forbidden "invalid or missing X-Admin-Token")

/-- What the guards of a running server consult. `auth` is absent without the auth layer. -/
structure AuthState where
  auth : Option AuthConfig
  adminToken : AdminToken

namespace AuthState

def requireRead (state : AuthState) (principal : Option Principal) : Except AppError Unit :=
  match state.auth with
  | some config =>
    if config.enabled && !config.anonymousRead then requireScopes principal config.readScopes
    else .ok ()
  | none => .ok ()

/-- Either the admin token, where the configuration still admits it, or the scopes. -/
def requireScopesOrAdmin (state : AuthState) (scopes : AuthConfig → List String)
    (request : HttpRequest) (principal : Option Principal) : Except AppError Unit :=
  let admin := requireAdmin state.adminToken request
  match state.auth with
  | some config =>
    if config.enabled then
      if admin.isOk && config.adminTokenFallback then .ok ()
      else requireScopes principal (scopes config)
    else admin
  | none => admin

def requireReload (state : AuthState) : HttpRequest → Option Principal → Except AppError Unit :=
  state.requireScopesOrAdmin (·.reloadScopes)

def requireManage (state : AuthState) : HttpRequest → Option Principal → Except AppError Unit :=
  state.requireScopesOrAdmin (·.manageScopes)

/-- The guard of the MCP endpoint for one JSON-RPC method. The lifecycle methods ask for a
principal of any scopes. -/
def checkAuth (state : AuthState) (method : String) (principal : Option Principal) :
    Except AppError Unit :=
  match state.auth with
  | none => .ok ()
  | some config =>
    if !config.enabled || config.anonymousRead then .ok ()
    else
      match method with
      | "initialize" | "ping" | "tools/list" =>
        if principal.isNone then .error (.unauthorized "missing or invalid bearer token")
        else .ok ()
      | _ => requireScopes principal config.readScopes

end AuthState
end Datapress
