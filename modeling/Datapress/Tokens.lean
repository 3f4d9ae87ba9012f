import Datapress.AuthProofs
import Datapress.Config.Durations
import Datapress.Json

/-!
Bearer tokens: what the claims of a token say, when a token is accepted under a set of signing
keys, and which requests pass the guards with it.

Signatures, expiry, issuer and audience are checked by the JWT library, which is a parameter.
-/
namespace Datapress

open Config (parseU64)

/-! ### JSON pointers -/

namespace JsonValue

/-- A field of an object. -/
def fieldOf (fields : List (String × JsonValue)) (key : String) : Option JsonValue :=
  (fields.find? fun field => field.1 == key).map Prod.snd

/-- `str::replace` of two characters in a row by one. -/
def replacePair (first second new : Char) : List Char → List Char
  | c :: d :: rest =>
    if c = first ∧ d = second then new :: replacePair first second new rest
    else c :: replacePair first second new (d :: rest)
  | rest => rest

def unescapeToken (token : List Char) : String :=
  String.ofList (replacePair '~' '0' '~' (replacePair '~' '1' '/' token))

def parseIndex (token : String) : Option Nat :=
  if startsWith "+" token || startsWith "0" token && token.length ≠ 1 then none
  else parseU64 token

/-- One step of `Value::pointer`. -/
def descend (target : JsonValue) (token : String) : Option JsonValue :=
  match target with
  | .object fields => fieldOf fields token
  | .array items => (parseIndex token).bind fun i => items[i]?
  | _ => none

/-- `Value::pointer`. -/
def pointer (value : JsonValue) (path : String) : Option JsonValue :=
  if path.isEmpty then some value
  else if !startsWith "/" path then none
  else ((path.toList.splitOn '/').tail.map unescapeToken).foldlM descend value

end JsonValue

/-! ### Claims -/

inductive ScopeField where
  | string (text : String)
  | list (items : List String)
deriving Repr, DecidableEq

structure Claims where
  sub : Option String := none
  scope : Option ScopeField := none
  scp : Option ScopeField := none
  extra : List (String × JsonValue) := []

/-- `str::split_whitespace`. -/
def splitWhitespace (text : String) : List String :=
  ((text.toList.splitOnP isWhitespace).filter fun word => !word.isEmpty).map String.ofList

def extendScopes (out : List String) : Option ScopeField → List String
  | some (.string text) => out ++ (splitWhitespace text).map toAsciiLowercase
  | some (.list items) => out ++ items.map toAsciiLowercase
  | none => out

def parseScopes (c : Claims) : List String := extendScopes (extendScopes [] c.scope) c.scp

section
variable [JsonText]

def valueAsString : Option JsonValue → Option String
  | some (.string text) => some text
  | some (.number n) => some (JsonText.display (.number n))
  | _ => none

def extractTenant (c : Claims) (path : String) : Option String :=
  if path.isEmpty then none else valueAsString ((JsonValue.object c.extra).pointer path)

def extractSubject (c : Claims) : Option String :=
  c.sub.or (["client_id", "azp", "appid", "oid"].findSome? fun claim =>
    valueAsString (JsonValue.fieldOf c.extra claim))

end

/-! ### The JWT library -/

/-- `jsonwebtoken::Algorithm`. -/
inductive Algorithm where
  | HS256 | HS384 | HS512
  | ES256 | ES384
  | RS256 | RS384 | RS512
  | PS256 | PS384 | PS512
  | EdDSA
deriving Repr, DecidableEq

/-- The `Debug` of an algorithm. -/
def Algorithm.name : Algorithm → String
  | HS256 => "HS256" | HS384 => "HS384" | HS512 => "HS512"
  | ES256 => "ES256" | ES384 => "ES384"
  | RS256 => "RS256" | RS384 => "RS384" | RS512 => "RS512"
  | PS256 => "PS256" | PS384 => "PS384" | PS512 => "PS512"
  | EdDSA => "EdDSA"

def algorithmFrom : String → Except AppError Algorithm
  | "RS256" => .ok .RS256
  | "RS384" => .ok .RS384
  | "RS512" => .ok .RS512
  | "ES256" => .ok .ES256
  | "ES384" => .ok .ES384
  | "PS256" => .ok .PS256
  | "PS384" => .ok .PS384
  | "PS512" => .ok .PS512
  | other => .error (.internal s!"unsupported alg: {other}")

structure TokenHeader where
  alg : Algorithm
  kid : Option String

/-- What `decode` is told to check; without an audience it checks none. -/
structure Validation where
  algorithm : Algorithm
  leeway : UInt64
  issuer : String
  audience : Option String
deriving Repr, DecidableEq

structure JwtLibrary (Jwk Key : Type) where
  decodeHeader : String → Except String TokenHeader
  keyId : Jwk → Option String
  fromJwk : Jwk → Except String Key
  decode : String → Key → Validation → Except String Claims

section
variable [JsonText] {Jwk Key : Type} (jwt : JwtLibrary Jwk Key)

/-- `JwkSet::find`. -/
def findKey (set : List Jwk) (kid : String) : Option Jwk :=
  set.find? fun jwk => jwt.keyId jwk == some kid

def validation (config : AuthConfig) (algorithm : Algorithm) : Validation where
  algorithm
  leeway := config.leewaySecs
  issuer := config.issuer
  audience := if config.audience.isEmpty then none else some config.audience

def checkTenant (config : AuthConfig) (tenant : Option String) : Except AppError Unit :=
  if config.allowedTenants.isEmpty then .ok ()
  else
    match tenant with
    | some t =>
      if config.allowedTenants.contains t then .ok ()
      else .error (.forbidden s!"tenant '{t}' is not in auth.allowed_tenants")
    | none => .error (.forbidden "token does not carry the configured tenant claim")

def okOr {α : Type} (found : Option α) (error : AppError) : Except AppError α :=
  match found with
  | some a => .ok a
  | none => .error error

/-- The verdict on a token under the current snapshot of the key cache. -/
def verifyToken (config : AuthConfig) (snapshot : Option (List Jwk)) : TokenVerifier := fun token => do
  let set ← okOr snapshot (.unavailable "auth: JWKS not yet available")
  let header ← (jwt.decodeHeader token).mapError fun e => .unauthorized s!"malformed token: {e}"
  let kid ← okOr header.kid (.unauthorized "token header missing 'kid'")
  let jwk ← okOr (findKey jwt set kid) (.unauthorized s!"unknown signing key kid='{kid}'")
  let key ← (jwt.fromJwk jwk).mapError fun e =>
    .internal s!"auth: bad JWK in JWKS for kid='{kid}': {e}"
  let allowed ← config.algorithms.mapM algorithmFrom
  if header.alg ∉ allowed then
    .error (.unauthorized s!"token alg '{header.alg.name}' not in auth.algorithms allow-list")
  else do
    let claims ← (jwt.decode token key (validation config header.alg)).mapError fun e =>
      .unauthorized s!"token rejected: {e}"
    let sub ← okOr (extractSubject claims) (.unauthorized
      "token does not carry a subject claim (expected sub, client_id, azp, appid, or oid)")
    let tenant := extractTenant claims config.tenantClaim
    checkTenant config tenant
    .ok { sub, scopes := parseScopes claims, tenant }

end

/-! ### When a token is accepted -/

/-- The words of the scope claims, as the issuer spells them. -/
def ScopeField.words : ScopeField → List String
  | .string text => splitWhitespace text
  | .list items => items

def Claims.words (c : Claims) : List String :=
  (c.scope.toList ++ c.scp.toList).flatMap ScopeField.words

theorem extendScopes_eq (out : List String) (field : Option ScopeField) :
    extendScopes out field = out ++ (field.toList.flatMap ScopeField.words).map toAsciiLowercase := by
  cases field with
  | none => exact (List.append_nil _).symm
  | some field =>
      cases field <;> simp only [extendScopes, Option.toList, List.flatMap_singleton, ScopeField.words]

theorem parseScopes_eq (c : Claims) : parseScopes c = c.words.map toAsciiLowercase := by
  rw [parseScopes, extendScopes_eq, extendScopes_eq, List.nil_append, Claims.words,
    List.flatMap_append, List.map_append]

theorem okOr_ok_iff {α : Type} {found : Option α} {error : AppError} {a : α} :
    okOr found error = .ok a ↔ found = some a := by
  cases found <;> simp [okOr]

section
variable [JsonText] {Jwk Key : Type} (jwt : JwtLibrary Jwk Key)

/-- The tenant of the claims is one of those the configuration admits, if it names any. -/
def TenantAdmitted (config : AuthConfig) (claims : Claims) : Prop :=
  config.allowedTenants = [] ∨
    ∃ tenant ∈ config.allowedTenants, extractTenant claims config.tenantClaim = some tenant

theorem checkTenant_ok_iff {config : AuthConfig} {claims : Claims} :
    checkTenant config (extractTenant claims config.tenantClaim) = .ok () ↔
      TenantAdmitted config claims := by
  unfold checkTenant TenantAdmitted
  split
  case isTrue empty => exact iff_of_true rfl (.inl (List.isEmpty_iff.mp empty))
  case isFalse some =>
    have named : config.allowedTenants ≠ [] := fun empty => some (List.isEmpty_iff.mpr empty)
    simp only [named, false_or]
    cases extractTenant claims config.tenantClaim with
    | none => simp
    | some tenant =>
        by_cases member : tenant ∈ config.allowedTenants
        · simp [member]
        · simp [member]

/-- The claims of a token that was signed, by an algorithm of the allow-list, with the first key
of the set that has the identifier in the token's header. -/
inductive Signed (config : AuthConfig) (set : List Jwk) (token : String) : Claims → Prop where
  | intro {header kid jwk key claims} (decoded : jwt.decodeHeader token = .ok header)
      (identified : header.kid = some kid) (known : findKey jwt set kid = some jwk)
      (usable : jwt.fromJwk jwk = .ok key) (allowed : header.alg.name ∈ config.algorithms)
      (valid : jwt.decode token key (validation config header.alg) = .ok claims) :
      Signed config set token claims

end

theorem algorithmFrom_ok_iff {name : String} {alg : Algorithm} :
    algorithmFrom name = .ok alg ↔ name ∈ AuthConfig.allowedAlgorithms ∧ alg.name = name := by
  constructor
  · intro parsed
    unfold algorithmFrom at parsed
    split at parsed
    case h_9 => cases parsed
    all_goals
      cases parsed
      exact ⟨by decide, rfl⟩
  · rintro ⟨member, rfl⟩
    cases alg <;> first | rfl | exact absurd member (by decide)

/-- A checked allow-list names its algorithms. -/
theorem exists_allowed {names : List String}
    (checked : ∀ name ∈ names, name ∈ AuthConfig.allowedAlgorithms) :
    ∃ allowed, names.mapM algorithmFrom = .ok allowed ∧ ∀ alg, alg ∈ allowed ↔ alg.name ∈ names := by
  induction names with
  | nil => exact ⟨[], rfl, by simp⟩
  | cons name names ih =>
      obtain ⟨known, others⟩ := List.forall_mem_cons.mp checked
      obtain ⟨allowed, parsed, same⟩ := ih others
      have first : ∃ alg, algorithmFrom name = .ok alg := by
        simp only [AuthConfig.allowedAlgorithms, List.mem_cons, List.not_mem_nil, or_false] at known
        rcases known with rfl | rfl | rfl | rfl | rfl | rfl | rfl | rfl <;> exact ⟨_, rfl⟩
      obtain ⟨alg, named⟩ := first
      refine ⟨alg :: allowed, ?_, fun other => ?_⟩
      · exact Fallible.mapM_ok_iff.mpr (.cons named (Fallible.mapM_ok_iff.mp parsed))
      · rw [List.mem_cons, List.mem_cons, same]
        refine or_congr_left ⟨?_, fun spelled => ?_⟩
        · rintro rfl
          exact (algorithmFrom_ok_iff.mp named).2
        · have again := algorithmFrom_ok_iff.mpr ⟨known, spelled⟩
          exact Except.ok.inj (again.symm.trans named)

namespace AuthConfig
variable {raw config : AuthConfig}

theorem load_ok_iff : raw.load = .ok config ↔ raw.normalize.validate = .ok () ∧ config = raw.normalize := by
  rw [load, Fallible.check_bind_ok_iff, Except.ok.injEq]
  exact and_congr_right fun _ => eq_comm

/-- A server with authentication runs with known algorithms only. -/
theorem allowed_of_load (loaded : raw.load = .ok config) (enabled : config.enabled = true) :
    ∀ name ∈ config.algorithms, name ∈ allowedAlgorithms := by
  obtain ⟨valid, rfl⟩ := load_ok_iff.mp loaded
  unfold validate at valid
  simp only [enabled, Bool.not_true, Bool.false_eq_true, if_false, Fallible.refuse_ok_iff] at valid
  obtain ⟨_, _, valid⟩ := valid
  split at valid
  case h_1 => cases valid
  case h_2 none =>
    intro name member
    simpa using List.find?_eq_none.mp none name member

end AuthConfig

/-- The claims have every scope, up to the case of ASCII letters. -/
def Claims.Covers (claims : Claims) (scopes : List String) : Prop :=
  ∀ scope ∈ scopes, ∃ word ∈ claims.words, eqIgnoreAsciiCase scope word = true

theorem requireScopes_some_ok_iff {principal : Principal} {required : List String} :
    requireScopes (some principal) required = .ok () ↔
      ∀ scope ∈ required, scope ∈ principal.scopes := by
  unfold requireScopes
  by_cases empty : required = []
  · subst empty
    simp
  · by_cases all : principal.hasAllScopes required = true
    · have whole := all
      simp only [Principal.hasAllScopes, List.all_eq_true, List.any_eq_true, beq_iff_eq] at whole
      simpa [empty, all] using whole
    · have some := all
      simp only [Principal.hasAllScopes, List.all_eq_true, List.any_eq_true, beq_iff_eq] at some
      simpa [empty, all] using some

theorem covers_iff {claims : Claims} {scopes : List String} :
    (∀ scope ∈ scopes.map toAsciiLowercase, scope ∈ claims.words.map toAsciiLowercase) ↔
      claims.Covers scopes := by
  have same (scope word : String) :
      toAsciiLowercase word = toAsciiLowercase scope ↔ eqIgnoreAsciiCase scope word = true := by
    rw [eqIgnoreAsciiCase, beq_iff_eq, eq_comm]
  rw [List.forall_mem_map]
  simp only [List.mem_map, Claims.Covers, same]

section
variable [JsonText] {Jwk Key : Type} (jwt : JwtLibrary Jwk Key) {config : AuthConfig}

theorem verifyToken_ok_iff (checked : ∀ name ∈ config.algorithms, name ∈ AuthConfig.allowedAlgorithms)
    {snapshot : Option (List Jwk)} {token : String} {principal : Principal} :
    verifyToken jwt config snapshot token = .ok principal ↔
      ∃ set claims sub, snapshot = some set ∧ Signed jwt config set token claims ∧
        extractSubject claims = some sub ∧ TenantAdmitted config claims ∧
        principal = { sub, scopes := claims.words.map toAsciiLowercase,
                      tenant := extractTenant claims config.tenantClaim } := by
  obtain ⟨allowed, parsed, same⟩ := exists_allowed checked
  simp only [verifyToken, parsed, Fallible.ok_bind, Fallible.bind_ok_iff, Fallible.refuse_ok_iff,
    Fallible.mapError_ok_iff, okOr_ok_iff, not_not, same, parseScopes_eq, Except.ok.injEq]
  constructor
  · rintro ⟨set, seeded, header, decoded, kid, identified, jwk, known, key, usable, member,
      claims, valid, sub, subject, _, admitted, rfl⟩
    exact ⟨set, claims, sub, seeded, ⟨decoded, identified, known, usable, member, valid⟩, subject,
      checkTenant_ok_iff.mp admitted, rfl⟩
  · rintro ⟨set, claims, sub, seeded, ⟨decoded, identified, known, usable, member, valid⟩, subject,
      admitted, rfl⟩
    exact ⟨set, seeded, _, decoded, _, identified, _, known, _, usable, member, claims, valid, sub,
      subject, (), checkTenant_ok_iff.mpr admitted, rfl⟩

/-- The computation does not end with the error for a missing service. -/
def Available {α : Type} (x : Except AppError α) : Prop := ∀ message, x ≠ .error (.unavailable message)

omit [JsonText] in
theorem Available.bind {α β : Type} {x : Except AppError α} {f : α → Except AppError β}
    (first : Available x) (rest : ∀ a, Available (f a)) : Available (x >>= f) := by
  cases x with
  | error e => exact fun message failed => first message (congrArg Except.error (Except.error.inj failed))
  | ok a => exact rest a

omit [JsonText] in
theorem available_ok {α : Type} (a : α) : Available (.ok a) := fun _ failed => by cases failed

omit [JsonText] in
theorem available_okOr {α : Type} (found : Option α) {error : AppError}
    (other : ∀ message, error ≠ .unavailable message) : Available (okOr found error) := by
  cases found with
  | none => exact fun message failed => other message (Except.error.inj failed)
  | some a => exact available_ok a

omit [JsonText] in
theorem available_mapError {α ε : Type} (x : Except ε α) {f : ε → AppError}
    (other : ∀ e message, f e ≠ .unavailable message) : Available (x.mapError f) := by
  cases x with
  | error e => exact fun message failed => other e message (Except.error.inj failed)
  | ok a => exact available_ok a

omit [JsonText] in
theorem available_checkTenant (tenant : Option String) : Available (checkTenant config tenant) := by
  intro message failed
  unfold checkTenant at failed
  split at failed
  · cases failed
  · split at failed
    · split at failed <;> cases failed
    · cases failed

/-- The service is missing as long as the cache holds no keys, and never after. -/
theorem verifyToken_unavailable_iff
    (checked : ∀ name ∈ config.algorithms, name ∈ AuthConfig.allowedAlgorithms)
    {snapshot : Option (List Jwk)} {token : String} :
    (∃ message, verifyToken jwt config snapshot token = .error (.unavailable message)) ↔
      snapshot = none := by
  constructor
  · rintro ⟨message, failed⟩
    by_contra seeded
    obtain ⟨set, rfl⟩ := Option.ne_none_iff_exists'.mp seeded
    obtain ⟨allowed, parsed, _⟩ := exists_allowed checked
    refine absurd failed (Available.bind (available_ok set) (fun set => ?_) message)
    refine .bind (available_mapError _ fun _ _ => AppError.noConfusion) fun header => ?_
    refine .bind (available_okOr _ fun _ => AppError.noConfusion) fun kid => ?_
    refine .bind (available_okOr _ fun _ => AppError.noConfusion) fun jwk => ?_
    refine .bind (available_mapError _ fun _ _ => AppError.noConfusion) fun key => ?_
    refine .bind (parsed ▸ available_ok allowed) fun allowed => ?_
    split
    · exact fun _ failed => by cases failed
    · refine .bind (available_mapError _ fun _ _ => AppError.noConfusion) fun claims => ?_
      refine .bind (available_okOr _ fun _ => AppError.noConfusion) fun sub => ?_
      exact .bind (available_checkTenant _) fun _ => available_ok _
  · rintro rfl
    exact ⟨_, rfl⟩

/-- The request carries a token that the issuer signed for this server, with these claims. -/
def Accepted (config : AuthConfig) (keys : Option (List Jwk)) (request : HttpRequest)
    (claims : Claims) : Prop :=
  ∃ token set, bearerToken request = some token ∧ keys = some set ∧
    Signed jwt config set token claims ∧ (extractSubject claims).isSome = true ∧
    TenantAdmitted config claims

/-- With nothing required, a request without a token passes as well. -/
def Passes (config : AuthConfig) (keys : Option (List Jwk)) (request : HttpRequest)
    (scopes : List String) : Prop :=
  (∃ claims, Accepted jwt config keys request claims ∧ claims.Covers scopes) ∨
    bearerToken request = none ∧ scopes = []

/-- A guard that asks for scopes, behind the middleware. -/
theorem gate_requireScopes_ok_iff
    (checked : ∀ name ∈ config.algorithms, name ∈ AuthConfig.allowedAlgorithms)
    {keys : Option (List Jwk)} {request : HttpRequest} {scopes : List String} :
    AuthState.gate (verifyToken jwt config keys) request
        (fun principal => requireScopes principal (scopes.map toAsciiLowercase)) = .ok () ↔
      Passes jwt config keys request scopes := by
  cases bearer : bearerToken request with
  | none =>
      have passed : AuthState.gate (verifyToken jwt config keys) request
          (fun principal => requireScopes principal (scopes.map toAsciiLowercase)) =
          requireScopes none (scopes.map toAsciiLowercase) := by
        simp only [AuthState.gate, authenticate, bearer]
        rfl
      rw [passed]
      simp only [Passes, Accepted, bearer, reduceCtorEq, false_and, exists_false, true_and, false_or]
      cases scopes with
      | nil => exact iff_of_true rfl rfl
      | cons scope scopes =>
          obtain ⟨e, refused⟩ := requireScopes_none_error_iff.mpr
            (List.map_eq_nil_iff.not.mpr (List.cons_ne_nil scope scopes))
          refine iff_of_false (fun passed => ?_) (List.cons_ne_nil _ _)
          cases refused.symm.trans passed
  | some token =>
      simp only [AuthState.gate, authenticate, bearer, Fallible.bind_ok_iff,
        verifyToken_ok_iff jwt checked, Except.ok.injEq, Passes, Accepted, reduceCtorEq, false_and,
        or_false, Option.some.injEq]
      constructor
      · rintro ⟨_, ⟨principal, ⟨set, claims, sub, seeded, signed, subject, admitted, rfl⟩, rfl⟩, granted⟩
        refine ⟨claims, ⟨token, set, rfl, seeded, signed, ?_, admitted⟩, ?_⟩
        · rw [subject]; rfl
        · exact covers_iff.mp (requireScopes_some_ok_iff.mp granted)
      · rintro ⟨claims, ⟨_, set, rfl, seeded, signed, subject, admitted⟩, covers⟩
        obtain ⟨sub, subject⟩ := Option.isSome_iff_exists.mp subject
        refine ⟨_, ⟨_, ⟨set, claims, sub, seeded, signed, subject, admitted, rfl⟩, rfl⟩, ?_⟩
        exact requireScopes_some_ok_iff.mpr (covers_iff.mpr covers)

/-- Who has some scopes passes where none is required. -/
theorem Passes.nil {keys : Option (List Jwk)} {request : HttpRequest} {scopes : List String}
    (passes : Passes jwt config keys request scopes) : Passes jwt config keys request [] := by
  rcases passes with ⟨claims, accepted, _⟩ | ⟨without, _⟩
  · exact .inl ⟨claims, accepted, by simp [Claims.Covers]⟩
  · exact .inr ⟨without, rfl⟩

/-- A guard that admits the admin token in the place of scopes. -/
theorem gate_scopesOrAdmin_ok_iff
    (checked : ∀ name ∈ config.algorithms, name ∈ AuthConfig.allowedAlgorithms)
    (enabled : config.enabled = true) {adminToken : AdminToken} {keys : Option (List Jwk)}
    {request : HttpRequest} {required : AuthConfig → List String} {scopes : List String}
    (lowered : required config = scopes.map toAsciiLowercase) :
    AuthState.gate (verifyToken jwt config keys) request
        (AuthState.requireScopesOrAdmin { auth := some config, adminToken } required request) = .ok () ↔
      Passes jwt config keys request scopes ∨
        (config.adminTokenFallback = true ∧ adminToken.val = some (request.adminToken.getD "")) ∧
          Passes jwt config keys request [] := by
  by_cases admitted : config.adminTokenFallback = true ∧
      adminToken.val = some (request.adminToken.getD "")
  · have guard : AuthState.requireScopesOrAdmin { auth := some config, adminToken } required request =
        fun principal => requireScopes principal ([].map toAsciiLowercase) := by
      funext principal
      have admin := requireAdmin_ok_iff.mpr admitted.2
      simp only [AuthState.requireScopesOrAdmin, enabled, if_true, admin, admitted.1, Except.isOk,
        Except.toBool, Bool.and_self]
      rfl
    rw [guard, gate_requireScopes_ok_iff jwt checked]
    exact ⟨fun passes => .inr ⟨admitted, passes⟩, fun either => either.elim (·.nil) And.right⟩
  · have guard : AuthState.requireScopesOrAdmin { auth := some config, adminToken } required request =
        fun principal => requireScopes principal (scopes.map toAsciiLowercase) := by
      funext principal
      have refused : ((requireAdmin adminToken request).isOk && config.adminTokenFallback) = false := by
        rw [Bool.and_eq_false_iff]
        by_contra both
        simp only [not_or, Bool.not_eq_false] at both
        cases admin : requireAdmin adminToken request with
        | error e => rw [admin] at both; cases both.1
        | ok => exact admitted ⟨both.2, requireAdmin_ok_iff.mp admin⟩
      simp only [AuthState.requireScopesOrAdmin, enabled, if_true, refused, Bool.false_eq_true,
        if_false, lowered]
    rw [guard, gate_requireScopes_ok_iff jwt checked]
    exact ⟨.inl, fun either => either.elim id fun both => absurd both.1 admitted⟩

/-- What a caller may do: with the admin token alone only where the configuration admits it, and
never with a token that is not accepted. The scopes are those that were configured. -/
structure GuardedBy (raw config : AuthConfig) (adminToken : AdminToken)
    (snapshot keys : Option (List Jwk)) (request : HttpRequest) : Prop where
  read : AuthState.gate (verifyToken jwt config snapshot) request
      (AuthState.requireRead { auth := some config, adminToken }) = .ok () ↔
    Passes jwt config keys request (if raw.anonymousRead then [] else raw.readScopes)
  reload : AuthState.gate (verifyToken jwt config snapshot) request
      (AuthState.requireReload { auth := some config, adminToken } request) = .ok () ↔
    Passes jwt config keys request raw.reloadScopes ∨
      (raw.adminTokenFallback = true ∧ adminToken.val = some (request.adminToken.getD "")) ∧
        Passes jwt config keys request []
  manage : AuthState.gate (verifyToken jwt config snapshot) request
      (AuthState.requireManage { auth := some config, adminToken } request) = .ok () ↔
    Passes jwt config keys request raw.manageScopes ∨
      (raw.adminTokenFallback = true ∧ adminToken.val = some (request.adminToken.getD "")) ∧
        Passes jwt config keys request []
  /-- The service is missing just as long as there are no keys. -/
  unavailable : ∀ token, (∃ message, verifyToken jwt config snapshot token =
    .error (.unavailable message)) ↔ keys = none

theorem guardedBy_of_load {raw : AuthConfig} (loaded : raw.load = .ok config)
    (enabled : config.enabled = true) (adminToken : AdminToken) (keys : Option (List Jwk))
    (request : HttpRequest) : GuardedBy jwt raw config adminToken keys keys request := by
  have checked := AuthConfig.allowed_of_load loaded enabled
  obtain ⟨_, rfl⟩ := AuthConfig.load_ok_iff.mp loaded
  refine ⟨?_, gate_scopesOrAdmin_ok_iff jwt checked enabled rfl,
    gate_scopesOrAdmin_ok_iff jwt checked enabled rfl, fun _ => verifyToken_unavailable_iff jwt checked⟩
  have guard : AuthState.requireRead { auth := some raw.normalize, adminToken } =
      fun principal => requireScopes principal
        ((if raw.anonymousRead then [] else raw.readScopes).map toAsciiLowercase) := by
    funext principal
    have reads : raw.normalize.anonymousRead = raw.anonymousRead := rfl
    cases anonymous : raw.anonymousRead <;>
      simp only [AuthState.requireRead, enabled, reads, anonymous] <;> rfl
  rw [guard]
  exact gate_requireScopes_ok_iff jwt checked

end
end Datapress
