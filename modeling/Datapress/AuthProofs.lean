import Datapress.Auth
import Datapress.Library.Fallible

/-! When the guards refuse a request that carries no valid credentials. -/
namespace Datapress

private theorem foldl_or_eq_zero (bytes : List UInt8) (start : UInt8) :
    bytes.foldl (· ||| ·) start = 0 ↔ start = 0 ∧ ∀ b ∈ bytes, b = 0 := by
  induction bytes generalizing start with
  | nil => simp
  | cons b rest ih =>
    rw [List.foldl_cons, ih, UInt8.or_eq_zero_iff, List.forall_mem_cons]
    exact and_assoc

private theorem zipWith_xor_zero {a b : List UInt8} (same : a.length = b.length) :
    (∀ c ∈ List.zipWith (· ^^^ ·) a b, c = 0) ↔ a = b := by
  induction a generalizing b with
  | nil =>
    have empty : b = [] := List.eq_nil_of_length_eq_zero same.symm
    simp [empty]
  | cons x a ih =>
    cases b with
    | nil => cases same
    | cons y b =>
      have rest : a.length = b.length := Nat.succ.inj same
      rw [List.zipWith_cons_cons, List.forall_mem_cons, UInt8.xor_eq_zero_iff, ih rest,
        List.cons.injEq]

/-- The comparison without early exit is equality. -/
theorem constantTimeEq_iff (a b : List UInt8) : constantTimeEq a b = true ↔ a = b := by
  unfold constantTimeEq
  split
  · rename_i different
    constructor
    · intro impossible; cases impossible
    · rintro rfl; exact absurd rfl different
  · rename_i same
    have same : a.length = b.length := not_not.mp same
    rw [beq_iff_eq, foldl_or_eq_zero]
    exact ⟨fun zero => (zipWith_xor_zero same).mp zero.2,
      fun equal => ⟨rfl, (zipWith_xor_zero same).mpr equal⟩⟩

theorem utf8_injective {left right : String} (same : utf8 left = utf8 right) : left = right := by
  have data : left.toByteArray.data = right.toByteArray.data := Array.toList_inj.mp same
  exact String.toByteArray_inj.mp (ByteArray.ext data)

theorem requireAdmin_ok_iff {expected : AdminToken} {request : HttpRequest} :
    requireAdmin expected request = .ok () ↔ expected.val = some (request.adminToken.getD "") := by
  unfold requireAdmin
  split
  · rename_i none
    rw [none]
    constructor
    · intro impossible; cases impossible
    · intro impossible; cases impossible
  · rename_i token some
    rw [some, Option.some.injEq]
    dsimp only
    split
    · rename_i equal
      exact ⟨fun _ => (utf8_injective ((constantTimeEq_iff _ _).mp equal)).symm, fun _ => rfl⟩
    · rename_i unequal
      constructor
      · intro impossible; cases impossible
      · rintro rfl; exact absurd ((constantTimeEq_iff _ _).mpr rfl) unequal

theorem requireScopes_none_error_iff {required : List String} :
    (∃ e, requireScopes none required = .error e) ↔ required ≠ [] := by
  unfold requireScopes
  split
  · rename_i empty
    constructor
    · rintro ⟨_, impossible⟩; cases impossible
    · intro some; exact absurd (List.isEmpty_iff.mp empty) some
  · rename_i some
    exact ⟨fun _ => by simpa using some, fun _ => ⟨_, rfl⟩⟩

namespace AuthState
variable {verify : TokenVerifier} {state : AuthState} {config : AuthConfig} {request : HttpRequest}

/-- A request with neither a valid bearer token nor, where the configuration admits one, the
admin token. -/
structure Unauthenticated (verify : TokenVerifier) (state : AuthState) (config : AuthConfig)
    (request : HttpRequest) : Prop where
  bearer : ∀ token, bearerToken request = some token → ∃ e, verify token = .error e
  admin : config.adminTokenFallback = true →
    state.adminToken.val ≠ some (request.adminToken.getD "")

/-- The outcome of a guard behind the middleware. -/
def gate (verify : TokenVerifier) (request : HttpRequest)
    (guard : Option Principal → Except AppError Unit) : Except AppError Unit := do
  let principal ← authenticate verify request
  guard principal

/-- Every guard refuses the request; the read guards only where reads are not anonymous. -/
structure GatesHold (verify : TokenVerifier) (state : AuthState) (config : AuthConfig)
    (request : HttpRequest) : Prop where
  reload : ∃ e, gate verify request (state.requireReload request) = .error e
  manage : ∃ e, gate verify request (state.requireManage request) = .error e
  read : config.anonymousRead = false → ∃ e, gate verify request state.requireRead = .error e
  mcp : config.anonymousRead = false → ∀ method,
    ∃ e, gate verify request (state.checkAuth method) = .error e

/-- An invalid token never reaches a guard. -/
private theorem gate_of_bearer {token : String} {guard : Option Principal → Except AppError Unit}
    (unauthenticated : Unauthenticated verify state config request)
    (bearer : bearerToken request = some token) : ∃ e, gate verify request guard = .error e := by
  obtain ⟨e, rejected⟩ := unauthenticated.bearer token bearer
  refine ⟨e, ?_⟩
  simp only [gate, authenticate, bearer, rejected]
  rfl

private theorem gate_of_none {guard : Option Principal → Except AppError Unit}
    (bearer : bearerToken request = none) : gate verify request guard = guard none := by
  simp only [gate, authenticate, bearer]
  rfl

private theorem requireScopesOrAdmin_error_iff {scopes : AuthConfig → List String}
    (layer : state.auth = some config) (enabled : config.enabled = true)
    (unauthenticated : Unauthenticated verify state config request) :
    (∃ e, state.requireScopesOrAdmin scopes request none = .error e) ↔ scopes config ≠ [] := by
  have refused : ((requireAdmin state.adminToken request).isOk && config.adminTokenFallback) =
      false := by
    by_cases fallback : config.adminTokenFallback = true
    · cases admin : requireAdmin state.adminToken request with
      | error e => rfl
      | ok _ => exact absurd (requireAdmin_ok_iff.mp admin) (unauthenticated.admin fallback)
    · rw [Bool.not_eq_true] at fallback
      rw [fallback, Bool.and_false]
  unfold requireScopesOrAdmin
  simp only [layer, enabled, if_true, refused, Bool.false_eq_true, if_false]
  exact requireScopes_none_error_iff

private theorem requireRead_error_iff (layer : state.auth = some config)
    (enabled : config.enabled = true) (guarded : config.anonymousRead = false) :
    (∃ e, state.requireRead none = .error e) ↔ config.readScopes ≠ [] := by
  unfold requireRead
  simp only [layer, enabled, guarded, Bool.not_false, Bool.and_self, if_true]
  exact requireScopes_none_error_iff

private theorem checkAuth_error_iff (layer : state.auth = some config)
    (enabled : config.enabled = true) (guarded : config.anonymousRead = false) :
    (∀ method, ∃ e, state.checkAuth method none = .error e) ↔ config.readScopes ≠ [] := by
  unfold checkAuth
  simp only [layer, enabled, guarded, Bool.not_true, Bool.or_self, Bool.false_eq_true, if_false]
  constructor
  · intro refused
    exact requireScopes_none_error_iff.mp (refused "tools/call")
  · intro required method
    split
    · exact ⟨_, rfl⟩
    · exact ⟨_, rfl⟩
    · exact ⟨_, rfl⟩
    · exact requireScopes_none_error_iff.mpr required

/-- Which guards refuse a request without credentials: all of them when every scope list they
consult is non-empty. With an empty list the scope check passes requests that carry no token;
a request with an invalid token is refused whatever the lists. -/
theorem gates_hold_iff (layer : state.auth = some config) (enabled : config.enabled = true)
    (unauthenticated : Unauthenticated verify state config request) :
    GatesHold verify state config request ↔
      (bearerToken request).isSome = true ∨
        config.reloadScopes ≠ [] ∧ config.manageScopes ≠ [] ∧
          (config.anonymousRead = true ∨ config.readScopes ≠ []) := by
  cases bearer : bearerToken request with
  | some token =>
    refine ⟨fun _ => .inl rfl, fun _ => ?_⟩
    exact ⟨gate_of_bearer unauthenticated bearer, gate_of_bearer unauthenticated bearer,
      fun _ => gate_of_bearer unauthenticated bearer,
      fun _ _ => gate_of_bearer unauthenticated bearer⟩
  | none =>
    have reload : (∃ e, gate verify request (state.requireReload request) = .error e) ↔
        config.reloadScopes ≠ [] := by
      rw [gate_of_none bearer]
      exact requireScopesOrAdmin_error_iff layer enabled unauthenticated
    have manage : (∃ e, gate verify request (state.requireManage request) = .error e) ↔
        config.manageScopes ≠ [] := by
      rw [gate_of_none bearer]
      exact requireScopesOrAdmin_error_iff layer enabled unauthenticated
    constructor
    · intro hold
      refine .inr ⟨reload.mp hold.reload, manage.mp hold.manage, ?_⟩
      by_cases anonymous : config.anonymousRead = true
      · exact .inl anonymous
      · rw [Bool.not_eq_true] at anonymous
        have refused := hold.read anonymous
        rw [gate_of_none bearer] at refused
        exact .inr ((requireRead_error_iff layer enabled anonymous).mp refused)
    · rintro (impossible | ⟨reloadSome, manageSome, reads⟩)
      · cases impossible
      have readSome : config.anonymousRead = false → config.readScopes ≠ [] := by
        rcases reads with anonymous | some
        · intro guarded
          rw [guarded] at anonymous
          cases anonymous
        · exact fun _ => some
      refine ⟨reload.mpr reloadSome, manage.mpr manageSome, fun guarded => ?_,
        fun guarded method => ?_⟩
      · rw [gate_of_none bearer]
        exact (requireRead_error_iff layer enabled guarded).mpr (readSome guarded)
      · rw [gate_of_none bearer]
        exact (checkAuth_error_iff layer enabled guarded).mpr (readSome guarded) method

/-- A configuration that names its scopes. -/
def namedScopes : AuthConfig where
  enabled := true
  issuer := "https://issuer.test"
  readScopes := ["datasets:read"]
  reloadScopes := ["datasets:reload"]

theorem gates_hold_named :
    GatesHold (fun _ => .error (.unauthorized "token rejected"))
        { auth := some namedScopes, adminToken := ⟨none, by decide⟩ } namedScopes {} ↔
      (bearerToken {}).isSome = true ∨ namedScopes.reloadScopes ≠ [] ∧ namedScopes.manageScopes ≠ [] ∧
        (namedScopes.anonymousRead = true ∨ namedScopes.readScopes ≠ []) :=
  gates_hold_iff rfl rfl ⟨fun _ _ => ⟨_, rfl⟩, fun _ => by decide⟩

/-- With the default scope lists, which the configuration accepts, a request without any
credentials may reload datasets, read them and call the MCP tools. -/
theorem gates_open_by_default :
    ∃ config, AuthConfig.load { enabled := true, issuer := "https://issuer.test" } = .ok config ∧
      ∀ verify : TokenVerifier,
        let state : AuthState := { auth := some config, adminToken := ⟨none, by decide⟩ }
        Unauthenticated verify state config {} ∧
          gate verify {} (state.requireReload {}) = .ok () ∧
          gate verify {} state.requireRead = .ok () ∧
          gate verify {} (state.checkAuth "tools/call") = .ok () := by
  refine ⟨_, rfl, fun verify => ⟨⟨?_, by decide⟩, rfl, rfl, rfl⟩⟩
  intro token impossible
  cases impossible

end AuthState
end Datapress
