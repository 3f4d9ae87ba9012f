import Datapress.Server
import Datapress.AuthProofs
import Datapress.Library.Fallible

/-!
What a caller without the read scopes is shown.

Every handler of the API and of the MCP endpoint that shows data calls its guard first. The pages
of the explorer do not, and one of them shows the columns and a row of a dataset.
-/
namespace Datapress

/-- Whether a page shows columns, a row, or the column names of a configuration. -/
def DatasetPage.discloses (page : DatasetPage) : Bool :=
  !page.columns.isEmpty || page.samplePretty.isSome || !page.indexColumns.isEmpty ||
    page.projection.isSome

def ToolResult.discloses : ToolResult Data → Bool
  | .listDatasets _ => false
  | .describeDataset _ _ _ _ => true
  | .describeAllDatasets _ => true
  | .queryDataset _ _ _ _ => true
  | .countRows _ => false
  | .sql _ _ => true
  | .failed _ => false

/-- Whether a body has rows of a dataset, a sample of them, or its schema. -/
def Body.discloses : Body Data → Bool
  | .schema _ _ _ _ _ => true
  | .page _ _ _ => true
  | .sqlRows _ _ => true
  | .stream _ => true
  | .parquet _ _ => true
  | .rpc (.ok (.call result)) => result.discloses
  | .explorerDataset shown => shown.discloses
  | _ => false

/-- What the explorer knows of a dataset and shows to everyone. -/
structure Explorer.State.ShowsDetail (state : Explorer.State) (backend : BackendData Data)
    (name : String) : Prop where
  known : (∃ summary, backend.summary name = .ok summary) ∨
    ∃ schema, backend.schema name = .ok schema
  detail : (∃ schema, backend.schema name = .ok schema ∧ schema.columns ≠ []) ∨
    (∃ text, backend.sample name = .ok text ∧ trim text ≠ "null") ∨
    ∃ block, state.datasets.find? (·.name == name) = some block ∧
      (block.indexColumns ≠ [] ∨ block.columns ≠ [])

abbrev Response.Withholds (response : Response Data) : Prop := response.body.discloses = false

theorem respond_withholds {outcome : Except AppError (Response Data)}
    (answered : ∀ response, outcome = .ok response → response.Withholds) :
    (respond outcome).Withholds := by
  cases outcome with
  | error e => rfl
  | ok response => exact answered response rfl

/-- A handler whose guard refuses answers with the error of the guard. -/
theorem respond_guarded {guard : Except AppError Unit} {work : Except AppError (Response Data)}
    (answered : guard = .ok () → ∀ response, work = .ok response → response.Withholds) :
    (respond (guard >>= fun _ => work)).Withholds := by
  apply respond_withholds
  intro response ran
  obtain ⟨⟨⟩, passed, ran⟩ := Fallible.bind_ok_iff.mp ran
  exact answered passed response ran

namespace Handlers
variable {Data : Type} {api : Api Data} {principal : Option Principal} {request : HttpRequest}

/-- Behind the guard of the saved queries, too, only the work can show something. -/
theorem guardQueries_withholds {work : Except AppError (Response Data)}
    (answered : ∀ response, work = .ok response → response.Withholds) :
    (respond (guardQueries api request principal work)).Withholds := by
  unfold guardQueries
  split
  · rfl
  · exact respond_guarded fun _ => answered

theorem createQuery_withholds : (respond (createQuery api request principal)).Withholds := by
  apply guardQueries_withholds
  intro response ran
  obtain ⟨⟨status, entry⟩, _, same⟩ := Fallible.bind_ok_iff.mp ran
  obtain rfl := Except.ok.inj same
  rfl

theorem listQueries_withholds : (respond (listQueries api request principal)).Withholds := by
  apply guardQueries_withholds
  intro response ran
  obtain rfl := Except.ok.inj ran
  rfl

theorem deleteQuery_withholds {name : String} :
    (respond (deleteQuery api request principal name)).Withholds := by
  apply guardQueries_withholds
  intro response ran
  obtain ⟨deleted, _, same⟩ := Fallible.bind_ok_iff.mp ran
  obtain rfl := Except.ok.inj same
  rfl

theorem registerDataset_withholds {block : DatasetBlock} :
    (respond (registerDataset api request principal block)).Withholds := by
  refine respond_guarded fun _ response ran => ?_
  obtain ⟨summary, _, same⟩ := Fallible.bind_ok_iff.mp ran
  obtain rfl := Except.ok.inj same
  rfl

theorem persistDataset_withholds {block : DatasetBlock} :
    (respond (persistDataset api request principal block)).Withholds := by
  refine respond_guarded fun _ response ran => ?_
  obtain ⟨path, _, same⟩ := Fallible.bind_ok_iff.mp ran
  obtain rfl := Except.ok.inj same
  rfl

theorem reloadDataset_withholds {name : String} :
    (respond (reloadDataset api request principal name)).Withholds := by
  refine respond_guarded fun _ response ran => ?_
  obtain ⟨stats, _, same⟩ := Fallible.bind_ok_iff.mp ran
  obtain rfl := Except.ok.inj same
  rfl

theorem reloadAllDatasets_withholds :
    (respond (reloadAllDatasets api request principal)).Withholds := by
  refine respond_guarded fun _ response ran => ?_
  obtain rfl := Except.ok.inj ran
  rfl

theorem reloadConfig_withholds : (respond (reloadConfig api request principal)).Withholds := by
  refine respond_guarded fun _ response ran => ?_
  split at ran
  · cases ran
  · obtain ⟨blocks, _, same⟩ := Fallible.bind_ok_iff.mp ran
    obtain rfl := Except.ok.inj same
    rfl

/-- A refused reader gets nothing from a handler that starts with the read guard. -/
theorem requireRead_withholds {work : Except AppError (Response Data)}
    (refused : ∃ e, api.auth.requireRead principal = .error e) :
    (respond (api.auth.requireRead principal >>= fun _ => work)).Withholds := by
  obtain ⟨e, refused⟩ := refused
  refine respond_guarded fun passed => ?_
  rw [refused] at passed
  cases passed

theorem sqlQuery_withholds [ToLowercase] {arrow : Bool} {sql : String} {maxRows : Option UInt64}
    (refused : ∃ e, api.auth.requireRead principal = .error e) :
    (respond (sqlQuery api principal arrow sql maxRows)).Withholds := by
  unfold sqlQuery
  split
  · rfl
  · exact requireRead_withholds refused

theorem readyz_withholds {mode : ReadinessMode} {statuses : List DatasetStatusEntry} :
    (readyz mode statuses : Response Data).Withholds := by
  unfold readyz
  split <;> rfl

end Handlers

namespace Explorer
variable {Data : Type} {api : Api Data} {principal : Option Principal} {request : HttpRequest}

theorem registerDataset_withholds {form : Except AppError DatasetBlock} :
    (registerDataset api request principal form).Withholds := by
  unfold registerDataset
  split
  · rfl
  · split
    · rfl
    · split <;> rfl

theorem persistDataset_withholds {state : State} {name : String} :
    (persistDataset state api request principal name).Withholds := by
  unfold persistDataset
  split
  · rfl
  · split
    · rfl
    · split
      · rfl
      · split <;> rfl

theorem samplePretty_isSome_iff [JsonParse] {sample : Except AppError String} :
    (samplePretty sample).isSome = true ↔ ∃ text, sample = .ok text ∧ trim text ≠ "null" := by
  cases sample with
  | error e =>
    constructor
    · intro impossible; cases impossible
    · rintro ⟨_, impossible, _⟩; cases impossible
  | ok text =>
    by_cases blank : trim text = "null"
    · simp [samplePretty, blank]
    · have shown : (samplePretty (.ok text)).isSome = true := by
        simp only [samplePretty, beq_iff_eq, blank, if_false]
        split <;> rfl
      exact ⟨fun _ => ⟨text, rfl, blank⟩, fun _ => shown⟩

theorem known_iff {backend : BackendData Data} {name : String} :
    ((backend.summary name).toOption.isNone && (backend.schema name).toOption.isNone) = false ↔
      (∃ summary, backend.summary name = .ok summary) ∨
        ∃ schema, backend.schema name = .ok schema := by
  cases backend.summary name <;> cases backend.schema name <;> simp [Except.toOption]

/-- The page of a known dataset shows whatever there is to show. -/
theorem datasetDetail_discloses_iff [ToLowercase] [JsonParse] {state : State}
    {backend : BackendData Data} {name : String} :
    (datasetDetail state backend name).body.discloses = true ↔ state.ShowsDetail backend name := by
  unfold datasetDetail
  dsimp only
  split
  · rename_i unknown
    constructor
    · intro impossible; cases impossible
    · rintro ⟨known, _⟩
      rw [known_iff.mpr known] at unknown
      cases unknown
  · rename_i known
    have known := known_iff.mp (Bool.not_eq_true _ ▸ known)
    have columns : ((backend.schema name).toOption.elim [] (·.columns)) ≠ [] ↔
        ∃ schema, backend.schema name = .ok schema ∧ schema.columns ≠ [] := by
      cases backend.schema name with
      | error e => simp [Except.toOption]
      | ok schema => simp [Except.toOption]
    have configured : ((state.datasets.find? (·.name == name)).elim [] (·.indexColumns) ≠ [] ∨
          ((state.datasets.find? (·.name == name)).bind fun b =>
            if b.columns.isEmpty then none else some b.columns).isSome = true) ↔
        ∃ block, state.datasets.find? (·.name == name) = some block ∧
          (block.indexColumns ≠ [] ∨ block.columns ≠ []) := by
      cases state.datasets.find? (·.name == name) with
      | none => simp
      | some block => cases empty : block.columns <;> simp [empty]
    have shown : state.ShowsDetail backend name ↔
        ((backend.schema name).toOption.elim [] (·.columns)) ≠ [] ∨
          (samplePretty (backend.sample name)).isSome = true ∨
          (state.datasets.find? (·.name == name)).elim [] (·.indexColumns) ≠ [] ∨
          ((state.datasets.find? (·.name == name)).bind fun b =>
            if b.columns.isEmpty then none else some b.columns).isSome = true := by
      rw [columns, configured, samplePretty_isSome_iff]
      exact ⟨fun details => details.detail, fun detail => ⟨known, detail⟩⟩
    rw [shown]
    simp only [Response.ok, Body.discloses, DatasetPage.discloses, Bool.or_eq_true, or_assoc,
      Bool.not_eq_true', List.isEmpty_eq_false_iff, ne_eq, List.map_eq_nil_iff]

end Explorer

namespace Mcp
variable [ToLowercase] [JsonParse] {Data : Type} [Encoded Data]

/-- The methods a principal without scopes may call show no data. -/
theorem dispatchMethod_withholds {context : ToolContext Data} {timedOut : Bool} {method : String}
    {params : JsonValue} {outcome : Except RpcError (RpcResult Data)}
    (lifecycle : method ≠ "tools/call")
    (ran : dispatchMethod context timedOut method params = some outcome) :
    (rpc outcome).Withholds := by
  unfold dispatchMethod at ran
  split at ran
  · cases ran
    split <;> rfl
  · cases ran; rfl
  · cases ran; rfl
  · exact absurd rfl lifecycle
  · cases ran; rfl

theorem handlePost_withholds {auth : AuthState} {context : ToolContext Data}
    {principal : Option Principal} {post : Post} {response : Response Data}
    (refused : ∃ e, auth.checkAuth "tools/call" principal = .error e)
    (ran : handlePost auth context principal post = some response) : response.Withholds := by
  unfold handlePost at ran
  split at ran
  · cases ran; rfl
  · split at ran
    · cases ran; rfl
    · split at ran
      · cases ran; rfl
      · split at ran
        · cases ran; rfl
        · split at ran
          · cases ran; rfl
          · split at ran
            · cases ran; rfl
            · split at ran
              · cases ran; rfl
              · rename_i method _
                split at ran
                · cases ran; rfl
                · rename_i passed
                  obtain ⟨outcome, dispatched, rfl⟩ := Option.map_eq_some_iff.mp ran
                  refine dispatchMethod_withholds ?_ dispatched
                  rintro rfl
                  obtain ⟨e, refused⟩ := refused
                  rw [refused] at passed
                  cases passed

end Mcp

namespace AuthState
variable {state : AuthState} {config : AuthConfig} {principal : Option Principal}

/-- A caller that lacks one of the scopes is refused, with or without a token. -/
theorem requireScopes_error {required : List String} (named : required ≠ [])
    (lacking : ∀ p, principal = some p → p.hasAllScopes required = false) :
    ∃ e, requireScopes principal required = .error e := by
  have nonempty : required.isEmpty = false := List.isEmpty_eq_false_iff.mpr named
  cases principal with
  | none => exact ⟨_, by simp only [requireScopes, nonempty]; rfl⟩
  | some p => exact ⟨_, by simp only [requireScopes, nonempty, lacking p rfl]; rfl⟩

theorem requireRead_error (layer : state.auth = some config) (enabled : config.enabled = true)
    (guarded : config.anonymousRead = false)
    (refused : ∃ e, requireScopes principal config.readScopes = .error e) :
    ∃ e, state.requireRead principal = .error e := by
  simpa only [requireRead, layer, enabled, guarded, Bool.not_false, Bool.and_self, if_true]
    using refused

theorem checkAuth_call_error (layer : state.auth = some config) (enabled : config.enabled = true)
    (guarded : config.anonymousRead = false)
    (refused : ∃ e, requireScopes principal config.readScopes = .error e) :
    ∃ e, state.checkAuth "tools/call" principal = .error e := by
  obtain ⟨e, refused⟩ := refused
  refine ⟨e, ?_⟩
  simp only [checkAuth, layer, enabled, guarded, Bool.not_true, Bool.or_self, Bool.false_eq_true,
    if_false]
  exact refused

end AuthState

namespace Server

section
variable [ToLowercase] [JsonParse] {Data : Type} [Encoded Data]
variable {server : Server Data} {request : Incoming} {config : AuthConfig}

/-- The caller holds no principal that has every read scope. -/
def Unprivileged (server : Server Data) (config : AuthConfig) (request : Incoming) : Prop :=
  ∀ p, authenticate server.verify request.toHttpRequest = .ok (some p) →
    p.hasAllScopes config.readScopes = false

/-- The request is for the explorer's page of a dataset that has something to show. -/
def AsksDetail (server : Server Data) (request : Incoming) : Prop :=
  ∃ state name, server.explorer = some state ∧ request.route = .explorerDataset name ∧
    state.ShowsDetail server.api.backend name

/-- What the server answers shows nothing of a dataset. -/
def Withholds (server : Server Data) (request : Incoming) : Prop :=
  ∀ response, server.serve request = some response → response.Withholds

omit [ToLowercase] [JsonParse] [Encoded Data] in
theorem static_withholds {mounted : Bool} {path : String} :
    (server.static mounted path).Withholds := by
  unfold static
  split
  · split <;> rfl
  · rfl

/-- Every route but one shows nothing to a caller both guards refuse. -/
theorem handle_withholds {principal : Option Principal} {response : Response Data}
    (read : ∃ e, server.api.auth.requireRead principal = .error e)
    (call : ∃ e, server.api.auth.checkAuth "tools/call" principal = .error e)
    (other : ∀ name, request.route ≠ .explorerDataset name)
    (ran : server.handle request principal = some response) : response.Withholds := by
  unfold handle at ran
  dsimp only at ran
  cases route : request.route <;> rw [route] at ran other <;> dsimp only at ran
  case explorerDataset name => exact absurd rfl (other name)
  case mcpPost post => exact Mcp.handlePost_withholds call ran
  all_goals obtain rfl := Option.some.inj ran
  case listDatasets => exact Handlers.requireRead_withholds read
  case getSchema => exact Handlers.requireRead_withholds read
  case getDatasetStatus => exact Handlers.requireRead_withholds read
  case queryDataset => exact Handlers.requireRead_withholds read
  case sqlQuery => exact Handlers.sqlQuery_withholds read
  case streamDataset => exact Handlers.requireRead_withholds read
  case countDataset => exact Handlers.requireRead_withholds read
  case parquetDataset => exact Handlers.requireRead_withholds read
  case registerDataset => exact Handlers.registerDataset_withholds
  case persistDataset => exact Handlers.persistDataset_withholds
  case reloadDataset => exact Handlers.reloadDataset_withholds
  case reloadAllDatasets => exact Handlers.reloadAllDatasets_withholds
  case reloadConfig => exact Handlers.reloadConfig_withholds
  case createQuery => exact Handlers.createQuery_withholds
  case listQueries => exact Handlers.listQueries_withholds
  case deleteQuery => exact Handlers.deleteQuery_withholds
  case healthz => rfl
  case readyz => exact Handlers.readyz_withholds
  case version => rfl
  case health => rfl
  case explorerIndex => cases server.explorer <;> rfl
  case explorerRegister =>
    cases server.explorer with
    | none => rfl
    | some state => exact Explorer.registerDataset_withholds
  case explorerPersist =>
    cases server.explorer with
    | none => rfl
    | some state => exact Explorer.persistDataset_withholds
  case explorerAsset => exact static_withholds
  case docs => exact static_withholds
  case swagger => exact static_withholds
  case mcpGet => unfold Mcp.handleGet; split <;> rfl
  case mcpDelete =>
    unfold Mcp.handleDelete
    split
    · rfl
    · split <;> rfl
  case mcpOptions => unfold Mcp.handleOptions; split <;> rfl
  case oauthProtectedResource =>
    unfold oauthProtectedResource
    split
    · split <;> rfl
    · rfl
  case unmatched => rfl

/-- A caller without the read scopes is shown nothing unless its token, if any, is valid and it
asks the explorer for the page of a dataset. -/
theorem unprivileged_withholds_iff (layer : server.api.auth.auth = some config)
    (enabled : config.enabled = true) (guarded : config.anonymousRead = false)
    (named : config.readScopes ≠ []) (unprivileged : server.Unprivileged config request) :
    server.Withholds request ↔
      ¬ ((∃ principal, authenticate server.verify request.toHttpRequest = .ok principal) ∧
        server.AsksDetail request) := by
  cases authenticated : authenticate server.verify request.toHttpRequest with
  | error e =>
    constructor
    · rintro - ⟨⟨_, impossible⟩, _⟩; cases impossible
    · intro _ response ran
      simp only [serve, authenticated] at ran
      obtain rfl := Option.some.inj ran
      rfl
  | ok principal =>
    have lacking : ∀ p, principal = some p → p.hasAllScopes config.readScopes = false := by
      rintro p rfl
      exact unprivileged p authenticated
    have refused := AuthState.requireScopes_error named lacking
    have serves : server.serve request = server.handle request principal := by
      simp only [serve, authenticated]
    by_cases page : ∃ name, request.route = .explorerDataset name
    · obtain ⟨name, route⟩ := page
      have answer : server.serve request = some
          (server.explorer.elim (.empty 404)
            fun state => Explorer.datasetDetail state server.api.backend name) := by
        simp only [serves, handle, route]
      constructor
      · rintro withholds ⟨_, state, asked, mounted, same, shows⟩
        rw [route] at same
        obtain rfl := Route.explorerDataset.inj same
        have shown := Explorer.datasetDetail_discloses_iff.mpr shows
        rw [mounted] at answer
        have hidden : (Explorer.datasetDetail state server.api.backend name).Withholds :=
          withholds _ answer
        rw [hidden] at shown
        cases shown
      · intro withheld response ran
        rw [answer] at ran
        obtain rfl := Option.some.inj ran
        cases mounted : server.explorer with
        | none => rfl
        | some state =>
          by_contra discloses
          rw [Bool.not_eq_false] at discloses
          exact withheld ⟨⟨_, rfl⟩, state, name, mounted, route,
            Explorer.datasetDetail_discloses_iff.mp discloses⟩
    · constructor
      · rintro - ⟨_, _, name, _, route, _⟩
        exact page ⟨name, route⟩
      · intro _ response ran
        rw [serves] at ran
        exact handle_withholds (AuthState.requireRead_error layer enabled guarded refused)
          (AuthState.checkAuth_call_error layer enabled guarded refused)
          (fun name route => page ⟨name, route⟩) ran

end

section Runs
attribute [local instance] asciiToLowercase unusedJsonParse unusedRows

/-- A server with one dataset, whose explorer is mounted. -/
private def eventsServer : Server Unit where
  api :=
    { auth := { auth := some AuthState.namedScopes, adminToken := ⟨none, by decide⟩ }
      backend :=
        { names := ["events"]
          datasetStatuses := []
          schema _ := .ok (.new "events" [⟨"email", .utf8, "VARCHAR", true⟩])
          summary _ := .ok ⟨"events", 1, 1, false⟩
          indexedColumns _ := .ok []
          sample _ := .ok "{}"
          answer _ _ := .ok ()
          querySql _ _ _ := .ok ()
          querySqlArrowStream _ _ _ := .ok ()
          parquet _ := .ok ()
          register _ := .ok ⟨"events", 1, 1, false⟩
          reload _ := .ok ⟨1, 0, false, false⟩
          unregister _ := .ok ()
          isManaged _ := false
          isTemp _ := false }
      parse _ := .error "no parser"
      sql := {}
      maxPageSize := 100
      parquetCache _ := none
      parseByteRange _ _ := .ok none
      queriesEnabled := false
      admin :=
        { persistToSourceConfig _ := .ok ""
          loadSourceConfig := none
          reloadAll := ([], [])
          createQuery := .error (.internal "disabled")
          deleteQuery _ := .error (.internal "disabled") } }
  verify _ := .error (.unauthorized "token rejected")
  decode :=
    { initializeParams _ := .ok ()
      queryRequest _ := .error "no decoder"
      countRequest _ := .error "no decoder" }
  explorer := some { datasets := [], managedFile := id }
  asset _ := none

private theorem eventsServer_unprivileged {request : Incoming} :
    eventsServer.Unprivileged AuthState.namedScopes request := by
  intro p authenticated
  unfold authenticate at authenticated
  split at authenticated
  · cases authenticated
  · cases authenticated

theorem unprivileged_withholds_page :
    eventsServer.Withholds { route := .explorerDataset "events" } ↔
      ¬ ((∃ principal, authenticate eventsServer.verify {} = .ok principal) ∧
        eventsServer.AsksDetail { route := .explorerDataset "events" }) :=
  unprivileged_withholds_iff rfl rfl rfl (by decide) eventsServer_unprivileged

/-- Without any credentials, the explorer's page of a dataset shows its columns. -/
theorem explorer_shows_columns :
    ∃ (server : Server Unit) (config : AuthConfig) (request : Incoming),
      server.api.auth.auth = some config ∧ config.enabled = true ∧
        config.anonymousRead = false ∧ config.readScopes ≠ [] ∧
        server.Unprivileged config request ∧ ¬ server.Withholds request := by
  refine ⟨eventsServer, AuthState.namedScopes, { route := .explorerDataset "events" }, rfl, rfl, rfl,
    by decide, eventsServer_unprivileged, fun withholds => ?_⟩
  have shown := withholds _ rfl
  revert shown
  decide

end Runs
end Server
end Datapress
