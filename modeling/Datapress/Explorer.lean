import Datapress.Handlers

/-! The pages of the explorer. -/
namespace Datapress.Explorer

open Datapress

structure State where
  /-- The datasets of the configuration, and those registered since. -/
  datasets : List DatasetBlock
  sourceConfigPath : Option String := none
  /-- The file of a persisted saved query, when there is one. -/
  managedFile : String → String

variable [ToLowercase] {Data : Type}

/-- The list every page starts from: the configuration names the kind where it can. -/
def collectDatasets (state : State) (backend : BackendData Data) : List DatasetListItem :=
  backend.datasetStatuses.map fun s =>
    { name := s.name
      rows := s.rows
      columns := s.columns
      kind := (state.datasets.find? (·.name == s.name)).elim s.kind (·.kind)
      state := s.status.text
      lastError := s.lastError.getD ""
      isManaged := backend.isManaged s.name }

def index (state : State) (backend : BackendData Data) : Response Data :=
  .ok (.explorerIndex (collectDatasets state backend))

/-- The sample as the page shows it; an empty or failed one is a dash. -/
def samplePretty [JsonParse] (sample : Except AppError String) : Option Sample :=
  match sample with
  | .error _ => none
  | .ok text =>
      if trim text == "null" then none
      else
        match JsonParse.parse text with
        | some value => some (.written value)
        | none => some (.raw text)

def datasetDetail [JsonParse] (state : State) (backend : BackendData Data) (name : String) :
    Response Data :=
  let summary := (backend.summary name).toOption
  let schema := (backend.schema name).toOption
  if summary.isNone && schema.isNone then
    .text 404 s!"<div class=\"alert alert-warning\">Unknown dataset: {name}</div>"
  else
    let block := state.datasets.find? (·.name == name)
    let indexed := (((backend.indexedColumns name).toOption.getD []).map toLowercase).dedup
    let columns := (schema.elim [] (·.columns)).map fun c =>
      { name := c.name
        logical := c.logical
        sqlType := c.sqlType
        nullable := c.nullable
        indexed := indexed.contains (toLowercase c.name) : ColumnView }
    let isManaged := backend.isManaged name
    .ok (.explorerDataset
      { name
        rows := summary.elim 0 (·.rows)
        columnCount := summary.elim columns.length (·.columns)
        indexedCount := indexed.length
        nullableCount := (columns.filter (·.nullable)).length
        sourceKind := block.elim "query" (·.kind)
        sourceLocation := block.elim "— (runtime saved query)" (·.location)
        indexMode := block.elim "auto" (·.indexMode)
        indexColumns := block.elim [] (·.indexColumns)
        projection := block.bind fun b => if b.columns.isEmpty then none else some b.columns
        dictEncode := block.elim false (·.dictEncode)
        lazy := summary.elim (block.elim false (·.lazy)) (·.lazy)
        columns
        samplePretty := samplePretty (backend.sample name)
        isManaged
        managedFile := if isManaged && !backend.isTemp name then state.managedFile name else "" })

/-- Gated like registration in the API: without the guard the explorer would be a way around it. -/
def registerDataset (api : Api Data) (request : HttpRequest) (principal : Option Principal)
    (form : Except AppError DatasetBlock) : Response Data :=
  match api.auth.requireReload request principal with
  | .error e =>
      let reason := e.display
      .text 200 (s!"Not authorized to register datasets: {reason}. Provide the admin token " ++
        "(or sign in with the required reload scope).")
  | .ok () =>
    match form with
    | .error e => .text 200 e.display
    | .ok block =>
      match api.backend.register block with
      | .error e => .text 200 e.display
      | .ok summary => .ok (.registered summary)

def persistDataset (state : State) (api : Api Data) (request : HttpRequest)
    (principal : Option Principal) (name : String) : Response Data :=
  match api.auth.requireReload request principal with
  | .error e =>
      let reason := e.display
      .text 200 s!"Not authorized to persist datasets: {reason}."
  | .ok () =>
    if state.sourceConfigPath.isNone then
      .text 200 "This server has no on-disk config file to append to."
    else
      match state.datasets.find? (·.name == name) with
      | none => .text 200 "Unknown or not-yet-registered dataset."
      | some block =>
        match api.admin.persistToSourceConfig block with
        | .ok path => .ok (.persisted path)
        | .error e => let reason := e.display; .text 200 s!"Failed to write config: {reason}"

end Datapress.Explorer
