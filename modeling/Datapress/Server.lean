import Datapress.Explorer
import Datapress.Mcp

/-!
The routes of the server.

The middleware runs before every handler and only attaches a principal: whether a route needs one
is up to its handler.
-/
namespace Datapress

structure Server (Data : Type) where
  api : Api Data
  verify : TokenVerifier
  readiness : Handlers.ReadinessMode := .all
  mcp : Mcp.Settings := {}
  decode : Mcp.Decoders
  /-- Mounted only where the configuration enables it. -/
  explorer : Option Explorer.State := none
  docs : Bool := false
  swagger : Bool := false
  /-- The embedded files of the explorer, the documentation and the API browser. -/
  asset : String → Option String

/-- A request to a mounted path, with its decoded body. -/
inductive Route where
  | listDatasets
  | registerDataset (block : DatasetBlock)
  | persistDataset (block : DatasetBlock)
  | getSchema (name : String)
  | getDatasetStatus (name : String)
  | queryDataset (name : String) (request : QueryRequest)
  | sqlQuery (sql : String) (maxRows : Option UInt64)
  | streamDataset (name : String) (request : QueryRequest)
  | countDataset (name : String) (body : Option CountRequest)
  /-- `/parquet` and `/all.parquet`. -/
  | parquetDataset (name : String)
  | reloadDataset (name : String)
  | reloadAllDatasets
  | reloadConfig
  | createQuery
  | listQueries
  | deleteQuery (name : String)
  | healthz
  | readyz
  | version
  | health
  | explorerIndex
  | explorerDataset (name : String)
  | explorerRegister (form : Except AppError DatasetBlock)
  | explorerPersist (name : String)
  /-- The terminal page, the redirects and the embedded files of the explorer. -/
  | explorerAsset (path : String)
  | docs (path : String)
  | swagger (path : String)
  | mcpPost (post : Mcp.Post)
  | mcpGet
  | mcpDelete (sessionId : Bool)
  | mcpOptions
  | oauthProtectedResource
  /-- A path no route has, or a body its extractor rejects. -/
  | unmatched (status : Nat)

/-- What a handler reads of a request beside its path and body. -/
structure Incoming extends HttpRequest where
  /-- `wants_arrow`. -/
  arrow : Bool := false
  range : Option String := none
  route : Route

namespace Server

variable [ToLowercase] [JsonParse] {Data : Type} [Encoded Data]

def static (server : Server Data) (mounted : Bool) (path : String) : Response Data :=
  if mounted then
    match server.asset path with
    | some content => .text 200 content
    | none => .text 404 "Not Found"
  else .empty 404

/-- The metadata of the protected resource, mounted only with the MCP endpoint and auth. -/
def oauthProtectedResource (server : Server Data) : Response Data :=
  match server.api.auth.auth with
  | some config =>
      if server.mcp.enabled && config.enabled then .text 200 config.issuer else .empty 404
  | none => .empty 404

def toolContext (server : Server Data) : Mcp.ToolContext Data where
  backend := server.api.backend
  parse := server.api.parse
  settings := server.mcp
  decode := server.decode

/-- The handler of a route, behind the middleware. -/
def handle (server : Server Data) (request : Incoming) (principal : Option Principal) :
    Option (Response Data) :=
  let api := server.api
  let http := request.toHttpRequest
  let explore (page : Explorer.State → Response Data) : Response Data :=
    server.explorer.elim (.empty 404) page
  match request.route with
  | .listDatasets => some (respond (Handlers.listDatasets api principal))
  | .registerDataset block => some (respond (Handlers.registerDataset api http principal block))
  | .persistDataset block => some (respond (Handlers.persistDataset api http principal block))
  | .getSchema name => some (respond (Handlers.getSchema api principal name))
  | .getDatasetStatus name => some (respond (Handlers.getDatasetStatus api principal name))
  | .queryDataset name body =>
      some (respond (Handlers.queryDataset api principal request.arrow name body))
  | .sqlQuery sql maxRows =>
      some (respond (Handlers.sqlQuery api principal request.arrow sql maxRows))
  | .streamDataset name body => some (respond (Handlers.streamDataset api principal name body))
  | .countDataset name body => some (respond (Handlers.countDataset api principal name body))
  | .parquetDataset name =>
      some (respond (Handlers.parquetDataset api principal request.range name))
  | .reloadDataset name => some (respond (Handlers.reloadDataset api http principal name))
  | .reloadAllDatasets => some (respond (Handlers.reloadAllDatasets api http principal))
  | .reloadConfig => some (respond (Handlers.reloadConfig api http principal))
  | .createQuery => some (respond (Handlers.createQuery api http principal))
  | .listQueries => some (respond (Handlers.listQueries api http principal))
  | .deleteQuery name => some (respond (Handlers.deleteQuery api http principal name))
  | .healthz => some (.text 200 "ok")
  | .readyz => some (Handlers.readyz server.readiness api.backend.datasetStatuses)
  | .version => some (.text 200 "version")
  | .health => some (.text 200 "ok")
  | .explorerIndex => some (explore fun state => Explorer.index state api.backend)
  | .explorerDataset name => some (explore fun state => Explorer.datasetDetail state api.backend name)
  | .explorerRegister form => some (explore fun _ => Explorer.registerDataset api http principal form)
  | .explorerPersist name =>
      some (explore fun state => Explorer.persistDataset state api http principal name)
  | .explorerAsset path => some (server.static server.explorer.isSome path)
  | .docs path => some (server.static server.docs path)
  | .swagger path => some (server.static server.swagger path)
  | .mcpPost post => Mcp.handlePost api.auth server.toolContext principal post
  | .mcpGet => some (Mcp.handleGet server.mcp)
  | .mcpDelete sessionId => some (Mcp.handleDelete server.mcp sessionId)
  | .mcpOptions => some (Mcp.handleOptions server.mcp)
  | .oauthProtectedResource => some server.oauthProtectedResource
  | .unmatched status => some (.empty status)

/-- The middleware and the handler: an invalid token ends the request. -/
def serve (server : Server Data) (request : Incoming) : Option (Response Data) :=
  match authenticate server.verify request.toHttpRequest with
  | .error e => some (.failure e)
  | .ok principal => server.handle request principal

end Server
end Datapress
