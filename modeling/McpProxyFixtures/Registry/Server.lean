import McpProxyFixtures.Python.Str

/-!
# The fake MCP registry

`eval/src/mcpproxy_eval/registry/server.py` serves a fixed list of server entries,
`FAKE_SERVERS`, through a paginated list endpoint and a details endpoint.  This module
models the entries with every field, the two endpoints over the list they read, and the
registry as a state machine whose state is that list: the details endpoint assigns
`packages` on the shared entry it returns, so the list is state.

The list endpoint is modelled over any list of entries, so that its properties can be
stated for every list; {lit}`fakeServers` is the list the code ships.

Main results:

- Theorem {lit}`getServerDetails_ids`: the details endpoint changes no id and no order.
- Theorem {lit}`list_servers_after_details_differs`: a details request changes what a later
  list request returns.
-/

namespace McpProxyFixtures
namespace Registry

open Python

/-! ## Entries -/

/-- `RepositoryInfo`. -/
structure RepositoryInfo where
  url : String
  source : String
  id : String
deriving DecidableEq

/-- `VersionDetail`. -/
structure VersionDetail where
  version : String
  releaseDate : String
  isLatest : Bool
deriving DecidableEq

/-- `PackageArgument`. -/
structure PackageArgument where
  description : String
  isRequired : Bool
  format : String
  value : String
  default : String
  type : String
  valueHint : String
deriving DecidableEq

/-- `Package`. -/
structure Package where
  registryName : String
  name : String
  version : String
  packageArguments : List PackageArgument
deriving DecidableEq

/-- `ServerEntry`, with the defaults of its optional fields. -/
structure ServerEntry where
  id : String
  name : String
  url : Option String := none
  description : String
  createdAt : String
  updatedAt : String
  repository : Option RepositoryInfo := none
  versionDetail : Option VersionDetail := none
  packages : Option (List Package) := none
deriving DecidableEq

/-- The `metadata` dictionary of a list response. -/
structure Metadata where
  nextCursor : Option String
  count : Nat
deriving DecidableEq

/-- `ServersResponse`. -/
structure ServersResponse where
  servers : List ServerEntry
  metadata : Metadata
deriving DecidableEq

/-- `FAKE_SERVERS`, as the module defines it. -/
def fakeServers : List ServerEntry :=
  [
    { id := "01129bff-3d65-4e3d-8e82-6f2f269f818c"
      name := "dice-roller"
      url := some "stdio://uvx mcp-dice"
      description := "A dice rolling MCP server for gaming and probability calculations"
      createdAt := "2025-01-15T10:00:00.000Z"
      updatedAt := "2025-01-15T10:00:00.000Z"
      repository := some ⟨"https://github.com/fake/dice-mcp-server", "github", "123456789"⟩
      versionDetail := some ⟨"1.0.0", "2025-01-15T10:00:00Z", true⟩ },
    { id := "02229bff-3d65-4e3d-8e82-6f2f269f818d"
      name := "weather-service"
      url := some "stdio://uvx mcp-weather"
      description := "Weather information MCP server with forecasts and current conditions"
      createdAt := "2025-01-15T10:05:00.000Z"
      updatedAt := "2025-01-15T10:05:00.000Z"
      repository := some ⟨"https://github.com/fake/weather-mcp-server", "github", "123456790"⟩
      versionDetail := some ⟨"2.1.0", "2025-01-15T10:05:00Z", true⟩ },
    { id := "03329bff-3d65-4e3d-8e82-6f2f269f818e"
      name := "restaurant-finder"
      url := some "stdio://uvx mcp-restaurant"
      description := "Restaurant menu and search MCP server for food discovery"
      createdAt := "2025-01-15T10:10:00.000Z"
      updatedAt := "2025-01-15T10:10:00.000Z"
      repository := some ⟨"https://github.com/fake/restaurant-mcp-server", "github", "123456791"⟩
      versionDetail := some ⟨"1.5.0", "2025-01-15T10:10:00Z", true⟩ },
    { id := "04429bff-3d65-4e3d-8e82-6f2f269f818f"
      name := "morse-translator"
      url := some "stdio://uvx mcp-morse"
      description := "Morse code translation MCP server for encoding and decoding text"
      createdAt := "2025-01-15T10:15:00.000Z"
      updatedAt := "2025-01-15T10:15:00.000Z"
      repository := some ⟨"https://github.com/fake/morse-mcp-server", "github", "123456792"⟩
      versionDetail := some ⟨"1.0.0", "2025-01-15T10:15:00Z", true⟩ },
    { id := "05529bff-3d65-4e3d-8e82-6f2f269f8190"
      name := "calculator"
      url := some "stdio://uvx mcp-calculator"
      description := "Mathematical calculation MCP server with basic and advanced operations"
      createdAt := "2025-01-15T10:20:00.000Z"
      updatedAt := "2025-01-15T10:20:00.000Z"
      repository := some ⟨"https://github.com/fake/calculator-mcp-server", "github", "123456793"⟩
      versionDetail := some ⟨"3.0.0", "2025-01-15T10:20:00Z", true⟩ },
    { id := "06629bff-3d65-4e3d-8e82-6f2f269f8191"
      name := "translator"
      url := some "stdio://uvx mcp-translator"
      description := "Multi-language translation MCP server supporting major languages"
      createdAt := "2025-01-15T10:25:00.000Z"
      updatedAt := "2025-01-15T10:25:00.000Z"
      repository := some ⟨"https://github.com/fake/translator-mcp-server", "github", "123456794"⟩
      versionDetail := some ⟨"2.0.0", "2025-01-15T10:25:00Z", true⟩ },
    { id := "07729bff-3d65-4e3d-8e82-6f2f269f8192"
      name := "time-service"
      url := some "stdio://uvx mcp-time"
      description := "Time and timezone MCP server for temporal operations"
      createdAt := "2025-01-15T10:30:00.000Z"
      updatedAt := "2025-01-15T10:30:00.000Z"
      repository := some ⟨"https://github.com/fake/time-mcp-server", "github", "123456795"⟩
      versionDetail := some ⟨"1.2.0", "2025-01-15T10:30:00Z", true⟩ },
    { id := "08829bff-3d65-4e3d-8e82-6f2f269f8193"
      name := "joke-generator"
      url := some "stdio://uvx mcp-jokes"
      description := "Joke and humor MCP server for entertainment and conversation"
      createdAt := "2025-01-15T10:35:00.000Z"
      updatedAt := "2025-01-15T10:35:00.000Z"
      repository := some ⟨"https://github.com/fake/jokes-mcp-server", "github", "123456796"⟩
      versionDetail := some ⟨"1.1.0", "2025-01-15T10:35:00Z", true⟩ },
    { id := "09929bff-3d65-4e3d-8e82-6f2f269f8194"
      name := "color-palette"
      url := some "stdio://uvx mcp-color"
      description := "Color manipulation and palette MCP server for design tools"
      createdAt := "2025-01-15T10:40:00.000Z"
      updatedAt := "2025-01-15T10:40:00.000Z"
      repository := some ⟨"https://github.com/fake/color-mcp-server", "github", "123456797"⟩
      versionDetail := some ⟨"1.0.0", "2025-01-15T10:40:00Z", true⟩ },
    { id := "10029bff-3d65-4e3d-8e82-6f2f269f8195"
      name := "random-generator"
      url := some "stdio://uvx mcp-random"
      description := "Random number and data generation MCP server for testing and simulation"
      createdAt := "2025-01-15T10:45:00.000Z"
      updatedAt := "2025-01-15T10:45:00.000Z"
      repository := some ⟨"https://github.com/fake/random-mcp-server", "github", "123456798"⟩
      versionDetail := some ⟨"2.0.0", "2025-01-15T10:45:00Z", true⟩ }]

/-! ## `GET /v0/servers` -/

/-- FastAPI's handling of the `limit` query parameter: `30` when absent, refused (422)
above 100.  No lower bound is declared. -/
def validateLimit (limit : Option Int) : Option Int :=
  if limit.getD 30 ≤ 100 then some (limit.getD 30) else none

/-- Where `list_servers` starts: just past the first entry whose id is the cursor, and at
the beginning when there is no cursor, the cursor is empty, or no id matches. -/
def startIndex (servers : List ServerEntry) (cursor : Option String) : Nat :=
  match cursor with
  | some c =>
    if c ≠ "" then
      match servers.findIdx? (·.id = c) with
      | some i => i + 1
      | none => 0
    else 0
  | none => 0

/-- `list_servers(limit, cursor)` over the entry list `servers`; `none` where it raises
`IndexError` at `FAKE_SERVERS[end_idx - 1]`. -/
def listServers (servers : List ServerEntry) (limit : Int) (cursor : Option String) :
    Option ServersResponse :=
  let startIdx : Int := startIndex servers cursor
  let endIdx : Int := min (startIdx + limit) servers.length
  let page := pySlice servers startIdx endIdx
  if endIdx < servers.length then
    (pyGetItem servers (endIdx - 1)).map fun last => ⟨page, ⟨some last.id, page.length⟩⟩
  else some ⟨page, ⟨none, page.length⟩⟩

/-! ## `GET /v0/servers/{server_id}` -/

/-- The package list `get_server_details` attaches to an entry. -/
def detailsPackages (server : ServerEntry) : List Package :=
  let command := "mcp-" ++ (pySplit server.name '-').headD ""
  [{ registryName := "uvx"
     name := "@mcpeval/" ++ server.name
     version := (server.versionDetail.map (·.version)).getD "1.0.0"
     packageArguments :=
       [⟨"Server executable command", true, "string", command, command, "positional", command⟩] }]

/-- `get_server_details(server_id)`: the first entry with that id has `packages` assigned,
in the shared list, and is returned; `none` is the 404 answer. -/
def getServerDetails (servers : List ServerEntry) (serverId : String) :
    Option ServerEntry × List ServerEntry :=
  match servers with
  | [] => (none, [])
  | server :: rest =>
    if server.id = serverId then
      (some { server with packages := some (detailsPackages server) },
        { server with packages := some (detailsPackages server) } :: rest)
    else ((getServerDetails rest serverId).1, server :: (getServerDetails rest serverId).2)

/-! ## The registry as a state machine -/

/-- A request to the registry.  `/health` answers with the wall-clock time and reads no
entry; it is not modelled. -/
inductive Request where
  | listServers (limit : Option Int) (cursor : Option String)
  | serverDetails (serverId : String)

/-- The registry's answer to a request. -/
inductive Answer where
  | servers (response : ServersResponse)
  | server (entry : ServerEntry)
  | validationError
  | notFound
  | internalError
deriving DecidableEq

/-- One request: the answer and the entry list afterwards. -/
def handle (servers : List ServerEntry) : Request → Answer × List ServerEntry
  | .listServers limit cursor =>
    match validateLimit limit with
    | none => (.validationError, servers)
    | some limit =>
      match listServers servers limit cursor with
      | some response => (.servers response, servers)
      | none => (.internalError, servers)
  | .serverDetails serverId =>
    match getServerDetails servers serverId with
    | (some entry, servers') => (.server entry, servers')
    | (none, servers') => (.notFound, servers')

/-- The entry list after a history of requests, from `FAKE_SERVERS`. -/
def afterHistory (history : List Request) : List ServerEntry :=
  history.foldl (fun servers r => (handle servers r).2) fakeServers

/-- The details endpoint changes no id and no order. -/
theorem getServerDetails_ids (servers : List ServerEntry) (serverId : String) :
    (getServerDetails servers serverId).2.map (·.id) = servers.map (·.id) := by
  induction servers with
  | nil => rfl
  | cons server rest ih =>
    unfold getServerDetails
    split <;> simp [ih]

theorem handle_serverDetails (servers : List ServerEntry) (serverId : String) :
    handle servers (.serverDetails serverId) =
      (((getServerDetails servers serverId).1.map Answer.server).getD .notFound,
        (getServerDetails servers serverId).2) := by
  simp only [handle]
  split <;> simp_all

/-- After `GET /v0/servers/{id}` for the first entry, `GET /v0/servers` lists that entry
with its packages: the list response depends on the history. -/
theorem list_servers_after_details_differs :
    (handle (afterHistory []) (.listServers none none)).1 ≠
      (handle (afterHistory [.serverDetails "01129bff-3d65-4e3d-8e82-6f2f269f818c"])
        (.listServers none none)).1 := by
  decide

end Registry
end McpProxyFixtures
