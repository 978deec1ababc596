import Mathlib.Data.List.AList
import McpProxyFixtures.Python.Json
import McpProxyFixtures.Python.UrlParse

/-!
# The OAuth authorization-server mock: state and handlers

`test/integration/oauth_runlayer_mock.py` is a FastAPI app with two module-level
dictionaries, `registered_clients` and `issued_tokens`, and seven routes.  This module
models each route as a function from the server state and the request's data to the
response and the next state.  The random draws of `secrets.token_hex` are inputs of the
handler, so that every statement below holds whatever the draws are.

A Python dictionary is an {lit}`AList` here: a finite map with no repeated key, whose
`insert` replaces the entry of its key and whose `erase` is `pop`.  Insertion order is not
kept; no route reads it.

A route that returns a `dict` has it written by Starlette's `JSONResponse` after the
handler has finished, so a value that JSON cannot carry makes the server answer 500 with
whatever the handler stored kept: {lit}`Response.ok` writes or fails as Starlette does.

Main results:

- Theorems {lit}`authorize_of_ok`, {lit}`token_redeem` and their siblings: one equation per
  outcome of each handler, which later modules cite instead of unfolding the handlers.
- Theorem {lit}`registerClient_of_obj`: `/register` stores the record built from an object
  body before its answer is written.
-/

namespace McpProxyFixtures
namespace OAuth

open Python

/-! ## Values -/

/-- The process configuration, read once from `PORT` and `BASE_URL`. -/
structure Config where
  port : Nat
  baseUrl : String

/-- `BASE_URL` defaults to `http://localhost:{PORT}`. -/
def Config.ofEnv (port : Nat) (baseUrl : Option String) : Config where
  port := port
  baseUrl := baseUrl.getD ("http://localhost:" ++ toString port)

/-- A response body: JSON, plain text, or nothing (a redirect). -/
inductive Body where
  | json (value : Json)
  | text (s : String)
  | empty

/-- An HTTP response.  The `content-length` and `content-type` headers Starlette adds to
every response are left out; the headers a handler sets itself are kept. -/
structure Response where
  status : Nat
  headers : List (String × String)
  body : Body

/-- An exception that nothing catches: the server answers 500. -/
def internalServerError : Response :=
  ⟨500, [], .text "Internal Server Error"⟩

/-- A returned `dict`, written by `JSONResponse` with status 200; when it holds a value JSON
cannot carry, writing it raises and the server answers 500. -/
def Response.ok (value : Json) : Response :=
  if value.renderable then ⟨200, [], .json value⟩ else internalServerError

/-- `raise HTTPException(status_code=status, detail=detail)`. -/
def httpException (status : Nat) (detail : String) : Response :=
  ⟨status, [], .json (.obj [("detail", .str detail)])⟩

@[simp]
theorem Response.ok_of_renderable {value : Json} (h : value.renderable = true) :
    Response.ok value = ⟨200, [], .json value⟩ :=
  if_pos h

@[simp]
theorem Response.ok_of_not_renderable {value : Json} (h : value.renderable = false) :
    Response.ok value = internalServerError :=
  if_neg (by simp [h])

@[simp]
theorem httpException_status (status : Nat) (detail : String) :
    (httpException status detail).status = status :=
  rfl

@[simp]
theorem internalServerError_status : internalServerError.status = 500 :=
  rfl

/-- The characters Starlette leaves unquoted in a `location` header. -/
def locationSafe : String :=
  ":/%#?=@[]!$&\x27()*+,;"

/-- Starlette's `RedirectResponse(url, status_code)`: the `location` header is `url`
quoted with `locationSafe` left as it is. -/
def redirectResponse (url : String) (status : Nat) : Response :=
  ⟨status, [("location", quote locationSafe url)], .empty⟩

/-- The `location` header of a response. -/
def Response.location (resp : Response) : Option String :=
  dictGet resp.headers "location"

@[simp]
theorem redirectResponse_status (url : String) (status : Nat) :
    (redirectResponse url status).status = status :=
  rfl

/-! ## Server state -/

/-- A record of `registered_clients`. -/
structure Client where
  clientId : String
  clientSecret : String
  clientName : Json
  redirectUris : Json

/-- A record of `issued_tokens`: the context of one authorization code. -/
structure Grant where
  clientId : String
  redirectUri : String
  resource : String
  codeChallenge : Option String

/-- The two module-level dictionaries. -/
structure Server where
  registeredClients : AList (fun _ : String => Client)
  issuedTokens : AList (fun _ : String => Grant)

/-- The state at import: both dictionaries empty. -/
def Server.empty : Server :=
  ⟨∅, ∅⟩

/-! ## Discovery documents -/

/-- `GET /.well-known/oauth-protected-resource` (RFC 9728). -/
def protectedResourceMetadata (cfg : Config) : Json :=
  .obj [("resource", .str (cfg.baseUrl ++ "/mcp")),
    ("authorization_servers", .arr [.str cfg.baseUrl]),
    ("scopes_supported", .arr [.str "read", .str "write"]),
    ("bearer_methods_supported", .arr [.str "header"])]

/-- `GET /.well-known/oauth-authorization-server` (RFC 8414). -/
def authorizationServerMetadata (cfg : Config) : Json :=
  .obj [("issuer", .str cfg.baseUrl),
    ("authorization_endpoint", .str (cfg.baseUrl ++ "/authorize")),
    ("token_endpoint", .str (cfg.baseUrl ++ "/token")),
    ("registration_endpoint", .str (cfg.baseUrl ++ "/register")),
    ("response_types_supported", .arr [.str "code"]),
    ("code_challenge_methods_supported", .arr [.str "S256"]),
    ("grant_types_supported", .arr [.str "authorization_code", .str "refresh_token"]),
    ("token_endpoint_auth_methods_supported", .arr [.str "none", .str "client_secret_post"])]

/-- `GET /`. -/
def root (cfg : Config) : Json :=
  .obj [("name", .str "Runlayer OAuth Mock Server"),
    ("description", .str "Mock server for testing issue #271 - RFC 8707 resource parameter"),
    ("base_url", .str cfg.baseUrl),
    ("endpoints", .obj [
      ("protected_resource_metadata", .str "/.well-known/oauth-protected-resource"),
      ("authorization_server_metadata", .str "/.well-known/oauth-authorization-server"),
      ("register", .str "/register"), ("authorize", .str "/authorize"),
      ("token", .str "/token"), ("mcp", .str "/mcp")])]

/-! ## `/register` -/

/-- The JSON form of a client record, as `/register` stores and returns it. -/
def Client.toJson (c : Client) : Json :=
  .obj [("client_id", .str c.clientId), ("client_secret", .str c.clientSecret),
    ("client_name", c.clientName), ("redirect_uris", c.redirectUris)]

/-- A record can be written exactly when its name and its redirect URIs can: its identifiers
are Lean strings. -/
theorem Client.toJson_renderable (c : Client) :
    c.toJson.renderable = (c.clientName.renderable && c.redirectUris.renderable) := by
  simp [Client.toJson, Json.renderable, Json.renderableFields]

/-- The record `/register` builds from an object body: `client_name` defaults to
`"unknown"` and `redirect_uris` to `[]`; the identifiers come from the two draws. -/
def newClient (fields : List (PyStr × Json)) (hex8 hex16 : String) : Client where
  clientId := "mock-client-" ++ hex8
  clientSecret := "mock-secret-" ++ hex16
  clientName := (dictGet fields "client_name").getD (.str "unknown")
  redirectUris := (dictGet fields "redirect_uris").getD (.arr [])

/-- `POST /register`.  `body` is what `await request.json()` returns (`none` when the body
is not JSON and the call raises).  Only a JSON object has `get`; on any other value the
first `body.get` raises `AttributeError`.  `hex8` and `hex16` are the draws of
`secrets.token_hex(8)` and `secrets.token_hex(16)`.  The record is stored before the
returned `dict` is written, so it stays stored when writing it fails. -/
def registerClient (s : Server) (body : Option Json) (hex8 hex16 : String) : Response × Server :=
  match body with
  | some (.obj fields) =>
    let client := newClient fields hex8 hex16
    (Response.ok client.toJson,
      { s with registeredClients := s.registeredClients.insert client.clientId client })
  | _ => (internalServerError, s)

/-! ## `/authorize` -/

/-- The query parameters of `/authorize` once FastAPI has validated them. -/
structure AuthorizeParams where
  clientId : String
  redirectUri : String
  state : String
  responseType : String
  codeChallenge : Option String
  codeChallengeMethod : Option String
  resource : String

/-- The parameters declared `Query(...)`, in declaration order. -/
def authorizeRequired : List String :=
  ["client_id", "redirect_uri", "state", "resource"]

/-- FastAPI's error entry for a required query parameter that is absent. -/
def missingQueryError (name : String) : Json :=
  .obj [("type", .str "missing"), ("loc", .arr [.str "query", .str name]),
    ("msg", .str "Field required"), ("input", .null)]

/-- FastAPI's validation of the `/authorize` query, before the handler runs: every absent
required parameter is reported, in declaration order; otherwise the parameters with their
defaults.  A repeated parameter keeps its last value. -/
def validateAuthorize (query : List (String × String)) : Except (List Json) AuthorizeParams :=
  match dictGet query "client_id", dictGet query "redirect_uri", dictGet query "state",
    dictGet query "resource" with
  | some clientId, some redirectUri, some state, some resource =>
    .ok { clientId, redirectUri, state, resource
          responseType := (dictGet query "response_type").getD "code"
          codeChallenge := dictGet query "code_challenge"
          codeChallengeMethod := dictGet query "code_challenge_method" }
  | _, _, _, _ =>
    .error ((authorizeRequired.filter fun name => (dictGet query name).isNone).map missingQueryError)

/-- The authorization code minted from one `secrets.token_hex(16)` draw. -/
def authCode (hex : String) : String :=
  "mock-auth-code-" ++ hex

theorem authCode_ne_empty (hex : String) : authCode hex ≠ "" := by
  simp [authCode, String.ext_iff]

/-- The grant `/authorize` stores for valid parameters. -/
def AuthorizeParams.grant (p : AuthorizeParams) : Grant where
  clientId := p.clientId
  redirectUri := p.redirectUri
  resource := p.resource
  codeChallenge := p.codeChallenge

/-- The URL `/authorize` redirects to: `redirect_uri`, `?`, and the urlencoded code and
state. -/
def redirectUrl (redirectUri code state : String) : String :=
  redirectUri ++ "?" ++ urlencode [("code", code), ("state", state)]

/-- The body of `authorize` for valid parameters: store the grant under a fresh code and
redirect back with it. -/
def authorizeValid (s : Server) (p : AuthorizeParams) (hex : String) : Response × Server :=
  (redirectResponse (redirectUrl p.redirectUri (authCode hex) p.state) 302,
    { s with issuedTokens := s.issuedTokens.insert (authCode hex) p.grant })

/-- `GET /authorize`: a 422 validation error, or the handler's body. -/
def authorize (s : Server) (query : List (String × String)) (hex : String) : Response × Server :=
  match validateAuthorize query with
  | .error errors => (⟨422, [], .json (.obj [("detail", .arr errors)])⟩, s)
  | .ok p => authorizeValid s p hex

/-! ## `/token` -/

/-- A fresh token set, from two `secrets.token_hex(16)` draws. -/
def tokenSet (hexAccess hexRefresh : String) : Json :=
  .obj [("access_token", .str ("mock-access-token-" ++ hexAccess)), ("token_type", .str "Bearer"),
    ("expires_in", .int 3600), ("refresh_token", .str ("mock-refresh-token-" ++ hexRefresh))]

@[simp]
theorem tokenSet_renderable (hexAccess hexRefresh : String) :
    (tokenSet hexAccess hexRefresh).renderable = true := by
  simp [tokenSet, Json.renderable, Json.renderableFields]

/-- `POST /token`.  `form` is the parsed form body, where a repeated field keeps its last
value; `hexAccess` and `hexRefresh` are the two `secrets.token_hex(16)` draws.  The check
`if not code or code not in issued_tokens` and the `pop` run in one step: nothing is
awaited between them. -/
def token (s : Server) (form : List (String × String)) (hexAccess hexRefresh : String) :
    Response × Server :=
  let grantType := dictGet form "grant_type"
  if grantType = some "authorization_code" then
    match dictGet form "code" with
    | some code =>
      if code ≠ "" ∧ code ∈ s.issuedTokens then
        (Response.ok (tokenSet hexAccess hexRefresh),
          { s with issuedTokens := s.issuedTokens.erase code })
      else (httpException 400 "Invalid authorization code", s)
    | none => (httpException 400 "Invalid authorization code", s)
  else if grantType = some "refresh_token" then
    (Response.ok (tokenSet hexAccess hexRefresh), s)
  else (httpException 400 ("Unsupported grant_type: " ++ grantType.getD "None"), s)

/-! ## `/mcp` -/

/-- The canned MCP `initialize` result returned to any bearer. -/
def mcpInitializeResult : Json :=
  .obj [("jsonrpc", .str "2.0"), ("id", .int 1),
    ("result", .obj [("protocolVersion", .str "2024-11-05"),
      ("capabilities", .obj [("tools", .obj [])]),
      ("serverInfo", .obj [("name", .str "runlayer-mock"), ("version", .str "1.0.0")])])]

/-- `GET`/`POST /mcp`: the `Authorization` header must start with `Bearer `. -/
def mcpEndpoint (cfg : Config) (authorization : Option String) : Response :=
  if "Bearer ".data.isPrefixOf (authorization.getD "").data then Response.ok mcpInitializeResult
  else
    ⟨401, [("WWW-Authenticate", "Bearer error=\"invalid_token\", resource_metadata=\"" ++
        cfg.baseUrl ++ "/.well-known/oauth-protected-resource\""),
      ("Content-Type", "application/json")],
      .text "\x7b\"error\": \"unauthorized\", \"message\": \"Authentication required\"\x7d"⟩

/-! ## Dispatch -/

/-- A request as the routes receive it, after the body or query has been read. -/
inductive Request where
  | protectedResourceMetadata
  | authorizationServerMetadata
  | register (body : Option Json)
  | authorize (query : List (String × String))
  | token (form : List (String × String))
  | mcp (authorization : Option String)
  | root

/-- The server's answer to one request and its state afterwards.  `hex i` is the `i`-th
value `secrets.token_hex` returns while the handler runs. -/
def handle (cfg : Config) (s : Server) (hex : Nat → String) : Request → Response × Server
  | .protectedResourceMetadata => (Response.ok (protectedResourceMetadata cfg), s)
  | .authorizationServerMetadata => (Response.ok (authorizationServerMetadata cfg), s)
  | .register body => registerClient s body (hex 0) (hex 1)
  | .authorize query => authorize s query (hex 0)
  | .token form => token s form (hex 0) (hex 1)
  | .mcp authorization => (mcpEndpoint cfg authorization, s)
  | .root => (Response.ok (root cfg), s)

/-! ## What each handler does -/

section Handlers

variable {s : Server} {q form : List (String × String)} {p : AuthorizeParams}

/-- Validation succeeds exactly when every required parameter is present, and the
parameters it returns are the query's values. -/
theorem validateAuthorize_ok (h : validateAuthorize q = .ok p) :
    dictGet q "client_id" = some p.clientId ∧ dictGet q "redirect_uri" = some p.redirectUri ∧
      dictGet q "state" = some p.state ∧ dictGet q "resource" = some p.resource ∧
      p.codeChallenge = dictGet q "code_challenge" := by
  unfold validateAuthorize at h
  split at h
  · cases h
    simp_all
  · cases h

/-- A query that lacks a required parameter fails validation. -/
theorem validateAuthorize_error_of_missing {name : String} (hname : name ∈ authorizeRequired)
    (hnone : dictGet q name = none) : ∃ errors, validateAuthorize q = .error errors := by
  cases h : validateAuthorize q with
  | error errors => exact ⟨errors, rfl⟩
  | ok p =>
    obtain ⟨h1, h2, h3, h4, -⟩ := validateAuthorize_ok h
    simp only [authorizeRequired, List.mem_cons, List.mem_singleton, List.not_mem_nil,
      or_false] at hname
    rcases hname with rfl | rfl | rfl | rfl <;> simp_all

theorem authorize_of_error {errors : List Json} (h : validateAuthorize q = .error errors)
    (hex : String) :
    authorize s q hex = (⟨422, [], .json (.obj [("detail", .arr errors)])⟩, s) := by
  simp [authorize, h]

theorem authorize_of_ok (h : validateAuthorize q = .ok p) (hex : String) :
    authorize s q hex = authorizeValid s p hex := by
  simp [authorize, h]

variable {hexAccess hexRefresh : String}

/-- A present, non-empty, issued code is redeemed: popped, and a token set returned. -/
theorem token_redeem {c : String} (hg : dictGet form "grant_type" = some "authorization_code")
    (hc : dictGet form "code" = some c) (hne : c ≠ "") (hmem : c ∈ s.issuedTokens) :
    token s form hexAccess hexRefresh =
      (Response.ok (tokenSet hexAccess hexRefresh), { s with issuedTokens := s.issuedTokens.erase c }) := by
  simp [token, hg, hc, hne, hmem]

/-- Any other authorization-code exchange is refused and changes nothing. -/
theorem token_invalid_code (hg : dictGet form "grant_type" = some "authorization_code")
    (hbad : ∀ c, dictGet form "code" = some c → c ≠ "" → c ∉ s.issuedTokens) :
    token s form hexAccess hexRefresh = (httpException 400 "Invalid authorization code", s) := by
  unfold token
  rw [if_pos hg]
  split
  · next c hc => rw [if_neg (fun h => hbad c hc h.1 h.2)]
  · rfl

theorem token_refresh (hg : dictGet form "grant_type" = some "refresh_token") :
    token s form hexAccess hexRefresh = (Response.ok (tokenSet hexAccess hexRefresh), s) := by
  simp [token, hg]

theorem token_unsupported (h1 : dictGet form "grant_type" ≠ some "authorization_code")
    (h2 : dictGet form "grant_type" ≠ some "refresh_token") :
    token s form hexAccess hexRefresh =
      (httpException 400 ("Unsupported grant_type: " ++ (dictGet form "grant_type").getD "None"), s) := by
  simp [token, h1, h2]

end Handlers

end OAuth
end McpProxyFixtures
