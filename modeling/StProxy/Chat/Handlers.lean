import StProxy.Comfy.Routes
import StProxy.Lib.Json
import StProxy.Multi.Backend

/-!
# The chat handlers of the serialized modes

Which request, if any, the handlers of `service.py` send upstream for a client's
request: `_router_handler`, `_managed_model_handler` and `_multi_handler`.  A path
is a string without percent-escapes.
-/

namespace StProxy.Chat

open Comfy Multi

/-- KoboldCpp in router mode, one of the managed backends, or all of them. -/
inductive Mode
  | router
  | prism
  | strata (engine : Engine)
  | all
  deriving DecidableEq, Repr

/-- What reading and decoding a body gives. -/
inductive Body
  | empty
  | invalid
  | object (fields : Json.Fields)

structure Request where
  method : String
  path : String
  query : List (String × String)
  body : Body

/-- What the handlers learn from the coordinator, the adapters, the connection and
the size limit. -/
structure World where
  active : Option MultiTarget
  resolve : Json → Option MultiTarget
  observed : Option String
  available : Bool
  admitted : Bool
  fits : Bool

/-- A request that is sent to the server of an engine. -/
structure Forward where
  engine : Engine
  method : String
  path : List Char
  deriving DecidableEq, Repr

/-- The keys and values of `TEXT_PATHS`. -/
def textPaths : List (String × String) :=
  [("/v1/chat/completions", "/v1/chat/completions"),
    ("/chat/completions", "/chat/completions"),
    ("/v1/completions", "/v1/completions"),
    ("/v1/completion", "/v1/completion"),
    ("/completions", "/completions"),
    ("/api/v1/generate", "/api/v1/generate"),
    ("/api/latest/generate", "/api/v1/generate"),
    ("/api/extra/generate/stream", "/api/extra/generate/stream"),
    ("/api/extra/tokencount", "/api/extra/tokencount"),
    ("/api/extra/tokenize", "/api/extra/tokencount")]

def abortPath : String := "/api/extra/abort"

/-- `STRATA_TEXT_PATHS`. -/
def strataTextPaths : List String :=
  ["/v1/chat/completions", "/v1/messages", "/v1/messages/count_tokens"]

/-- What `_multi_handler` adds for Prism. -/
def prismPaths : List String :=
  ["/completion", "/tokenize", "/detokenize", "/apply-template", "/v1/embeddings", "/embeddings",
    "/rerank", "/v1/rerank"]

/-- `request.path.rstrip("/")`. -/
def Request.stripped (req : Request) : String := String.ofList (rstrip req.path.toList)

/-- `key in request.query`. -/
def Request.hasKey (req : Request) (key : String) : Bool := (req.query.lookup key).isSome

/-- The request that `proxy_stream` sends; the client library upper-cases methods. -/
def forward (base : String) (engine : Engine) (req : Request) (path : String) : Option Forward :=
  some ⟨engine, upper req.method, upstreamUrlPath base path⟩

/-- `request.method == "POST" and path == ABORT_PATH`. -/
def Request.isAbort (req : Request) : Bool := req.method == "POST" && req.stripped == abortPath

def Request.isRead (req : Request) : Bool := ["GET", "HEAD"].contains req.method

def Request.isPassive (req : Request) : Bool := ["GET", "HEAD", "OPTIONS"].contains req.method

/-- The model that a body or a query names. -/
def Request.model (req : Request) : Json :=
  match req.body with
  | .object fields => Json.get fields "model"
  | _ =>
      match req.query.lookup "model" with
      | some name => .str name
      | none => .null

/-- The query names another model than the body. -/
def Request.conflicts (req : Request) : Bool :=
  match req.body, req.query.lookup "model" with
  | .object fields, some name => !(Json.get fields "model").eq (.str name)
  | _, _ => false

/-! ## `_router_handler` -/

/-- `TEXT_PATHS[path]` of a POST to one of them. -/
def textPath (req : Request) : Option String :=
  if req.method = "POST" then textPaths.lookup req.stripped else none

/-- `_router_chat`. -/
def routerChat (base : String) (req : Request) (w : World) : Option Forward :=
  if w.admitted && w.fits then
    match textPath req with
    | some path =>
        match req.body with
        | .object _ => forward base .koboldcpp req path
        | _ => none
    | none => forward base .koboldcpp req req.stripped
  else none

def routerHandler (base : String) (req : Request) (w : World) : Option Forward :=
  if req.method = "GET" ∧ req.stripped = "/v1/models" then none
  else if req.method = "GET" ∧ req.stripped = "/api/v1/model" then
    if w.available then forward base .koboldcpp req req.path else none
  else if startsWith req.stripped "/api/admin/reload_config" || req.stripped == "/noscript" then
    none
  else if req.isPassive || req.isAbort then
    if w.available then forward base .koboldcpp req req.path else none
  else routerChat base req w

/-! ## `_managed_model_handler` -/

/-- What Strata serves. -/
def strataAdmits (req : Request) : Bool :=
  (req.method == "POST" && strataTextPaths.contains req.stripped) ||
    (req.isRead && ["/health", "/api/health", "/models", "/v1/models", "/v1/status", "/props",
      "/slots"].contains req.stripped)

/-- The lifecycle requests that the handler refuses. -/
def managedRefuses (req : Request) : Bool :=
  req.hasKey "autoload" || req.hasKey "reload" || startsWith req.stripped "/models/" ||
    (["/models", "/v1/models", "/props"].contains req.stripped && !req.isRead)

/-- The rest of the handler, and `_managed_model_chat`. -/
def managedChat (base : String) (engine : Engine) (req : Request) (w : World) : Option Forward :=
  match req.body with
  | .invalid => none
  | _ =>
      if req.conflicts || (w.resolve req.model).isNone || !w.fits || !w.admitted then none
      else forward base engine req req.path

/-- Metadata of the model that is active. -/
def managedMetadata (base : String) (engine : Engine) (req : Request) (w : World) :
    Option Forward :=
  match if w.available then w.observed else none with
  | none => none
  | some model =>
      if (req.query.lookup "model").any (· != model) then none
      else forward base engine req req.path

def managedHandler (strata : Bool) (base : String) (engine : Engine) (req : Request)
    (w : World) : Option Forward :=
  if strata && !strataAdmits req then none
  else if managedRefuses req then none
  else if req.isRead && ["/health", "/api/health", "/models", "/v1/models",
      "/v1/status"].contains req.stripped then forward base engine req req.path
  else if req.isRead && ["/props", "/metrics", "/slots"].contains req.stripped then
    managedMetadata base engine req w
  else managedChat base engine req w

/-! ## `_multi_handler` -/

/-- The lifecycle requests that the handler refuses. -/
def multiRefuses (req : Request) : Bool :=
  req.hasKey "autoload" || req.hasKey "reload" || startsWith req.stripped "/api/admin/" ||
    startsWith req.stripped "/models/" || startsWith req.stripped "/v1/model/" ||
    req.stripped == "/noscript"

/-- The target of a request. -/
def multiTarget (req : Request) (w : World) : Option MultiTarget :=
  match req.model with
  | .null => if req.isAbort || req.isPassive then w.active else w.resolve .null
  | model => w.resolve model

def isStrata (engine : Engine) : Bool := [.sc117, .orca, .sc117_128k, .orca_128k].contains engine

/-- `active_paths`. -/
def activePaths (engine : Engine) : List String :=
  if isStrata engine then strataTextPaths
  else textPaths.map Prod.fst ++ if engine = .prism then prismPaths else []

/-- The path that `_multi_chat` sends. -/
def multiPath (engine : Engine) (path : String) : String :=
  if engine = .koboldcpp then (textPaths.lookup path).getD path else path

/-- Requests that need no chat lease. -/
def multiControl (base : String) (engine : Engine) (target : MultiTarget) (req : Request)
    (w : World) : Option Forward :=
  if req.isAbort && engine != .koboldcpp then none
  else if !w.available || w.active != some target then none
  else forward base engine req req.path

/-- The rest of the handler, and `_multi_chat`. -/
def multiChat (base : String) (engine : Engine) (req : Request) (w : World) : Option Forward :=
  if req.method ≠ "POST" ∨ req.stripped ∉ activePaths engine then none
  else match req.body with
    | .object _ =>
        if w.fits && w.admitted then forward base engine req (multiPath engine req.stripped)
        else none
    | _ => none

/-- The handler with a target; `base` is the path of the engine's origin. -/
def multiForward (base : Engine → String) (req : Request) (w : World) : Option Forward :=
  match multiTarget req w with
  | none => none
  | some target =>
      match target.engine with
      | none => none
      | some engine =>
          if req.isPassive || req.isAbort then multiControl (base engine) engine target req w
          else multiChat (base engine) engine req w

def multiHandler (base : Engine → String) (req : Request) (w : World) : Option Forward :=
  if multiRefuses req then none
  else if req.isRead && ["/v1/models", "/models", "/health"].contains req.stripped then none
  else match req.body with
    | .invalid => none
    | _ => if req.conflicts then none else multiForward base req w

/-! ## `_chat_handler` -/

/-- The handler of a mode; the broker's own status is not forwarded. -/
def chatHandler (mode : Mode) (base : Engine → String) (req : Request) (w : World) :
    Option Forward :=
  if req.path = "/broker/status" then none
  else match mode with
    | .router => routerHandler (base .koboldcpp) req w
    | .prism => managedHandler false (base .prism) .prism req w
    | .strata engine => managedHandler true (base engine) engine req w
    | .all => multiHandler base req w

end StProxy.Chat
