import Mathlib.Data.List.DropRight

/-!
# The routes of the ComfyUI gateway

`comfy_routes.py`, and the path that `http.upstream_url` sends.  A path is a
string without percent-escapes, so that `request.path` is `request.rel_url.raw_path`;
HTTP methods are ASCII.
-/

namespace StProxy.Comfy

inductive ComfyRouteKind
  | passthrough | workflow | control | lifecycle | blockedGpu | unknownMutation
  deriving DecidableEq, Repr

def mutatingMethods : List String := ["POST", "PUT", "PATCH", "DELETE"]

def workflowRoutes : List (String × String) :=
  [("POST", "/prompt"), ("POST", "/api/prompt")]

def controlRoutes : List (String × String) :=
  [("POST", "/interrupt"),
    ("POST", "/api/interrupt"),
    ("POST", "/queue"),
    ("POST", "/api/queue"),
    ("POST", "/api/helto_save_image_advanced/release"),
    ("POST", "/api/helto_save_video_advanced/release"),
    ("POST", "/helto_prompt_enhancer/providers/unload"),
    ("POST", "/helto_director/prompt_optimizer/models/unload")]

def lifecycleRoutes : List (String × String) := [("POST", "/free"), ("POST", "/api/free")]

def blockedGpuRoutes : List (String × String) :=
  [("POST", "/helto_director/prompt_optimizer/optimize"),
    ("POST", "/helto_director/prompt_optimizer/optimize/start")]

/-- `EXACT_UPSTREAM_ROUTE_ALIASES`. -/
def exactAliases : List (String × String) :=
  [("/api/free", "/free"),
    ("/api/interrupt", "/interrupt"),
    ("/api/prompt", "/prompt"),
    ("/api/queue", "/queue"),
    ("/api/users", "/users")]

/-- `PREFIX_UPSTREAM_ROUTE_ALIASES`. -/
def prefixAliases : List (String × String) :=
  [("/api/settings", "/settings"), ("/api/userdata", "/userdata")]

def safeCoreMutationPaths : List String :=
  ["/api/assets",
    "/api/settings",
    "/api/userdata",
    "/api/users",
    "/history",
    "/settings",
    "/upload/image",
    "/upload/mask",
    "/userdata",
    "/users"]

def safeCoreMutationPrefixes : List String :=
  ["/api/assets/",
    "/api/settings/",
    "/api/userdata/",
    "/settings/",
    "/userdata/",
    "/users/"]

def safeCustomPostPaths : List String :=
  ["/api/helto_director/h3_preview/decrypt",
    "/helto_director/h3_preview/decrypt",
    "/helto_director/privacy/decrypt",
    "/helto_director/privacy/encrypt",
    "/helto_director/privacy/keystore/change_password",
    "/helto_director/privacy/keystore/init",
    "/helto_director/privacy/lock",
    "/helto_director/privacy/unlock",
    "/helto_privacy/keystore/change_password",
    "/helto_privacy/keystore/init",
    "/helto_privacy/lock",
    "/helto_privacy/unlock",
    "/helto_spm/privacy/decrypt",
    "/helto_spm/privacy/encrypt",
    "/aio_image_generate/privacy/decrypt",
    "/aio_image_generate/privacy/encrypt",
    "/api/helto_queue_manager/state",
    "/helto_selector/clear_cache",
    "/helto_selector/decrypt",
    "/helto_selector/delete_images",
    "/helto_selector/delete_mask",
    "/helto_selector/encrypt",
    "/helto_selector/migrate_masks",
    "/helto_selector/paste_image",
    "/helto_selector/register_roots",
    "/helto_selector/save_mask",
    "/helto_selector/scan_folders",
    "/helto_prompt_enhancer/models",
    "/helto_prompt_enhancer/providers/download",
    "/helto_prompt_enhancer/providers/models",
    "/helto_prompt_enhancer/providers/settings",
    "/helto_prompt_enhancer/system_prompt",
    "/helto_prompt_enhancer/system_prompt/reset",
    "/helto_prompt_enhancer/system_prompts",
    "/helto_prompt_enhancer/system_prompts/default",
    "/helto_prompt_enhancer/system_prompts/delete",
    "/helto_prompt_enhancer/system_prompts/reset_default",
    "/api/helto_load_video/folders",
    "/api/helto_load_video/refresh",
    "/helto_director/global_settings",
    "/helto_director/library/assets",
    "/helto_director/library/characters",
    "/helto_director/library/items",
    "/helto_director/library/projects",
    "/helto_director/media/cache/clear",
    "/helto_director/media_browser/project_takes",
    "/helto_director/media_browser/project_takes/delete",
    "/helto_director/prompt_optimizer/settings",
    "/api/helto_director/api/loras/info",
    "/aio_image_generate/ideogram4_prompt_library/prompts",
    "/api/aio-image-gen/api/loras/info"]

def safeCustomMutationRoutes : List (String × String) :=
  [("DELETE", "/api/helto_load_video/folders"), ("PUT", "/helto_director/library/privacy")]

/-! ## Strings of characters -/

/-- `method.upper()`. -/
def upper (method : String) : String := String.ofList (method.toList.map Char.toUpper)

/-- `path.lstrip("/")`. -/
def lstrip (path : List Char) : List Char := path.dropWhile (· == '/')

/-- `path.rstrip("/")`. -/
def rstrip (path : List Char) : List Char := path.rdropWhile (· == '/')

/-- `path.split("/")`. -/
def segments (path : List Char) : List String := (path.splitOn '/').map String.ofList

/-- `path.startswith(start)`. -/
def startsWith (path start : String) : Bool := start.toList.isPrefixOf path.toList

/-! ## `comfy_upstream_path` -/

/-- The loop over the prefixes. -/
def rewritePrefix (path : String) : List (String × String) → String
  | [] => path
  | (publicPrefix, upstreamPrefix) :: rest =>
      if path = publicPrefix then upstreamPrefix
      else if startsWith path (publicPrefix ++ "/") then
        String.ofList (upstreamPrefix.toList ++ path.toList.drop publicPrefix.toList.length)
      else rewritePrefix path rest

def comfyUpstreamPath (path : String) : String :=
  match exactAliases.lookup path with
  | some target => target
  | none => rewritePrefix path prefixAliases

/-- The path of `upstream_url(origin, request, raw_path=path)`; `base` is the path
of the origin. -/
def upstreamUrlPath (base path : String) : List Char :=
  rstrip base.toList ++ '/' :: lstrip path.toList

/-! ## `classify_comfy_route` -/

/-- The last line of `_is_job_cancel`. -/
def isCancelOfJob (path : String) : Bool :=
  match segments (rstrip (lstrip path.toList)) with
  | [first, second, _, fourth] => first == "api" && second == "jobs" && fourth == "cancel"
  | _ => false

/-- `_is_job_cancel`. -/
def isJobCancel (path : String) : Bool :=
  path == "/api/jobs/cancel" || isCancelOfJob path

/-- `_is_safe_core_mutation`. -/
def isSafeCoreMutation (method path : String) : Bool :=
  mutatingMethods.contains method &&
    (safeCoreMutationPaths.contains path ||
      safeCoreMutationPrefixes.any fun start ↦ startsWith path start)

/-- `SAFE_CUSTOM_MUTATION_PATTERNS`, each by the segments of the path; `[^/]+` is a
segment that is not empty. -/
def matchesSafePattern (method path : String) : Bool :=
  match segments path.toList with
  | ["", "helto_director", "library", collection, id] =>
      ["PUT", "PATCH", "DELETE"].contains method &&
        ["projects", "characters", "assets"].contains collection && id != ""
  | ["", "helto_director", "library", collection, id, action] =>
      method == "POST" && ["projects", "characters", "assets"].contains collection &&
        id != "" && ["duplicate", "use", "preview"].contains action
  | ["", "helto_director", "media_browser", media, "folders"] =>
      ["POST", "DELETE"].contains method && ["image", "video", "audio"].contains media
  | ["", "aio_image_generate", "ideogram4_prompt_library", "prompts", id] =>
      ["PUT", "PATCH", "DELETE"].contains method && id != ""
  | ["", "aio_image_generate", "ideogram4_prompt_library", "prompts", id, action] =>
      method == "POST" && id != "" && ["duplicate", "use"].contains action
  | _ => false

/-- `_is_safe_custom_mutation`. -/
def isSafeCustomMutation (method path : String) : Bool :=
  method == "POST" && safeCustomPostPaths.contains path ||
    safeCustomMutationRoutes.contains (method, path) || matchesSafePattern method path

def classifyComfyRoute (method path : String) : ComfyRouteKind :=
  let method := upper method
  if ["GET", "HEAD", "OPTIONS"].contains method then .passthrough
  else if workflowRoutes.contains (method, path) then .workflow
  else if controlRoutes.contains (method, path) || method == "POST" && isJobCancel path then
    .control
  else if lifecycleRoutes.contains (method, path) then .lifecycle
  else if blockedGpuRoutes.contains (method, path) then .blockedGpu
  else if isSafeCoreMutation method path || isSafeCustomMutation method path then .passthrough
  else .unknownMutation

/-- The kinds that are not forwarded without a lease. -/
def ComfyRouteKind.guarded : ComfyRouteKind → Option ComfyRouteKind
  | .passthrough | .unknownMutation => none
  | kind => some kind

end StProxy.Comfy
