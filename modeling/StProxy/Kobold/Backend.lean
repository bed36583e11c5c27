import StProxy.Llm.Base

/-!
# `KoboldCppBackend`

The lifecycle methods as coroutines that suspend at the requests to KoboldCpp.  The
object has no attribute that changes.
-/

namespace StProxy.Kobold

open Async Llm

structure KoboldCppRestorePoint where
  model : String
  deriving DecidableEq, Repr

/-- A restore point of any adapter. -/
inductive RestorePoint
  | koboldcpp (restore : KoboldCppRestorePoint)
  | other (backendKind : String)
  deriving DecidableEq, Repr

/-- The attribute `router_mode`, and what is left open of Python: the functions on texts, and
`str` of a value that is no string. -/
structure Settings where
  routerMode : Bool
  text : Text
  str : Json → String

/-- The awaits.  The body of a reload is `none` when it is no JSON. -/
inductive Call
  | reload (filename : String)
  | model
  | version
  | sleep
  | polls (deadline : Deadline)

def Answer : Call → Type
  | .reload _ => Except Raised (ℕ × Option Json)
  | .model => Except Raised Response
  | .version => Except Raised ℕ
  | .sleep => Except Raised Unit
  | .polls _ => ℕ

abbrev Method (α : Type) : Type := Async Unit Call Answer Raised α

abbrev Log : Type := Exchanges Call Answer

/-- `self.info.label`. -/
def label : String := BackendKind.koboldcpp.label

def failed (action detail : String) : Raised := .exn (backendError label action (some detail))

/-- `_INACTIVE_MODEL_NAMES`. -/
def inactiveModelNames : List String := ["", "inactive", "unloaded", "none", "no model"]

/-- `_require_target`. -/
def requireTarget : RestorePoint → Except Raised KoboldCppRestorePoint
  | .koboldcpp restore => .ok restore
  | .other _ => .error (failed "restore target validation" "backend mismatch")

/-! ## Requests -/

/-- The checks of `_reload_config` on a response. -/
def checkReload (filename : String) : ℕ × Option Json → Except Raised Unit
  | (status, body) =>
      if 400 ≤ status then .error (failed filename s!"HTTP {status}")
      else match body with
        | none => .error (failed filename "invalid admin response")
        | some (.obj payload) =>
            match Json.get payload "success" with
            | .bool true => .ok ()
            | _ => .error (failed filename "admin request rejected")
        | some _ => .error (failed filename "admin request rejected")

/-- `_reload_config`. -/
def reloadConfig (filename : String) (deadline : Deadline) : Method Unit :=
  translating label filename (within deadline do
    let response ← result (← await (Call.reload filename))
    result (checkReload filename response))

/-- The body of the `try` statement of `_read_model_name`. -/
def modelPayload : Response → Except Raised Json
  | ⟨status, payload⟩ =>
      if 400 ≤ status then .error (failed "model-state observation" s!"HTTP {status}")
      else .ok payload

/-- `result` of `_read_model_name`. -/
def resultOf : Json → Json
  | .obj payload =>
      match Json.get payload "result" with
      | .arr [] => .null
      | .arr (value :: _) => value
      | value => value
  | _ => .null

/-- The end of `_read_model_name`. -/
def nameOf (cfg : Settings) (payload : Json) : Except Raised String :=
  match resultOf payload with
  | .null => .error (failed "model-state observation" "invalid API response")
  | .str name => .ok (cfg.text.strip name)
  | value => .ok (cfg.text.strip (cfg.str value))

/-- `_read_model_name`. -/
def readModelName (cfg : Settings) : Method String := do
  let payload ← translating label "model-state observation" (do
    let response ← result (← await Call.model)
    result (modelPayload response))
  result (nameOf cfg payload)

def isUpstreamError : Raised → Bool
  | .exn .insufficientVram => true
  | .exn (.error typeName _) => typeName == "UpstreamError"
  | _ => false

/-- `_model_name`. -/
def modelName (cfg : Settings) : Method (Option String) :=
  handle (fun e ↦ if isUpstreamError e then pure none else raise e) (do
    let name ← readModelName cfg
    pure (some name))

/-- `_version_ready`. -/
def versionReady : Method Bool :=
  handle (fun e ↦ match e with
    | .client _ | .timeout => pure false
    | e => raise e) (do
    let status ← result (← await Call.version)
    pure (status < 400))

/-! ## Lifecycle methods -/

/-- `bool(model) and model.lower() not in self._INACTIVE_MODEL_NAMES`. -/
def isActive (cfg : Settings) (model : String) : Bool :=
  model != "" && !inactiveModelNames.contains (cfg.text.lower model)

def isLoaded (cfg : Settings) (model : Option String) : Bool := model.any (isActive cfg)

/-- `expected_model_ready`. -/
def expectedReady (loaded : Bool) (expected model : Option String) : Bool :=
  !loaded || expected.isNone || model == expected

/-- The loop of `_wait_for_model`. -/
def pollModel (cfg : Settings) (loaded : Bool) (expected : Option String) :
    ℕ → Method (Option String)
  | 0 => raise (.cancelled (some .confirmation))
  | n + 1 => do
      let model ← modelName cfg
      let ready ← versionReady
      if ready && isLoaded cfg model == loaded && expectedReady loaded expected model then
        pure model
      else do
        result (← await Call.sleep)
        pollModel cfg loaded expected n

/-- `_wait_for_model`. -/
def waitForModel (cfg : Settings) (loaded : Bool) (expected : Option String) :
    Method (Option String) :=
  timedOut label ("confirmation of " ++ if loaded then "loaded" else "unloaded")
    (within .confirmation do
      let n ← await (Call.polls .confirmation)
      pollModel cfg loaded expected n)

def observeReady (cfg : Settings) : Method (Option KoboldCppRestorePoint) := do
  let model ← readModelName cfg
  match ← versionReady with
  | false => raise (failed "ready-state observation" "unavailable")
  | true => pure (if isActive cfg model then some ⟨model⟩ else none)

/-- A model that is known. -/
def known (action detail : String) : Option String → Except Raised String
  | none => .error (failed action detail)
  | some model => if model = "" then .error (failed action detail) else .ok model

def snapshotReady (cfg : Settings) : Method KoboldCppRestorePoint := do
  let model ← waitForModel cfg true none
  let model ← result (known "ready-state snapshot" "model is unknown" model)
  pure ⟨model⟩

def releaseGpu (cfg : Settings) (target : RestorePoint) : Method Unit := do
  let _ ← result (requireTarget target)
  reloadConfig "unload_model" .release
  let _ ← waitForModel cfg false none
  pure ()

/-- `acquire_gpu` without the router. -/
def loadInitial (cfg : Settings) (restore : Option KoboldCppRestorePoint) :
    Method KoboldCppRestorePoint := do
  reloadConfig "initial_model" .acquire
  let model ← waitForModel cfg true (restore.map (·.model))
  let model ← result (known "model load" "model is unknown" model)
  pure (restore.getD ⟨model⟩)

/-- `acquire_gpu` in router mode: a reservation. -/
def reserve : Method KoboldCppRestorePoint := do
  match ← versionReady with
  | false => raise (failed "router readiness" "unavailable")
  | true => pure ⟨""⟩

def acquireGpu (cfg : Settings) (target : Option RestorePoint) :
    Method KoboldCppRestorePoint := do
  let restore ← result (target.mapM requireTarget)
  if cfg.routerMode then reserve else loadInitial cfg restore

end StProxy.Kobold
