import StProxy.Llm.Router

/-!
# `StrataBackend`

One installation of kind `kind`, which is one of `STRATA_KINDS`.
-/

namespace StProxy.Strata

open Async Llm

structure StrataRestorePoint where
  model : String
  backendKind : BackendKind
  deriving DecidableEq, Repr

/-- A restore point of any adapter. -/
inductive RestorePoint
  | strata (restore : StrataRestorePoint)
  | other (backendKind : String)
  deriving DecidableEq, Repr

/-- The fields of a health report that are read. -/
structure Health where
  loaded : Bool
  model : String
  deriving DecidableEq, Repr

/-- The methods that the coordinator calls. -/
inductive Op
  | validateControl
  | observeReady
  | snapshotReady
  | releaseGpu (target : Option RestorePoint)
  | acquireGpu (target : Option RestorePoint)
  deriving DecidableEq, Repr

variable (kind : BackendKind)

def failed (action detail : String) : Raised := failure kind.label action detail

/-- `_require_certain`. -/
def requireCertain : Method Op Unit :=
  Llm.requireCertain kind.label "previous load/unload did not complete; resolve backend state"

/-- The checks of `_health`. -/
def parseHealth : Json → Except Raised Health
  | .obj payload =>
      match (Json.get payload "service").eq (.str "strata"),
        (Json.get payload "status").eq (.str "ok"), Json.get payload "loaded",
        Json.get payload "model" with
      | true, true, .bool loaded, .str model =>
          if model = "" then .error (failed kind "model observation" "invalid Strata health")
          else .ok ⟨loaded, model⟩
      | _, _, _, _ => .error (failed kind "model observation" "invalid Strata health")
  | _ => .error (failed kind "model observation" "invalid Strata health")

/-- `_health`. -/
def health : Method Op Health := do
  let payload ← getJson kind.label "/health"
  result (parseHealth kind payload)

/-- The ID of a model card. -/
def cardId : Json → Option String
  | .obj card =>
      match Json.get card "id" with
      | .str id => if id = "" then none else some id
      | _ => none
  | _ => none

/-- The model IDs of `available_models`. -/
def parseCards : Json → Except Raised (List String)
  | .obj payload =>
      match Json.get payload "data" with
      | .arr (card :: cards) =>
          match (card :: cards).mapM cardId with
          | some ids => .ok ids
          | none => .error (failed kind "model catalog" "expected native model IDs")
      | _ => .error (failed kind "model catalog" "expected native model IDs")
  | _ => .error (failed kind "model catalog" "expected native model IDs")

/-- `available_models`. -/
def availableModels : Method Op (List String) := do
  let payload ← getJson kind.label "/v1/models"
  result (parseCards kind payload)

/-- The check of `request_target` on the model. -/
def checkModel (model : String) (health : Health) (ids : List String) :
    Except Raised StrataRestorePoint :=
  if model ∈ ids then .ok ⟨health.model, kind⟩ else .error (.client "ValueError")

/-- `request_target` of a string or `None`. -/
def requestTarget (model : Option String) : Method Op StrataRestorePoint := do
  let health ← health kind
  let ids ← availableModels kind
  result (checkModel kind (model.getD health.model) health ids)

def validateControl : Method Op Unit := do
  requireCertain kind
  let _ ← health kind
  let _ ← availableModels kind
  pure ()

def observeReady : Method Op (Option StrataRestorePoint) := do
  requireCertain kind
  let health ← health kind
  pure (if health.loaded then some ⟨health.model, kind⟩ else none)

def snapshotReady : Method Op StrataRestorePoint := do
  match ← observeReady kind with
  | some observed => pure observed
  | none => raise (failed kind "readiness" "no active model")

/-- `target.model != (await self._health())["model"]`. -/
def checkTarget (restore : StrataRestorePoint) (health : Health) :
    Except Raised StrataRestorePoint :=
  if restore.model = health.model then .ok restore
  else .error (failed kind "restore target" "model mismatch")

/-- `_target`. -/
def targetOf : Option RestorePoint → Method Op StrataRestorePoint
  | none => requestTarget kind none
  | some (.strata restore) =>
      if restore.backendKind = kind then do
        let health ← health kind
        result (checkTarget kind restore health)
      else raise (failed kind "restore target" "backend mismatch")
  | some (.other _) => raise (failed kind "restore target" "backend mismatch")

/-! ## `_change` -/

def action (loaded : Bool) : String := if loaded then "load" else "unload"

/-- `payload.get("status") in accepted`; a list or an object is not hashable. -/
def accepted (loaded : Bool) : Json → Except Raised Unit
  | .obj payload =>
      match loaded, Json.get payload "status" with
      | true, .str "loaded" | false, .str "unloaded" | false, .str "not loaded" => .ok ()
      | _, .arr _ => .error (.exn (.error "TypeError" "unhashable type: 'list'"))
      | _, .obj _ => .error (.exn (.error "TypeError" "unhashable type: 'dict'"))
      | _, _ => .error (failed kind (action loaded) "operation not confirmed")
  | _ => .error (failed kind (action loaded) "operation not confirmed")

def checkHealth (target : StrataRestorePoint) (loaded : Bool) (health : Health) :
    Except Raised Unit :=
  if health.loaded = loaded ∧ health.model = target.model then .ok ()
  else .error (failed kind (action loaded) "state not confirmed")

def path (loaded : Bool) : String := "/v1/" ++ action loaded

def deadline (loaded : Bool) : Deadline := if loaded then .acquire else .release

/-- The `try` block of `_change`. -/
def attempt (target : StrataRestorePoint) (loaded : Bool) : Method Op Unit :=
  timedOut kind.label (action loaded) (within (deadline loaded) do
    let payload ← postJson kind.label (path loaded) target.model
    result (accepted kind loaded payload)
    let health ← health kind
    result (checkHealth kind target loaded health))

/-- `_change`. -/
def change (target : StrataRestorePoint) (loaded : Bool) : Method Op Unit := do
  requireCertain kind
  modify fun _ ↦ ⟨true⟩
  attempt kind target loaded
  modify fun _ ↦ ⟨false⟩

def releaseGpu (target : Option RestorePoint) : Method Op Unit := do
  requireCertain kind
  let restore ← targetOf kind target
  change kind restore false

/-- The rest of `acquire_gpu`: the model that is observed is not compared. -/
def acquireObserved (restore : StrataRestorePoint) :
    Option StrataRestorePoint → Method Op StrataRestorePoint
  | some _ => pure restore
  | none => do
      change kind restore true
      pure restore

def acquireGpu (target : Option RestorePoint) : Method Op StrataRestorePoint := do
  requireCertain kind
  let restore ← targetOf kind target
  let observed ← observeReady kind
  acquireObserved kind restore observed

/-! ## The object -/

def Op.Ret : Op → Type
  | .validateControl | .releaseGpu _ => Unit
  | .observeReady => Option StrataRestorePoint
  | .snapshotReady | .acquireGpu _ => StrataRestorePoint

def body : (op : Op) → Method Op op.Ret
  | .validateControl => validateControl kind
  | .observeReady => observeReady kind
  | .snapshotReady => snapshotReady kind
  | .releaseGpu target => releaseGpu kind target
  | .acquireGpu target => acquireGpu kind target

def object : AsyncObject Lifecycle (Call Op) Answer Raised Op where
  Ret := Op.Ret
  run op := do
    Async.await (Call.enter op)
    body kind op

end StProxy.Strata
