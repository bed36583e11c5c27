import StProxy.Llm.Router

/-!
# `PrismBackend`
-/

namespace StProxy.Prism

open Async Llm

structure PrismRestorePoint where
  model : String
  deriving DecidableEq, Repr

/-- A restore point of any adapter. -/
inductive RestorePoint
  | prism (restore : PrismRestorePoint)
  | other (backendKind : String)
  deriving DecidableEq, Repr

inductive Value
  | loaded | loading | unloaded | sleeping
  deriving DecidableEq, Repr

/-- The status of a preset: `value`, and whether `failed` is true. -/
structure Status where
  value : Value
  failed : Bool
  deriving DecidableEq, Repr

/-- `dict[str, dict[str, Any]]`, in the order of insertion. -/
abbrev States : Type := List (String × Status)

/-- The methods that the coordinator calls. -/
inductive Op
  | validateControl
  | observeReady
  | snapshotReady
  | releaseGpu (target : Option RestorePoint)
  | acquireGpu (target : Option RestorePoint)
  deriving DecidableEq, Repr

/-- `self.info.label`. -/
def label : String := "Prism"

def failed (action detail : String) : Raised := failure label action detail

/-- `_require_certain`. -/
def requireCertain : Method Op Unit :=
  Llm.requireCertain label
    "previous load/unload did not complete; resolve backend state before restart"

/-- `_target`; `model` is `self._model`. -/
def targetOf (model : String) : Option RestorePoint → Except Raised PrismRestorePoint
  | none => .ok ⟨model⟩
  | some (.prism restore) =>
      if restore.model = "" then .error (failed "restore target" "backend/model mismatch")
      else .ok restore
  | some (.other _) => .error (failed "restore target" "backend/model mismatch")

/-! ## `_states` -/

/-- The value of a status; a list or an object is not hashable. -/
def valueOf : Json → Except Raised Value
  | .str "loaded" => .ok .loaded
  | .str "loading" => .ok .loading
  | .str "unloaded" => .ok .unloaded
  | .str "sleeping" => .ok .sleeping
  | .arr _ => .error (.exn (.error "TypeError" "unhashable type: 'list'"))
  | .obj _ => .error (.exn (.error "TypeError" "unhashable type: 'dict'"))
  | _ => .error (failed "model observation" "invalid router state")

def isTrue : Json → Bool
  | .bool true => true
  | _ => false

def statusOf : Json → Except Raised Status
  | .obj fields => (valueOf (Json.get fields "value")).map fun value ↦
      ⟨value, isTrue (Json.get fields "failed")⟩
  | _ => .error (failed "model observation" "invalid router state")

/-- One pass of the loop of `_states`. -/
def addCard (states : States) : Json → Except Raised States
  | .obj card =>
      match Json.get card "id" with
      | .str model =>
          if model = "" ∨ (states.lookup model).isSome then
            .error (failed "model observation" "invalid preset ID")
          else (statusOf (Json.get card "status")).map fun status ↦ states ++ [(model, status)]
      | _ => .error (failed "model observation" "invalid preset ID")
  | _ => .error (failed "model observation" "invalid router preset")

def addCards : States → List Json → Except Raised States
  | states, [] => .ok states
  | states, card :: cards => (addCard states card).bind fun states ↦ addCards states cards

/-- The worker of the preset is not unloaded. -/
def isActive (state : String × Status) : Bool := state.2.value != .unloaded

/-- The checks of `_states` after its loop. -/
def checkStates (model : String) (states : States) : Except Raised States :=
  if (states.lookup model).isNone then
    .error (failed "model observation" "default preset missing")
  else if 1 < (states.filter isActive).length then
    .error (failed "model observation" "multiple active workers")
  else .ok states

def modelsOf : Json → Except Raised (List Json)
  | .obj payload =>
      match Json.get payload "data" with
      | .arr (card :: cards) => .ok (card :: cards)
      | _ => .error (failed "model observation" "expected router presets")
  | _ => .error (failed "model observation" "expected router presets")

/-- The states in a payload of `/models`. -/
def parseStates (model : String) (payload : Json) : Except Raised States :=
  (modelsOf payload).bind fun cards ↦ (addCards [] cards).bind (checkStates model)

/-- `_states`. -/
def states (model : String) : Method Op States := do
  let payload ← getJson label "/models"
  result (parseStates model payload)

/-- `_active`. -/
def active (states : States) : Option String := (states.find? isActive).map Prod.fst

/-! ## Lifecycle methods -/

def validateControl (model : String) : Method Op Unit := do
  requireCertain
  let _ ← states model
  pure ()

/-- What `observe_ready` returns for the states it read. -/
def readyOf (states : States) : Except Raised (Option PrismRestorePoint) :=
  match active states with
  | none => .ok none
  | some model =>
      if (states.lookup model).any (·.value == .loaded) then .ok (some ⟨model⟩)
      else .error (failed "model observation" "model not in a stable state")

def observeReady (model : String) : Method Op (Option PrismRestorePoint) := do
  requireCertain
  let states ← states model
  result (readyOf states)

/-- One pass of the loop of `_wait`: whether the state is reached. -/
def reached (model : String) (expected : Value) (states : States) : Except Raised Bool :=
  match states.lookup model with
  | none => .error (failed "confirmation" "preset disappeared")
  | some state =>
      if state.value = expected then
        if expected = .unloaded ∧ active states ≠ none then
          .error (failed "unload" "another worker is active")
        else .ok true
      else if expected = .loaded ∧ state.failed = true then
        .error (failed "model load" "worker failed")
      else .ok false

/-- The loop of `_wait`. -/
def await (default model : String) (expected : Value) : ℕ → Method Op Unit
  | 0 => raise (.cancelled (some .confirmation))
  | n + 1 => do
      let states ← states default
      match ← (result (reached model expected states) : Method Op Bool) with
      | true => pure ()
      | false => do
          result (← Async.await Call.sleep)
          await default model expected n

def expectedName : Value → String
  | .loaded => "loaded"
  | .loading => "loading"
  | .unloaded => "unloaded"
  | .sleeping => "sleeping"

/-- `_wait`. -/
def wait (default model : String) (expected : Value) : Method Op Unit :=
  timedOut label ("confirmation of " ++ expectedName expected) (within .confirmation do
    let n ← Async.await (Call.polls .confirmation)
    await default model expected n)

def snapshotReady (default : String) : Method Op PrismRestorePoint := do
  requireCertain
  let states ← states default
  let model := (active states).getD default
  wait default model .loaded
  pure ⟨model⟩

/-- The operation was accepted. -/
def accepted (action : String) : Json → Except Raised Unit
  | .obj payload =>
      if isTrue (Json.get payload "success") then .ok ()
      else .error (failed action "operation not accepted")
  | _ => .error (failed action "operation not accepted")

/-- The `try` block of `_change`. -/
def attempt (default model action : String) (expected : Value) (deadline : Deadline) :
    Method Op Unit :=
  timedOut label action (within deadline do
    let payload ← postJson label ("/models/" ++ action) model
    result (accepted action payload)
    wait default model expected)

/-- `_change`. -/
def change (default model action : String) (expected : Value) (deadline : Deadline) :
    Method Op Unit := do
  requireCertain
  modify fun _ ↦ ⟨true⟩
  attempt default model action expected deadline
  modify fun _ ↦ ⟨false⟩

/-- `_change(.., "unload", "unloaded", ..)`. -/
def unload (default model : String) : Method Op Unit :=
  change default model "unload" .unloaded .release

/-- `_change(.., "load", "loaded", ..)`. -/
def load (default model : String) : Method Op Unit :=
  change default model "load" .loaded .acquire

/-- `release_gpu` after the states were read. -/
def releaseObserved (default : String) (restore : PrismRestorePoint) (states : States) :
    Method Op Unit :=
  if (states.lookup restore.model).isNone then raise (failed "restore target" "preset missing")
  else match active states with
    | none => pure ()
    | some model =>
        if model ≠ restore.model then
          raise (failed "unload" "active model differs from restore point")
        else unload default model

def releaseGpu (default : String) (target : Option RestorePoint) : Method Op Unit := do
  let restore ← result (targetOf default target)
  requireCertain
  let states ← states default
  releaseObserved default restore states

/-- Another model is unloaded first. -/
def replaceActive (default model : String) (restore : PrismRestorePoint) :
    Method Op PrismRestorePoint := do
  unload default model
  load default restore.model
  pure restore

/-- `acquire_gpu` after the states were read. -/
def acquireObserved (default : String) (restore : PrismRestorePoint) (states : States) :
    Method Op PrismRestorePoint :=
  if (states.lookup restore.model).isNone then raise (failed "restore target" "preset missing")
  else match active states with
    | none => do
        load default restore.model
        pure restore
    | some model =>
        if (states.lookup model).all (·.value != .loaded) then
          raise (failed "model observation" "model not in a stable state")
        else if model = restore.model then pure restore
        else replaceActive default model restore

def acquireGpu (default : String) (target : Option RestorePoint) :
    Method Op PrismRestorePoint := do
  let restore ← result (targetOf default target)
  requireCertain
  let states ← states default
  acquireObserved default restore states

/-! ## The object -/

def Op.Ret : Op → Type
  | .validateControl | .releaseGpu _ => Unit
  | .observeReady => Option PrismRestorePoint
  | .snapshotReady | .acquireGpu _ => PrismRestorePoint

def body (default : String) : (op : Op) → Method Op op.Ret
  | .validateControl => validateControl default
  | .observeReady => observeReady default
  | .snapshotReady => snapshotReady default
  | .releaseGpu target => releaseGpu default target
  | .acquireGpu target => acquireGpu default target

/-- The adapter with the default preset `default`. -/
def object (default : String) : AsyncObject Lifecycle (Call Op) Answer Raised Op where
  Ret := Op.Ret
  run op := do
    Async.await (Call.enter op)
    body default op

end StProxy.Prism
