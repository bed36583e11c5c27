import Mathlib.Data.List.DropRight
import Mathlib.Data.List.Infix
import StProxy.Llm.Base

/-!
# `TabbyApiBackend`

The lifecycle methods as coroutines that suspend at the requests to TabbyAPI.
Logging is left out.  `json.loads` is a parameter.
-/

namespace StProxy.Tabby

open Async Llm

structure TabbyApiRestorePoint where
  model : String
  parameters : Json.Fields

/-- A restore point of any adapter. -/
inductive RestorePoint
  | tabbyapi (restore : TabbyApiRestorePoint)
  | other (backendKind : String)

/-- The constants of the object, and `json.loads`. -/
structure Settings where
  model : Option String
  maxSeqLen : ℕ
  loads : String → Option Json

/-- The attributes that change.  `released` is the restore point that was given to
`release_gpu` last, as its caller sees it now. -/
structure TabbyApiBackend where
  uncertain : Bool
  pendingLoad : Option TabbyApiRestorePoint
  loadFailed : Bool
  released : Option TabbyApiRestorePoint

/-- `__init__`. -/
def TabbyApiBackend.initial : TabbyApiBackend := ⟨false, none, false, none⟩

/-- The response to a load: the lines of its stream, undecodable ones being `none`,
and how the stream ends. -/
structure LoadResponse where
  status : ℕ
  contentType : String
  lines : List (Option String)
  broken : Option Raised

/-- The awaits.  A load carries what a later model card is compared with.  The
deadline of a poll loop admits a number of polls. -/
inductive Call
  | get (path : String)
  | unload
  | load (payload : Json.Fields) (expected : TabbyApiRestorePoint)
  | sleep
  | polls (deadline : Deadline)

def Answer : Call → Type
  | .get _ => Except Raised Response
  | .unload => Except Raised ℕ
  | .load _ _ => Except Raised LoadResponse
  | .sleep => Except Raised Unit
  | .polls _ => ℕ

abbrev Method (α : Type) : Type := Async TabbyApiBackend Call Answer Raised α

abbrev Exchange : Type := (c : Call) × Answer c

abbrev Log : Type := Exchanges Call Answer

/-- `self.info.label`. -/
def label : String := "TabbyAPI"

/-- Raise a `backend_error`. -/
def failure (action detail : String) : Raised := .exn (backendError label action (some detail))

def invalid : Raised := .client "ValueError"

/-! ## Observation -/

/-- `_json` after the response was read. -/
def readJson (path : String) (allowUnloaded : Bool) : Response → Except Raised Json
  | ⟨status, payload⟩ =>
      if allowUnloaded && status == 503 && (match payload with
          | .obj fields => (Json.get fields "detail").eq (.str "No models are currently loaded.")
          | _ => false) then .ok .null
      else if status ≠ 200 then .error (failure path s!"HTTP {status}")
      else .ok payload

/-- `_json`. -/
def json (path : String) (allowUnloaded : Bool) : Method Json :=
  within .request do
    let response ← result (← await (Call.get path))
    result (readJson path allowUnloaded response)

/-- The parameters that a model card reports and a load accepts. -/
def savedKeys : List String := ["max_seq_len", "cache_size", "cache_mode", "chunk_size"]

/-- `saved` of `_observe`. -/
def saved (params : Json.Fields) : Json.Fields :=
  let pick (key name : String) : Json.Fields :=
    match Json.get params key with
    | .null => []
    | value => [(name, value)]
  savedKeys.flatMap (fun key ↦ pick key key) ++ pick "use_vision" "vision"

/-- The checks of `_observe` on a payload. -/
def card : Json → Except Raised TabbyApiRestorePoint
  | .obj fields =>
      match Json.get fields "id", Json.get fields "parameters" with
      | .str id, .obj params =>
          match Json.get params "max_seq_len" with
          | .int context =>
              if id = "" ∨ context ≤ 0 then .error invalid else .ok ⟨id, saved params⟩
          | _ => .error invalid
      | _, _ => .error invalid
  | _ => .error invalid

/-- `_observe` on what `_json` returned. -/
def observed : Json → Except Raised (Option TabbyApiRestorePoint)
  | .null => .ok none
  | payload => (card payload).map some

/-- `_observe`. -/
def observe : Method (Option TabbyApiRestorePoint) := do
  let payload ← json "/v1/model" true
  result (observed payload)

/-- The card has the model and every parameter of `expected`. -/
def TabbyApiRestorePoint.matches (current expected : TabbyApiRestorePoint) : Bool :=
  current.model == expected.model &&
    expected.parameters.all fun (key, value) ↦ (Json.get current.parameters key).eq value

/-- `confirmed` in `_observe_confirmed`. -/
def confirmed (retryFailedLoad : Bool) (s : TabbyApiBackend) :
    Option TabbyApiRestorePoint → Bool
  | none => s.pendingLoad.isNone || (retryFailedLoad && s.loadFailed)
  | some current => s.pendingLoad.any current.matches

/-- `_observe_confirmed` after the observation. -/
def confirm (retryFailedLoad : Bool) (current : Option TabbyApiRestorePoint) :
    Method (Option TabbyApiRestorePoint) := do
  let s ← self
  if s.uncertain = false then pure current
  else if confirmed retryFailedLoad s current then do
    modify fun s ↦ { s with uncertain := false, pendingLoad := none, loadFailed := false }
    pure current
  else raise (failure "lifecycle confirmation"
    "load/unload is still unconfirmed; status will be checked on the next request")

/-- `_observe_confirmed`. -/
def observeConfirmed (retryFailedLoad : Bool) : Method (Option TabbyApiRestorePoint) := do
  let current ← observe
  confirm retryFailedLoad current

def validateControl : Method Unit :=
  translating label "API check" do
    let health ← json "/health" false
    let models ← json "/v1/models" false
    result (match health, models with
      | .obj fields, .obj others =>
          match (Json.get fields "status").eq (.str "healthy"), Json.get others "data" with
          | true, .arr _ => .ok ()
          | _, _ => .error invalid
      | _, _ => .error invalid)

def observeReady : Method (Option TabbyApiRestorePoint) :=
  translating label "model observation" (observeConfirmed false)

/-- The loop of `snapshot_ready`. -/
def awaitReady : ℕ → Method TabbyApiRestorePoint
  | 0 => raise (.cancelled (some .acquire))
  | n + 1 => do
      match ← observeConfirmed false with
      | some current => pure current
      | none => do
          result (← await Call.sleep)
          awaitReady n

def snapshotReady : Method TabbyApiRestorePoint :=
  translating label "readiness" (within .acquire do
    let n ← await (Call.polls .acquire)
    awaitReady n)

/-! ## `release_gpu` -/

/-- `_target`. -/
def targetOf : RestorePoint → Except Raised TabbyApiRestorePoint
  | .tabbyapi restore => .ok restore
  | .other _ => .error (failure "restore target validation" "backend mismatch")

/-- The unload is sent. -/
def startUnload (current : TabbyApiRestorePoint) (s : TabbyApiBackend) : TabbyApiBackend :=
  { s with released := some current, uncertain := true, pendingLoad := none }

def checkStatus (status : ℕ) : Except Raised Unit :=
  if status = 200 then .ok () else .error (failure "unload" s!"HTTP {status}")

/-- The observation after an unload. -/
def confirmUnloaded : Method Unit := do
  match ← observe with
  | some _ => raise (failure "unload" "model is still loaded")
  | none => modify fun s ↦ { s with uncertain := false }

def unload (current : TabbyApiRestorePoint) : Method Unit := do
  modify (startUnload current)
  let status ← result (← await Call.unload)
  result (checkStatus status)
  confirmUnloaded

def releaseLoaded : Method Unit := do
  match ← observeConfirmed false with
  | none => pure ()
  | some current => unload current

def releaseGpu (target : RestorePoint) : Method Unit := do
  let restore ← result (targetOf target)
  modify fun s ↦ { s with released := some restore }
  translating label "unload" (within .release releaseLoaded)

/-! ## `_load` -/

/-- The variables of the loop over the lines of the stream. -/
structure Stream where
  data : List String
  finished : Bool
  failed : Bool
  insufficientVram : Bool
  deriving DecidableEq, Repr

def Stream.start : Stream := ⟨[], false, false, false⟩

/-- `line.rstrip("\r\n")`. -/
def stripEnd (line : String) : String :=
  String.ofList (line.toList.rdropWhile fun c ↦ c == '\r' || c == '\n')

/-- What `str.strip` removes. -/
def isSpace (c : Char) : Bool :=
  c.toNat ∈
      [9, 10, 11, 12, 13, 28, 29, 30, 31, 32, 133, 160, 5760, 8232, 8233, 8239, 8287, 12288] ||
    (8192 ≤ c.toNat && c.toNat ≤ 8202)

def strip (l : List Char) : List Char := (l.dropWhile isSpace).rdropWhile isSpace

/-- The rest of a line that starts with the name of a field. -/
def after (name line : String) : Option (List Char) :=
  if name.toList.isPrefixOf line.toList then some (line.toList.drop name.toList.length) else none

/-- `line.startswith("event:") and line[6:].strip() == "error"`. -/
def isErrorLine (line : String) : Bool :=
  (after "event:" line).any fun rest ↦ strip rest == "error".toList

/-- `line[5:].lstrip(" ")` of a line that starts with `data:`. -/
def dataOf (line : String) : Option String :=
  (after "data:" line).map fun rest ↦ String.ofList (rest.dropWhile (· == ' '))

def vramMarkers : List String :=
  ["cuda out of memory", "cuda error: out of memory", "insufficient vram",
    "torch.cuda.outofmemoryerror"]

/-- `marker in message.lower()` for some marker.  The markers are ASCII. -/
def outOfVram (message : String) : Bool :=
  vramMarkers.any fun marker ↦ marker.toList <:+: (message.toList.map Char.toLower)

/-- An event of the stream, parsed. -/
def onEvent (st : Stream) : Json → Except Raised Stream
  | .obj event =>
      if Json.has event "error" then
        match Json.get event "error" with
        | .obj error =>
            match Json.get error "message" with
            | .str message => .ok { st with
                failed := true
                insufficientVram := st.insufficientVram || outOfVram message }
            | _ => .error (failure "load" "invalid SSE error")
        | _ => .error (failure "load" "invalid SSE error")
      else if st.failed then .error (failure "load" "progress after SSE error")
      else if (Json.get event "model_type").eq (.str "model") &&
          (Json.get event "status").eq (.str "finished") then .ok { st with finished := true }
      else .ok st
  | _ => .error (failure "load" "invalid SSE event")

/-- A blank line ends an event. -/
def dispatch (cfg : Settings) (st : Stream) : Except Raised Stream :=
  match cfg.loads ("\n".intercalate st.data) with
  | none => .error (.client "JSONDecodeError")
  | some event => onEvent { st with data := [] } event

/-- The body of the loop. -/
def onLine (cfg : Settings) (st : Stream) : Option String → Except Raised Stream
  | none => .error (.client "UnicodeDecodeError")
  | some raw =>
      let line := stripEnd raw
      if isErrorLine line then .error (failure "load" "SSE error")
      else match dataOf line with
        | some data => .ok { st with data := st.data ++ [data] }
        | none => if line = "" ∧ st.data ≠ [] then dispatch cfg st else .ok st

/-- The loop. -/
def readStream (cfg : Settings) : Stream → List (Option String) → Except Raised Stream
  | st, [] => .ok st
  | st, line :: lines => (onLine cfg st line).bind fun st ↦ readStream cfg st lines

/-- The rest of the stream, if nothing broke it off. -/
def finishStream (broken : Option Raised) (st : Stream) : Except Raised Stream :=
  match broken with
  | some e => .error e
  | none => .ok st

/-- The stream of an accepted load. -/
def loadStream (cfg : Settings) (r : LoadResponse) : Except Raised Stream :=
  if r.status ≠ 200 then
    .error (r.broken.getD (failure "load" s!"HTTP {r.status}"))
  else if r.contentType ≠ "text/event-stream" then .error invalid
  else (readStream cfg .start r.lines).bind (finishStream r.broken)

/-- What is raised for a stream that ended with an error. -/
def loadError (st : Stream) : Raised :=
  if st.insufficientVram then .exn .insufficientVram
  else failure "load" "backend reported a completed load failure; next LLM request may retry"

/-- The end of `_load`. -/
def endLoad (st : Stream) : Method Unit :=
  if st.data ≠ [] ∨ (st.finished = false ∧ st.failed = false) then
    raise (failure "load" "incomplete SSE response")
  else if st.failed then do
    modify fun s ↦ { s with loadFailed := true }
    raise (loadError st)
  else pure ()

/-- `{**restore.parameters, "model_name": .., "backend": .., "skip_queue": ..}`. -/
def loadPayload (restore : TabbyApiRestorePoint) : Json.Fields :=
  Json.set "skip_queue" (.bool false) (Json.set "backend" (.str "exllamav3")
    (Json.set "model_name" (.str restore.model) restore.parameters))

/-- `_load`. -/
def load (cfg : Settings) (restore expected : TabbyApiRestorePoint) : Method Unit := do
  let response ← result (← await (Call.load (loadPayload restore) expected))
  let st ← result (loadStream cfg response)
  endLoad st

/-! ## `acquire_gpu` -/

/-- The load is sent. -/
def startLoad (expected : TabbyApiRestorePoint) (s : TabbyApiBackend) : TabbyApiBackend :=
  { s with uncertain := true, pendingLoad := some expected, loadFailed := false }

/-- The loop of `acquire_gpu`. -/
def awaitLoaded (expected : TabbyApiRestorePoint) : ℕ → Method TabbyApiRestorePoint
  | 0 => raise (.cancelled (some .acquire))
  | n + 1 => do
      match ← observe with
      | some current =>
          if current.matches expected then do
            modify fun s ↦ { s with uncertain := false, pendingLoad := none }
            pure current
          else raise (failure "load verification" "model/settings mismatch")
      | none => do
          result (← await Call.sleep)
          awaitLoaded expected n

/-- The load and its confirmation; `parameters` is `expected_parameters`. -/
def loadConfirmed (cfg : Settings) (restore : TabbyApiRestorePoint)
    (parameters : Json.Fields) : Method TabbyApiRestorePoint := do
  modify (startLoad ⟨restore.model, parameters⟩)
  load cfg restore ⟨restore.model, parameters⟩
  let n ← await (Call.polls .acquire)
  awaitLoaded ⟨restore.model, parameters⟩ n

/-- The first load, of the configured model. -/
def loadConfigured (cfg : Settings) : Method TabbyApiRestorePoint :=
  match cfg.model with
  | none | some "" => raise (failure "load" "no loaded model; configure --tabby-model")
  | some model => loadConfirmed cfg ⟨model, [("max_seq_len", .int cfg.maxSeqLen)]⟩ []

/-- Another model or other settings are loaded. -/
def replaceLoaded (cfg : Settings) (restore current : TabbyApiRestorePoint) :
    Method TabbyApiRestorePoint :=
  if current.matches restore then pure current
  else do
    releaseGpu (.tabbyapi current)
    loadConfirmed cfg restore restore.parameters

def acquireObserved (cfg : Settings) :
    Option TabbyApiRestorePoint → Option TabbyApiRestorePoint → Method TabbyApiRestorePoint
  | none, some current => pure current
  | none, none => loadConfigured cfg
  | some restore, some current => replaceLoaded cfg restore current
  | some restore, none => loadConfirmed cfg restore restore.parameters

/-- `self._target(target) if target is not None else None`. -/
def optionalTarget : Option RestorePoint → Except Raised (Option TabbyApiRestorePoint)
  | none => .ok none
  | some target => (targetOf target).map some

def acquireGpu (cfg : Settings) (target : Option RestorePoint) : Method TabbyApiRestorePoint := do
  let restore ← result (optionalTarget target)
  translating label "load" (within .acquire do
    let current ← observeConfirmed true
    acquireObserved cfg restore current)

/-! ## The object -/

inductive Op
  | validateControl
  | observeReady
  | snapshotReady
  | releaseGpu (target : RestorePoint)
  | acquireGpu (target : Option RestorePoint)

def Op.Ret : Op → Type
  | .validateControl | .releaseGpu _ => Unit
  | .observeReady => Option TabbyApiRestorePoint
  | .snapshotReady | .acquireGpu _ => TabbyApiRestorePoint

def object (cfg : Settings) : AsyncObject TabbyApiBackend Call Answer Raised Op where
  Ret := Op.Ret
  run
    | .validateControl => validateControl
    | .observeReady => observeReady
    | .snapshotReady => snapshotReady
    | .releaseGpu target => releaseGpu target
    | .acquireGpu target => acquireGpu cfg target

end StProxy.Tabby
