import Mathlib.Logic.Function.Basic
import StProxy.Basic

/-!
# The state of `HandoffCoordinator`

The attributes of the coordinator, the queued work objects with their futures,
the position of the dispatcher task, and the history of what the coordinator
did.  Work objects are named by their sequence number: the source shares them
between the queue, the dispatcher and the waiting client.

`RP` is the type of restore points, `Out` that of ComfyUI outputs, and `BE`
that of the events an adapter may add to the history.
-/

namespace StProxy.Coordinator

inductive HandoffState
  | initializing | awaitingRequest | verifyingLlm | llmReady | llmReserved | drainingLlm
  | unloadingLlm | comfyReady | imageActive | cleaningComfy | reloadingLlm | error
  | shuttingDown
  deriving DecidableEq, Repr

inductive GpuOwner
  | llm | comfy | unknown
  deriving DecidableEq, Repr

/-- `http.BufferedResponse`. -/
structure BufferedResponse where
  status : ℕ
  reason : Option String
  headers : List (String × String)
  body : List UInt8
  deriving DecidableEq

/-- `comfy.PromptResult`. -/
structure PromptResult where
  response : BufferedResponse
  promptId : Option String
  deriving DecidableEq

structure SubmissionOutcome where
  response : Option BufferedResponse
  error : Option String
  deriving DecidableEq

structure ImageOutcome (Out : Type) where
  outputs : Option Out
  error : Option String

/-- What a submission sends to ComfyUI. -/
structure WorkflowRequest where
  path : String
  queryString : String
  headers : List (String × String)
  body : List UInt8
  deriving DecidableEq

/-- Where the coroutine that created a chat work stands: before it exists, at
`await asyncio.shield(work.ready)`, in the lease body, or finished. -/
inductive ChatClient
  | absent | waiting | inBody | gone
  deriving DecidableEq, Repr

/-- Where the creator of an image work stands: at `await
asyncio.shield(work.submitted)`, inside `image_batch`, or finished. -/
inductive ImageClient
  | absent | waiting | batch | gone
  deriving DecidableEq, Repr

/-- A future is `none` until it is resolved. -/
structure ChatWork (RP : Type) where
  ready : Option (Option String)
  cancelled : Bool
  granted : Bool
  target : Option RP
  client : ChatClient

/-- `completion` is `none` when the creator asked for no completion future. -/
structure ImageWork (Out : Type) where
  request : WorkflowRequest
  submitted : Option SubmissionOutcome
  completion : Option (Option (ImageOutcome Out))
  cancelled : Bool
  client : ImageClient

def ChatWork.absent {RP : Type} : ChatWork RP := ⟨none, false, false, none, .absent⟩

def ImageWork.absent {Out : Type} : ImageWork Out :=
  ⟨⟨"", "", [], []⟩, none, none, false, .absent⟩

/-- A reference to a work object by its sequence number. -/
inductive QueuedWork
  | chat (n : ℕ)
  | image (n : ℕ)
  deriving DecidableEq, Repr

def QueuedWork.sequence : QueuedWork → ℕ
  | .chat n => n
  | .image n => n

/-- The routine that issues a backend call, with the work it serves. -/
inductive Routine
  | startup
  | restoreLlm (n : ℕ)
  | activateComfy (n : ℕ)
  | dispatchImage (n : ℕ)
  deriving DecidableEq, Repr

/-- A call to the LLM adapter or to `ComfyClient`. -/
inductive Call (RP : Type)
  | validateControl
  | observeReady
  | snapshotReady
  | acquireGpu (target : Option RP)
  | releaseGpu (target : RP)
  | freeModels
  | submit (request : WorkflowRequest)
  | waitForPrompt (promptId : String)
  | interrupt

/-- The calls that load or unload a model. -/
def Call.isLoading {RP : Type} : Call RP → Bool
  | acquireGpu _ | releaseGpu _ => true
  | _ => false

/-- The calls during which ComfyUI works on a prompt. -/
def Call.isWorkflow {RP : Type} : Call RP → Bool
  | submit _ | waitForPrompt _ => true
  | _ => false

/-- How a backend call ends, cancellation apart. -/
inductive Reply (RP Out : Type)
  | done
  | observed (r : Option RP)
  | acquired (r : RP)
  | submitted (r : PromptResult)
  | outputs (o : Out)
  | raised (e : Exn)

/-- Whether a reply is of the type that the call returns; any call may raise. -/
def Reply.Fits {RP Out : Type} : Reply RP Out → Call RP → Prop
  | .raised _, _ => True
  | .done, .validateControl | .done, .releaseGpu _ | .done, .freeModels
  | .done, .interrupt | .observed _, .observeReady | .acquired _, .snapshotReady
  | .acquired _, .acquireGpu _ | .submitted _, .submit _ | .outputs _, .waitForPrompt _ => True
  | _, _ => False

/-- The futures of the work with the given sequence number. -/
inductive FutureId
  | ready (n : ℕ)
  | submitted (n : ℕ)
  | completion (n : ℕ)
  deriving DecidableEq, Repr

/-- What the history records. -/
inductive Event (RP Out BE : Type)
  | chatAccepted (n : ℕ)
  | imagesAccepted (works : List ℕ)
  | started (by_ : Routine) (call : Call RP)
  | finished (by_ : Routine) (call : Call RP) (reply : Reply RP Out)
  | interrupted (by_ : Routine) (call : Call RP)
  | controlsTimedOut (n : ℕ)
  | comfyGranted (n : ℕ)
  | chatGranted (n : ℕ)
  | chatReleased (n : ℕ)
  | controlGranted
  | controlReleased
  | imageCancelled (n : ℕ)
  | routerFailed (n : ℕ)
  | resolved (f : FutureId)
  | backend (e : BE)

/-- The points of the dispatcher task, and of `initialize` before it.  The
ones with `isSuspended` are the `await`s of the source; at the others the
task is running and goes on without letting another task in. -/
inductive Point (RP : Type)
  -- `initialize`
  | unstarted
  | initValidate
  | initFree
  | initSnapshot
  | initFailed
  -- `_next_work` and `_dispatch`
  | nextWork
  | dispatch (work : QueuedWork)
  | dispatcherCancelled (work : QueuedWork)
  | dispatcherFailed (work : Option QueuedWork) (e : Exn)
  | ended
  -- `_dispatch_chat`
  | chatStart (n : ℕ)
  | chatDrainCheck (n : ℕ)
  | chatDrain (n : ℕ)
  | chatRestore (n : ℕ)
  | chatDenied (n : ℕ)
  | chatGrant (n : ℕ)
  -- `_restore_llm`
  | restoreStart (n : ℕ)
  | restoreControlsCheck (n : ℕ)
  | restoreControls (n : ℕ)
  | restoreFree (n : ℕ)
  | cleanupFailed (n : ℕ) (error : String)
  | restoreOwn (n : ℕ)
  | restoreValidate (n : ℕ)
  | restoreBranch (n : ℕ)
  | restoreAcquireTarget (n : ℕ) (target : RP)
  | restoreRouterRelease (n : ℕ) (restore : RP)
  | restoreRouterAcquire (n : ℕ)
  | restoreObserve (n : ℕ)
  | restoreReload (n : ℕ)
  | restoreAcquire (n : ℕ) (restore : Option RP)
  | restoreRaised (n : ℕ) (e : Exn)
  | restoreDone (n : ℕ)
  -- `_dispatch_image`
  | imageStart (n : ℕ)
  | imageActivated (n : ℕ)
  | submit (n : ℕ) (request : WorkflowRequest)
  | submitted (n : ℕ) (result : PromptResult)
  | monitor (n : ℕ) (promptId : String)
  | imageRaised (n : ℕ) (e : Exn)
  | imageCancelled (n : ℕ)
  | interrupt (n : ℕ)
  -- `_activate_comfy`
  | activateDrainCheck (n : ℕ)
  | activateDrain (n : ℕ)
  | activateDrained (n : ℕ)
  | activateRouterValidate (n : ℕ)
  | activateRouter (n : ℕ)
  | activateRouterAcquire (n : ℕ)
  | activateRouterUnload (n : ℕ) (restore : RP)
  | activateRouterRelease (n : ℕ) (restore : RP)
  | activateValidate (n : ℕ)
  | activateObserve (n : ℕ)
  | activateUnload (n : ℕ)
  | activateRelease (n : ℕ) (restore : RP)
  | activateDone (n : ℕ)

namespace Point

variable {RP : Type}

/-- The backend call in flight at a point. -/
def call : Point RP → Option (Routine × Call RP)
  | initValidate => some (.startup, .validateControl)
  | initFree => some (.startup, .freeModels)
  | initSnapshot => some (.startup, .snapshotReady)
  | restoreFree n => some (.restoreLlm n, .freeModels)
  | restoreValidate n => some (.restoreLlm n, .validateControl)
  | restoreAcquireTarget n target => some (.restoreLlm n, .acquireGpu (some target))
  | restoreRouterRelease n restore => some (.restoreLlm n, .releaseGpu restore)
  | restoreRouterAcquire n => some (.restoreLlm n, .acquireGpu none)
  | restoreObserve n => some (.restoreLlm n, .observeReady)
  | restoreAcquire n restore => some (.restoreLlm n, .acquireGpu restore)
  | activateRouterValidate n => some (.activateComfy n, .validateControl)
  | activateRouterAcquire n => some (.activateComfy n, .acquireGpu none)
  | activateRouterRelease n restore => some (.activateComfy n, .releaseGpu restore)
  | activateValidate n => some (.activateComfy n, .validateControl)
  | activateObserve n => some (.activateComfy n, .observeReady)
  | activateRelease n restore => some (.activateComfy n, .releaseGpu restore)
  | submit n request => some (.dispatchImage n, .submit request)
  | monitor n promptId => some (.dispatchImage n, .waitForPrompt promptId)
  | interrupt n => some (.dispatchImage n, .interrupt)
  | _ => none

/-- The task is suspended at a backend call, at a `Condition.wait`, or not
running. -/
def isSuspended (p : Point RP) : Bool :=
  p.call.isSome || match p with
    | unstarted | initFailed | nextWork | ended | chatDrain _ | restoreControls _
    | activateDrain _ => true
    | _ => false

/-- The local variable `current` of `_dispatch`. -/
def current : Point RP → Option QueuedWork
  | dispatch work | dispatcherCancelled work => some work
  | dispatcherFailed work _ => work
  | chatStart n | chatDrainCheck n | chatDrain n | chatRestore n | chatDenied n
  | chatGrant n | restoreStart n | restoreControlsCheck n | restoreControls n
  | restoreFree n | cleanupFailed n _ | restoreOwn n | restoreValidate n
  | restoreBranch n | restoreAcquireTarget n _ | restoreRouterRelease n _
  | restoreRouterAcquire n | restoreObserve n | restoreReload n | restoreAcquire n _
  | restoreRaised n _ | restoreDone n => some (.chat n)
  | imageStart n | imageActivated n | submit n _ | submitted n _ | monitor n _
  | imageRaised n _ | imageCancelled n | interrupt n | activateDrainCheck n
  | activateDrain n | activateDrained n | activateRouterValidate n | activateRouter n
  | activateRouterAcquire n | activateRouterUnload n _ | activateRouterRelease n _
  | activateValidate n | activateObserve n | activateUnload n | activateRelease n _
  | activateDone n => some (.image n)
  | _ => none

/-- The points of `initialize` with a call in flight. -/
def isInitializing : Point RP → Bool
  | initValidate | initFree | initSnapshot => true
  | _ => false

end Point

/-- The attributes of `HandoffCoordinator`, the work objects, and the history,
newest event first.  Left out are the clock of the last state change and the
event that only wakes `wait_before_history_delete`. -/
structure State (RP Out BE : Type) where
  restorePoint : Option RP
  queue : List QueuedWork
  sequence : ℕ
  activeChats : ℕ
  activeLlmMetadata : ℕ
  waitingChats : ℕ
  waitingImages : ℕ
  queuedWorkflowBytes : ℕ
  activeComfyControls : ℕ
  fatalError : Option String
  lastError : Option String
  activePromptId : Option String
  owner : GpuOwner
  state : HandoffState
  closing : Bool
  controlValidated : Bool
  recoverableError : Option String
  recovering : Bool
  recoveryAttempts : ℕ
  /-- The `ChatWork` objects by sequence number. -/
  chats : ℕ → ChatWork RP
  /-- The `ImageWork` objects by sequence number. -/
  images : ℕ → ImageWork Out
  /-- The `works` lists of the `image_batch` contexts still open. -/
  batches : List (List ℕ)
  /-- The granted `passive_llm_metadata` contexts still open. -/
  passiveLeases : ℕ
  /-- The allowed `router_control` contexts still open. -/
  routerControls : ℕ
  point : Point RP
  /-- `Task.cancel` was called on the dispatcher and not yet delivered. -/
  cancelRequested : Bool
  log : List (Event RP Out BE)

namespace State

variable {RP Out BE : Type}

/-- `HandoffCoordinator.__init__`. -/
def initial : State RP Out BE where
  restorePoint := none
  queue := []
  sequence := 0
  activeChats := 0
  activeLlmMetadata := 0
  waitingChats := 0
  waitingImages := 0
  queuedWorkflowBytes := 0
  activeComfyControls := 0
  fatalError := none
  lastError := none
  activePromptId := none
  owner := .unknown
  state := .initializing
  closing := false
  controlValidated := false
  recoverableError := none
  recovering := false
  recoveryAttempts := 0
  chats := fun _ ↦ .absent
  images := fun _ ↦ .absent
  batches := []
  passiveLeases := 0
  routerControls := 0
  point := .unstarted
  cancelRequested := false
  log := []

abbrev emit (s : State RP Out BE) (e : Event RP Out BE) : State RP Out BE :=
  { s with log := e :: s.log }

/-- `_set_state`. -/
abbrev setState (s : State RP Out BE) (st : HandoffState) : State RP Out BE :=
  { s with state := st }

abbrev setChat (s : State RP Out BE) (n : ℕ) (w : ChatWork RP) : State RP Out BE :=
  { s with chats := Function.update s.chats n w }

abbrev setImage (s : State RP Out BE) (n : ℕ) (w : ImageWork Out) : State RP Out BE :=
  { s with images := Function.update s.images n w }

/-- Continue at a point inside the same atomic segment. -/
abbrev goto (s : State RP Out BE) (p : Point RP) : State RP Out BE :=
  { s with point := p }

/-- Issue a backend call and suspend. -/
abbrev await (s : State RP Out BE) (p : Point RP) (by_ : Routine) (call : Call RP) :
    State RP Out BE :=
  { s with point := p, log := .started by_ call :: s.log }

/-- The condition `self._active_chats or self._active_llm_metadata`. -/
def llmBusy (s : State RP Out BE) : Bool :=
  s.activeChats != 0 || s.activeLlmMetadata != 0

end State

end StProxy.Coordinator
