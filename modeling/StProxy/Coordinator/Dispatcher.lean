import Mathlib.Logic.Function.Iterate
import StProxy.Coordinator.State

/-!
# The dispatcher task

`_dispatch`, `_next_work`, `_dispatch_chat`, `_restore_llm`, `_dispatch_image`
and `_activate_comfy` as one control-flow graph.  Each function below is the
code between two points.  `advance` makes one move at a point that is not an
`await`; `settle` runs an atomic segment to its next `await`.

Between two works the dispatcher lets other tasks run, which adds schedules
to those of asyncio.  Waiting tasks may wake up without a notification, which
the loops around `Condition.wait` allow for.
-/

namespace StProxy.Coordinator

variable {RP Out BE : Type}

/-! ## Bookkeeping -/

/-- `_record_errors`. -/
def recordErrors (s : State RP Out BE) (errors : List String) : State RP Out BE :=
  { s with
    lastError := if errors = [] then s.lastError else some ("; ".intercalate errors.eraseDups) }

/-- `_append_queued`. -/
def appendQueued (s : State RP Out BE) (work : QueuedWork) : State RP Out BE :=
  let s := { s with queue := s.queue ++ [work] }
  match work with
  | .chat _ => { s with waitingChats := s.waitingChats + 1 }
  | .image n =>
      { s with
        waitingImages := s.waitingImages + 1
        queuedWorkflowBytes := s.queuedWorkflowBytes + (s.images n).request.body.length }

/-- `_release_queue_accounting`. -/
def releaseQueueAccounting (s : State RP Out BE) : QueuedWork → State RP Out BE
  | .chat _ => { s with waitingChats := s.waitingChats - 1 }
  | .image n =>
      { s with
        waitingImages := s.waitingImages - 1
        queuedWorkflowBytes := s.queuedWorkflowBytes - (s.images n).request.body.length }

/-- `_remove_queued`, whose result says whether the work was still queued.
Sequence numbers are unique, so `deque.remove` finds the work itself. -/
def removeQueued (s : State RP Out BE) (work : QueuedWork) : Bool × State RP Out BE :=
  if work ∈ s.queue then
    (true, releaseQueueAccounting { s with queue := s.queue.erase work } work)
  else (false, s)

/-- `_resolve_chat`. -/
def resolveChat (s : State RP Out BE) (n : ℕ) (error : Option String) : State RP Out BE :=
  match (s.chats n).ready with
  | none => (s.setChat n { s.chats n with ready := some error }).emit (.resolved (.ready n))
  | some _ => s

/-- `if not work.submitted.done(): work.submitted.set_result(outcome)`. -/
def resolveSubmitted (s : State RP Out BE) (n : ℕ) (outcome : SubmissionOutcome) :
    State RP Out BE :=
  match (s.images n).submitted with
  | none =>
      (s.setImage n { s.images n with submitted := some outcome }).emit
        (.resolved (.submitted n))
  | some _ => s

/-- The same for `work.completion`, which may be `None`. -/
def resolveCompletion (s : State RP Out BE) (n : ℕ) (outcome : ImageOutcome Out) :
    State RP Out BE :=
  match (s.images n).completion with
  | some none =>
      (s.setImage n { s.images n with completion := some (some outcome) }).emit
        (.resolved (.completion n))
  | _ => s

/-- `_resolve_image_error`. -/
def resolveImageError (s : State RP Out BE) (n : ℕ) (error : String) : State RP Out BE :=
  resolveCompletion (resolveSubmitted s n ⟨none, some error⟩) n ⟨none, some error⟩

/-- The `isinstance` dispatch around the two resolvers. -/
def resolveWork (s : State RP Out BE) (work : QueuedWork) (error : String) :
    State RP Out BE :=
  match work with
  | .chat n => resolveChat s n (some error)
  | .image n => resolveImageError s n error

/-- The loop of `_fail_queued` over the works still queued. -/
def failQueuedLoop (error : String) : List QueuedWork → State RP Out BE → State RP Out BE
  | [], s => s
  | work :: rest, s =>
      failQueuedLoop error rest
        (resolveWork (releaseQueueAccounting { s with queue := rest } work) work error)

/-- `_fail_queued`. -/
def failQueued (s : State RP Out BE) (error : String) : State RP Out BE :=
  failQueuedLoop error s.queue s

/-- `_mark_recoverable`. -/
def markRecoverable (s : State RP Out BE) (error : String) : State RP Out BE :=
  { s with recoverableError := some error, state := .error }

/-- `_mark_fatal`. -/
def markFatal (s : State RP Out BE) (error : String) : State RP Out BE :=
  failQueued { s with fatalError := some error, state := .error } error

/-- The text `"… is not confirmed ready"`. -/
def notConfirmedReady (cfg : BrokerConfig) : String :=
  cfg.llmBackend.label ++ " is not confirmed ready"

/-! ## `initialize` -/

/-- `initialize` up to its first await. -/
def initializeStart (cfg : BrokerConfig) (s : State RP Out BE) : State RP Out BE :=
  if cfg.llmBackend.isRequestDriven then
    { s with owner := .unknown, state := .awaitingRequest, point := .nextWork }
  else s.await .initValidate .startup .validateControl

/-- The handler of `initialize`. -/
def initRaised (s : State RP Out BE) (e : Exn) : State RP Out BE :=
  { s with
    lastError := some e.str
    fatalError := some "broker initialization failed"
    owner := .unknown
    state := .error
    point := .initFailed }

/-- The end of `initialize`, which creates the dispatcher task. -/
def initDone (s : State RP Out BE) (restore : RP) : State RP Out BE :=
  { s with
    restorePoint := some restore
    lastError := none
    fatalError := none
    owner := .llm
    state := .llmReady
    point := .nextWork }

/-! ## `_next_work` and `_dispatch` -/

/-- The loop of `_next_work` after a wake-up. -/
def nextWork (s : State RP Out BE) : State RP Out BE :=
  if s.closing || truthy s.fatalError then s.goto .ended
  else match s.queue with
    | [] => s
    | work :: rest =>
        (releaseQueueAccounting { s with queue := rest } work).goto (.dispatch work)

def dispatch (s : State RP Out BE) : QueuedWork → State RP Out BE
  | .chat n => s.goto (.chatStart n)
  | .image n => s.goto (.imageStart n)

/-- The `except asyncio.CancelledError` handler of `_dispatch`. -/
def dispatcherCancelled (s : State RP Out BE) (work : QueuedWork) : State RP Out BE :=
  (resolveWork s work "broker is shutting down").goto .ended

/-- The `except Exception` handler of `_dispatch`. -/
def dispatcherFailed (s : State RP Out BE) (work : Option QueuedWork) (e : Exn) :
    State RP Out BE :=
  let error := "broker dispatcher failed: " ++ e.typeName
  let s := { s with lastError := some e.str }
  let s := match work with
    | some work => resolveWork s work error
    | none => s
  (markFatal s error).goto .ended

/-! ## `_dispatch_chat` -/

def chatStart (cfg : BrokerConfig) (s : State RP Out BE) (n : ℕ) : State RP Out BE :=
  if (s.chats n).cancelled then s.goto .nextWork
  else if cfg.serialized then s.goto (.chatDrainCheck n)
  else s.goto (.chatRestore n)

/-- The `while` condition of the drain; the new state is set in the same
segment in which the drain was found complete. -/
def chatDrainCheck (s : State RP Out BE) (n : ℕ) : State RP Out BE :=
  if s.llmBusy then s.goto (.chatDrain n)
  else (s.setState .drainingLlm).goto (.chatRestore n)

/-- The drain loop after a wake-up. -/
def chatDrainWake (s : State RP Out BE) (n : ℕ) : State RP Out BE :=
  if (s.chats n).cancelled || s.closing then s.goto .nextWork
  else s.goto (.chatDrainCheck n)

section
variable [DecidableEq RP]

def needsRestore (s : State RP Out BE) (n : ℕ) : Bool :=
  s.owner != .llm || truthy s.recoverableError ||
    ((s.chats n).target.isSome && decide ((s.chats n).target ≠ s.restorePoint))

def chatRestore (s : State RP Out BE) (n : ℕ) : State RP Out BE :=
  if needsRestore s n then s.goto (.restoreStart n) else s.goto (.chatGrant n)

end

/-- The branch `if not restored`. -/
def chatDenied (cfg : BrokerConfig) (s : State RP Out BE) (n : ℕ) : State RP Out BE :=
  (resolveChat s n
    (pyOr s.fatalError (pyOr s.recoverableError (some (notConfirmedReady cfg))))).goto .nextWork

/-- The state that `_dispatch_chat` sets on a grant. -/
def grantState (cfg : BrokerConfig) (current : HandoffState) : HandoffState :=
  if cfg.reserves then .llmReserved
  else if cfg.llmBackend == .prism || cfg.llmBackend.isStrata then .llmReady
  else current

/-- The last critical section of `_dispatch_chat`. -/
def chatGrant (cfg : BrokerConfig) (s : State RP Out BE) (n : ℕ) : State RP Out BE :=
  if (s.chats n).cancelled then s.goto .nextWork
  else if s.closing then (resolveChat s n (some "broker is shutting down")).goto .nextWork
  else if truthy s.fatalError then (resolveChat s n s.fatalError).goto .nextWork
  else
    let s := s.setChat n { s.chats n with granted := true }
    let s := { s with activeChats := s.activeChats + 1, state := grantState cfg s.state }
    (resolveChat (s.emit (.chatGranted n)) n none).goto .nextWork

/-! ## `_restore_llm` -/

/-- `_restore_llm` up to the wait for ComfyUI controls.  The cleanup is skipped
when the LLM owns the GPU and the request names a target. -/
def restoreStart [DecidableEq RP] (s : State RP Out BE) (n : ℕ) : State RP Out BE :=
  let target := (s.chats n).target
  if s.owner == .llm && !truthy s.recoverableError &&
      (target.isNone || decide (target = s.restorePoint)) then
    s.goto (.chatGrant n)
  else
    let s := { s with recovering := true, recoveryAttempts := s.recoveryAttempts + 1 }
    if s.owner != .llm || target.isNone then
      (s.setState .cleaningComfy).goto (.restoreControlsCheck n)
    else s.goto (.restoreOwn n)

def restoreControlsCheck (s : State RP Out BE) (n : ℕ) : State RP Out BE :=
  if s.activeComfyControls != 0 then s.goto (.restoreControls n)
  else s.await (.restoreFree n) (.restoreLlm n) .freeModels

/-- The two handlers of the cleanup, a timeout of the controls and a failure
of `free_models`. -/
def cleanupFailed (s : State RP Out BE) (n : ℕ) (error : String) : State RP Out BE :=
  let s := recordErrors s [error]
  let s := if s.closing then s else markRecoverable s "ComfyUI GPU release is not confirmed"
  { s with recovering := false, point := .chatDenied n }

/-- `self._owner = GpuOwner.UNKNOWN` and `_ensure_control_validated`. -/
def restoreOwn (s : State RP Out BE) (n : ℕ) : State RP Out BE :=
  let s := { s with owner := .unknown }
  if s.controlValidated then s.goto (.restoreBranch n)
  else s.await (.restoreValidate n) (.restoreLlm n) .validateControl

/-- The choice between target, router reservation, observation and reload. -/
def restoreBranch (cfg : BrokerConfig) (s : State RP Out BE) (n : ℕ) : State RP Out BE :=
  match (s.chats n).target with
  | some target =>
      (s.setState .reloadingLlm).await (.restoreAcquireTarget n target) (.restoreLlm n)
        (.acquireGpu (some target))
  | none =>
      if cfg.koboldRouterMode then
        match s.restorePoint with
        | some restore =>
            if truthy s.recoverableError then
              s.await (.restoreRouterRelease n restore) (.restoreLlm n) (.releaseGpu restore)
            else s.await (.restoreRouterAcquire n) (.restoreLlm n) (.acquireGpu none)
        | none => s.await (.restoreRouterAcquire n) (.restoreLlm n) (.acquireGpu none)
      else if s.restorePoint.isNone && cfg.llmBackend.isRequestDriven &&
          !(cfg.llmBackend == .tabbyapi && truthy s.recoverableError) then
        s.await (.restoreObserve n) (.restoreLlm n) .observeReady
      else s.goto (.restoreReload n)

/-- The final `acquire_gpu` of `_restore_llm`. -/
def restoreReload (s : State RP Out BE) (n : ℕ) : State RP Out BE :=
  if s.owner == .llm then s.goto (.restoreDone n)
  else (s.setState .reloadingLlm).await (.restoreAcquire n s.restorePoint) (.restoreLlm n)
    (.acquireGpu s.restorePoint)

/-- The text that `_restore_llm` keeps for a failed reload. -/
def reloadError (cfg : BrokerConfig) : Exn → String
  | .insufficientVram => Exn.insufficientVram.str
  | .error _ _ => notConfirmedReady cfg

/-- The handler of the second `try` of `_restore_llm`. -/
def restoreRaised (cfg : BrokerConfig) (s : State RP Out BE) (n : ℕ) (e : Exn) :
    State RP Out BE :=
  let s := recordErrors s [e.str]
  let s := if s.closing then s else markRecoverable s (reloadError cfg e)
  { s with recovering := false, point := .chatDenied n }

/-- The successful end of `_restore_llm`. -/
def restoreDone (cfg : BrokerConfig) (s : State RP Out BE) (n : ℕ) : State RP Out BE :=
  let s := { s with owner := .llm, recovering := false }
  let s := if s.closing then s else
    { s with
      fatalError := none
      recoverableError := none
      lastError := none
      state := if cfg.reserves then .llmReserved else .llmReady }
  s.goto (.chatGrant n)

/-! ## `_dispatch_image` -/

/-- The `finally` block of `_dispatch_image`. -/
def imageFinally (s : State RP Out BE) (errors : List String) : State RP Out BE :=
  recordErrors { s with activePromptId := none } errors

/-- The early returns of `_dispatch_image` for a cancelled work. -/
def imageWithdrawn (s : State RP Out BE) (n : ℕ) : State RP Out BE :=
  (imageFinally (resolveImageError s n "image request was cancelled") []).goto .nextWork

def imageStart (s : State RP Out BE) (n : ℕ) : State RP Out BE :=
  let s := { s with lastError := none }
  if (s.images n).cancelled then imageWithdrawn s n
  else if s.owner != .comfy then (s.setState .drainingLlm).goto (.activateDrainCheck n)
  else s.goto (.imageActivated n)

/-- The second test of `work.cancelled` and the submission. -/
def imageActivated (s : State RP Out BE) (n : ℕ) : State RP Out BE :=
  if (s.images n).cancelled then imageWithdrawn s n
  else (s.setState .imageActive).await (.submit n (s.images n).request) (.dispatchImage n)
    (.submit (s.images n).request)

/-- The `finally` block around `submit`. -/
def clearRequest (s : State RP Out BE) (n : ℕ) : State RP Out BE :=
  let w := s.images n
  s.setImage n { w with request := { w.request with headers := [], body := [] } }

/-- `_dispatch_image` from the submission result to `wait_for_prompt`. -/
def imageSubmitted (s : State RP Out BE) (n : ℕ) (result : PromptResult) :
    State RP Out BE :=
  let s := resolveSubmitted s n ⟨some result.response, none⟩
  if 400 ≤ result.response.status then
    s.goto (.imageRaised n (.handoffError
      ("ComfyUI rejected prompt with HTTP " ++ toString result.response.status)))
  else match result.promptId with
    | none => s.goto (.imageRaised n (.handoffError
        "ComfyUI response did not contain a prompt_id"))
    | some promptId =>
        if promptId = "" then s.goto (.imageRaised n (.handoffError
          "ComfyUI response did not contain a prompt_id"))
        else { s with activePromptId := some promptId }.await (.monitor n promptId)
          (.dispatchImage n) (.waitForPrompt promptId)

def imageCompleted (s : State RP Out BE) (n : ℕ) (outputs : Out) : State RP Out BE :=
  let s := resolveCompletion s n ⟨some outputs, none⟩
  (imageFinally (s.setState .comfyReady) []).goto .nextWork

/-- The `except Exception` handler of `_dispatch_image`. -/
def imageRaised (s : State RP Out BE) (n : ℕ) (e : Exn) : State RP Out BE :=
  let s :=
    if s.owner == .comfy && !s.closing then s.setState .comfyReady
    else if s.owner == .llm && !truthy s.fatalError then s.setState .llmReady
    else if s.closing then s
    else markRecoverable s "GPU ownership is not confirmed after workflow handoff failure"
  (imageFinally (resolveImageError s n e.message) [e.message]).goto .nextWork

/-- The end of the `except asyncio.CancelledError` handler. -/
def imageShutdown (s : State RP Out BE) (n : ℕ) : State RP Out BE :=
  (imageFinally (resolveImageError s n "broker is shutting down")
    ["handoff cancelled during shutdown"]).goto (.dispatcherCancelled (.image n))

/-- The start of the `except asyncio.CancelledError` handler. -/
def imageCancelled (s : State RP Out BE) (n : ℕ) : State RP Out BE :=
  if truthy s.activePromptId then s.await (.interrupt n) (.dispatchImage n) .interrupt
  else imageShutdown s n

/-! ## `_activate_comfy` -/

/-- Both returns of `False`, after which the work is withdrawn. -/
def activateWithdrawn (s : State RP Out BE) (n : ℕ) : State RP Out BE :=
  imageWithdrawn (s.setState (if s.owner == .llm then .llmReady else .awaitingRequest)) n

/-- The drain loop of `_activate_comfy` and the test after it. -/
def activateDrainCheck (s : State RP Out BE) (n : ℕ) : State RP Out BE :=
  if (s.images n).cancelled then activateWithdrawn s n
  else if s.llmBusy then s.goto (.activateDrain n)
  else s.goto (.activateDrained n)

/-- The choice of the handoff branch. -/
def activateDrained (cfg : BrokerConfig) (s : State RP Out BE) (n : ℕ) :
    State RP Out BE :=
  if cfg.koboldRouterMode && s.owner != .comfy then
    if s.controlValidated then s.goto (.activateRouter n)
    else s.await (.activateRouterValidate n) (.activateComfy n) .validateControl
  else if cfg.llmBackend.isRequestDriven && s.owner == .unknown then
    if s.controlValidated then s.await (.activateObserve n) (.activateComfy n) .observeReady
    else s.await (.activateValidate n) (.activateComfy n) .validateControl
  else s.goto (.activateUnload n)

def activateRouter (s : State RP Out BE) (n : ℕ) : State RP Out BE :=
  match s.restorePoint with
  | none => s.await (.activateRouterAcquire n) (.activateComfy n) (.acquireGpu none)
  | some restore => s.goto (.activateRouterUnload n restore)

def activateRouterUnload (s : State RP Out BE) (n : ℕ) (restore : RP) : State RP Out BE :=
  { s with owner := .unknown, state := .unloadingLlm }.await
    (.activateRouterRelease n restore) (.activateComfy n) (.releaseGpu restore)

def activateUnload (s : State RP Out BE) (n : ℕ) : State RP Out BE :=
  if s.owner == .llm then
    let s := { s with owner := .unknown, state := .unloadingLlm }
    match s.restorePoint with
    | none => s.goto (.imageRaised n (.handoffError "LLM restore point is unavailable"))
    | some restore =>
        s.await (.activateRelease n restore) (.activateComfy n) (.releaseGpu restore)
  else s.goto (.activateDone n)

/-- The three assignments that hand the GPU to ComfyUI. -/
def activateDone (s : State RP Out BE) (n : ℕ) : State RP Out BE :=
  ({ s with owner := .comfy, recoverableError := none, state := .comfyReady }.emit
    (.comfyGranted n)).goto (.imageActivated n)

/-! ## Segments -/

/-- One move inside an atomic segment; the identity at a suspension. -/
def advance [DecidableEq RP] (cfg : BrokerConfig) (s : State RP Out BE) : State RP Out BE :=
  match s.point with
  | .dispatch work => dispatch s work
  | .dispatcherCancelled work => dispatcherCancelled s work
  | .dispatcherFailed work e => dispatcherFailed s work e
  | .chatStart n => chatStart cfg s n
  | .chatDrainCheck n => chatDrainCheck s n
  | .chatRestore n => chatRestore s n
  | .chatDenied n => chatDenied cfg s n
  | .chatGrant n => chatGrant cfg s n
  | .restoreStart n => restoreStart s n
  | .restoreControlsCheck n => restoreControlsCheck s n
  | .cleanupFailed n error => cleanupFailed s n error
  | .restoreOwn n => restoreOwn s n
  | .restoreBranch n => restoreBranch cfg s n
  | .restoreReload n => restoreReload s n
  | .restoreRaised n e => restoreRaised cfg s n e
  | .restoreDone n => restoreDone cfg s n
  | .imageStart n => imageStart s n
  | .imageActivated n => imageActivated s n
  | .submitted n result => imageSubmitted s n result
  | .imageRaised n e => imageRaised s n e
  | .imageCancelled n => imageCancelled s n
  | .activateDrainCheck n => activateDrainCheck s n
  | .activateDrained n => activateDrained cfg s n
  | .activateRouter n => activateRouter s n
  | .activateRouterUnload n restore => activateRouterUnload s n restore
  | .activateUnload n => activateUnload s n
  | .activateDone n => activateDone s n
  | _ => s

/-- Run to the next suspension; no segment has more than ten moves. -/
def settle [DecidableEq RP] (cfg : BrokerConfig) (s : State RP Out BE) : State RP Out BE :=
  (advance cfg)^[10] s

/-- A dispatcher wait returns. -/
def onWake (s : State RP Out BE) : Option (State RP Out BE) :=
  match s.point with
  | .nextWork => some (nextWork s)
  | .chatDrain n => some (chatDrainWake s n)
  | .restoreControls n => some (s.goto (.restoreControlsCheck n))
  | .activateDrain n => some (s.goto (.activateDrainCheck n))
  | _ => none

/-- The `asyncio.timeout` around a dispatcher wait expires. -/
def onTimeout (s : State RP Out BE) : Option (State RP Out BE) :=
  match s.point with
  | .restoreControls n =>
      some ((s.emit (.controlsTimedOut n)).goto (.cleanupFailed n
        "timed out waiting for ComfyUI control requests to finish"))
  | .activateDrain n => some (s.goto (.imageRaised n .timeout))
  | _ => none

/-- A dispatcher wait raises an unexpected exception. -/
def onFault (s : State RP Out BE) (e : Exn) : Option (State RP Out BE) :=
  match s.point with
  | .nextWork => some (s.goto (.dispatcherFailed none e))
  | .chatDrain n | .restoreControls n => some (s.goto (.dispatcherFailed (some (.chat n)) e))
  | .activateDrain n => some (s.goto (.imageRaised n e))
  | _ => none

/-- The backend call in flight returns or raises. -/
def onReply (s : State RP Out BE) (reply : Reply RP Out) : Option (State RP Out BE) :=
  match s.point, reply with
  | .initValidate, .done =>
      some ({ s with controlValidated := true, state := .cleaningComfy }.await .initFree
        .startup .freeModels)
  | .initFree, .done => some ((s.setState .verifyingLlm).await .initSnapshot
      .startup .snapshotReady)
  | .initSnapshot, .acquired restore => some (initDone s restore)
  | .initValidate, .raised e | .initFree, .raised e | .initSnapshot, .raised e =>
      some (initRaised s e)
  | .restoreFree n, .done => some (s.goto (.restoreOwn n))
  | .restoreFree n, .raised e => some (s.goto (.cleanupFailed n e.str))
  | .restoreValidate n, .done =>
      some ({ s with controlValidated := true }.goto (.restoreBranch n))
  | .restoreAcquireTarget n _, .acquired restore | .restoreRouterAcquire n, .acquired restore =>
      some ({ s with restorePoint := some restore, owner := .llm }.goto (.restoreDone n))
  | .restoreRouterRelease n _, .done =>
      some (s.await (.restoreRouterAcquire n) (.restoreLlm n) (.acquireGpu none))
  | .restoreObserve n, .observed (some restore) =>
      some ({ s with restorePoint := some restore, owner := .llm }.goto (.restoreReload n))
  | .restoreObserve n, .observed none => some (s.goto (.restoreReload n))
  | .restoreAcquire n _, .acquired restore =>
      some ({ s with restorePoint := some restore }.goto (.restoreDone n))
  | .restoreValidate n, .raised e | .restoreAcquireTarget n _, .raised e
  | .restoreRouterAcquire n, .raised e | .restoreRouterRelease n _, .raised e
  | .restoreObserve n, .raised e | .restoreAcquire n _, .raised e =>
      some (s.goto (.restoreRaised n e))
  | .activateRouterValidate n, .done =>
      some ({ s with controlValidated := true }.goto (.activateRouter n))
  | .activateRouterAcquire n, .acquired restore =>
      some ({ s with restorePoint := some restore }.goto (.activateRouterUnload n restore))
  | .activateValidate n, .done =>
      some ({ s with controlValidated := true }.await (.activateObserve n) (.activateComfy n)
        .observeReady)
  | .activateObserve n, .observed (some restore) =>
      some ({ s with restorePoint := some restore, owner := .llm }.goto (.activateUnload n))
  | .activateObserve n, .observed none => some (s.goto (.activateUnload n))
  | .activateRouterRelease n _, .done | .activateRelease n _, .done =>
      some (s.goto (.activateDone n))
  | .activateRouterValidate n, .raised e | .activateRouterAcquire n, .raised e
  | .activateRouterRelease n _, .raised e | .activateValidate n, .raised e
  | .activateObserve n, .raised e | .activateRelease n _, .raised e =>
      some (s.goto (.imageRaised n e))
  | .submit n _, .submitted result => some ((clearRequest s n).goto (.submitted n result))
  | .submit n _, .raised e => some ((clearRequest s n).goto (.imageRaised n e))
  | .monitor n _, .outputs o => some (imageCompleted s n o)
  | .monitor n _, .raised e => some (s.goto (.imageRaised n e))
  | .interrupt n, .done => some (imageShutdown s n)
  | .interrupt n, .raised e =>
      some ((imageFinally s ["handoff cancelled during shutdown"]).goto
        (.dispatcherFailed (some (.image n)) e))
  | _, _ => none

/-- `CancelledError` is delivered to the dispatcher at its suspension. -/
def onCancel (s : State RP Out BE) : Option (State RP Out BE) :=
  match s.point with
  | .nextWork => some (s.goto .ended)
  | .chatDrain n | .restoreControls n | .restoreFree n | .restoreValidate n
  | .restoreAcquireTarget n _ | .restoreRouterRelease n _ | .restoreRouterAcquire n
  | .restoreObserve n | .restoreAcquire n _ =>
      some (s.goto (.dispatcherCancelled (.chat n)))
  | .activateDrain n | .activateRouterValidate n | .activateRouterAcquire n
  | .activateRouterRelease n _ | .activateValidate n | .activateObserve n
  | .activateRelease n _ | .monitor n _ => some (s.goto (.imageCancelled n))
  | .submit n _ => some ((clearRequest s n).goto (.imageCancelled n))
  | .interrupt n =>
      some ((imageFinally s ["handoff cancelled during shutdown"]).goto
        (.dispatcherCancelled (.image n)))
  | _ => none

end StProxy.Coordinator
