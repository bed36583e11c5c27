import Mathlib.Algebra.GroupWithZero.Nat
import StProxy.Coordinator.Dispatcher
import StProxy.Lib.TransitionSystem

/-!
# The coordinator and its clients as a transition system

The public methods of `HandoffCoordinator`, each cut at its awaits, and the
steps of the dispatcher.  The guards on `chatLease` and `routerRequestFailed` are those of
the handlers in `service.py`: a target is passed exactly by the handlers of the
managed kinds, and a router failure is reported only from within a lease.
-/

namespace StProxy.Coordinator

variable {RP Out BE : Type}

/-- A method up to its first suspension.  What it changed before it raised stays changed. -/
abbrev Method (RP Out BE : Type) : Type → Type := ExceptT String (StateM (State RP Out BE))

/-- What the method returns or raises, and the state that it leaves. -/
def Method.call {α : Type} (m : Method RP Out BE α) (s : State RP Out BE) :
    Except String α × State RP Out BE :=
  Id.run (StateT.run (ExceptT.run m) s)

/-! ## `chat_lease` -/

/-- The tests with which `chat_lease`, `submit_image`, `image_batch` and
`comfy_control_lease` begin. -/
def checkOpen (s : State RP Out BE) : Except String Unit :=
  if s.closing then .error "broker is shutting down"
  else match s.fatalError with
    | some error => if error = "" then .ok () else .error error
    | none => .ok ()

/-- `_next_sequence`. -/
def nextSequence : Method RP Out BE ℕ :=
  modifyGet fun s ↦ (s.sequence + 1, { s with sequence := s.sequence + 1 })

/-- `chat_lease` up to `await asyncio.shield(work.ready)`. -/
def chatLease (target : Option RP) : Method RP Out BE Unit := do
  checkOpen (← get)
  let n ← nextSequence
  modify fun s ↦ s.setChat n ⟨none, false, false, target, .waiting⟩
  modify fun s ↦ (appendQueued s (.chat n)).emit (.chatAccepted n)

/-- The `finally` block of `chat_lease`. -/
def chatLeave (s : State RP Out BE) (n : ℕ) (entered : Bool) : State RP Out BE :=
  let s := s.setChat n { s.chats n with client := .gone }
  let s :=
    if entered then s
    else (removeQueued (s.setChat n { s.chats n with cancelled := true }) (.chat n)).2
  if (s.chats n).granted then
    { s.setChat n { s.chats n with granted := false } with
      activeChats := s.activeChats - 1 }.emit (.chatReleased n)
  else s

/-- The shielded wait returns: the body is entered, or an error is raised. -/
def chatWake (s : State RP Out BE) (n : ℕ) : Option (State RP Out BE) :=
  match (s.chats n).client, (s.chats n).ready with
  | .waiting, some error =>
      if truthy error then some (chatLeave s n false)
      else some (s.setChat n { s.chats n with client := .inBody })
  | _, _ => none

/-- The task of the client is cancelled. -/
def chatCancel (s : State RP Out BE) (n : ℕ) : Option (State RP Out BE) :=
  match (s.chats n).client with
  | .waiting => some (chatLeave s n false)
  | .inBody => some (chatLeave s n true)
  | _ => none

/-- The body of the lease returns or raises. -/
def chatExit (s : State RP Out BE) (n : ℕ) : Option (State RP Out BE) :=
  match (s.chats n).client with
  | .inBody => some (chatLeave s n true)
  | _ => none

/-- `router_request_failed`, called from the lease with sequence `n`. -/
def routerRequestFailed (cfg : BrokerConfig) (s : State RP Out BE) (n : ℕ) :
    Option (State RP Out BE) :=
  if cfg.reserves && (s.chats n).client == .inBody && (s.chats n).granted then
    some ((markRecoverable s "KoboldCpp router request did not complete reliably").emit
      (.routerFailed n))
  else none

/-! ## Metadata and control leases -/

/-- The condition under which `passive_llm_metadata` yields `True`. -/
def passiveAllowed (cfg : BrokerConfig) (s : State RP Out BE) : Bool :=
  !s.closing && !truthy s.fatalError && !truthy s.recoverableError && s.owner == .llm &&
    (s.state == .llmReady || s.state == .llmReserved) &&
    (!cfg.koboldRouterMode || s.activeChats == 0)

def passiveEnter (cfg : BrokerConfig) (s : State RP Out BE) : State RP Out BE :=
  if passiveAllowed cfg s then
    { s with
      activeLlmMetadata := s.activeLlmMetadata + 1
      passiveLeases := s.passiveLeases + 1 }
  else s

def passiveExit (s : State RP Out BE) : Option (State RP Out BE) :=
  if s.passiveLeases = 0 then none
  else some { s with
    activeLlmMetadata := s.activeLlmMetadata - 1
    passiveLeases := s.passiveLeases - 1 }

/-- The value `allowed` of `router_control`. -/
def routerControlAllowed (s : State RP Out BE) (abort : Bool) : Bool :=
  !s.closing &&
    (abort && s.activeChats != 0 ||
      !abort && s.activeChats == 0 &&
        (s.state == .awaitingRequest || s.state == .llmReserved || s.state == .llmReady ||
          s.state == .comfyReady || s.state == .imageActive))

def routerControl (s : State RP Out BE) (abort : Bool) : State RP Out BE :=
  if routerControlAllowed s abort then
    { s with
      activeLlmMetadata := s.activeLlmMetadata + 1
      routerControls := s.routerControls + 1 }
  else s

def routerControlExit (s : State RP Out BE) : Option (State RP Out BE) :=
  if s.routerControls = 0 then none
  else some { s with
    activeLlmMetadata := s.activeLlmMetadata - 1
    routerControls := s.routerControls - 1 }

/-- `comfy_control_lease` up to its body. -/
def comfyControlLease : Method RP Out BE Unit := do
  let s ← get
  checkOpen s
  if s.owner != .comfy || !(s.state == .comfyReady || s.state == .imageActive) then
    throw "ComfyUI does not currently own the GPU"
  modify fun s ↦ { s with activeComfyControls := s.activeComfyControls + 1 }.emit .controlGranted

def comfyControlExit (s : State RP Out BE) : Option (State RP Out BE) :=
  if s.activeComfyControls = 0 then none
  else some ({ s with activeComfyControls := s.activeComfyControls - 1 }.emit .controlReleased)

/-! ## `submit_image` and `image_batch` -/

/-- `_check_image_capacity`. -/
def checkImageCapacity (cfg : BrokerConfig) (s : State RP Out BE) (bodies : List (List UInt8)) :
    Except String Unit :=
  if bodies.any fun body ↦ cfg.maxWorkflowBodyBytes < body.length then
    .error "workflow request body exceeds the configured size limit"
  else if cfg.maxQueuedImages < s.waitingImages + bodies.length then
    .error "workflow queue has reached its request limit"
  else if cfg.maxQueuedWorkflowBytes < s.queuedWorkflowBytes + (bodies.map List.length).sum then
    .error "workflow queue has reached its memory limit"
  else .ok ()

/-- `submit_image` up to `await asyncio.shield(work.submitted)`. -/
def submitImage (cfg : BrokerConfig) (request : WorkflowRequest) (wantsCompletion : Bool) :
    Method RP Out BE Unit := do
  checkOpen (← get)
  checkImageCapacity cfg (← get) [request.body]
  let n ← nextSequence
  let completion := if wantsCompletion then some none else none
  modify fun s ↦ s.setImage n ⟨request, none, completion, false, .waiting⟩
  modify fun s ↦ (appendQueued s (.image n)).emit (.imagesAccepted [n])

/-- The shielded wait returns. -/
def imageWake (s : State RP Out BE) (n : ℕ) : Option (State RP Out BE) :=
  match (s.images n).client, (s.images n).submitted with
  | .waiting, some _ => some (s.setImage n { s.images n with client := .gone })
  | _, _ => none

/-- `work.cancelled = True`, removal from the queue, and the error if the work
was still queued. -/
def withdrawImage (s : State RP Out BE) (n : ℕ) (error : String) : State RP Out BE :=
  let s := (s.setImage n { s.images n with cancelled := true }).emit (.imageCancelled n)
  match removeQueued s (.image n) with
  | (true, s) => resolveImageError s n error
  | (false, s) => s

/-- The task waiting in `submit_image` is cancelled. -/
def imageCancel (s : State RP Out BE) (n : ℕ) : Option (State RP Out BE) :=
  match (s.images n).client with
  | .waiting =>
      some (withdrawImage (s.setImage n { s.images n with client := .gone }) n
        "image request was cancelled")
  | _ => none

/-- The works of a batch, which get the next sequence numbers. -/
def appendBatch : List (List UInt8) → State RP Out BE → State RP Out BE
  | [], s => s
  | body :: bodies, s =>
      let n := s.sequence + 1
      let request := ⟨"/prompt", "", [("Content-Type", "application/json")], body⟩
      let s := { s with sequence := n }.setImage n ⟨request, none, some none, false, .batch⟩
      appendBatch bodies (appendQueued s (.image n))

/-- `image_batch` up to its body. -/
def imageBatch (cfg : BrokerConfig) (bodies : List (List UInt8)) : Method RP Out BE Unit := do
  if bodies = [] then throw "image batch must not be empty"
  checkOpen (← get)
  checkImageCapacity cfg (← get) bodies
  let works := List.range' ((← get).sequence + 1) bodies.length
  modify (appendBatch bodies)
  modify fun s ↦ { s with batches := works :: s.batches }.emit (.imagesAccepted works)

/-- The `finally` block of `image_batch` for one work. -/
def leaveBatchWork (s : State RP Out BE) (n : ℕ) : State RP Out BE :=
  match (s.images n).completion with
  | some none => withdrawImage s n "image batch wait was cancelled"
  | _ => s

/-- The `finally` block of `image_batch`. -/
def batchExit (s : State RP Out BE) (works : List ℕ) : Option (State RP Out BE) :=
  if works ∈ s.batches then
    some (works.foldl leaveBatchWork { s with batches := s.batches.erase works })
  else none

/-! ## `close` -/

/-- The dispatcher task exists and has not ended. -/
def dispatcherAlive (s : State RP Out BE) : Bool :=
  match s.point with
  | .unstarted | .initValidate | .initFree | .initSnapshot | .initFailed | .ended => false
  | _ => true

/-- `close`, from setting `_closing` to cancelling the dispatcher. -/
def close (s : State RP Out BE) : State RP Out BE :=
  if s.closing then s
  else
    { failQueued { s with closing := true, state := .shuttingDown } "broker is shutting down" with
      cancelRequested := dispatcherAlive s }

/-! ## The transition system -/

inductive Action (RP Out BE : Type)
  /-- `initialize` is called, or its task is cancelled. -/
  | startup
  | cancelStartup
  /-- A `Condition.wait` of the dispatcher returns, times out or raises. -/
  | wake
  | timeout
  | fault (e : Exn)
  /-- The backend call in flight ends. -/
  | reply (r : Reply RP Out)
  /-- `CancelledError` is raised in the dispatcher. -/
  | deliverCancel
  | chatLease (target : Option RP)
  | chatWake (n : ℕ)
  | chatCancel (n : ℕ)
  | chatExit (n : ℕ)
  | routerRequestFailed (n : ℕ)
  | passiveEnter
  | passiveExit
  | routerControl (abort : Bool)
  | routerControlExit
  | comfyControlLease
  | comfyControlExit
  | submitImage (request : WorkflowRequest) (wantsCompletion : Bool)
  | imageWake (n : ℕ)
  | imageCancel (n : ℕ)
  | imageBatch (bodies : List (List UInt8))
  | batchExit (works : List ℕ)
  | close
  /-- The task waiting in `close` is cancelled, and with it the dispatcher. -/
  | cancelClose
  /-- `TabbyApiBackend.release_gpu` changes the restore point it was given. -/
  | refreshRestorePoint (r : RP)
  /-- An adapter adds to the history. -/
  | backend (e : BE)

/-- The dispatcher runs if no cancellation is pending. -/
def resume [DecidableEq RP] (cfg : BrokerConfig) (s : State RP Out BE)
    (next : Option (State RP Out BE)) : Option (State RP Out BE) :=
  if s.cancelRequested then none else next.map (settle cfg)

/-- The end of a backend call is recorded before the dispatcher goes on. -/
def reply [DecidableEq RP] (cfg : BrokerConfig) (s : State RP Out BE) (r : Reply RP Out) :
    Option (State RP Out BE) :=
  match s.point.call with
  | some (by_, call) => resume cfg s (onReply (s.emit (.finished by_ call r)) r)
  | none => none

/-- `CancelledError` reaches the dispatcher at its suspension. -/
def deliverCancel [DecidableEq RP] (cfg : BrokerConfig) (s : State RP Out BE) :
    Option (State RP Out BE) :=
  if s.cancelRequested then
    let s := match s.point.call with
      | some (by_, call) => s.emit (.interrupted by_ call)
      | none => s
    (onCancel { s with cancelRequested := false }).map (settle cfg)
  else none

def startup (cfg : BrokerConfig) (s : State RP Out BE) : Option (State RP Out BE) :=
  match s.point with
  | .unstarted => some (initializeStart cfg s)
  | _ => none

/-- `CancelledError` is no `Exception`, so `initialize` does not handle it. -/
def cancelStartup (s : State RP Out BE) : Option (State RP Out BE) :=
  if s.point.isInitializing then
    (s.point.call).map fun c ↦ (s.emit (.interrupted c.1 c.2)).goto .initFailed
  else none

def refreshRestorePoint (cfg : BrokerConfig) (s : State RP Out BE) (r : RP) :
    Option (State RP Out BE) :=
  match s.point with
  | .activateRelease _ _ =>
      if cfg.llmBackend = .tabbyapi then some { s with restorePoint := some r } else none
  | _ => none

def step [DecidableEq RP] (cfg : BrokerConfig) (s : State RP Out BE) :
    Action RP Out BE → Option (State RP Out BE)
  | .startup => startup cfg s
  | .cancelStartup => cancelStartup s
  | .wake => resume cfg s (onWake s)
  | .timeout => resume cfg s (onTimeout s)
  | .fault e => resume cfg s (onFault s e)
  | .reply r => reply cfg s r
  | .deliverCancel => deliverCancel cfg s
  | .chatLease target =>
      if target.isSome && !cfg.llmBackend.isManaged then none
      else some ((chatLease target).call s).2
  | .chatWake n => chatWake s n
  | .chatCancel n => chatCancel s n
  | .chatExit n => chatExit s n
  | .routerRequestFailed n => routerRequestFailed cfg s n
  | .passiveEnter => some (passiveEnter cfg s)
  | .passiveExit => passiveExit s
  | .routerControl abort => some (routerControl s abort)
  | .routerControlExit => routerControlExit s
  | .comfyControlLease => some (comfyControlLease.call s).2
  | .comfyControlExit => comfyControlExit s
  | .submitImage request wantsCompletion =>
      some ((submitImage cfg request wantsCompletion).call s).2
  | .imageWake n => imageWake s n
  | .imageCancel n => imageCancel s n
  | .imageBatch bodies => some ((imageBatch cfg bodies).call s).2
  | .batchExit works => batchExit s works
  | .close => some (close s)
  | .cancelClose =>
      if s.closing && dispatcherAlive s then some { s with cancelRequested := true } else none
  | .refreshRestorePoint r => refreshRestorePoint cfg s r
  | .backend e => some (s.emit (.backend e))

/-- `HandoffCoordinator` with its clients and an arbitrary environment. -/
def system (RP Out BE : Type) [DecidableEq RP] (cfg : BrokerConfig) :
    TransitionSystem (State RP Out BE) (Action RP Out BE) where
  init s := s = .initial
  step := step cfg

end StProxy.Coordinator
