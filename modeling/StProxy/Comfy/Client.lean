import StProxy.Lib.Retry
import StProxy.Llm.Base

/-!
# `ComfyClient`

`wait_for_prompt` and `free_models` as coroutines that suspend at the requests to
ComfyUI.  A deadline that expires raises `TimeoutError` at the await.
-/

namespace StProxy.Comfy

open Async Llm

/-- The fields of `BrokerConfig` that are read, and what is left open of Python: the functions
on texts, and `str` of a value that is no string. -/
structure Settings where
  llmBackend : BackendKind
  comfyPollFailureLimit : ℕ
  limit_pos : 0 < comfyPollFailureLimit
  text : Text
  str : Json → String

/-- The awaits.  The deadline of a loop admits a number of passes. -/
inductive Call
  | history (promptId : String)
  | interrupt
  | free
  | status (path : String)
  | sleep
  | sleepFive
  | polls

def Answer : Call → Type
  | .history _ | .status _ => Except Raised Response
  | .interrupt | .free => Except Raised ℕ
  | .sleep | .sleepFive => Except Raised Unit
  | .polls => ℕ

abbrev Method (α : Type) : Type := Async Unit Call Answer Raised α

abbrev Log : Type := Exchanges Call Answer

def failed (action detail : String) : Raised := .exn (backendError "ComfyUI" action (some detail))

def isTrue : Json → Bool
  | .bool true => true
  | _ => false

/-! ## `wait_for_prompt` -/

def failureStatuses : List String := ["cancelled", "canceled", "error", "failed", "failure"]

def successStatuses : List String := ["success", "completed"]

/-- `status_name`. -/
def statusName (cfg : Settings) (status : Json.Fields) : String :=
  cfg.text.lower (match status.lookup "status_str" with
    | none => ""
    | some (.str name) => name
    | some value => cfg.str value)

/-- `status_name or "unknown"`. -/
def orUnknown (name : String) : String := if name = "" then "unknown" else name

/-- What a poll shows: a failure of the monitoring, nothing yet, or how the job ended. -/
abbrev Seen : Type := Retry.Seen String (Except Raised Json)

/-- Outputs that come without a status. -/
def checkOutputs (entry : Json.Fields) (status : Json) : Seen :=
  if (Json.get entry "outputs").truthy && !status.truthy then
    .final (.ok (Json.get entry "outputs"))
  else .pending

/-- The checks of `wait_for_prompt` on the entry of the prompt. -/
def checkEntry (cfg : Settings) (entry : Json.Fields) : Seen :=
  match Json.get entry "status" with
  | .obj status =>
      let name := statusName cfg status
      if name ∈ failureStatuses then .final (.error (failed "image job" name))
      else if isTrue (Json.get status "completed") then
        if name ∈ successStatuses then .final (.ok ((entry.lookup "outputs").getD (.obj [])))
        else .final (.error (failed "image job" (orUnknown name)))
      else checkOutputs entry (.obj status)
  | status => checkOutputs entry status

/-- The checks of `wait_for_prompt` on a reply. -/
def checkHistory (cfg : Settings) (promptId : String) : Response → Seen
  | ⟨status, payload⟩ =>
      if 400 ≤ status then .failed s!"HTTP {status}"
      else match payload with
        | .obj history =>
            match Json.get history promptId with
            | .obj entry => checkEntry cfg entry
            | _ => .pending
        | _ => .failed "invalid history response"

/-- The `try` statement of `wait_for_prompt`.  An `UpstreamError` passes, and so does what
no clause names, such as a `RecursionError` of `response.json`. -/
def observe (cfg : Settings) (promptId : String) : Method Seen := do
  match ← await (Call.history promptId) with
  | .ok response => pure (checkHistory cfg promptId response)
  | .error (.client typeName) => pure (.failed typeName)
  | .error .timeout => pure (.failed "TimeoutError")
  | .error e => raise e

def interrupt : Method Unit :=
  handle (fun e ↦ match e with
    | .client _ | .timeout => pure ()
    | e => raise e) (do
    let _ ← result (← await Call.interrupt)
    pure ())

def sleep : Method Unit := do
  result (← await Call.sleep)

/-- The loop of `wait_for_prompt` after `failures` failures in a row. -/
def pollHistory (cfg : Settings) (promptId : String) : ℕ → ℕ → Method Json
  | 0, _ => do
      interrupt
      raise (failed "image job" "timed out")
  | n + 1, failures => do
      match ← observe cfg promptId with
      | .final r => result r
      | .pending => do
          sleep
          pollHistory cfg promptId n 0
      | .failed failure =>
          if cfg.comfyPollFailureLimit ≤ failures + 1 then do
            interrupt
            raise (failed "history monitoring"
              (failure ++ " after " ++ toString (failures + 1) ++ " consecutive failures"))
          else do
            sleep
            pollHistory cfg promptId n (failures + 1)

def waitForPrompt (cfg : Settings) (promptId : String) : Method Json := do
  let n ← await Call.polls
  pollHistory cfg promptId n 0

/-! ## `free_models` -/

/-- `_cleanup_status` after the response was read. -/
def checkStatus : Response → Except Raised Json.Fields
  | ⟨status, payload⟩ =>
      if status ≠ 200 then .error (failed "cleanup observation" s!"HTTP {status}")
      else match payload with
        | .obj payload => .ok payload
        | _ => .error (failed "cleanup observation" "invalid status")

/-- `_cleanup_status`. -/
def cleanupStatus (path : String) : Method Json.Fields := do
  let response ← result (← await (Call.status path))
  result (checkStatus response)

/-- Whether a queue is idle. -/
def queueIdle (queue : Json.Fields) : Except Raised Bool :=
  match Json.get queue "queue_running", Json.get queue "queue_pending" with
  | .arr running, .arr pending => .ok (running.isEmpty && pending.isEmpty)
  | _, _ => .error (failed "cleanup observation" "invalid queue status")

/-- The loop of `_wait_for_idle`. -/
def pollIdle : ℕ → Method Unit
  | 0 => raise .timeout
  | n + 1 => do
      let queue ← cleanupStatus "/queue"
      match ← (result (queueIdle queue) : Method Bool) with
      | true => pure ()
      | false => do
          sleep
          pollIdle n

/-- `_wait_for_idle`. -/
def waitForIdle : Method Unit := do
  let n ← await Call.polls
  pollIdle n

/-- The memory of a device: the total, what the driver has free, and what Torch reserves and
could give back. -/
structure Device where
  total : ℤ
  free : ℤ
  reserved : ℤ
  reclaimable : ℤ
  deriving DecidableEq, Repr

/-- One pass of the loop over the devices. -/
def checkDevice : Json → Except Raised Device
  | .obj device =>
      match Json.get device "vram_total", Json.get device "vram_free",
        Json.get device "torch_vram_total", Json.get device "torch_vram_free" with
      | .int total, .int free, .int reserved, .int reclaimable =>
          if total < 0 ∨ free < 0 ∨ reserved < 0 ∨ reclaimable < 0 then
            .error (failed "cleanup observation" "invalid memory status")
          else if free > total ∨ reclaimable > reserved ∨ reclaimable > free then
            .error (failed "cleanup observation" "invalid memory status")
          else .ok ⟨total, free - reclaimable, reserved, reclaimable⟩
      | _, _, _, _ => .error (failed "cleanup observation" "invalid memory status")
  | _ => .error (failed "cleanup observation" "invalid device status")

/-- `current` of `_wait_for_memory_settled`. -/
def checkStats (stats : Json.Fields) : Except Raised (List Device) :=
  match Json.get stats "devices" with
  | .arr (device :: devices) => (device :: devices).mapM checkDevice
  | _ => .error (failed "cleanup observation" "missing memory status")

/-- The loop of `_wait_for_memory_settled`. -/
def pollMemory : ℕ → Option (List Device) → Method Unit
  | 0, _ => raise .timeout
  | n + 1, previous => do
      waitForIdle
      let stats ← cleanupStatus "/system_stats"
      let current ← result (checkStats stats)
      if previous = some current then pure ()
      else do
        sleep
        pollMemory n (some current)

/-- `_wait_for_memory_settled`. -/
def waitForMemorySettled : Method Unit := do
  let n ← await Call.polls
  pollMemory n none

/-- The set `{"tabbyapi", "all"}`. -/
def settles (cfg : Settings) : Bool := cfg.llmBackend == .tabbyapi || cfg.llmBackend == .all

/-- The check of `free_models` on the reply to `/free`. -/
def checkFree (status : ℕ) : Except Raised Unit :=
  if 400 ≤ status then .error (failed "model cleanup" s!"HTTP {status}") else .ok ()

def freeModels (cfg : Settings) : Method Unit :=
  translating "ComfyUI" "model cleanup" (do
    if settles cfg then waitForIdle
    let status ← result (← await Call.free)
    result (checkFree status)
    result (← await Call.sleepFive)
    if settles cfg then waitForMemorySettled)

end StProxy.Comfy
