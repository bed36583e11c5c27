import StProxy.Basic
import StProxy.Workflows.Build

/-!
# Image jobs

`media_jobs.py`: the jobs, their results and the tasks that run them.  A task is
given by where it is suspended; the coordinator, the disk and ComfyUI answer.
-/

namespace StProxy.Media

open Json Workflows

/-- The statuses of jobs, batches and their items; `partialSuccess` is `"partial"`. -/
inductive Status
  | preparing | queued | generating | saving | succeeded | partialSuccess | failed
  deriving DecidableEq, Repr

/-- The status is never to change again. -/
def Status.isFinal : Status → Bool
  | succeeded | partialSuccess | failed => true
  | _ => false

/-- `JobError`, and the dictionary of an error. -/
structure JobError where
  category : String
  message : String
  deriving DecidableEq, Repr

def shutdown : JobError := ⟨"shutdown", "broker is shutting down"⟩

structure Image where
  path : String
  mimeType : String
  deriving DecidableEq, Repr

structure ImageResult where
  parameters : Fields
  status : Status := .preparing
  images : List Image := []
  error : Option JobError := none

/-- A registered reference. -/
structure ReferenceImage where
  workflowId : String
  root : String
  filename : String
  width : ℕ
  height : ℕ

def ReferenceImage.inputs (image : ReferenceImage) : ReferenceInputs :=
  ⟨image.root, "references", image.filename⟩

def ReferenceImage.fingerprint (image : ReferenceImage) : List String :=
  [image.root, "references", image.filename]

/-- How an `await` or a check of a job ends with an exception. -/
inductive Raised
  | cancelled
  | queueFull
  | jobError (e : JobError)
  | other

/-- A task that was cancelled is resumed with an exception, and only such a task with
`CancelledError`: the coordinator sets results of its futures and nothing else. -/
def Delivers {α : Type} (cancelling : Bool) : Except Raised α → Bool
  | .ok _ => !cancelling
  | .error .cancelled => cancelling
  | .error _ => true

/-! ## `_run` -/

/-- Where a task of `_run` is suspended. -/
inductive RunPoint
  | created | submitting | generating | saving
  | done (cancelled : Bool)
  deriving DecidableEq, Repr

structure Run where
  point : RunPoint := .created
  cancelling : Bool := false

def Run.isDone (run : Run) : Bool :=
  match run.point with
  | .done _ => true
  | _ => false

/-- A result and the task that fills it, which a batch creates later. -/
structure Item where
  result : ImageResult
  run : Option Run := none

/-- The handlers of `_run`. -/
def ImageResult.fail (closing : Bool) (stage : String) (e : Raised) (item : ImageResult) :
    ImageResult :=
  { item with
    status := .failed
    error := some <|
      if closing then shutdown
      else match e with
        | .cancelled => shutdown
        | .queueFull => ⟨"queue_full", "workflow queue is full"⟩
        | .jobError e => e
        | .other => ⟨stage, "image job failed during " ++ stage⟩ }

inductive RunAction
  | start
  /-- The handoff, with whether it has a response. -/
  | submitted (answer : Except Raised Bool)
  /-- The outcome, with whether it is an error. -/
  | completed (answer : Except Raised Bool)
  | saved (answer : Except Raised (List Image))

def Item.fail (closing : Bool) (stage : String) (e : Raised) (item : Item) : Item :=
  ⟨item.result.fail closing stage e, some ⟨.done false, false⟩⟩

/-- The task goes on and suspends again. -/
def Item.goto (status : Status) (point : RunPoint) (item : Item) : Item :=
  ⟨{ item.result with status }, some ⟨point, false⟩⟩

/-- `_run` from one suspension to the next.  `body` is what it does before it submits, if it
has no ticket. -/
def Item.step (closing : Bool) (body : Except Raised Unit) (a : RunAction) (item : Item) :
    Option Item :=
  match item.run with
  | none => none
  | some run =>
      match run.point, a with
      | .created, .start =>
          if run.cancelling then some ⟨item.result, some ⟨.done true, false⟩⟩
          else
            match body with
            | .ok () => some (item.goto .queued .submitting)
            | .error e => some (item.fail closing "submission" e)
      | .submitting, .submitted answer =>
          if Delivers run.cancelling answer then
            match answer with
            | .error e => some (item.fail closing "submission" e)
            | .ok false => some (item.fail closing "submission"
                (.jobError ⟨"submission", "image handoff failed before submission"⟩))
            | .ok true => some (item.goto .generating .generating)
          else none
      | .generating, .completed answer =>
          if Delivers run.cancelling answer then
            match answer with
            | .error e => some (item.fail closing "generation" e)
            | .ok true => some (item.fail closing "generation"
                (.jobError ⟨"generation", "image generation did not complete successfully"⟩))
            | .ok false => some (item.goto .saving .saving)
          else none
      | .saving, .saved answer =>
          if Delivers run.cancelling answer then
            match answer with
            | .error e => some (item.fail closing "result" e)
            | .ok images =>
                some ⟨{ item.result with status := .succeeded, images },
                  some ⟨.done false, false⟩⟩
          else none
      | _, _ => none

/-- `task.cancel()` unless the task is done. -/
def Item.cancel (item : Item) : Item :=
  { item with run := item.run.map fun run ↦ if run.isDone then run else ⟨run.point, true⟩ }

/-- No task, or one that is done. -/
def Item.isDone (item : Item) : Bool := item.run.all Run.isDone

/-- The task was cancelled before its first step. -/
def Item.isCancelled (item : Item) : Bool :=
  match item.run with
  | some ⟨.done true, _⟩ => true
  | _ => false

/-! ## `_run_batch` -/

inductive BatchPoint
  | created | entering | submitting | gathering
  /-- At the exit of `image_batch`, after its body or a `CancelledError` there. -/
  | leaving (cancelled : Bool)
  /-- At the last `gather`. -/
  | finishing
  | done (cancelled : Bool)

structure Batch where
  items : List Item
  status : Status := .preparing
  error : Option JobError := none
  point : BatchPoint := .created
  cancelling : Bool := false

def Batch.isDone (batch : Batch) : Bool :=
  match batch.point with
  | .done _ => true
  | _ => false

/-- The handlers of `_run_batch`. -/
def Batch.fail (closing : Bool) (e : Raised) (batch : Batch) : Batch :=
  { batch with
    status := .failed
    error := some <|
      match e with
      | .cancelled => shutdown
      | e =>
          ⟨if closing then "shutdown"
            else match e with
              | .queueFull => "queue_full"
              | .jobError e => e.category
              | _ => "submission",
            "image batch could not complete"⟩ }

/-- The loop over the items at the end. -/
def Batch.finalize (batch : Batch) : Batch :=
  { batch with
    items := batch.items.map fun item ↦
      if item.result.status = .succeeded ∨ item.result.status = .failed then item
      else { item with result := { item.result with status := .failed, error := batch.error } } }

/-- A failure before there are tasks, where the last `gather` does not suspend. -/
def Batch.abandon (closing : Bool) (e : Raised) (batch : Batch) : Batch :=
  { (batch.fail closing e).finalize with point := .done false, cancelling := false }

/-- The `finally` block up to its `gather`. -/
def Batch.finish (batch : Batch) : Batch :=
  { batch with items := batch.items.map Item.cancel, point := .finishing, cancelling := false }

/-- The status of a batch that was not interrupted. -/
def Batch.publish (batch : Batch) : Batch :=
  let succeeded := batch.items.countP fun item ↦ item.result.status = .succeeded
  if succeeded = batch.items.length then { batch with status := .succeeded }
  else
    { batch with
      status := if 0 < succeeded then .partialSuccess else .failed
      error := some ⟨"batch", "one or more images failed"⟩ }

inductive BatchAction
  | start
  | entered (answer : Except Raised Unit)
  | submitted | gathered | left | finished
  | item (index : ℕ) (a : RunAction)

/-- Whether `gather(*tasks)` ends with `CancelledError`, and `none` as long as it waits.  A
task of `_run` raises nothing else. -/
def Batch.gathered (batch : Batch) : Option Bool :=
  if batch.items.any Item.isCancelled then some true
  else if batch.items.all Item.isDone then some batch.cancelling
  else none

/-- `_run_batch` from one suspension to the next, or a step of a task that it created.
`bodies` is the loop that builds the graphs. -/
def Batch.step (closing : Bool) (bodies : Except Raised Unit) (a : BatchAction) (batch : Batch) :
    Option Batch :=
  match batch.point, a with
  | _, .item index a =>
      match batch.items[index]? with
      | some item =>
          (item.step closing (.ok ()) a).map fun item ↦
            { batch with items := batch.items.set index item }
      | none => none
  | .created, .start =>
      if batch.cancelling then some { batch with point := .done true, cancelling := false }
      else
        match bodies with
        | .ok () => some { batch with status := .queued, point := .entering }
        | .error e => some (batch.abandon closing e)
  | .entering, .entered answer =>
      if Delivers batch.cancelling answer then
        match answer with
        | .error e => some (batch.abandon closing e)
        | .ok () => some
            { batch with
              items := batch.items.map fun item ↦ { item with run := some {} }
              point := .submitting }
      else none
  | .submitting, .submitted =>
      if batch.cancelling then some { batch with point := .leaving true, cancelling := false }
      else some { batch with status := .generating, point := .gathering }
  | .gathering, .gathered =>
      batch.gathered.map fun cancelled ↦
        { batch with point := .leaving cancelled, cancelling := false }
  | .leaving cancelled, .left =>
      if batch.cancelling || cancelled then some (batch.fail closing .cancelled).finish
      else if closing then some (batch.fail closing (.jobError shutdown)).finish
      else some batch.publish.finish
  | .finishing, .finished =>
      if batch.items.all Item.isDone then
        if batch.cancelling then some { batch with point := .done true, cancelling := false }
        else some { batch.finalize with point := .done false }
      else none
  | _, _ => none

/-- `task.cancel()` unless the task is done; a `gather` cancels what it waits for. -/
def Batch.cancel (batch : Batch) : Batch :=
  match batch.point with
  | .done _ => batch
  | .gathering | .finishing =>
      { batch with items := batch.items.map Item.cancel, cancelling := true }
  | _ => { batch with cancelling := true }

/-! ## Jobs -/

/-- The arguments of the task of a job. -/
structure Plan where
  workflow : Workflow
  values : List Fields
  references : List (List ReferenceImage)

inductive Work
  | image (item : Item)
  | batch (batch : Batch)

/-- `ImageJob` or `BatchJob`, with its task. -/
structure Job (F : Type) where
  workflowId : String
  fingerprint : F
  plan : Plan
  work : Work

/-- The limits and the length of `json.dumps({"prompt": graph}, allow_nan=False).encode()`,
`none` where that raises. -/
structure Limits where
  cfg : BrokerConfig
  bodySize : Graph → Option ℕ

/-- The body of one image. -/
def bodyOf (limits : Limits) (workflow : Workflow) (values : Fields)
    (references : List ReferenceImage) : Except Raised ℕ :=
  match workflow.build values (references.map ReferenceImage.inputs) with
  | .error _ => .error .other
  | .ok g =>
      match limits.bodySize g with
      | none => .error .other
      | some size => .ok size

/-- The loop over the images of a batch, from a sum of sizes on. -/
def bodiesFrom (limits : Limits) (workflow : Workflow) :
    List (Fields × List ReferenceImage) → ℕ → Except Raised Unit
  | [], _ => .ok ()
  | (values, references) :: rest, total =>
      match bodyOf limits workflow values references with
      | .error e => .error e
      | .ok size =>
          if limits.cfg.maxWorkflowBodyBytes < size then
            .error (.jobError ⟨"validation", "workflow request body exceeds the size limit"⟩)
          else if limits.cfg.maxQueuedWorkflowBytes < total + size then
            .error (.jobError ⟨"queue_full", "workflow batch exceeds the queue memory limit"⟩)
          else bodiesFrom limits workflow rest (total + size)

/-- What the task of a job does before it submits. -/
def Plan.bodies (limits : Limits) (plan : Plan) (batch : Bool) : Except Raised Unit :=
  let images := plan.values.zip plan.references
  if batch then bodiesFrom limits plan.workflow images 0
  else images.forM fun (values, references) ↦
    (bodyOf limits plan.workflow values references).map fun _ ↦ ()

inductive TaskAction
  | image (a : RunAction)
  | batch (a : BatchAction)

section Job

variable {F : Type}

def Job.step (limits : Limits) (closing : Bool) (a : TaskAction) (job : Job F) : Option (Job F) :=
  match job.work, a with
  | .image item, .image a =>
      (item.step closing (job.plan.bodies limits false) a).map fun item ↦
        { job with work := .image item }
  | .batch batch, .batch a =>
      (batch.step closing (job.plan.bodies limits true) a).map fun batch ↦
        { job with work := .batch batch }
  | _, _ => none

/-- `job.task.done()`. -/
def Job.isDone (job : Job F) : Bool :=
  match job.work with
  | .image item => item.isDone
  | .batch batch => batch.isDone

/-- `job.task.cancelled()`. -/
def Job.isCancelled (job : Job F) : Bool :=
  match job.work with
  | .image item => item.isCancelled
  | .batch batch =>
      match batch.point with
      | .done cancelled => cancelled
      | _ => false

/-- How many images the job counts for. -/
def Job.size (job : Job F) : ℕ :=
  match job.work with
  | .image _ => 1
  | .batch batch => batch.items.length

/-- What `close` does to a job: its task is cancelled and it is marked as failed. -/
def Job.close (job : Job F) : Job F :=
  if job.isDone then job
  else
    match job.work with
    | .image item =>
        { job with
          work := .image { item.cancel with
            result := { item.result with status := .failed, error := some shutdown } } }
    | .batch batch =>
        { job with work := .batch { batch.cancel with status := .failed, error := some shutdown } }

/-- What `result` returns. -/
inductive JobResult
  | image (jobId workflowId : String) (result : ImageResult)
  | batch (jobId workflowId : String) (status : Status) (items : List ImageResult)
      (error : Option JobError)

def Job.result (jobId : String) (job : Job F) : JobResult :=
  match job.work with
  | .image item => .image jobId job.workflowId item.result
  | .batch batch =>
      .batch jobId job.workflowId batch.status (batch.items.map Item.result) batch.error

end Job

end StProxy.Media
