import Mathlib.Algebra.GroupWithZero.Nat
import StProxy.Lib.TransitionSystem
import StProxy.Media.Jobs

/-!
# The registry of jobs and the calls on it

`MediaJobs` as a step relation: calls of its methods are suspended while references
are read and while a job is waited for, and the tasks of the jobs run in between.
-/

namespace StProxy.Media

open Json Checked Workflows

/-- What `_generate` takes the fingerprint of. -/
structure Request where
  batch : Bool
  workflowId : String
  values : List Fields
  references : List (List (List String))
  deriving DecidableEq

/-- What does not change while the broker runs.  `fingerprint` is the keyed hash of the
serialized request. -/
structure Service (F : Type) where
  limits : Limits
  catalog : List (String × Workflow)
  fingerprint : Request → F

/-- How a call fails. -/
inductive CallError
  | job (e : JobError)
  | workflow (message : String)
  | lookupError
  | cancelled

def CallError.ofRaised : Workflows.Raised → CallError
  | .workflowError message => .workflow message
  | .lookupError => .lookupError

/-- A call of `_generate` whose parameters were normalized. -/
structure Asked where
  jobId : String
  workflowId : String
  batch : Bool
  workflow : Workflow
  values : List Fields

def Asked.request (asked : Asked) (references : List (List ReferenceImage)) : Request :=
  ⟨asked.batch, asked.workflowId, asked.values,
    references.map fun images ↦ images.map ReferenceImage.fingerprint⟩

/-- A call that waits until the file of a reference is read: the references before it,
the image that is verified and what is still to be resolved. -/
structure Cursor where
  asked : Asked
  resolved : List (List ReferenceImage)
  current : List ReferenceImage
  image : ReferenceImage
  ids : List String
  rest : List Json

inductive Call
  | idle
  | resolving (cursor : Cursor)
  | waiting (jobId : String)
  | returned (result : JobResult)
  | raised (e : CallError)

/-- A call that reached the registry, for the history. -/
structure Arrival where
  call : ℕ
  jobId : String
  request : Request

structure State (F : Type) where
  closing : Bool := false
  images : List (String × ReferenceImage) := []
  jobs : List (String × Job F) := []
  calls : ℕ → Call := fun _ ↦ .idle
  /-- The calls of `close`, with the jobs that each waits for. -/
  closers : List (List String) := []
  /-- Whether a call of `close` has returned. -/
  closed : Bool := false
  /-- The jobs whose tasks were created, with their requests. -/
  created : List (String × Request) := []
  /-- How many seeds were drawn. -/
  draws : ℕ := 0
  arrivals : List Arrival := []

/-! ## Before the registry -/

def validation (message : String) : CallError := .job ⟨"validation", message⟩

def conflict : CallError := .job ⟨"conflict", "job_id already belongs to another request"⟩

def capacityExhausted : CallError := .job ⟨"queue_full", "MCP image capacity is exhausted"⟩

def isIdChar (c : Char) : Bool :=
  ('A' ≤ c ∧ c ≤ 'Z') ∨ ('a' ≤ c ∧ c ≤ 'z') ∨ ('0' ≤ c ∧ c ≤ '9') ∨ c = '_' ∨ c = '-'

/-- `re.fullmatch(r"[A-Za-z0-9_-]{1,128}", job_id)`. -/
def isJobId (jobId : String) : Bool :=
  decide (1 ≤ jobId.toList.length ∧ jobId.toList.length ≤ 128) && jobId.toList.all isIdChar

/-- The parameters and the references of an item of a batch. -/
def batchItem (item : Json) : Except CallError (Json × Json) :=
  match item with
  | .obj fields =>
      match fields.lookup "parameters" with
      | some (.obj parameters) =>
          if fields.all fun field ↦ ["parameters", "references"].contains field.1 then
            .ok (.obj parameters, (fields.lookup "references").getD (.arr []))
          else .error (validation "unknown batch item field")
      | _ => .ok (item, .arr [])
  | _ => .ok (item, .arr [])

/-- The first part of `generate_batch`. -/
def batchItems (limit : ℕ) (items : Json) : Except CallError (List (Json × Json)) :=
  match items with
  | .arr l =>
      if 1 ≤ l.length ∧ l.length ≤ limit then l.mapM batchItem
      else .error (validation "items must be non-empty and within the image queue limit")
  | _ => .error (validation "items must be non-empty and within the image queue limit")

/-- The first part of `generate`. -/
def imageItem (parameters references : Json) : Json × Json :=
  match references with
  | .null => (parameters, .arr [])
  | references => (parameters, references)

def findImage (images : List (String × ReferenceImage)) (workflow : Workflow) (id : String) :
    Except CallError ReferenceImage :=
  match images.lookup id with
  | some image =>
      if image.workflowId = workflow.id then .ok image
      else .error (.workflow "reference ID is unknown for this workflow; register it again")
  | none => .error (.workflow "reference ID is unknown for this workflow; register it again")

/-- The identifiers of a list of references. -/
def referenceIds (workflow : Workflow) (ids : Json) : Except CallError (List String) :=
  match ids with
  | .arr l =>
      match namesOf l with
      | none => .error (.workflow "invalid reference list for this workflow")
      | some names =>
          match workflow.validateReferenceCount names.length with
          | .ok () => .ok names
          | .error e => .error (.ofRaised e)
  | _ => .error (.workflow "invalid reference list for this workflow")

/-- `resolve` for the rest of the items, up to the next file. -/
def resolveFrom (images : List (String × ReferenceImage)) (asked : Asked) :
    List (List ReferenceImage) → List Json →
      Except CallError (List (List ReferenceImage) ⊕ Cursor)
  | resolved, [] => .ok (.inl resolved)
  | resolved, ids :: rest =>
      match referenceIds asked.workflow ids with
      | .error e => .error e
      | .ok [] => resolveFrom images asked (resolved ++ [[]]) rest
      | .ok (id :: ids) =>
          (findImage images asked.workflow id).map fun image ↦
            .inr ⟨asked, resolved, [], image, ids, rest⟩

/-- `resolve` after a file was verified. -/
def Cursor.next (images : List (String × ReferenceImage)) (cursor : Cursor) :
    Except CallError (List (List ReferenceImage) ⊕ Cursor) :=
  let current := cursor.current ++ [cursor.image]
  match cursor.ids with
  | [] => resolveFrom images cursor.asked (cursor.resolved ++ [current]) cursor.rest
  | id :: ids =>
      (findImage images cursor.asked.workflow id).map fun image ↦
        .inr { cursor with current, image, ids }

section Service

variable {F : Type} (service : Service F)

/-- `_generate` up to its first reference. -/
def ask (closing : Bool) (jobId workflowId : String) (batch : Bool) (items : List Json) :
    Except CallError Asked := do
  check (closing = false) (.job shutdown)
  check (isJobId jobId = true) (validation "job_id must be 1-128 letters, digits, _ or -")
  match service.catalog.lookup workflowId with
  | some workflow =>
      match items.mapM workflow.normalize with
      | .ok values => pure ⟨jobId, workflowId, batch, workflow, values⟩
      | .error message => .error (.workflow message)
  | none => .error (.workflow "unknown or unavailable workflow")

/-! ## At the registry -/

/-- The images that count against the limit. -/
def activeItems (jobs : List (String × Job F)) : ℕ :=
  ((jobs.filter fun job ↦ !job.2.isDone).map fun job ↦ job.2.size).sum

/-- The parameters that a result shows. -/
def isPublic (workflow : Workflow) (values : Fields) : Fields :=
  values.filter fun field ↦
    !((workflow.parameters.lookup field.1).any fun spec ↦ flag spec.fields "private")

/-- The job of a request, with its task. -/
def newJob (asked : Asked) (values : List Fields) (references : List (List ReferenceImage))
    (fingerprint : F) : Job F :=
  let results : List ImageResult :=
    values.map fun v ↦ ⟨isPublic asked.workflow v, .preparing, [], none⟩
  { workflowId := asked.workflowId
    fingerprint
    plan := ⟨asked.workflow, values, references⟩
    work :=
      if asked.batch then .batch { items := results.map fun result ↦ ⟨result, none⟩ }
      else .image ⟨results.headD ⟨[], .preparing, [], none⟩, some {}⟩ }

namespace State

variable {service} (s : State F)

def setCall (c : ℕ) (call : Call) : State F :=
  { s with calls := Function.update s.calls c call }

/-- What a waiter gets when the task is done: it is cancelled with the task, unless the
broker is closing. -/
def outcomeOf (closing : Bool) (jobId : String) (job : Job F) : Call :=
  if job.isCancelled && !closing then .raised .cancelled else .returned (job.result jobId)

/-- Where `get_job` leaves a call. -/
def joined (jobId : String) (wait : Bool) : Call :=
  match s.jobs.lookup jobId with
  | none => .raised (.job ⟨"not_found", "job is unknown in this broker process"⟩)
  | some job =>
      if wait then
        if job.isDone then outcomeOf s.closing jobId job else .waiting jobId
      else .returned (job.result jobId)

/-- `get_job` up to its `await`. -/
def join (c : ℕ) (jobId : String) (wait : Bool) : State F := s.setCall c (s.joined jobId wait)

/-- The call is at the registry. -/
def logged (c : ℕ) (jobId : String) (request : Request) : State F :=
  { s with arrivals := ⟨c, jobId, request⟩ :: s.arrivals }

variable (service)

/-- A new job in the registry. -/
def create (asked : Asked) (references : List (List ReferenceImage)) (randbelow : ℕ → ℤ → ℤ) :
    State F :=
  let request := asked.request references
  let values := asked.values.zipIdx.map fun (values, i) ↦
    asked.workflow.resolveSeed (randbelow i) values
  { s with
    jobs := s.jobs ++
      [(asked.jobId, newJob asked values references (service.fingerprint request))]
    created := s.created ++ [(asked.jobId, request)]
    draws := s.draws + asked.values.countP asked.workflow.drawsSeed }

variable [DecidableEq F]

/-- The last part of `_generate`, without an `await` before it joins the job. -/
def arrive (c : ℕ) (asked : Asked) (references : List (List ReferenceImage))
    (randbelow : ℕ → ℤ → ℤ) : State F :=
  if s.closing then s.setCall c (.raised (.job shutdown))
  else
    let request := asked.request references
    let s := s.logged c asked.jobId request
    match s.jobs.lookup asked.jobId with
    | some job =>
        if job.fingerprint = service.fingerprint request then s.join c asked.jobId true
        else s.setCall c (.raised conflict)
    | none =>
        if service.limits.cfg.maxQueuedImages < activeItems s.jobs + asked.values.length then
          s.setCall c (.raised capacityExhausted)
        else (s.create service asked references randbelow).join c asked.jobId true

/-- A call goes on with what `resolve` found. -/
def proceed (c : ℕ) (asked : Asked)
    (found : Except CallError (List (List ReferenceImage) ⊕ Cursor)) (randbelow : ℕ → ℤ → ℤ) :
    State F :=
  match found with
  | .error e => s.setCall c (.raised e)
  | .ok (.inr cursor) => s.setCall c (.resolving cursor)
  | .ok (.inl references) => s.arrive service c asked references randbelow

/-- `_generate` up to its first `await`. -/
def generate (c : ℕ) (jobId workflowId : String) (batch : Bool) (items : List (Json × Json))
    (randbelow : ℕ → ℤ → ℤ) : State F :=
  match ask service s.closing jobId workflowId batch (items.map Prod.fst) with
  | .error e => s.setCall c (.raised e)
  | .ok asked =>
      s.proceed service c asked (resolveFrom s.images asked [] (items.map Prod.snd)) randbelow

omit [DecidableEq F] in
/-- The step of the task of a job. -/
def stepJob (jobId : String) (a : TaskAction) : Option (State F) :=
  match s.jobs.lookup jobId with
  | none => none
  | some job =>
      (job.step service.limits s.closing a).map fun job' ↦
        { s with jobs := s.jobs.map fun entry ↦
            if entry.1 = jobId then (jobId, job') else entry }

end State

inductive Action
  | generate (c : ℕ) (jobId workflowId : String) (parameters references : Json)
      (randbelow : ℕ → ℤ → ℤ)
  | generateBatch (c : ℕ) (jobId workflowId : String) (items : Json) (randbelow : ℕ → ℤ → ℤ)
  /-- A file was read, with what was wrong with it. -/
  | verified (c : ℕ) (failure : Option String) (randbelow : ℕ → ℤ → ℤ)
  | getJob (c : ℕ) (jobId : String) (wait : Bool)
  /-- The task that a call waits for is done. -/
  | wake (c : ℕ)
  | cancelCall (c : ℕ)
  | registered (id : String) (image : ReferenceImage)
  | task (jobId : String) (a : TaskAction)
  | stopAccepting
  | close
  | closeReturns (n : ℕ)

def step [DecidableEq F] (s : State F) : Action → Option (State F)
  | .generate c jobId workflowId parameters references randbelow =>
      match s.calls c with
      | .idle => some
          (s.generate service c jobId workflowId false [imageItem parameters references] randbelow)
      | _ => none
  | .generateBatch c jobId workflowId items randbelow =>
      match s.calls c with
      | .idle =>
          match batchItems service.limits.cfg.maxQueuedImages items with
          | .error e => some (s.setCall c (.raised e))
          | .ok items => some (s.generate service c jobId workflowId true items randbelow)
      | _ => none
  | .verified c failure randbelow =>
      match s.calls c with
      | .resolving cursor =>
          match failure with
          | some message => some (s.setCall c (.raised (.workflow message)))
          | none => some
              (s.proceed service c cursor.asked (cursor.next s.images) randbelow)
      | _ => none
  | .getJob c jobId wait =>
      match s.calls c with
      | .idle => some (s.join c jobId wait)
      | _ => none
  | .wake c =>
      match s.calls c with
      | .waiting jobId =>
          match s.jobs.lookup jobId with
          | some job =>
              if job.isDone then some (s.setCall c (State.outcomeOf s.closing jobId job)) else none
          | none => none
      | _ => none
  | .cancelCall c =>
      match s.calls c with
      | .resolving _ => some (s.setCall c (.raised .cancelled))
      | .waiting jobId =>
          match s.jobs.lookup jobId with
          | some job =>
              if s.closing && job.isCancelled then some (s.setCall c (.returned (job.result jobId)))
              else some (s.setCall c (.raised .cancelled))
          | none => none
      | _ => none
  | .registered id image =>
      if s.images.lookup id = none then some { s with images := s.images ++ [(id, image)] }
      else none
  | .task jobId a => s.stepJob service jobId a
  | .stopAccepting => some { s with closing := true }
  | .close => some
      { s with
        closing := true
        jobs := s.jobs.map fun entry ↦ (entry.1, entry.2.close)
        closers := s.closers ++ [s.jobs.map Prod.fst] }
  | .closeReturns n =>
      match s.closers[n]? with
      | some ids =>
          if ∀ entry ∈ s.jobs, entry.1 ∈ ids → entry.2.isDone = true then
            some { s with closed := true }
          else none
      | none => none

def system [DecidableEq F] : TransitionSystem (State F) Action where
  init s := s = {}
  step := step service

end Service

end StProxy.Media
