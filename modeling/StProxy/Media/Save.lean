import Mathlib.Algebra.Group.Nat.Defs
import StProxy.Lib.Async
import StProxy.Lib.Checked
import StProxy.Media.Jobs

/-!
# `_save`

The resolution of the references of an image, the transfers into a staging directory and
its publication, on the two directories of one call.  Their names are new.
-/

namespace StProxy.Media.Save

open Async Checked Json Workflows

def maxImageBytes : ℕ := 64 * 1024 ^ 2

def maxImages : ℕ := 64

/-- `MIME_EXTENSIONS`. -/
def extensions : List (String × String) :=
  [("image/png", ".png"), ("image/jpeg", ".jpg"), ("image/webp", ".webp")]

abbrev Bytes : Type := List UInt8

/-- The files of a directory by name, in the order of their creation. -/
abbrev Folder : Type := List (String × Bytes)

structure Disk where
  staging : Option Folder
  final : Option Folder
  deriving DecidableEq, Repr

/-- Write to a new file, or to the end of a file. -/
def Folder.append (name : String) (data : Bytes) : Folder → Folder
  | [] => [(name, data)]
  | file :: folder =>
      if file.1 = name then (name, file.2 ++ data) :: folder
      else file :: Folder.append name data folder

/-- What the threads of `_disk` do. -/
inductive DiskOp
  | mkdir
  | copyLocal (path root name : String)
  | writeChunk (name : String) (chunk : Bytes) (first : Bool)
  | replace
  | removeFinal
  | removeStaging

/-- A write that fails may have written a part. -/
abbrev Written : Type := Except (Bytes × Raised) Unit

/-- What `_copy_local` meets: whether the resolved path is a file under the root, and what it
reads up to the end of the file or an error. -/
structure CopyFacts where
  resolved : Except Raised Bool
  opened : Except Raised Unit
  reads : List ({ chunk : Bytes // chunk ≠ [] } × Written)
  ending : Except Raised Unit
  closed : Except Raised Unit

/-- The contents of the file that was read. -/
def CopyFacts.body (facts : CopyFacts) : Bytes := (facts.reads.map fun read ↦ read.1.val).flatten

def DiskOp.Facts : DiskOp → Type
  | .copyLocal .. => CopyFacts
  | .writeChunk .. => Written
  | .removeFinal | .removeStaging => Unit
  | _ => Except Raised Unit

def failed (message : String) : Raised := .jobError ⟨"result", message⟩

/-- The loop of `_copy_local` after `copied` bytes. -/
def copyLoop (ending : Except Raised Unit) :
    List ({ chunk : Bytes // chunk ≠ [] } × Written) → ℕ → Bytes → Bytes × Except Raised ℕ
  | [], copied, file => (file, ending.map fun _ ↦ copied)
  | (chunk, written) :: reads, copied, file =>
      if maxImageBytes < copied + chunk.val.length then
        (file, .error (failed "image exceeds the transfer limit"))
      else match written with
        | .error (data, e) => (file ++ data, .error e)
        | .ok () => copyLoop ending reads (copied + chunk.val.length) (file ++ chunk.val)

/-- A new file can be opened. -/
def Disk.admits (disk : Disk) (name : String) : Bool :=
  match disk.staging with
  | some folder => !(folder.map Prod.fst).contains name
  | none => false

def Disk.write (name : String) (data : Bytes) (disk : Disk) : Disk :=
  { disk with staging := disk.staging.map (Folder.append name data) }

/-- `_copy_local`. -/
def copyLocal (name : String) (facts : CopyFacts) (disk : Disk) : Disk × Except Raised Unit :=
  match facts.resolved, facts.opened with
  | .error e, _ => (disk, .error e)
  | .ok false, _ =>
      (disk, .error (failed "resolved image is outside the configured output root"))
  | .ok true, .error e => (disk, .error e)
  | .ok true, .ok () =>
      if disk.admits name then
        let (data, copied) := copyLoop facts.ending facts.reads 0 []
        (disk.write name data, do
          check ((← copied) ≠ 0) (failed "image is empty")
          facts.closed)
      else (disk, .error .other)

/-- `_write_chunk`. -/
def writeChunk (name : String) (chunk : Bytes) (first : Bool) (written : Written) (disk : Disk) :
    Disk × Except Raised Unit :=
  if (if first then disk.admits name else disk.staging.isSome) then
    match written with
    | .ok () => (disk.write name chunk, .ok ())
    | .error (data, e) => (disk.write name data, .error e)
  else (disk, .error .other)

/-- `os.replace`. -/
def Disk.replace (disk : Disk) : Disk × Except Raised Unit :=
  match disk.staging, disk.final with
  | some folder, none | some folder, some [] => (⟨none, some folder⟩, .ok ())
  | _, _ => (disk, .error .other)

/-- A thread of `_disk` from its start to its end. -/
def perform : (op : DiskOp) → op.Facts → Disk → Disk × Except Raised Unit
  | .mkdir, fact, disk =>
      match fact, disk.staging with
      | .error e, _ => (disk, .error e)
      | .ok (), some _ => (disk, .error .other)
      | .ok (), none => ({ disk with staging := some [] }, .ok ())
  | .copyLocal _ _ name, facts, disk => copyLocal name facts disk
  | .writeChunk name chunk first, written, disk => writeChunk name chunk first written disk
  | .replace, fact, disk =>
      match fact with
      | .error e => (disk, .error e)
      | .ok () => disk.replace
  | .removeFinal, _, disk => ({ disk with final := none }, .ok ())
  | .removeStaging, _, disk => ({ disk with staging := none }, .ok ())

/-! ## The awaits -/

/-- The cancellations of the task while it waits in `_disk`, which leave it as `e`: as
`CancelledError`, or as `TimeoutError` where a deadline sent them. -/
inductive Interrupt
  | none
  | once (e : Raised)
  | twice (e : Raised)

/-- A file that is to be saved. -/
inductive Source
  | helto (path root : String)
  | comfy (filename subfolder type : String)

/-- A response of `/view`: the chunks that are received, how their iteration ends, and whether
the response is closed without an exception. -/
structure View where
  status : ℕ
  contentType : String
  chunks : List Bytes
  ending : Except Raised Unit
  closed : Except Raised Unit

inductive Call
  | resolve (token : String)
  | view (source : Source) (index : ℕ)
  | disk (op : DiskOp)

def Answer : Call → Type
  | .resolve _ => Except Raised (ℕ × Json)
  | .view .. => Except Raised View
  | .disk op => op.Facts × Interrupt

abbrev Method (α : Type) : Type := Async Disk Call Answer Raised α

abbrev Log : Type := Exchanges Call Answer

/-- How `_disk` ends.  The second cancellation does not wait for the thread. -/
def Interrupt.leave (result : Except Raised Unit) : Interrupt → Except Raised Unit
  | .none => result
  | .once e => result.bind fun _ ↦ .error e
  | .twice e => .error e

/-- `_disk`. -/
def disk (op : DiskOp) : Method Unit := do
  let (facts, interrupt) ← await (Call.disk op)
  let outcome := perform op facts (← self)
  modify fun _ ↦ outcome.1
  result (interrupt.leave outcome.2)

/-! ## Resolution -/

def invalidReference : Raised := failed "invalid ComfyUI image reference"

/-- The records of a configured output. -/
def recordsOf (outputs : Fields) (output : Output) : Except Raised (List Json) :=
  match Json.get outputs output.node with
  | .obj entry =>
      match Json.get entry (match output.adapter with
        | .comfyImages => "images"
        | .heltoSavedImages => "helto_saved_images") with
      | .arr (record :: records) => .ok (record :: records)
      | _ => .error (failed "configured output has no images")
  | _ => .error (failed "configured output has no images")

/-- `_json` after the response was read. -/
def checkResolved : ℕ × Json → Except Raised Json
  | (status, payload) =>
      if status ≠ 200 then .error (.jobError ⟨"upstream", "ComfyUI operation was rejected"⟩)
      else .ok payload

/-- The checks of a resolved reference. -/
def heltoSource (w : Workflow) (node : String) (payload : Json) : Except Raised Source :=
  match payload with
  | .obj fields =>
      match Json.get fields "path" with
      | .str path =>
          if (Json.get fields "schema_version").eq (.int 1) = true ∧ isAbsolute path = true ∧
              (Json.get fields "media_type").eq (.str "image/png") = true then
            match w.sourceRoots.lookup node with
            | some root => .ok (.helto path root)
            | none => .error .other
          else .error (failed "invalid resolved Helto reference")
      | _ => .error (failed "invalid resolved Helto reference")
  | _ => .error (failed "invalid resolved Helto reference")

/-- A backslash or a null character. -/
def hasForeign (name : String) : Bool := name.toList.any fun c ↦ c.toNat == 92 || c.toNat == 0

/-- The reference names a file below the output directory. -/
def isPlainReference (filename subfolder : String) : Bool :=
  filename != "" && !filename.toList.contains '/' && !hasForeign filename &&
    filename != "." && filename != ".." && !isAbsolute subfolder && !hasParent subfolder &&
    !hasForeign subfolder

/-- The checks of a ComfyUI reference.  A type that cannot be hashed raises `TypeError`. -/
def comfySource (record : Fields) : Except Raised Source :=
  match Json.get record "filename", (record.lookup "subfolder").getD (.str "") with
  | .str filename, .str subfolder =>
      if isPlainReference filename subfolder then
        match (record.lookup "type").getD (.str "output") with
        | .str type =>
            if type = "output" ∨ type = "temp" then .ok (.comfy filename subfolder type)
            else .error invalidReference
        | .arr _ | .obj _ => .error .other
        | _ => .error invalidReference
      else .error invalidReference
  | _, _ => .error invalidReference

/-- One pass of the loop over the records. -/
def resolveRecord (w : Workflow) (output : Output) (record : Json) : Method Source :=
  match record, output.adapter with
  | .obj record, .heltoSavedImages =>
      match Json.get record "reference_token" with
      | .str token => do
          result (check (1 ≤ token.length ∧ token.length ≤ 128)
            (failed "invalid Helto image reference"))
          let payload ← result ((← await (Call.resolve token)).bind checkResolved)
          result (heltoSource w output.node payload)
      | _ => raise (failed "invalid Helto image reference")
  | .obj record, .comfyImages => result (comfySource record)
  | _, _ => raise (failed "invalid image reference")

/-- One pass of the loop over the outputs. -/
def resolveOutput (w : Workflow) (outputs : Fields) (sources : List Source) (output : Output) :
    Method (List Source) := do
  let records ← result (recordsOf outputs output)
  result (check (sources.length + records.length ≤ maxImages) (failed "too many output images"))
  records.foldlM (fun sources record ↦ do
    let source ← resolveRecord w output record
    pure (sources ++ [source])) sources

def resolveSources (w : Workflow) (outputs : Json) : Method (List Source) :=
  match outputs with
  | .obj outputs => w.outputs.foldlM (resolveOutput w outputs) []
  | _ => raise (failed "image outputs are missing")

/-! ## Transfers -/

/-- The extension of a response that is not rejected. -/
def extensionOf (view : View) : Except Raised String :=
  match extensions.lookup view.contentType with
  | some extension => if view.status = 200 then .ok extension else .error rejected
  | none => .error rejected
where
  rejected : Raised := failed "image download was rejected"

/-- The loop of `_download` after `total` bytes. -/
def receive (name : String) : List Bytes → ℕ → Method ℕ
  | [], total => pure total
  | chunk :: chunks, total => do
      result (check (total + chunk.length ≤ maxImageBytes)
        (failed "image exceeds the transfer limit"))
      disk (.writeChunk name chunk (total == 0))
      receive name chunks (total + chunk.length)

/-- `_download`. -/
def download (source : Source) (index : ℕ) : Method (String × String) := do
  let view ← result (← await (Call.view source index))
  andFinally (result view.closed) (do
    let extension ← result (extensionOf view)
    let name := toString index ++ extension
    let total ← receive name view.chunks 0
    result view.ending
    result (check (total ≠ 0) (failed "image is empty"))
    pure (name, view.contentType))

/-- One pass of the loop over the sources. -/
def transfer (final : String) (images : List Image) (entry : Source × ℕ) : Method (List Image) :=
  match entry with
  | (.helto path root, index) => do
      let name := toString index ++ ".png"
      disk (.copyLocal path root name)
      pure (images ++ [⟨final ++ "/" ++ name, "image/png"⟩])
  | (source, index) => do
      let (name, mime) ← download source index
      pure (images ++ [⟨final ++ "/" ++ name, mime⟩])

/-- The body of the `try` statement. -/
def transferAll (final : String) (sources : List Source) : Method (List Image) := do
  disk .mkdir
  let images ← sources.zipIdx.foldlM (transfer final) []
  disk .replace
  pure images

/-- `except BaseException`. -/
def discarding (p : Method (List Image)) : Method (List Image) :=
  handle (fun e ↦ do
    disk .removeFinal
    raise e) p

/-- `_save`, with the path of the final directory. -/
def save (w : Workflow) (outputs : Json) (final : String) : Method (List Image) := do
  let sources ← resolveSources w outputs
  andFinally (disk .removeStaging) (discarding (transferAll final sources))

end StProxy.Media.Save
