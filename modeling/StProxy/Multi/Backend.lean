import StProxy.Basic
import StProxy.Lib.Async

/-!
# `MultiBackend`

The adapter of mode `all`.  Its methods are coroutines that suspend at the calls
to the adapters of the single engines.  The dictionary of adapters has the keys
and the order that `build_llm_backend` gives it.

`P` is the type of the parameters saved in a restore point of TabbyAPI.
-/

namespace StProxy.Multi

open Async

inductive Engine
  | koboldcpp | tabbyapi | sc117 | orca | sc117_128k | orca_128k | prism
  deriving DecidableEq, Repr

/-- The keys of `backends`. -/
def backends : List Engine :=
  [.koboldcpp, .tabbyapi, .sc117, .orca, .sc117_128k, .orca_128k, .prism]

theorem mem_backends (e : Engine) : e ∈ backends := by
  cases e <;> decide

/-- `MultiTarget`; `engine` is `none` for a string that is no key of `backends`. -/
structure MultiTarget where
  engine : Option Engine
  model : String
  deriving DecidableEq, Repr

/-- The restore points of the single engines. -/
inductive RestorePoint (P : Type)
  | koboldcpp (model : String)
  | tabbyapi (model : String) (parameters : P)
  | strata (model : String) (kind : Engine)
  | prism (model : String)

/-- The attributes of `MultiBackend`. -/
structure MultiBackend (P : Type) where
  active : Option MultiTarget
  saved : Engine × String → Option (RestorePoint P)
  pending : Option MultiTarget
  routerFailed : Bool
  koboldReleased : Bool

/-- `MultiBackend.__init__`. -/
def MultiBackend.initial {P : Type} : MultiBackend P := ⟨none, fun _ ↦ none, none, false, false⟩

/-- The calls to the adapter of an engine. -/
inductive Call (P : Type)
  | validateControl (engine : Engine)
  | observeReady (engine : Engine)
  | releaseGpu (engine : Engine) (target : RestorePoint P)
  | requestTarget (engine : Engine) (model : String)
  | acquireGpu (engine : Engine) (target : RestorePoint P)

/-- How the calls end.  `TabbyApiBackend.release_gpu` changes the restore point it
is given, also when it raises, so its value after the call is part of the answer. -/
def Answer {P : Type} : Call P → Type
  | .validateControl _ => Except Exn Unit
  | .observeReady _ => Except Exn (Option (RestorePoint P))
  | .releaseGpu _ _ => RestorePoint P × Except Exn Unit
  | .requestTarget _ _ => Except Exn (RestorePoint P)
  | .acquireGpu _ _ => Except Exn (RestorePoint P)

/-- The code of a method of `MultiBackend`. -/
abbrev Method (P α : Type) : Type := Async (MultiBackend P) (Call P) Answer Exn α

variable {P : Type}

/-- `self.info.label`. -/
def label : String := "LLM backends"

/-- `target.engine == engine` of a target that may be `None`. -/
def OfEngine (engine : Engine) (target : Option MultiTarget) : Prop :=
  ∃ t ∈ target, t.engine = some engine

instance (engine : Engine) (target : Option MultiTarget) : Decidable (OfEngine engine target) :=
  inferInstanceAs (Decidable (∃ t ∈ target, t.engine = some engine))

def validateEngine (engine : Engine) : Method P Unit := do
  result (← await (Call.validateControl engine))

def validateControl : Method P PUnit := backends.forM validateEngine

def observeEngine (engine : Engine) : Method P (Option (RestorePoint P)) := do
  result (← await (Call.observeReady engine))

/-- `request_failed`, which is no coroutine. -/
def requestFailed (target : MultiTarget) (s : MultiBackend P) : MultiBackend P :=
  if target.engine = some .koboldcpp then { s with routerFailed := true, koboldReleased := false }
  else s

/-- One pass of the loop of `observe_ready`. -/
def observeOccupied (occupied : Bool) (engine : Engine) : Method P Bool := do
  let observed ← observeEngine engine
  pure (occupied || observed.isSome)

def observeReady : Method P (Option MultiTarget) := do
  let occupied ← backends.foldlM observeOccupied (← self).pending.isSome
  let s ← self
  pure (if occupied then some (s.active.getD ⟨none, ""⟩) else none)

def snapshotReady : Method P MultiTarget := do
  match ← observeReady with
  | some observed => pure observed
  | none => raise (backendError label "readiness" "no active model")

/-! ## `_release` -/

/-- The native unload, which is confirmed once. -/
def unloadKobold : Method P Unit := do
  let (_, r) ← await (Call.releaseGpu .koboldcpp (.koboldcpp ""))
  result r
  modify fun s ↦ { s with koboldReleased := true }

def confirmKobold : Method P Unit := do
  let s ← self
  if s.koboldReleased then pure () else unloadKobold

def releaseKobold : Method P Unit := do
  confirmKobold
  modify fun s ↦ { s with routerFailed := false }

/-- `_saved[(engine, self.active.model)] = restore`, if the engine is active. -/
def saveActive (engine : Engine) (restore : RestorePoint P) (s : MultiBackend P) :
    MultiBackend P :=
  match s.active with
  | some t =>
      if t.engine = some engine then
        { s with saved := Function.update s.saved (engine, t.model) (some restore) }
      else s
  | none => s

/-- The saved entry is the object that `release_gpu` is given. -/
def releaseNative (engine : Engine) : Method P Unit := do
  match ← observeEngine engine with
  | none => pure ()
  | some observed =>
      modify (saveActive engine observed)
      let (restore, r) ← await (Call.releaseGpu engine observed)
      modify (saveActive engine restore)
      result r

/-- The end of `_release`. -/
def forget (engine : Engine) (s : MultiBackend P) : MultiBackend P :=
  { s with
    active := if OfEngine engine s.active then none else s.active
    pending := if OfEngine engine s.pending then none else s.pending }

def releaseBackend (engine : Engine) : Method P Unit :=
  if engine = .koboldcpp then releaseKobold else releaseNative engine

/-- `_release`. -/
def release (engine : Engine) : Method P PUnit := do
  releaseBackend engine
  modify (forget engine)

/-- `release_gpu`, which releases every engine whatever the target is. -/
def releaseGpu : Method P PUnit := backends.forM release

/-! ## `acquire_gpu` -/

/-- The confirmed unload before another request to KoboldCpp. -/
def releaseSame (target : MultiTarget) (engine : Engine) : Method P PUnit := do
  let s ← self
  if engine = .koboldcpp ∧ (s.routerFailed = true ∨ s.active = some target) then release engine
  else pure ⟨⟩

/-- The settings of another model of the same engine are saved. -/
def saveOther (target : MultiTarget) (engine : Engine) : Method P PUnit := do
  let s ← self
  if OfEngine engine s.active ∧ s.active ≠ some target then
    match ← observeEngine engine with
    | some observed => modify (saveActive engine observed)
    | none => pure ⟨⟩
  else pure ⟨⟩

/-- The restore point of a model that was not saved. -/
def nativeTarget [EmptyCollection P] (model : String) : Engine → Method P (RestorePoint P)
  | .tabbyapi => pure (.tabbyapi model ∅)
  | .prism => pure (.prism model)
  | .koboldcpp => pure (.koboldcpp model)
  | engine => do result (← await (Call.requestTarget engine model))

def savedTarget [EmptyCollection P] (target : MultiTarget) (engine : Engine) :
    Method P (RestorePoint P) := do
  match (← self).saved (engine, target.model) with
  | some native => pure native
  | none => nativeTarget target.model engine

/-- The attributes before the engine is asked. -/
def begin (target : MultiTarget) (engine : Engine) (s : MultiBackend P) : MultiBackend P :=
  { s with
    pending := some target
    active := none
    koboldReleased := if engine = .koboldcpp then false else s.koboldReleased }

/-- The attributes after the engine returned. -/
def finish (target : MultiTarget) (engine : Engine) (restored : RestorePoint P)
    (s : MultiBackend P) : MultiBackend P :=
  { s with
    saved := Function.update s.saved (engine, target.model) (some restored)
    active := some target }

def acquireEngine [EmptyCollection P] (target : MultiTarget) (engine : Engine) :
    Method P MultiTarget := do
  (backends.filter (· ≠ engine)).forM release
  releaseSame target engine
  saveOther target engine
  let native ← savedTarget target engine
  modify (begin target engine)
  let restored ← result (← await (Call.acquireGpu engine native))
  modify (finish target engine restored)
  pure target

def acquireGpu [EmptyCollection P] (target : Option MultiTarget) : Method P MultiTarget :=
  match target with
  | none => raise (backendError label "model selection" "explicit model required")
  | some target =>
      match target.engine with
      | none => raise (backendError label "model selection" "explicit model required")
      | some engine => acquireEngine target engine

/-! ## The object -/

/-- The methods that the coordinator and the chat handler call. -/
inductive Op
  | validateControl
  | observeReady
  | snapshotReady
  | releaseGpu (target : MultiTarget)
  | acquireGpu (target : Option MultiTarget)
  | requestFailed (target : MultiTarget)
  deriving DecidableEq, Repr

def Op.Ret : Op → Type
  | .observeReady => Option MultiTarget
  | .snapshotReady | .acquireGpu _ => MultiTarget
  | _ => PUnit

def object (P : Type) [EmptyCollection P] :
    AsyncObject (MultiBackend P) (Call P) Answer Exn Op where
  Ret := Op.Ret
  run
    | .validateControl => validateControl
    | .observeReady => observeReady
    | .snapshotReady => snapshotReady
    | .releaseGpu _ => releaseGpu
    | .acquireGpu target => acquireGpu target
    | .requestFailed target => modify (requestFailed target)

end StProxy.Multi
