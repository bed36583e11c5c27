import StProxy.Coordinator.Targets
import StProxy.Coordinator.Unloads
import StProxy.Multi.Duty

/-!
# The coordinator with `MultiBackend`

The dispatcher of `HandoffCoordinator` calls the methods of `MultiBackend`, and the handlers of
mode `all` take leases with a target and report failed requests to both.
-/

namespace StProxy.Multi

open Async History

/-- The coordinator of mode `all`.  It also records the unloads of KoboldCpp. -/
abbrev Handoff (Out : Type) : Type := Coordinator.State MultiTarget Out UnloadEvent

abbrev HandoffAction (Out : Type) : Type := Coordinator.Action MultiTarget Out UnloadEvent

/-- The method of `MultiBackend` that the dispatcher is awaiting: it is suspended at a call to an
adapter, or it has ended. -/
inductive Flight (P Out : Type)
  | idle
  | awaiting (op : Op) (c : Call P) (k : Answer c → Method P op.Ret)
  | ended (reply : Coordinator.Reply MultiTarget Out)

structure Broker (P Out : Type) where
  coordinator : Handoff Out
  llm : MultiBackend P
  flight : Flight P Out

namespace Broker

variable {P Out : Type}

/-- The method that a call of the coordinator names; the other calls are to ComfyUI. -/
def methodOf : Coordinator.Call MultiTarget → Option Op
  | .validateControl => some .validateControl
  | .observeReady => some .observeReady
  | .snapshotReady => some .snapshotReady
  | .acquireGpu target => some (.acquireGpu target)
  | .releaseGpu target => some (.releaseGpu target)
  | .freeModels | .submit _ | .waitForPrompt _ | .interrupt => none

/-- What the coordinator is told. -/
def replyOf : (op : Op) → Except Exn op.Ret → Coordinator.Reply MultiTarget Out
  | _, .error e => .raised e
  | .observeReady, .ok r => .observed r
  | .snapshotReady, .ok r => .acquired r
  | .acquireGpu _, .ok r => .acquired r
  | .validateControl, .ok _ | .releaseGpu _, .ok _ | .requestFailed _, .ok _ => .done

def record (e : Option UnloadEvent) (c : Handoff Out) : Handoff Out :=
  match e with
  | none => c
  | some e => c.emit (.backend e)

/-- A method has run to its next suspension. -/
def stop (c : Handoff Out) (op : Op) :
    MultiBackend P × Stop (MultiBackend P) (Call P) Answer Exn op.Ret → Broker P Out
  | (llm, .inl r) => ⟨c, llm, .ended (replyOf op r)⟩
  | (llm, .inr ⟨asked, k⟩) => ⟨record asked.starting c, llm, .awaiting op asked k⟩

/-- The dispatcher has gone on, and may have called a method. -/
def launch [EmptyCollection P] (c : Handoff Out) (llm : MultiBackend P) : Broker P Out :=
  match c.point.call.bind fun asked ↦ methodOf asked.2 with
  | some op => stop c op (((object P).run op).resume llm)
  | none => ⟨c, llm, .idle⟩

/-- A cancelled unload has failed. -/
def aborted : Flight P Out → Option UnloadEvent
  | .awaiting _ (.releaseGpu .koboldcpp _) _ => some .failed
  | _ => none

/-- The target of a lease that is held and whose request is being forwarded. -/
def forwarding (c : Handoff Out) (n : ℕ) : Option MultiTarget :=
  if (c.chats n).client = .inBody ∧ (c.chats n).granted = true then (c.chats n).target else none

inductive Action (P Out : Type)
  /-- A step of the coordinator. -/
  | coordinator (a : HandoffAction Out)
  /-- `request_failed`, after which the handler waits for the lock of the coordinator. -/
  | requestFailed (n : ℕ)
  /-- The call to an adapter ends. -/
  | answer (r : (c : Call P) → Answer c)
  /-- The method returns to the dispatcher. -/
  | returned

variable [EmptyCollection P]

/-- A step of the coordinator.  The target of a lease comes from `request_target`, which finds
its engine in `backends`. -/
def coordinate (cfg : BrokerConfig) (s : Broker P Out) (a : HandoffAction Out) :
    Option (Broker P Out) :=
  let next := Coordinator.step cfg s.coordinator a
  match a with
  | .backend _ => none
  | .reply _ =>
      match s.flight with
      | .idle => next.map fun c ↦ launch c s.llm
      | _ => none
  | .wake | .timeout | .fault _ => next.map fun c ↦ launch c s.llm
  | .deliverCancel =>
      (Coordinator.step cfg (record (aborted s.flight) s.coordinator) a).map fun c ↦ launch c s.llm
  | .startup | .cancelStartup => next.map fun c ↦ launch c s.llm
  | .chatLease target =>
      match target.bind MultiTarget.engine with
      | some _ => next.map fun c ↦ { s with coordinator := c }
      | none => none
  | .routerRequestFailed n =>
      match forwarding s.coordinator n with
      | some target =>
          if target.engine = some .koboldcpp then
            next.map fun c ↦ { s with coordinator := c, llm := requestFailed target s.llm }
          else none
      | none => none
  | _ => next.map fun c ↦ { s with coordinator := c }

def step (cfg : BrokerConfig) (s : Broker P Out) : Action P Out → Option (Broker P Out)
  | .coordinator a => coordinate cfg s a
  | .requestFailed n =>
      (forwarding s.coordinator n).map fun target ↦ { s with llm := requestFailed target s.llm }
  | .answer r =>
      match s.flight with
      | .awaiting op c k =>
          if s.coordinator.cancelRequested then none
          else some (stop (record (c.ending (r c)) s.coordinator) op ((k (r c)).resume s.llm))
      | _ => none
  | .returned =>
      match s.flight with
      | .ended reply =>
          (Coordinator.step cfg s.coordinator (.reply reply)).map fun c ↦ launch c s.llm
      | _ => none

def initial : Broker P Out := ⟨.initial, .initial, .idle⟩

/-- The broker in mode `all` with its clients and arbitrary adapters. -/
def system (P Out : Type) [EmptyCollection P] (cfg : BrokerConfig) :
    TransitionSystem (Broker P Out) (Action P Out) where
  init s := s = .initial
  step := step cfg

/-! ## The duty in the history -/

/-- What an event means for the unload that is owed. -/
def owes : Coordinator.Event MultiTarget Out UnloadEvent → Option DutyEvent
  | .routerFailed _ => some .incurs
  | .backend e => some e.duty
  | _ => none

/-- No unload is owed. -/
def Settled (log : List (Coordinator.Event MultiTarget Out UnloadEvent)) : Prop :=
  duty owes log = .clear

end Broker

end StProxy.Multi
