import StProxy.Basic
import StProxy.Lib.Async
import StProxy.Lib.Json

/-!
# Exceptions, deadlines and replies of the adapters

What the coroutines of the single adapters raise, and the `asyncio.timeout` and
`except` blocks around their code.
-/

namespace StProxy.Llm

open Async

/-- The fields of `BackendTimeouts` and the deadlines that are set from them. -/
inductive Deadline
  | request | release | acquire | confirmation
  deriving DecidableEq, Repr

/-- What is raised at an await, by class.  A cancellation is that of the task, or
is sent by a deadline that expired. -/
inductive Raised
  /-- An exception that the adapters do not handle. -/
  | exn (e : Exn)
  /-- An instance of `ClientError` or `ValueError`. -/
  | client (typeName : String)
  /-- `TimeoutError`. -/
  | timeout
  | cancelled (expired : Option Deadline)
  deriving DecidableEq, Repr

/-- A response whose body was decoded; an empty body is decoded to `None`. -/
structure Response where
  status : ℕ
  payload : Json

variable {σ C α : Type} {R : C → Type}

/-- Leave `async with asyncio.timeout(..)`. -/
def leave (deadline : Deadline) (e : Raised) : Raised :=
  if e = .cancelled (some deadline) then .timeout else e

/-- `async with asyncio.timeout(..)`. -/
def within (deadline : Deadline) (p : Async σ C R Raised α) : Async σ C R Raised α :=
  p.handle fun e ↦ raise (leave deadline e)

/-- `except (ClientError, TimeoutError, ValueError)`. -/
def translate (label action : String) : Raised → Raised
  | .client name => .exn (backendError label action (some name))
  | .timeout => .exn (backendError label action (some "TimeoutError"))
  | e => e

/-- The code with its handler of `translate`. -/
def translating (label action : String) (p : Async σ C R Raised α) : Async σ C R Raised α :=
  p.handle fun e ↦ raise (translate label action e)

/-- `except TimeoutError`. -/
def timedOut (label action : String) (p : Async σ C R Raised α) : Async σ C R Raised α :=
  p.handle fun e ↦ raise (if e = .timeout then
    .exn (backendError label action (some "timed out")) else e)

/-! ## Rules -/

section
variable {W : Type} {K : Contract W C R} {D : C → σ → W → Prop} {s : σ} {w : W}
  {Q : Except Raised α → σ → W → Prop} {p : Async σ C R Raised α}

/-- A handler that raises again keeps what holds of every exception. -/
theorem wp_reraise {f : Raised → Raised} (h : p.wp K D Q s w)
    (he : ∀ e s w, Q (.error e) s w → Q (.error (f e)) s w) :
    (p.handle fun e ↦ raise (f e)).wp K D Q s w := by
  refine wp_handle (wp_mono h fun r s w hr ↦ ?_)
  cases r with
  | ok a => exact hr
  | error e => exact wp_raise (he e s w hr)

theorem wp_within {deadline : Deadline} (h : p.wp K D Q s w)
    (he : ∀ e e' s w, Q (.error e) s w → Q (.error e') s w) :
    (within deadline p).wp K D Q s w :=
  wp_reraise h fun e ↦ he e _

theorem wp_translating {label action : String} (h : p.wp K D Q s w)
    (he : ∀ e e' s w, Q (.error e) s w → Q (.error e') s w) :
    (translating label action p).wp K D Q s w :=
  wp_reraise h fun e ↦ he e _

theorem wp_timedOut {label action : String} (h : p.wp K D Q s w)
    (he : ∀ e e' s w, Q (.error e) s w → Q (.error e') s w) :
    (timedOut label action p).wp K D Q s w :=
  wp_reraise h fun e ↦ he e _

end

end StProxy.Llm
