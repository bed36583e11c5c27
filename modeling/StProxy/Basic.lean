import Mathlib.Data.List.Basic

/-!
# Backend kinds, configuration and errors

The parts of `config.py`, `errors.py`, `llm/registry.py` and `llm/strata.py`
that the lifecycle code reads.
-/

namespace StProxy

/-- The backend kinds of `available_backend_kinds`. -/
inductive BackendKind
  | koboldcpp | ollama | sc117 | orca | sc117_128k | orca_128k | prism | tabbyapi | all
  deriving DecidableEq, Repr

namespace BackendKind

/-- `STRATA_KINDS`. -/
def isStrata : BackendKind → Bool
  | sc117 | orca | sc117_128k | orca_128k => true
  | _ => false

/-- The set `{"prism", "all", *STRATA_KINDS}`, whose requests carry a target. -/
def isManaged (k : BackendKind) : Bool :=
  k == prism || k == all || k.isStrata

/-- The set `{"koboldcpp", "tabbyapi", "prism", "all", *STRATA_KINDS}` of the
kinds that are contacted only by active requests. -/
def isRequestDriven (k : BackendKind) : Bool :=
  k == koboldcpp || k == tabbyapi || k == prism || k == all || k.isStrata

/-- `info.label`. -/
def label : BackendKind → String
  | koboldcpp => "KoboldCpp"
  | ollama => "Ollama"
  | sc117 => "Qwen SC117"
  | orca => "Qwen Orca"
  | sc117_128k => "Qwen SC117 128k"
  | orca_128k => "Qwen Orca 128k"
  | prism => "Prism"
  | tabbyapi => "TabbyAPI"
  | all => "LLM backends"

end BackendKind

/-- The fields of `BrokerConfig` that the coordinator reads, with the checks of
`__post_init__` on them. -/
structure BrokerConfig where
  llmBackend : BackendKind
  koboldRouterMode : Bool
  maxWorkflowBodyBytes : ℕ
  maxQueuedImages : ℕ
  maxQueuedWorkflowBytes : ℕ
  router_koboldcpp : koboldRouterMode = true → llmBackend = .koboldcpp
  body_pos : 0 < maxWorkflowBodyBytes
  images_pos : 0 < maxQueuedImages
  body_le_queue : maxWorkflowBodyBytes ≤ maxQueuedWorkflowBytes

namespace BrokerConfig

/-- The modes whose model requests run one at a time. -/
def serialized (cfg : BrokerConfig) : Bool :=
  cfg.koboldRouterMode || cfg.llmBackend.isManaged

/-- The modes in which ownership is a reservation for native model loading. -/
def reserves (cfg : BrokerConfig) : Bool :=
  cfg.koboldRouterMode || cfg.llmBackend == .all

theorem serialized_of_reserves {cfg : BrokerConfig} (h : cfg.reserves = true) :
    cfg.serialized = true := by
  simp only [reserves, Bool.or_eq_true, beq_iff_eq] at h
  rcases h with h | h <;> simp [serialized, h, BackendKind.isManaged]

theorem requestDriven_of_reserves (cfg : BrokerConfig) (h : cfg.reserves = true) :
    cfg.llmBackend.isRequestDriven = true := by
  simp only [reserves, Bool.or_eq_true, beq_iff_eq] at h
  rcases h with h | h
  · rw [cfg.router_koboldcpp h]
    rfl
  · rw [h]
    rfl

theorem not_managed_of_router {cfg : BrokerConfig} (h : cfg.koboldRouterMode = true) :
    cfg.llmBackend.isManaged = false := by
  rw [cfg.router_koboldcpp h]
  rfl

end BrokerConfig

/-- An `Exception` as the coordinator inspects it: its class name, its text,
and whether it is `InsufficientVram`, which only `TabbyApiBackend._load` raises. -/
inductive Exn
  | insufficientVram
  | error (typeName text : String)
  deriving DecidableEq, Repr

namespace Exn

/-- `str(exc)`. -/
def str : Exn → String
  | insufficientVram =>
      "TabbyAPI load failed: insufficient_vram (not enough GPU memory for model/cache); " ++
        "model is not ready; next active LLM request will retry"
  | error _ text => text

/-- `type(exc).__name__`. -/
def typeName : Exn → String
  | insufficientVram => "InsufficientVram"
  | error name _ => name

/-- `str(exc) or type(exc).__name__`. -/
def message (e : Exn) : String :=
  if e.str = "" then e.typeName else e.str

/-- The `TimeoutError` raised by `asyncio.timeout`. -/
def timeout : Exn := .error "TimeoutError" ""

def handoffError (text : String) : Exn := .error "HandoffError" text

end Exn

/-- `backend_error`. -/
def backendError (label action : String) (detail : Option String) : Exn :=
  .error "UpstreamError" (label ++ " " ++ action ++ " failed" ++ match detail with
    | none => ""
    | some detail => if detail = "" then "" else ": " ++ detail)

/-- Python truth of an optional error text. -/
def truthy : Option String → Bool
  | none => false
  | some text => text != ""

@[simp] theorem truthy_none : truthy none = false := rfl

@[simp] theorem truthy_some {text : String} : truthy (some text) = true ↔ text ≠ "" := by
  simp [truthy]

/-- Python's `a or b` on error texts. -/
def pyOr (a b : Option String) : Option String :=
  if truthy a then a else b

theorem pyOr_truthy {a b : Option String} (h : truthy b = true) : truthy (pyOr a b) = true := by
  unfold pyOr
  split <;> assumption

end StProxy
