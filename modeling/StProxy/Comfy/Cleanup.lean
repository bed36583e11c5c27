import Mathlib.Data.List.Forall2
import StProxy.Comfy.Client
import StProxy.Lib.Checked

/-!
# What a cleanup confirms

What `free_models` observed of the queue and of the memory when it returns.
-/

namespace StProxy.Comfy

open Async Llm

abbrev Exchange : Type := (c : Call) × Answer c

/-! ## Observations -/

/-- A queue reply, and whether the queue is idle. -/
def ReportsQueue (payload : Json) (idle : Bool) : Prop :=
  ∃ queue running pending, payload = .obj queue ∧ Json.get queue "queue_running" = .arr running ∧
    Json.get queue "queue_pending" = .arr pending ∧ idle = (running.isEmpty && pending.isEmpty)

/-- The memory of a device: nonnegative integers that fit together. -/
def ReportsDevice (v : Json) (device : Device) : Prop :=
  ∃ fields total free reserved reclaimable, v = .obj fields ∧
    Json.get fields "vram_total" = .int total ∧ Json.get fields "vram_free" = .int free ∧
    Json.get fields "torch_vram_total" = .int reserved ∧
    Json.get fields "torch_vram_free" = .int reclaimable ∧
    (0 ≤ total ∧ 0 ≤ free ∧ 0 ≤ reserved ∧ 0 ≤ reclaimable) ∧
    (free ≤ total ∧ reclaimable ≤ reserved ∧ reclaimable ≤ free) ∧
    device = ⟨total, free - reclaimable, reserved, reclaimable⟩

/-- A memory reply, and the memory of its devices. -/
def ReportsMemory (payload : Json) (devices : List Device) : Prop :=
  ∃ stats l, payload = .obj stats ∧ Json.get stats "devices" = .arr l ∧ l ≠ [] ∧
    List.Forall₂ ReportsDevice l devices

/-- The exchange observed the queue. -/
def ObservesQueue (idle : Bool) (e : Exchange) : Prop :=
  ∃ response : Response, e = ⟨.status "/queue", .ok response⟩ ∧ response.status = 200 ∧
    ReportsQueue response.payload idle

/-- The exchange observed the memory. -/
def ObservesMemory (devices : List Device) (e : Exchange) : Prop :=
  ∃ response : Response, e = ⟨.status "/system_stats", .ok response⟩ ∧ response.status = 200 ∧
    ReportsMemory response.payload devices

/-- `/free` answered below 400. -/
def AcceptsFree (e : Exchange) : Prop :=
  ∃ status : ℕ, e = ⟨.free, .ok status⟩ ∧ status < 400

/-- A reply to `/queue` or `/system_stats` that is no observation. -/
def Malformed (e : Exchange) : Prop :=
  (∃ path a, e = ⟨.status path, a⟩) ∧ (∀ idle, ¬ObservesQueue idle e) ∧
    ∀ devices, ¬ObservesMemory devices e

def isRequest : Exchange → Bool
  | ⟨.status _, _⟩ | ⟨.free, _⟩ => true
  | _ => false

/-- The requests of a cleanup, newest first. -/
def requests (log : Log) : List Exchange := log.filter isRequest

/-- After an accepted `/free` that followed an idle queue, two consecutive observations of the
memory were equal, each right after an idle queue, with `P` of the requests in between. -/
def Settled (P : List Exchange → Prop) (log : Log) : Prop :=
  ∃ devices second idle₂ between first idle₁ middle free idle₀ before,
    requests log = second :: idle₂ :: (between ++ first :: idle₁ ::
      (middle ++ free :: idle₀ :: before)) ∧
    ObservesMemory devices second ∧ ObservesQueue true idle₂ ∧
    (∀ e ∈ between, ∀ devices, ¬ObservesMemory devices e) ∧ P between ∧
    ObservesMemory devices first ∧ ObservesQueue true idle₁ ∧
    AcceptsFree free ∧ ObservesQueue true idle₀

/-- What `free_models` promises, with `P` of the requests between the last two observations of
the memory. -/
structure Confirms (P : List Exchange → Prop) (cfg : Settings) (r : Except Raised Unit)
    (log : Log) : Prop where
  settled : settles cfg = true → r = .ok () → Settled P log
  malformed : settles cfg = true → (∃ e ∈ log, Malformed e) → ∃ e, r = .error e
  accepted : settles cfg = false → r = .ok () → ∃ e ∈ log, AcceptsFree e

/-- No reply among them shows a busy queue. -/
def NoneBusy (between : List Exchange) : Prop := ∀ e ∈ between, ¬ObservesQueue false e

variable {cfg : Settings} {log : Log}

/-! ## Replies -/

lemma reportsQueue_of_queueIdle {queue : Json.Fields} {idle : Bool}
    (h : queueIdle queue = .ok idle) : ReportsQueue (.obj queue) idle := by
  unfold queueIdle at h
  split at h
  · next running pending hrunning hpending =>
      cases h
      exact ⟨queue, running, pending, rfl, hrunning, hpending, rfl⟩
  · cases h

lemma reportsDevice_of_checkDevice {v : Json} {device : Device} (h : checkDevice v = .ok device) :
    ReportsDevice v device := by
  unfold checkDevice at h
  split at h
  · next fields =>
      split at h
      · next total free reserved reclaimable htotal hfree hreserved hreclaimable =>
          split_ifs at h with hnegative hfit
          cases h
          exact ⟨fields, total, free, reserved, reclaimable, rfl, htotal, hfree, hreserved,
            hreclaimable, by omega, by omega, rfl⟩
      · cases h
  · cases h

lemma reportsMemory_of_checkStats {stats : Json.Fields} {devices : List Device}
    (h : checkStats stats = .ok devices) : ReportsMemory (.obj stats) devices := by
  unfold checkStats at h
  split at h
  · next device l hdevices =>
      exact ⟨stats, device :: l, rfl, hdevices, nofun,
        (Checked.mapM_eq_ok h).imp fun _ _ ↦ reportsDevice_of_checkDevice⟩
  · cases h

lemma of_checkStatus {response : Response} {payload : Json.Fields}
    (h : checkStatus response = .ok payload) :
    response.status = 200 ∧ response.payload = .obj payload := by
  obtain ⟨status, body⟩ := response
  simp only [checkStatus] at h
  split_ifs at h with hstatus
  split at h
  · cases h
    exact ⟨by simpa using hstatus, rfl⟩
  · cases h

/-- No reply was malformed. -/
def Clean (log : Log) : Prop := ∀ e ∈ log, ¬Malformed e

lemma Clean.cons_of_not_status {c : Call} {a : Answer c} (h : Clean log)
    (hc : ∀ path, c ≠ .status path) : Clean (⟨c, a⟩ :: log) := by
  refine List.forall_mem_cons.mpr ⟨?_, h⟩
  rintro ⟨⟨path, a', heq⟩, -⟩
  exact hc path (congrArg Sigma.fst heq)

lemma Clean.cons_queue {e : Exchange} {idle : Bool} (h : Clean log) (he : ObservesQueue idle e) :
    Clean (e :: log) :=
  List.forall_mem_cons.mpr ⟨fun hmalformed ↦ hmalformed.2.1 idle he, h⟩

lemma Clean.cons_memory {e : Exchange} {devices : List Device} (h : Clean log)
    (he : ObservesMemory devices e) : Clean (e :: log) :=
  List.forall_mem_cons.mpr ⟨fun hmalformed ↦ hmalformed.2.2 devices he, h⟩

lemma not_observesMemory_of_observesQueue {e : Exchange} {idle : Bool} {devices : List Device}
    (h : ObservesQueue idle e) : ¬ObservesMemory devices e := by
  obtain ⟨response, rfl, -⟩ := h
  rintro ⟨response', heq, -⟩
  exact absurd (congrArg Sigma.fst heq) (by simp)

/-! ## The loops -/

/-- Whatever the answers are, the code raises or ends in `Q`. -/
abbrev Returning {α : Type} (p : Method α) (log : Log) (Q : α → Log → Prop) : Prop :=
  p.wp (recording fun _ _ _ ↦ True) (fun _ _ _ ↦ True) (fun r _ log ↦ ∀ a, r = .ok a → Q a log) ()
    log

section Rules

variable {α β : Type} {p : Method α} {f : α → Method β} {M : α → Log → Prop} {Q : β → Log → Prop}

lemma returning_bind (h : Returning p log M)
    (hf : ∀ a log', M a log' → Returning (f a) log' Q) : Returning (p >>= f) log Q :=
  wp_then h (fun a _ log' hM ↦ hf a log' (hM a rfl)) fun _ _ _ _ ↦ nofun

lemma returning_pure {a : α} (h : M a log) : Returning (pure a : Method α) log M :=
  wp_pure fun _ heq ↦ Except.ok.inj heq ▸ h

lemma returning_raise {e : Raised} : Returning (raise e : Method α) log M := wp_raise nofun

lemma returning_result {r : Except Raised α} (h : ∀ a, r = .ok a → M a log) :
    Returning (result r : Method α) log M := wp_result h

lemma returning_await {c : Call} {Q : Answer c → Log → Prop}
    (h : ∀ a, Q a (⟨c, a⟩ :: log)) : Returning (await c : Method (Answer c)) log Q :=
  wp_record trivial fun a _ _ heq ↦ Except.ok.inj heq ▸ h a

end Rules

lemma returning_sleep : Returning sleep log fun _ log' ↦
    requests log' = requests log ∧ (Clean log → Clean log') := by
  refine returning_bind (returning_await fun a ↦ ?_) fun a log' hlog' ↦ returning_result
    fun _ _ ↦ hlog'
  exact ⟨rfl, fun hclean ↦ hclean.cons_of_not_status nofun⟩

lemma returning_status {α β : Type} {path : String} {g : Json.Fields → Except Raised β}
    {f : β → Method α} {Q : α → Log → Prop}
    (h : ∀ (response : Response) payload b, response.status = 200 →
      response.payload = .obj payload → g payload = .ok b →
        Returning (f b) (⟨.status path, .ok response⟩ :: log) Q) :
    Returning (cleanupStatus path >>= fun payload ↦ result (g payload) >>= f) log Q := by
  refine wp_bind (wp_bind (wp_record trivial fun a _ ↦ wp_bind (wp_result ?_)))
  obtain e | response := a
  · exact nofun
  · refine wp_result ?_
    cases hstatus : checkStatus response with
    | error e => exact nofun
    | ok payload =>
        obtain ⟨hok, hpayload⟩ := of_checkStatus hstatus
        refine wp_bind (wp_result ?_)
        cases hg : g payload with
        | error e => exact nofun
        | ok b => exact h response payload b hok hpayload hg

/-- The queue was observed until it was idle. -/
def Idled (log : Log) (_ : Unit) (log' : Log) : Prop :=
  ∃ idle busy, requests log' = idle :: (busy ++ requests log) ∧ ObservesQueue true idle ∧
    (∀ e ∈ busy, ∃ idle, ObservesQueue idle e) ∧ (Clean log → Clean log')

lemma returning_pollIdle (n : ℕ) (log : Log) : Returning (pollIdle n) log (Idled log) := by
  induction n generalizing log with
  | zero => exact returning_raise
  | succ n ih =>
      refine returning_status fun response payload idle hstatus hpayload hidle ↦ ?_
      have hobserves : ObservesQueue idle ⟨.status "/queue", .ok response⟩ :=
        ⟨response, rfl, hstatus, hpayload ▸ reportsQueue_of_queueIdle hidle⟩
      cases idle with
      | true => exact returning_pure ⟨_, [], rfl, hobserves, nofun, fun h ↦ h.cons_queue hobserves⟩
      | false =>
          refine returning_bind returning_sleep fun _ log' hlog' ↦ wp_mono (ih log') ?_
          rintro r _ log'' hr a rfl
          obtain ⟨idle, busy, hrequests, hidle, hbusy, hclean⟩ := hr a rfl
          refine ⟨idle, busy ++ [⟨.status "/queue", .ok response⟩], ?_, hidle, ?_, ?_⟩
          · rw [hrequests, hlog'.1, List.append_assoc]
            rfl
          · exact List.forall_mem_append.mpr
              ⟨hbusy, List.forall_mem_singleton.mpr ⟨false, hobserves⟩⟩
          · exact fun h ↦ hclean (hlog'.2 (h.cons_queue hobserves))

lemma returning_waitForIdle : Returning waitForIdle log (Idled log) := by
  refine returning_bind (returning_await fun n ↦ (rfl : _ = ⟨.polls, n⟩ :: log)) ?_
  rintro n _ rfl
  refine wp_mono (returning_pollIdle n _) ?_
  rintro r _ log' hr a rfl
  obtain ⟨idle, busy, hrequests, hidle, hbusy, hclean⟩ := hr a rfl
  exact ⟨idle, busy, hrequests, hidle, hbusy, fun h ↦ hclean (h.cons_of_not_status nofun)⟩

/-- The last observation of the memory since the requests `tail`. -/
def Previous (tail : List Exchange) (log : Log) : Option (List Device) → Prop
  | none => ∃ middle, requests log = middle ++ tail
  | some devices => ∃ first idle middle, requests log = first :: idle :: (middle ++ tail) ∧
      ObservesMemory devices first ∧ ObservesQueue true idle

/-- Two consecutive observations of the memory since `tail` were equal. -/
def Stable (tail : List Exchange) (log : Log) : Prop :=
  ∃ devices second idle₂ between first idle₁ middle,
    requests log = second :: idle₂ :: (between ++ first :: idle₁ :: (middle ++ tail)) ∧
    ObservesMemory devices second ∧ ObservesQueue true idle₂ ∧
    (∀ e ∈ between, ∀ devices, ¬ObservesMemory devices e) ∧
    ObservesMemory devices first ∧ ObservesQueue true idle₁

lemma Previous.exists_middle {tail : List Exchange} {previous : Option (List Device)}
    (h : Previous tail log previous) : ∃ middle, requests log = middle ++ tail := by
  cases previous with
  | none => exact h
  | some devices =>
      obtain ⟨first, idle, middle, hrequests, -⟩ := h
      exact ⟨first :: idle :: middle, hrequests⟩

lemma returning_pollMemory {tail : List Exchange} (n : ℕ) (previous : Option (List Device))
    (log : Log) (hprevious : Previous tail log previous) (hclean : Clean log) :
    Returning (pollMemory n previous) log fun _ log' ↦ Clean log' ∧ Stable tail log' := by
  induction n generalizing previous log with
  | zero => exact returning_raise
  | succ n ih =>
      refine returning_bind returning_waitForIdle ?_
      rintro _ log₁ ⟨idle, busy, hrequests, hidle, hbusy, hclean₁⟩
      refine returning_status fun response payload current hstatus hpayload hcurrent ↦ ?_
      have hobserves : ObservesMemory current ⟨.status "/system_stats", .ok response⟩ :=
        ⟨response, rfl, hstatus, hpayload ▸ reportsMemory_of_checkStats hcurrent⟩
      have hclean₂ := (hclean₁ hclean).cons_memory hobserves
      split_ifs with hequal
      · subst hequal
        obtain ⟨first, idle₁, middle, hlog, hfirst, hidle₁⟩ := hprevious
        refine returning_pure ⟨hclean₂, current, _, idle, busy, first, idle₁, middle, ?_,
          hobserves, hidle, ?_, hfirst, hidle₁⟩
        · rw [← hlog, ← hrequests]
          rfl
        · intro e he devices
          obtain ⟨idle', he'⟩ := hbusy e he
          exact not_observesMemory_of_observesQueue he'
      · refine returning_bind returning_sleep fun _ log' hlog' ↦
          ih (some current) log' ?_ (hlog'.2 hclean₂)
        obtain ⟨middle, hmiddle⟩ := hprevious.exists_middle
        refine ⟨_, idle, busy ++ middle, ?_, hobserves, hidle⟩
        rw [hlog'.1, List.append_assoc, ← hmiddle, ← hrequests]
        rfl

lemma returning_waitForMemorySettled {tail : List Exchange}
    (htail : ∃ middle, requests log = middle ++ tail) (hclean : Clean log) :
    Returning waitForMemorySettled log fun _ log' ↦ Clean log' ∧ Stable tail log' := by
  refine returning_bind (returning_await fun n ↦ (rfl : _ = ⟨.polls, n⟩ :: log)) ?_
  rintro n _ rfl
  exact returning_pollMemory n none _ htail (hclean.cons_of_not_status nofun)

/-- `/free` was accepted after the record `log`. -/
def Freed (log log' : Log) : Prop :=
  ∃ free, AcceptsFree free ∧ free ∈ log' ∧ requests log' = free :: requests log ∧
    (Clean log → Clean log')

/-- The part of `free_models` between its two waits. -/
lemma returning_free {α : Type} {p : Method α} {Q : α → Log → Prop}
    (h : ∀ log', Freed log log' → Returning p log' Q) :
    Returning (do
      let status ← result (← await Call.free)
      result (checkFree status)
      result (← await Call.sleepFive)
      p) log Q := by
  refine wp_bind (wp_record trivial fun a _ ↦ wp_bind (wp_result ?_))
  obtain e | status := a
  · exact nofun
  · refine wp_bind (wp_result ?_)
    unfold checkFree
    split_ifs with hstatus
    · exact nofun
    · refine wp_bind (wp_record trivial fun slept _ ↦ wp_bind (wp_result ?_))
      obtain e | _ := slept
      · exact nofun
      · refine h _ ⟨_, ⟨status, rfl, by omega⟩, List.mem_cons_of_mem _ List.mem_cons_self, rfl,
          fun hclean ↦ ?_⟩
        refine Clean.cons_of_not_status ?_ nofun
        exact hclean.cons_of_not_status nofun

lemma returning_freeModels_settling (hsettles : settles cfg = true) :
    Returning (freeModels cfg) [] fun _ log ↦ Clean log ∧ Settled (fun _ ↦ True) log := by
  refine wp_translating ?_ fun _ _ _ _ _ ↦ nofun
  simp only [hsettles, if_true]
  refine returning_bind returning_waitForIdle ?_
  rintro _ log₁ ⟨idle₀, before, hrequests, hidle₀, -, hclean₁⟩
  refine returning_free fun log₂ ⟨free, hfree, _, hrequests₂, hclean₂⟩ ↦ ?_
  have htail : requests log₂ = [] ++ free :: idle₀ :: before := by
    rw [hrequests₂, hrequests]
    simp [requests]
  refine wp_mono (returning_waitForMemorySettled ⟨[], htail⟩ (hclean₂ (hclean₁ nofun))) ?_
  rintro r _ log hr a rfl
  obtain ⟨hclean, devices, second, idle₂, between, first, idle₁, middle, hlog, hsecond, hidle₂,
    hbetween, hfirst, hidle₁⟩ := hr a rfl
  exact ⟨hclean, devices, second, idle₂, between, first, idle₁, middle, free, idle₀, before, hlog,
    hsecond, hidle₂, hbetween, trivial, hfirst, hidle₁, hfree, hidle₀⟩

lemma returning_freeModels_unsettling (hsettles : settles cfg = false) :
    Returning (freeModels cfg) [] fun _ log ↦ ∃ e ∈ log, AcceptsFree e := by
  refine wp_translating ?_ fun _ _ _ _ _ ↦ nofun
  simp only [hsettles, Bool.false_eq_true, if_false]
  exact returning_free fun log ⟨free, hfree, hmem, _⟩ ↦ returning_pure ⟨free, hmem, hfree⟩

/-- `free_models` returns only after it confirmed the cleanup. -/
theorem freeModels_confirms (cfg : Settings) (answers : Log → (c : Call) → Answer c) :
    Confirms (fun _ ↦ True) cfg ((freeModels cfg).play answers () []).1
      ((freeModels cfg).play answers () []).2.2 := by
  refine ⟨fun hsettles hreturns ↦ ?_, fun hsettles ⟨e, he, hmalformed⟩ ↦ ?_,
    fun hsettles hreturns ↦ ?_⟩
  · exact (wp_play answers (returning_freeModels_settling hsettles) (fun _ _ ↦ trivial) ()
      hreturns).2
  · cases hr : ((freeModels cfg).play answers () []).1 with
    | error e => exact ⟨e, rfl⟩
    | ok u =>
        have hclean := (wp_play answers (returning_freeModels_settling hsettles)
          (fun _ _ ↦ trivial) u hr).1
        exact absurd hmalformed (hclean e he)
  · exact wp_play answers (returning_freeModels_unsettling hsettles) (fun _ _ ↦ trivial) () hreturns

/-- One running job. -/
def busyQueue : Response :=
  ⟨200, .obj [("queue_running", .arr [.arr []]), ("queue_pending", .arr [])]⟩

def idleQueue : Response := ⟨200, .obj [("queue_running", .arr []), ("queue_pending", .arr [])]⟩

def memoryStatus : Response :=
  ⟨200, .obj [("devices", .arr [.obj [("vram_total", .int 24), ("vram_free", .int 20),
    ("torch_vram_total", .int 2), ("torch_vram_free", .int 1)]])]⟩

def isQueueStatus : Exchange → Bool
  | ⟨.status path, _⟩ => path == "/queue"
  | _ => false

/-- A ComfyUI that runs a job between two observations of its memory. -/
def busyBetween (log : Log) : (c : Call) → Answer c
  | .history _ => .error .timeout
  | .interrupt => .ok 200
  | .free => .ok 200
  | .status path =>
      if path = "/queue" then
        .ok (if log.countP isQueueStatus = 2 then busyQueue else idleQueue)
      else .ok memoryStatus
  | .sleep | .sleepFive => .ok ()
  | .polls => (2 : ℕ)

/-- A client with the TabbyAPI backend. -/
def tabbyClient : Settings :=
  ⟨.tabbyapi, 1, Nat.zero_lt_one, ⟨id, id, fun _ ↦ none, fun _ ↦ false⟩, fun _ ↦ ""⟩

/-- A job that ran between the two observations does not keep `free_models` from returning. -/
theorem freeModels_confirms_fails_busy :
    ¬Confirms NoneBusy tabbyClient ((freeModels tabbyClient).play busyBetween () []).1
      ((freeModels tabbyClient).play busyBetween () []).2.2 := by
  intro h
  obtain ⟨devices, second, idle₂, between, first, idle₁, middle, free, idle₀, before, hlog, -, -,
    -, hbusy, hfirst, -⟩ := h.settled rfl rfl
  have hrest : (⟨.status "/queue", .ok busyQueue⟩ : Exchange) ::
      [⟨.status "/system_stats", .ok memoryStatus⟩, ⟨.status "/queue", .ok idleQueue⟩,
        ⟨.free, Except.ok (200 : ℕ)⟩, ⟨.status "/queue", .ok idleQueue⟩] =
      between ++ first :: idle₁ :: (middle ++ free :: idle₀ :: before) :=
    (List.cons.inj (List.cons.inj hlog).2).2
  have hobserves : ObservesQueue false ⟨.status "/queue", .ok busyQueue⟩ :=
    ⟨busyQueue, rfl, rfl, _, _, _, rfl, rfl, rfl, rfl⟩
  cases between with
  | nil =>
      rw [List.nil_append, List.cons.injEq] at hrest
      exact not_observesMemory_of_observesQueue hobserves (hrest.1 ▸ hfirst)
  | cons e between =>
      rw [List.cons_append, List.cons.injEq] at hrest
      exact hbusy e List.mem_cons_self (hrest.1 ▸ hobserves)

end StProxy.Comfy
