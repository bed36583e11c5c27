import StProxy.Coordinator.Leases
import StProxy.Lib.History

/-!
# Handing the GPU to ComfyUI

What is known of the LLM when ComfyUI becomes the owner.  An owner that is not
known is asked for first if the kind is driven by requests.  The other kind
takes the handoff on trust, which is sound until a load or an unload fails.
-/

namespace StProxy.Coordinator

variable {RP Out BE : Type}

/-- The calls that load, unload or observe the LLM. -/
def Call.isLifecycle : Call RP → Bool
  | .acquireGpu _ | .releaseGpu _ | .observeReady | .snapshotReady => true
  | _ => false

def Event.isLifecycle : Event RP Out BE → Bool
  | .started _ call | .finished _ call _ | .interrupted _ call => call.isLifecycle
  | _ => false

/-- A confirmed release, or an observation that found no model. -/
def Event.showsEmpty : Event RP Out BE → Bool
  | .finished _ (.releaseGpu _) .done | .finished _ .observeReady (.observed none) => true
  | _ => false

/-- The latest lifecycle event shows that the LLM holds no GPU memory. -/
def LlmEmpty (log : List (Event RP Out BE)) : Prop :=
  History.Latest Event.isLifecycle Event.showsEmpty log

/-- ComfyUI is granted the GPU, and given work, only after a confirmed release. -/
def Confirmed (e : Event RP Out BE) (rest : List (Event RP Out BE)) : Prop :=
  match e with
  | .comfyGranted _ | .started _ (.submit _) => LlmEmpty rest
  | _ => True

/-- The events that neither concern the LLM nor give ComfyUI the GPU. -/
def Event.aloof : Event RP Out BE → Bool
  | .comfyGranted _ | .started _ (.submit _) => false
  | e => !e.isLifecycle

theorem Event.aloof_of_byClient {e : Event RP Out BE} (he : e.byClient = true) :
    e.aloof = true := by
  cases e <;> first | rfl | cases he

theorem confirmed_of_aloof {e : Event RP Out BE} (he : e.aloof = true)
    (rest : List (Event RP Out BE)) : Confirmed e rest := by
  unfold Confirmed
  split
  · cases he
  · cases he
  · trivial

theorem not_lifecycle_of_aloof {e : Event RP Out BE} (he : e.aloof = true) :
    e.isLifecycle = false := by
  unfold Event.aloof at he
  split at he
  · cases he
  · cases he
  · simpa using he

/-- ComfyUI would get the GPU with nobody asked about the LLM. -/
def Unasked (cfg : BrokerConfig) (s : State RP Out BE) (n : ℕ) : Prop :=
  cfg.llmBackend.isRequestDriven = false ∧ s.owner = .unknown ∧
    (s.images n).cancelled = false ∧ s.llmBusy = false

/-- What is known of the LLM at a point of the dispatcher. -/
def HandoffFacts (cfg : BrokerConfig) (s : State RP Out BE) : Point RP → Prop
  | .dispatch (.image n) | .imageStart n | .activateDrainCheck n => ¬Unasked cfg s n
  | .activateDrained _ => cfg.llmBackend.isRequestDriven = false → s.owner ≠ .unknown
  | .activateUnload _ => s.owner ≠ .llm → LlmEmpty s.log
  | .activateDone _ => LlmEmpty s.log
  | _ => True

theorem handoffFacts_of_suspended {cfg : BrokerConfig} {s : State RP Out BE} {p : Point RP}
    (hp : p.isSuspended = true) : HandoffFacts cfg s p := by
  cases p <;> trivial

structure Handoff (cfg : BrokerConfig) (s : State RP Out BE) : Prop where
  comfy : s.owner = .comfy → LlmEmpty s.log
  point : HandoffFacts cfg s s.point
  always : History.Always Confirmed s.log

namespace Handoff

variable {cfg : BrokerConfig} {s s' : State RP Out BE}

theorem initial : Handoff cfg (.initial : State RP Out BE) where
  comfy := nofun
  point := trivial
  always := History.always_nil _

/-- Nothing is recorded that concerns the LLM. -/
theorem quiet {l : List (Event RP Out BE)} (h : Handoff cfg s) (hlog : s'.log = l ++ s.log)
    (hes : ∀ e ∈ l, e.aloof = true) (howner : s'.owner = .comfy → s.owner = .comfy)
    (hpoint : HandoffFacts cfg s' s'.point) : Handoff cfg s' where
  comfy hcomfy := by
    rw [hlog]
    exact (History.latest_append fun e he ↦ not_lifecycle_of_aloof (hes e he)).mpr
      (h.comfy (howner hcomfy))
  point := hpoint
  always := by
    rw [hlog]
    exact h.always.append fun e he ↦ confirmed_of_aloof (hes e he)

theorem goto (h : Handoff cfg s) (hlog : s'.log = s.log)
    (howner : s'.owner = .comfy → s.owner = .comfy)
    (hpoint : HandoffFacts cfg s' s'.point) : Handoff cfg s' :=
  h.quiet (l := []) hlog (List.forall_mem_nil _) howner hpoint

/-- A call starts or ends while ComfyUI does not own the GPU. -/
theorem records {e : Event RP Out BE} (h : Handoff cfg s) (hlog : s'.log = e :: s.log)
    (he : ∀ rest, Confirmed e rest) (howner : s'.owner ≠ .comfy)
    (hpoint : HandoffFacts cfg s' s'.point) : Handoff cfg s' where
  comfy hcomfy := absurd hcomfy howner
  point := hpoint
  always := by
    rw [hlog, History.always_cons]
    exact ⟨he _, h.always⟩

theorem records₂ {e e' : Event RP Out BE} (h : Handoff cfg s) (hlog : s'.log = e' :: e :: s.log)
    (he : ∀ rest, Confirmed e rest) (he' : ∀ rest, Confirmed e' rest) (howner : s'.owner ≠ .comfy)
    (hpoint : HandoffFacts cfg s' s'.point) : Handoff cfg s' where
  comfy hcomfy := absurd hcomfy howner
  point := hpoint
  always := by
    rw [hlog, History.always_cons, History.always_cons]
    exact ⟨he' _, he _, h.always⟩

theorem handoffFacts_of_served {p : Point RP} (hp : p.served = true) : HandoffFacts cfg s p := by
  cases p <;> trivial

theorem served {t : State RP Out BE} (h : Handoff cfg s) (hs : Served t s')
    (hlog : t.log = s.log) (howner : t.owner = s.owner) : Handoff cfg s' := by
  obtain ⟨l, hlog', hes⟩ := hs.log
  refine h.quiet (hlog'.trans (by rw [hlog])) (fun e he ↦ ?_) (fun hcomfy ↦ ?_)
    (handoffFacts_of_served hs.point)
  · have := hes e he
    cases e with
    | started by_ call => cases by_ <;> cases call <;> first | rfl | cases this
    | resolved f => rfl
    | _ => cases this
  · rw [← howner, ← hs.owner, hcomfy]

theorem grant {n : ℕ} (h : Handoff cfg s) : Handoff cfg (chatGrant cfg s n) := by
  rcases chatGrant_served cfg s n with hs | hs
  · exact h.served hs rfl rfl
  · refine Handoff.served (s := (s.goto .nextWork).emit (.chatGranted n)) ?_ hs rfl rfl
    exact h.quiet (l := [.chatGranted n]) rfl (by simp [Event.aloof, Event.isLifecycle]) id
      trivial

/-- After the drain, only a kind that is asked first may find the owner unknown. -/
theorem drained {n : ℕ} (h : Handoff cfg s) (hp : s.point = .activateDrained n)
    (howner : s.owner ≠ .comfy) : Handoff cfg (activateDrained cfg s n) := by
  have hf := h.point
  rw [hp] at hf
  unfold activateDrained
  split_ifs with hrouter hvalidated hdriven hvalidated'
  · exact h.goto rfl id trivial
  · exact h.records rfl (fun _ ↦ trivial) howner trivial
  · exact h.records rfl (fun _ ↦ trivial) howner trivial
  · exact h.records rfl (fun _ ↦ trivial) howner trivial
  · refine h.goto rfl id fun hllm ↦ ?_
    have hunknown : s.owner = .unknown := Exclusive.owner_unknown howner hllm
    exact absurd hunknown (hf (by simpa [hunknown] using hdriven))

theorem done {n : ℕ} (h : Handoff cfg s) (hempty : LlmEmpty s.log) :
    Handoff cfg (activateDone s n) where
  comfy _ := (History.latest_cons_of_neg rfl).mpr hempty
  point := trivial
  always := by
    refine History.always_cons.mpr ⟨?_, h.always⟩
    exact hempty

theorem submit {n : ℕ} (h : Handoff cfg s) (howner : s.owner = .comfy) :
    Handoff cfg ((s.setState .imageActive).await (.submit n (s.images n).request)
      (.dispatchImage n) (.submit (s.images n).request)) where
  comfy _ := (History.latest_cons_of_neg rfl).mpr (h.comfy howner)
  point := trivial
  always := by
    refine History.always_cons.mpr ⟨?_, h.always⟩
    exact h.comfy howner

theorem advance [DecidableEq RP] (hex : Exclusive cfg s) (h : Handoff cfg s) :
    Handoff cfg (advance cfg s) := by
  have hf := h.point
  have hx := hex.point
  unfold Coordinator.advance
  cases hp : s.point <;> rw [hp] at hf hx <;> dsimp only
  case dispatch work =>
    cases work
    · exact h.goto rfl id trivial
    · exact h.goto rfl id hf
  case dispatcherCancelled work => exact h.served (dispatcherCancelled_served s work) rfl rfl
  case dispatcherFailed work e => exact h.served (dispatcherFailed_served s work e) rfl rfl
  case chatDenied n => exact h.served (chatDenied_served cfg s n) rfl rfl
  case chatGrant n => exact h.grant
  case submitted n result => exact h.served (imageSubmitted_served s n result) rfl rfl
  case imageRaised n e => exact h.served (imageRaised_served s n e) rfl rfl
  case imageStart n =>
    simp only [imageStart]
    split_ifs
    · exact h.served (imageWithdrawn_served { s with lastError := none } n) rfl rfl
    · exact h.goto rfl id hf
    · exact h.goto rfl id trivial
  case imageActivated n =>
    unfold imageActivated
    split_ifs
    · exact h.served (imageWithdrawn_served s n) rfl rfl
    · exact h.submit hx
  case imageCancelled n =>
    unfold imageCancelled
    split_ifs
    · exact h.quiet (l := [.started (.dispatchImage n) .interrupt]) rfl
        (by simp [Event.aloof, Event.isLifecycle, Call.isLifecycle]) id trivial
    · exact h.served (imageShutdown_served s n) rfl rfl
  case activateDrainCheck n =>
    unfold activateDrainCheck
    split_ifs with hc hbusy
    · exact h.served (imageWithdrawn_served (s.setState _) n) rfl rfl
    · exact h.goto rfl id trivial
    · refine h.goto rfl id fun hdriven hunknown ↦ hf ⟨hdriven, hunknown, ?_, ?_⟩
      · simpa using hc
      · simpa using hbusy
  case activateDrained n => exact h.drained hp hx.1
  case activateDone n => exact h.done hf
  case activateUnload n =>
    simp only [activateUnload]
    split_ifs with howner
    · split
      · exact h.goto rfl (by rintro ⟨⟩) trivial
      · exact h.records rfl (fun _ ↦ trivial) (by rintro ⟨⟩) trivial
    · exact h.goto rfl id (hf (by simpa using howner))
  case restoreOwn n =>
    simp only [restoreOwn]
    split_ifs
    · exact h.goto rfl (by rintro ⟨⟩) trivial
    · exact h.records rfl (fun _ ↦ trivial) (by rintro ⟨⟩) trivial
  case restoreReload n =>
    unfold restoreReload
    split_ifs
    · exact h.goto rfl id trivial
    · exact h.records rfl (fun _ ↦ trivial) hx.1 trivial
  case activateRouterUnload n restore =>
      exact h.records rfl (fun _ ↦ trivial) (by rintro ⟨⟩) trivial
  case activateRouter n =>
    unfold activateRouter
    split
    · exact h.records rfl (fun _ ↦ trivial) hx.1 trivial
    · exact h.goto rfl id trivial
  case restoreControlsCheck n =>
    unfold restoreControlsCheck
    split_ifs
    · exact h.goto rfl id trivial
    · exact h.quiet (l := [.started (.restoreLlm n) .freeModels]) rfl
        (by simp [Event.aloof, Event.isLifecycle, Call.isLifecycle]) id trivial
  case restoreBranch n =>
    have howner : s.owner ≠ .comfy := by simp [show s.owner = .unknown from hx]
    unfold restoreBranch
    repeat' split
    all_goals first
      | exact h.goto rfl id trivial
      | exact h.records rfl (fun _ ↦ trivial) howner trivial
  case restoreDone n =>
    simp only [restoreDone]
    split_ifs <;> exact h.goto rfl (by rintro ⟨⟩) trivial
  -- The remaining functions change neither owner nor history.
  all_goals first
    | exact h
    | simp only [chatStart, chatDrainCheck, chatRestore, restoreStart, cleanupFailed,
        restoreRaised]
      repeat' split
      all_goals exact h.goto rfl id trivial

theorem onReply {by_ : Routine} {call : Call RP} {r : Reply RP Out} (hex : Exclusive cfg s)
    (h : Handoff cfg s) (hcall : s.point.call = some (by_, call))
    (hs : onReply (s.emit (.finished by_ call r)) r = some s') : Handoff cfg s' := by
  have hx := hex.point
  generalize hp : s.point = p at hcall hx
  cases onReply_returns hs hp <;> cases hcall
  case activateObserveNone.refl =>
    exact h.records rfl (fun _ ↦ trivial) hx.1 fun _ ↦ (History.latest_cons_of_pos rfl).mpr rfl
  case activateObserveSome.refl =>
    exact h.records rfl (fun _ ↦ trivial) nofun fun hllm ↦ absurd rfl hllm
  case activateReleaseDone.refl | activateRouterReleaseDone.refl =>
    have howner : s.owner = .unknown := hx
    exact h.records rfl (fun _ ↦ trivial) (by simp [howner])
      ((History.latest_cons_of_pos rfl).mpr rfl)
  case monitorOutputs.refl n promptId outputs =>
    have hemit : Handoff cfg ((s.emit (.finished (.dispatchImage n) (.waitForPrompt promptId)
        (.outputs outputs))).goto .nextWork) :=
      h.quiet (l := [_]) rfl (by simp [Event.aloof, Event.isLifecycle, Call.isLifecycle]) id
        trivial
    exact hemit.served (imageCompleted_served (s.emit _) n outputs) rfl rfl
  case interruptDone.refl n =>
    have hemit : Handoff cfg ((s.emit (.finished (.dispatchImage n) .interrupt .done)).goto
        .nextWork) :=
      h.quiet (l := [_]) rfl (by simp [Event.aloof, Event.isLifecycle, Call.isLifecycle]) id
        trivial
    exact hemit.served (imageShutdown_served (s.emit _) n) rfl rfl
  -- These calls leave the LLM alone.
  case restoreFreeDone.refl | restoreFreeRaised.refl | submitSubmitted.refl | submitRaised.refl |
      monitorRaised.refl | interruptRaised.refl =>
    exact h.quiet (l := [_]) rfl (by simp [Event.aloof, Event.isLifecycle, Call.isLifecycle]) id
      trivial
  case initValidateDone.refl | initFreeDone.refl =>
    exact h.records₂ rfl (fun _ ↦ trivial) (fun _ ↦ trivial) (by simp [hx.1]) trivial
  case activateValidateDone.refl =>
    exact h.records₂ rfl (fun _ ↦ trivial) (fun _ ↦ trivial) hx.1 trivial
  case restoreRouterReleaseDone.refl =>
    have howner : s.owner = .unknown := hx
    exact h.records₂ rfl (fun _ ↦ trivial) (fun _ ↦ trivial) (by simp [howner]) trivial
  case initValidateRaised.refl | initFreeRaised.refl | initSnapshotRaised.refl |
      initSnapshotAcquired.refl | restoreAcquireTargetAcquired.refl |
      restoreRouterAcquireAcquired.refl | restoreObserveSome.refl =>
    exact h.records rfl (fun _ ↦ trivial) nofun trivial
  case activateRouterValidateDone.refl | activateRouterValidateRaised.refl |
      activateRouterAcquireAcquired.refl | activateRouterAcquireRaised.refl |
      activateValidateRaised.refl | activateObserveRaised.refl =>
    exact h.records rfl (fun _ ↦ trivial) hx.1 trivial
  case restoreValidateDone.refl | restoreValidateRaised.refl |
      restoreAcquireTargetRaised.refl | restoreRouterReleaseRaised.refl |
      restoreRouterAcquireRaised.refl | restoreObserveNone.refl | restoreObserveRaised.refl |
      restoreAcquireAcquired.refl | restoreAcquireRaised.refl |
      activateRouterReleaseRaised.refl | activateReleaseRaised.refl =>
    have howner : s.owner = .unknown := hx
    exact h.records rfl (fun _ ↦ trivial) (by simp [howner]) trivial

/-- The owner is not ComfyUI while the LLM is loaded, unloaded or observed. -/
theorem not_comfy_of_lifecycle {by_ : Routine} {call : Call RP} (hex : Exclusive cfg s)
    (hcall : s.point.call = some (by_, call)) (hl : call.isLifecycle = true) :
    s.owner ≠ .comfy := by
  have hx := hex.point
  cases hp : s.point <;> rw [hp] at hcall hx <;> cases hcall
  case restoreAcquireTarget | restoreRouterRelease | restoreRouterAcquire | restoreObserve |
      restoreAcquire | activateRouterRelease | activateRelease =>
    simp [show s.owner = .unknown from hx]
  case initSnapshot => simp [hx.1]
  case activateRouterAcquire | activateObserve => exact hx.1
  all_goals cases hl

theorem interrupted {by_ : Routine} {call : Call RP} (hex : Exclusive cfg s) (h : Handoff cfg s)
    (hcall : s.point.call = some (by_, call)) :
    Handoff cfg ((s.emit (.interrupted by_ call)).goto .nextWork) := by
  cases hl : call.isLifecycle with
  | true =>
      have howner : s.owner ≠ .comfy := not_comfy_of_lifecycle hex hcall hl
      exact h.records rfl (fun _ ↦ trivial) howner trivial
  | false =>
      exact h.quiet (l := [.interrupted by_ call]) rfl
        (by simp [Event.aloof, Event.isLifecycle, hl]) id trivial

end Handoff

/-- The step does not take an image past the drain with nobody asked about the LLM. -/
def Asks (cfg : BrokerConfig) (s : State RP Out BE) (a : Action RP Out BE) : Prop :=
  a = .wake → ∀ n, s.point = .activateDrain n ∨
    s.point = .nextWork ∧ s.queue.head? = some (.image n) → ¬Unasked cfg s n

namespace Handoff

variable {cfg : BrokerConfig} {s s' : State RP Out BE}

theorem resumes {a : Action RP Out BE} (hex : Exclusive cfg s) (h : Handoff cfg s)
    (hasks : Asks cfg s a) (hr : Resumes s a s') : Handoff cfg s' := by
  cases hr with
  | wake hc hs =>
      unfold onWake at hs
      cases hp : s.point <;> rw [hp] at hs <;> cases hs
      case nextWork.refl =>
        unfold nextWork
        split
        · exact h.goto rfl id trivial
        · split
          · exact h
          · next w rest hq =>
              cases w with
              | chat n => exact h.goto rfl id trivial
              | image n => exact h.goto rfl id (hasks rfl n (.inr ⟨hp, by rw [hq]; rfl⟩))
      case chatDrain.refl n =>
        unfold chatDrainWake
        split <;> exact h.goto rfl id trivial
      case restoreControls.refl n => exact h.goto rfl id trivial
      case activateDrain.refl n => exact h.goto rfl id (hasks rfl n (.inl hp))
  | timeout hc hs =>
      unfold onTimeout at hs
      cases hp : s.point <;> rw [hp] at hs <;> cases hs
      · exact h.quiet (l := [_]) rfl (by simp [Event.aloof, Event.isLifecycle]) id trivial
      · exact h.goto rfl id trivial
  | fault hc hs => exact h.served (onFault_served hs) rfl rfl
  | reply hc hcall hs => exact h.onReply hex hcall hs
  | cancelCall hc hcall hs => exact (h.interrupted hex hcall).served (onCancel_served hs) rfl rfl
  | cancelWait hc hcall hs => exact h.served (onCancel_served hs) rfl rfl

theorem client (hex : Exclusive cfg s) (h : Handoff cfg s) (hsusp : s.point.isSuspended = true)
    (hs : Clients cfg s s') : Handoff cfg s' := by
  rcases hs.own with ⟨hp, rfl⟩ | ⟨hinit, by_, call, hcall, rfl⟩ | ⟨e, k, he, rfl⟩ | hbeside
  · unfold initializeStart
    split_ifs
    · exact h.goto rfl nofun trivial
    · exact h.quiet (l := [.started .startup .validateControl]) rfl
        (by simp [Event.aloof, Event.isLifecycle, Call.isLifecycle]) id trivial
  · exact { h.interrupted hex hcall with }
  · have haloof : e.aloof = true := by rcases he with ⟨rfl, -⟩ | ⟨rfl, -⟩ <;> rfl
    exact h.quiet (l := [e]) rfl (by simpa using haloof) id (handoffFacts_of_suspended hsusp)
  · obtain ⟨l, hlog, hes⟩ := hbeside.log
    refine h.quiet hlog (fun e he ↦ Event.aloof_of_byClient (hes e he))
      (fun hcomfy ↦ hbeside.owner.symm.trans hcomfy) ?_
    exact handoffFacts_of_suspended (by rw [hbeside.point]; exact hsusp)

end Handoff

theorem handoff_inductive [DecidableEq RP] {cfg : BrokerConfig} :
    InductiveOver cfg (Asks cfg) (fun s ↦ WellFormed s ∧ Exclusive cfg s)
      (Handoff cfg : State RP Out BE → Prop) where
  initial := .initial
  advance _ hk h := h.advance hk.2
  resumes _ _ _ hk h hasks hr := h.resumes hk.2 hasks hr
  client _ _ _ hk h _ hsusp hs := h.client hk.2 hsusp hs

/-- A kind that is driven by requests is always asked first. -/
theorem asks_of_requestDriven {cfg : BrokerConfig} (hdriven : cfg.llmBackend.isRequestDriven = true)
    (s : State RP Out BE) (a : Action RP Out BE) : Asks cfg s a := by
  rintro - n - ⟨hnot, -⟩
  rw [hdriven] at hnot
  cases hnot

/-- If no image is taken past the drain with nobody asked about the LLM, then
ComfyUI is granted the GPU, and given a workflow, only when the latest
lifecycle event is a confirmed release or an empty observation. -/
theorem comfy_granted_after_release [DecidableEq RP] {cfg : BrokerConfig} {s : State RP Out BE}
    (hs : (system RP Out BE cfg).ReachableVia (Asks cfg) s) :
    (∀ n rest, .comfyGranted n :: rest <:+ s.log → LlmEmpty rest) ∧
    (∀ by_ request rest, .started by_ (.submit request) :: rest <:+ s.log → LlmEmpty rest) := by
  have h := (((wellFormed_inductive.extend exclusive_inductive).extend
    handoff_inductive).reachableVia hs).2.2
  exact ⟨fun n rest hrest ↦ h.always _ rest hrest,
    fun by_ request rest hrest ↦ h.always _ rest hrest⟩

/-- An image is submitted after an empty observation. -/
def observedRun : List (Action ℕ Unit Empty) :=
  [.startup, .submitImage ⟨"/prompt", "", [], []⟩ false, .wake, .reply .done,
    .reply (.observed none)]

def observedState : State ℕ Unit Empty :=
  ((system ℕ Unit Empty koboldConfig).exec .initial observedRun).get (by decide)

theorem comfy_granted_after_release_observed :
    .comfyGranted 1 ∈ observedState.log ∧ LlmEmpty (observedState.log.drop 2) := by
  have hreach : (system ℕ Unit Empty koboldConfig).ReachableVia (Asks koboldConfig)
      observedState :=
    (TransitionSystem.exec_get_reachable (M := system ℕ Unit Empty koboldConfig) rfl
      (by decide)).mono fun s a _ ↦ asks_of_requestDriven rfl s a
  refine ⟨.tail _ (.head _), (comfy_granted_after_release hreach).1 1 _ ?_⟩
  exact ⟨observedState.log.take 1, rfl⟩

/-- An Ollama broker. -/
def ollamaConfig : BrokerConfig :=
  { koboldConfig with llmBackend := .ollama, router_koboldcpp := nofun }

/-- Ollama fails to unload for a first image; a second image is then submitted. -/
def failedUnloadRun : List (Action ℕ Unit Empty) :=
  [.startup, .reply .done, .reply .done, .reply (.acquired 5),
    .submitImage ⟨"/prompt", "", [], []⟩ false, .wake, .reply (.raised .timeout),
    .submitImage ⟨"/prompt", "", [], []⟩ false, .wake]

def failedUnloadState : State ℕ Unit Empty :=
  ((system ℕ Unit Empty ollamaConfig).exec .initial failedUnloadRun).get (by decide)

/-- With Ollama, ComfyUI is granted the GPU after a failed release. -/
theorem comfy_granted_after_failed_release :
    ¬∀ s : State ℕ Unit Empty, (system ℕ Unit Empty ollamaConfig).Reachable s →
      ∀ n rest, .comfyGranted n :: rest <:+ s.log → LlmEmpty rest := by
  intro h
  have hempty := h failedUnloadState (TransitionSystem.exec_get_reachable
    (M := system ℕ Unit Empty ollamaConfig) rfl (by decide)) 2 (failedUnloadState.log.drop 2)
    ⟨failedUnloadState.log.take 1, rfl⟩
  exact absurd hempty (by unfold LlmEmpty History.Latest; decide)

end StProxy.Coordinator
