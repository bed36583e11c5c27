import StProxy.Coordinator.Rules

/-!
# What a move can do

The moves of the dispatcher, sorted by what they do to the work objects.  A
plain move serves the same work before and after and touches nothing that the
clients share.
-/

namespace StProxy.Coordinator

variable {RP Out BE : Type}

namespace Point

/-- The points at which the dispatcher may run after `close`. -/
def afterClose : Point RP → Bool
  | unstarted | initValidate | initFree | initSnapshot | initFailed | nextWork | ended
  | dispatcherCancelled _ | dispatcherFailed _ _ | imageCancelled _ | interrupt _ => true
  | _ => false

/-- The points at which the current work may have been served already. -/
def late : Point RP → Bool
  | submit _ _ | submitted _ _ | monitor _ _ | imageRaised _ _ | imageCancelled _
  | interrupt _ | dispatcherCancelled _ | dispatcherFailed _ _ => true
  | _ => false

/-- The points at which a prompt may be without a terminal result. -/
def prompting : Point RP → Bool
  | submit _ _ | submitted _ _ | monitor _ _ | imageCancelled _ | interrupt _
  | dispatcherCancelled _ | dispatcherFailed _ _ | ended => true
  | _ => false

/-- The points of a dispatcher that was cancelled. -/
def shutdown : Point RP → Bool
  | dispatcherCancelled _ | imageCancelled _ | interrupt _ => true
  | _ => false

/-- The points after a submission returned. -/
def isSubmitted : Point RP → Bool
  | submitted _ _ | monitor _ _ => true
  | _ => false

/-- Initialization has not failed and the dispatcher has not ended. -/
def running : Point RP → Bool
  | initFailed | ended => false
  | _ => true

theorem running_of_current {p : Point RP} {w : QueuedWork} (h : p.current = some w) :
    p.running = true := by
  cases p <;> first | rfl | cases h

/-- A plain move leads from `p` to `q`. -/
structure Follows (p q : Point RP) : Prop where
  current : q.current = p.current
  afterClose : (!p.afterClose || q.afterClose) = true
  late : (!p.late || q.late) = true
  prompting : (!p.prompting || q.prompting) = true
  running : (p.running && q.running) = true
  shutdown : (p.shutdown || !q.shutdown) = true
  submitted : q.isSubmitted = false

end Point

/-- The events of the calls other than `submit` and `wait_for_prompt`, and of
the waits and grants that concern no client. -/
def Event.neutral : Event RP Out BE → Bool
  | .started _ call | .finished _ call _ | .interrupted _ call =>
      match call with
      | .submit _ | .waitForPrompt _ => false
      | _ => true
  | .controlsTimedOut _ | .comfyGranted _ => true
  | _ => false

structure Plain (s s' : State RP Out BE) : Prop where
  shared : s'.shared = s.shared
  cancelRequested : s'.cancelRequested = s.cancelRequested
  fatal : s'.fatalError = s.fatalError ∨ s'.fatalError = none
  follows : s.point.Follows s'.point
  log : ∃ es, s'.log = es ++ s.log ∧ ∀ e ∈ es, e.neutral = true

theorem Plain.silent {s s' : State RP Out BE} {p : Point RP} (hp : s.point = p)
    (hshared : s'.shared = s.shared) (hcancel : s'.cancelRequested = s.cancelRequested)
    (hfatal : s'.fatalError = s.fatalError ∨ s'.fatalError = none)
    (hfollows : p.Follows s'.point) (hlog : s'.log = s.log) : Plain s s' :=
  ⟨hshared, hcancel, hfatal, hp ▸ hfollows, [], hlog, by simp⟩

theorem Plain.records {s s' : State RP Out BE} {p : Point RP} {e : Event RP Out BE}
    (hp : s.point = p) (hshared : s'.shared = s.shared)
    (hcancel : s'.cancelRequested = s.cancelRequested)
    (hfatal : s'.fatalError = s.fatalError ∨ s'.fatalError = none)
    (hfollows : p.Follows s'.point) (hlog : s'.log = e :: s.log) (he : e.neutral = true) :
    Plain s s' :=
  ⟨hshared, hcancel, hfatal, hp ▸ hfollows, [e], hlog, by simpa using he⟩

theorem Plain.records₂ {s s' : State RP Out BE} {p : Point RP} {e e' : Event RP Out BE}
    (hp : s.point = p) (hshared : s'.shared = s.shared)
    (hcancel : s'.cancelRequested = s.cancelRequested)
    (hfatal : s'.fatalError = s.fatalError ∨ s'.fatalError = none)
    (hfollows : p.Follows s'.point) (hlog : s'.log = e' :: e :: s.log)
    (he : e.neutral = true) (he' : e'.neutral = true) : Plain s s' :=
  ⟨hshared, hcancel, hfatal, hp ▸ hfollows, [e', e], hlog, by simp [he, he']⟩

section
variable [DecidableEq RP] {cfg : BrokerConfig}

/-- The moves inside a segment. -/
inductive Moves (cfg : BrokerConfig) (s : State RP Out BE) : State RP Out BE → Prop
  | stay : Moves cfg s s
  | plain {s'} (hsusp : s.point.isSuspended = false) (h : Plain s s') : Moves cfg s s'
  | skip (n : ℕ) (hp : s.point = .chatStart n) (hc : (s.chats n).cancelled = true) :
      Moves cfg s (s.goto .nextWork)
  | deny (n : ℕ) (hp : s.point = .chatDenied n) : Moves cfg s (chatDenied cfg s n)
  | grant (n : ℕ) (hp : s.point = .chatGrant n) : Moves cfg s (chatGrant cfg s n)
  | withdraw (n : ℕ) (st : HandoffState) (err : Option String) (hp : s.point.late = false)
      (hcur : s.point.current = some (.image n)) (hc : (s.images n).cancelled = true) :
      Moves cfg s (imageWithdrawn { s with state := st, lastError := err } n)
  | submit (n : ℕ) (hp : s.point = .imageActivated n) (hc : (s.images n).cancelled = false) :
      Moves cfg s ((s.setState .imageActive).await (.submit n (s.images n).request)
        (.dispatchImage n) (.submit (s.images n).request))
  | submitted (n : ℕ) (result : PromptResult) (hp : s.point = .submitted n result) :
      Moves cfg s (imageSubmitted s n result)
  | raised (n : ℕ) (e : Exn) (hp : s.point = .imageRaised n e) : Moves cfg s (imageRaised s n e)
  | shutdown (n : ℕ) (hp : s.point = .imageCancelled n) : Moves cfg s (imageShutdown s n)
  | cancelled (work : QueuedWork) (hp : s.point = .dispatcherCancelled work) :
      Moves cfg s (dispatcherCancelled s work)
  | failed (work : Option QueuedWork) (e : Exn) (hp : s.point = .dispatcherFailed work e) :
      Moves cfg s (dispatcherFailed s work e)

theorem advance_moves (s : State RP Out BE) : Moves cfg s (advance cfg s) := by
  unfold advance
  cases hp : s.point <;> dsimp only
  case dispatch work =>
    cases work <;>
      exact .plain (by rw [hp]; rfl) (.silent hp rfl rfl (.inl rfl) (by constructor <;> rfl) rfl)
  case dispatcherCancelled work => exact .cancelled work hp
  case dispatcherFailed work e => exact .failed work e hp
  case chatStart n =>
    unfold chatStart
    split_ifs with hc
    · exact .skip n hp hc
    · exact .plain (by rw [hp]; rfl) (.silent hp rfl rfl (.inl rfl) (by constructor <;> rfl) rfl)
    · exact .plain (by rw [hp]; rfl) (.silent hp rfl rfl (.inl rfl) (by constructor <;> rfl) rfl)
  case chatDenied n => exact .deny n hp
  case chatGrant n => exact .grant n hp
  case imageStart n =>
    simp only [imageStart]
    split_ifs with hc
    · exact .withdraw n _ _ (by rw [hp]; rfl) (by rw [hp]; rfl) hc
    · exact .plain (by rw [hp]; rfl) (.silent hp rfl rfl (.inl rfl) (by constructor <;> rfl) rfl)
    · exact .plain (by rw [hp]; rfl) (.silent hp rfl rfl (.inl rfl) (by constructor <;> rfl) rfl)
  case imageActivated n =>
    unfold imageActivated
    split_ifs with hc
    · exact .withdraw n s.state s.lastError (by rw [hp]; rfl) (by rw [hp]; rfl) hc
    · exact .submit n hp (by simpa using hc)
  case submitted n result => exact .submitted n result hp
  case imageRaised n e => exact .raised n e hp
  case imageCancelled n =>
    unfold imageCancelled
    split_ifs
    · exact .plain (by rw [hp]; rfl)
        (.records hp rfl rfl (.inl rfl) (by constructor <;> rfl) rfl rfl)
    · exact .shutdown n hp
  case activateDrainCheck n =>
    unfold activateDrainCheck
    split_ifs with hc
    · exact .withdraw n _ s.lastError (by rw [hp]; rfl) (by rw [hp]; rfl) hc
    · exact .plain (by rw [hp]; rfl) (.silent hp rfl rfl (.inl rfl) (by constructor <;> rfl) rfl)
    · exact .plain (by rw [hp]; rfl) (.silent hp rfl rfl (.inl rfl) (by constructor <;> rfl) rfl)
  -- The remaining functions only choose the next point or the next call.
  all_goals first
    | exact .stay
    | simp only [chatDrainCheck, chatRestore, restoreStart, restoreControlsCheck, cleanupFailed,
        restoreOwn, restoreBranch, restoreReload, restoreRaised, restoreDone, activateDrained,
        activateRouter, activateRouterUnload, activateUnload, activateDone]
  all_goals repeat' split
  all_goals first
    | exact .plain (by rw [hp]; rfl) (.silent hp rfl rfl (.inl rfl) (by constructor <;> rfl) rfl)
    | exact .plain (by rw [hp]; rfl) (.silent hp rfl rfl (.inr rfl) (by constructor <;> rfl) rfl)
    | exact .plain (by rw [hp]; rfl)
        (.records hp rfl rfl (.inl rfl) (by constructor <;> rfl) rfl rfl)

end

/-! ## Resumptions -/

/-- The moves with which the dispatcher resumes. -/
inductive Starts (s : State RP Out BE) : State RP Out BE → Prop
  | stay : Starts s s
  | plain {s'} (hc : s.cancelRequested = false) (h : Plain s s') : Starts s s'
  | pop (work : QueuedWork) (rest : List QueuedWork) (hp : s.point = .nextWork)
      (hc : s.cancelRequested = false) (hq : s.queue = work :: rest) (hclosing : s.closing = false)
      (hfatal : truthy s.fatalError = false) :
      Starts s ((releaseQueueAccounting { s with queue := rest } work).goto (.dispatch work))
  | finish {s'} (hp : s.point = .nextWork) (hp' : s'.point = .ended)
      (hc : s.cancelRequested = true ∨ s.closing = true ∨ truthy s.fatalError = true)
      (hc' : s'.cancelRequested = false) (hs : s'.shared = s.shared)
      (hfatal : s'.fatalError = s.fatalError) (hlog : s'.log = s.log) : Starts s s'
  | leave (n : ℕ) (hp : s.point = .chatDrain n) (hc : s.cancelRequested = false)
      (h : (s.chats n).cancelled = true ∨ s.closing = true) : Starts s (s.goto .nextWork)
  | initFailed (by_ : Routine) (call : Call RP) (e : Exn) (hp : s.point.isInitializing = true)
      (hcall : s.point.call = some (by_, call)) :
      Starts s (initRaised (s.emit (.finished by_ call (.raised e))) e)
  | submitReturned (n : ℕ) (request : WorkflowRequest) (result : PromptResult)
      (hp : s.point = .submit n request) (hc : s.cancelRequested = false) :
      Starts s ((clearRequest (s.emit (.finished (.dispatchImage n) (.submit request)
        (.submitted result))) n).goto (.submitted n result))
  | submitRaised (n : ℕ) (request : WorkflowRequest) (e : Exn)
      (hp : s.point = .submit n request) (hc : s.cancelRequested = false) :
      Starts s ((clearRequest (s.emit (.finished (.dispatchImage n) (.submit request)
        (.raised e))) n).goto (.imageRaised n e))
  | promptCompleted (n : ℕ) (promptId : String) (outputs : Out)
      (hp : s.point = .monitor n promptId) (hc : s.cancelRequested = false) :
      Starts s (imageCompleted (s.emit (.finished (.dispatchImage n) (.waitForPrompt promptId)
        (.outputs outputs))) n outputs)
  | promptRaised (n : ℕ) (promptId : String) (e : Exn)
      (hp : s.point = .monitor n promptId) (hc : s.cancelRequested = false) :
      Starts s ((s.emit (.finished (.dispatchImage n) (.waitForPrompt promptId)
        (.raised e))).goto (.imageRaised n e))
  | interruptDone (n : ℕ) (hp : s.point = .interrupt n) (hc : s.cancelRequested = false) :
      Starts s (imageShutdown (s.emit (.finished (.dispatchImage n) .interrupt .done)) n)
  | cancel {s'} (hc : s.cancelRequested = true) (hc' : s'.cancelRequested = false)
      (hs : s'.shared = s.shared) (hfatal : s'.fatalError = s.fatalError)
      (hp : s'.point.afterClose = true ∧ s'.point.late = true ∧ s'.point.prompting = true ∧
        s.point.running = true ∧ s'.point.running = true ∧ s'.point.isSubmitted = false)
      (hcur : s'.point.current = s.point.current)
      (hlog : s'.log = s.log ∨ ∃ by_ call, s'.log = .interrupted by_ call :: s.log) : Starts s s'
  | cancelSubmit (n : ℕ) (request : WorkflowRequest) (hp : s.point = .submit n request)
      (hc : s.cancelRequested = true) :
      Starts s ((clearRequest { s.emit (.interrupted (.dispatchImage n) (.submit request)) with
        cancelRequested := false } n).goto (.imageCancelled n))

/-- A call in flight can be answered by any reply of its type, and by no other. -/
theorem isSome_onReply_iff {s : State RP Out BE} {by_ : Routine} {call : Call RP}
    (hcall : s.point.call = some (by_, call)) (r : Reply RP Out) :
    (onReply s r).isSome = true ↔ r.Fits call := by
  unfold onReply
  cases hp : s.point <;> rw [hp] at hcall <;> cases hcall <;> cases r
  case restoreObserve.refl.observed o | activateObserve.refl.observed o =>
    cases o <;> exact iff_of_true rfl trivial
  all_goals first
    | exact iff_of_true rfl trivial
    | exact iff_of_false Bool.false_ne_true id

theorem onReply_starts {s s' : State RP Out BE} {by_ : Routine} {call : Call RP}
    {r : Reply RP Out} (hc : s.cancelRequested = false) (hcall : s.point.call = some (by_, call))
    (h : onReply (s.emit (.finished by_ call r)) r = some s') : Starts s s' := by
  generalize hp : s.point = p at hcall
  cases onReply_returns h hp <;> cases hcall
  case submitSubmitted.refl n request result => exact .submitReturned n request result hp hc
  case submitRaised.refl n request e => exact .submitRaised n request e hp hc
  case monitorOutputs.refl n promptId outputs => exact .promptCompleted n promptId outputs hp hc
  case monitorRaised.refl n promptId e => exact .promptRaised n promptId e hp hc
  case interruptDone.refl n => exact .interruptDone n hp hc
  case initValidateRaised.refl e | initFreeRaised.refl e | initSnapshotRaised.refl e =>
    exact .initFailed _ _ e (by rw [hp]; rfl) (by rw [hp]; rfl)
  case initValidateDone.refl | initFreeDone.refl | restoreRouterReleaseDone.refl |
      activateValidateDone.refl =>
    exact .plain hc (.records₂ hp rfl rfl (.inl rfl) (by constructor <;> rfl) rfl rfl rfl)
  case initSnapshotAcquired.refl =>
    exact .plain hc (.records hp rfl rfl (.inr rfl) (by constructor <;> rfl) rfl rfl)
  -- The other replies only choose the next point.
  all_goals exact .plain hc (.records hp rfl rfl (.inl rfl) (by constructor <;> rfl) rfl rfl)

theorem onCancel_starts {s t s' : State RP Out BE} (hc : s.cancelRequested = true)
    (ht : t = { s with cancelRequested := false } ∧ s.point.call = none ∨
      ∃ by_ call, s.point.call = some (by_, call) ∧
        t = { s.emit (.interrupted by_ call) with cancelRequested := false })
    (h : onCancel t = some s') : Starts s s' := by
  unfold onCancel at h
  have hpt : t.point = s.point := by
    rcases ht with ⟨rfl, -⟩ | ⟨by_, call, -, rfl⟩ <;> rfl
  rw [hpt] at h
  cases hp : s.point <;> rw [hp] at ht h <;> dsimp only at h
  case nextWork =>
    rcases ht with ⟨rfl, -⟩ | ⟨by_, call, hcall, -⟩
    · cases h
      exact .finish hp rfl (.inl hc) rfl rfl rfl rfl
    · cases hcall
  case submit n request =>
    rcases ht with ⟨-, hcall⟩ | ⟨by_, call, hcall, rfl⟩
    · cases hcall
    · cases hcall
      cases h
      exact .cancelSubmit n request hp hc
  all_goals first
    | (cases h; done)
    | (rcases ht with ⟨rfl, -⟩ | ⟨by_, call, hcall, rfl⟩
       · cases h
         refine .cancel hc rfl rfl rfl ?_ (by rw [hp]; rfl) (.inl rfl)
         rw [hp]
         exact ⟨rfl, rfl, rfl, rfl, rfl, rfl⟩
       · cases h
         refine .cancel hc rfl rfl rfl ?_ (by rw [hp]; rfl) (.inr ⟨by_, call, rfl⟩)
         rw [hp]
         exact ⟨rfl, rfl, rfl, rfl, rfl, rfl⟩)

theorem resumes_starts {s s' : State RP Out BE} {a : Action RP Out BE} (h : Resumes s a s') :
    Starts s s' := by
  cases h with
  | wake hc h =>
      unfold onWake at h
      cases hp : s.point <;> rw [hp] at h <;> dsimp only at h
      case nextWork =>
        cases h
        unfold nextWork
        split_ifs with hstop
        · exact .finish hp rfl (.inr (by simpa using hstop)) hc rfl rfl rfl
        · simp only [Bool.or_eq_true, not_or, Bool.not_eq_true] at hstop
          split
          · exact .stay
          · next work rest hq => exact .pop work rest hp hc hq hstop.1 hstop.2
      case chatDrain n =>
        cases h
        unfold chatDrainWake
        split_ifs with hleave
        · exact .leave n hp hc (by simpa using hleave)
        · exact .plain hc (.silent hp rfl rfl (.inl rfl) (by constructor <;> rfl) rfl)
      all_goals
        cases h
      all_goals
        exact .plain hc (.silent hp rfl rfl (.inl rfl) (by constructor <;> rfl) rfl)
  | timeout hc h =>
      unfold onTimeout at h
      cases hp : s.point <;> rw [hp] at h <;> dsimp only at h <;> cases h
      · exact .plain hc (.records hp rfl rfl (.inl rfl) (by constructor <;> rfl) rfl rfl)
      · exact .plain hc (.silent hp rfl rfl (.inl rfl) (by constructor <;> rfl) rfl)
  | fault hc h =>
      unfold onFault at h
      cases hp : s.point <;> rw [hp] at h <;> dsimp only at h <;> cases h <;>
        exact .plain hc (.silent hp rfl rfl (.inl rfl) (by constructor <;> rfl) rfl)
  | reply hc hcall h => exact onReply_starts hc hcall h
  | cancelCall hc hcall h => exact onCancel_starts hc (.inr ⟨_, _, hcall, rfl⟩) h
  | cancelWait hc hcall h => exact onCancel_starts hc (.inl ⟨rfl, hcall⟩) h

/-! ## The end of a work -/

/-- The points to which the dispatcher goes when it has resolved or given up a
work. -/
def Point.served : Point RP → Bool
  | .nextWork | .monitor _ _ | .imageRaised _ _ | .imageCancelled _ | .dispatcherCancelled _
  | .dispatcherFailed _ _ | .ended => true
  | _ => false

/-- The events of such moves. -/
def Event.serves : Event RP Out BE → Bool
  | .resolved _ | .started (.dispatchImage _) (.waitForPrompt _) => true
  | _ => false

/-- Futures are resolved and the dispatcher goes on; who owns the GPU stays. -/
structure Served (s s' : State RP Out BE) : Prop where
  owner : s'.owner = s.owner
  restorePoint : s'.restorePoint = s.restorePoint
  recoverable : s'.recoverableError = s.recoverableError ∨ truthy s'.recoverableError = true
  chats : ∀ n, (s'.chats n).lease = (s.chats n).lease
  controls : s'.activeComfyControls = s.activeComfyControls
  sequence : s'.sequence = s.sequence
  queue : ∀ w ∈ s'.queue, w ∈ s.queue
  ready : ∀ n r, (s.chats n).ready = some r → (s'.chats n).ready = some r
  point : s'.point.served = true
  log : ∃ es, s'.log = es ++ s.log ∧ ∀ e ∈ es, e.serves = true

theorem Served.goto {s : State RP Out BE} {p : Point RP} (hp : p.served = true) :
    Served s (s.goto p) where
  owner := rfl
  restorePoint := rfl
  recoverable := .inl rfl
  chats _ := rfl
  controls := rfl
  sequence := rfl
  queue _ := id
  ready _ _ := id
  point := hp
  log := ⟨[], rfl, List.forall_mem_nil _⟩

theorem Resolved.served {s s' : State RP Out BE} {p : Point RP} (h : Resolved s s')
    (hq : ∀ w ∈ s'.queue, w ∈ s.queue) (hp : p.served = true) : Served s (s'.goto p) where
  owner := h.field State.owner fun _ ↦ rfl
  restorePoint := h.field State.restorePoint fun _ ↦ rfl
  recoverable := .inl (h.field State.recoverableError fun _ ↦ rfl)
  chats := h.chats
  controls := h.field State.activeComfyControls fun _ ↦ rfl
  sequence := h.field State.sequence fun _ ↦ rfl
  queue := hq
  ready := h.ready
  point := hp
  log := by
    obtain ⟨fs, hlog, -⟩ := h.log
    refine ⟨fs.map .resolved, hlog, fun e he ↦ ?_⟩
    obtain ⟨f, -, rfl⟩ := List.mem_map.mp he
    rfl

theorem chatDenied_served (cfg : BrokerConfig) (s : State RP Out BE) (n : ℕ) :
    Served s (chatDenied cfg s n) :=
  (resolveChat_resolved s n _).served (by simp) rfl

theorem chatGrant_served (cfg : BrokerConfig) (s : State RP Out BE) (n : ℕ) :
    Served s (chatGrant cfg s n) ∨
    Served ({ s.setChat n { s.chats n with granted := true } with
      activeChats := s.activeChats + 1
      state := grantState cfg s.state }.emit (.chatGranted n)) (chatGrant cfg s n) := by
  unfold chatGrant
  split_ifs
  · exact .inl (.goto rfl)
  · exact .inl ((resolveChat_resolved s n _).served (by simp) rfl)
  · exact .inl ((resolveChat_resolved s n _).served (by simp) rfl)
  · exact .inr ((resolveChat_resolved _ n none).served (by simp) rfl)

theorem imageWithdrawn_served (s : State RP Out BE) (n : ℕ) : Served s (imageWithdrawn s n) :=
  { (resolveImageError_resolved s n "image request was cancelled").served
      (p := .nextWork) (by simp) rfl with }

theorem imageSubmitted_served (s : State RP Out BE) (n : ℕ) (result : PromptResult) :
    Served s (imageSubmitted s n result) := by
  have hr := resolveSubmitted_resolved s n ⟨some result.response, none⟩
  simp only [imageSubmitted]
  split_ifs
  · exact hr.served (by simp) rfl
  · split
    · exact hr.served (by simp) rfl
    · next promptId hsome =>
        split_ifs
        · exact hr.served (by simp) rfl
        · have hserved := hr.served (p := .monitor n promptId) (by simp) rfl
          obtain ⟨es, hlog, hes⟩ := hserved.log
          refine { hserved with log := ⟨.started (.dispatchImage n) (.waitForPrompt promptId) :: es,
            by rw [List.cons_append, ← hlog], fun e he ↦ ?_⟩ }
          rcases List.mem_cons.mp he with rfl | he
          · rfl
          · exact hes e he

theorem imageCompleted_served (s : State RP Out BE) (n : ℕ) (outputs : Out) :
    Served s (imageCompleted s n outputs) :=
  { (resolveCompletion_resolved s n ⟨some outputs, none⟩).served (p := .nextWork) (by simp)
      rfl with }

theorem imageRaised_served (s : State RP Out BE) (n : ℕ) (e : Exn) :
    Served s (imageRaised s n e) := by
  have hr (t : State RP Out BE) :=
    (resolveImageError_resolved t n e.message).served (p := .nextWork) (by simp) rfl
  simp only [imageRaised]
  split_ifs
  · exact { hr (s.setState .comfyReady) with }
  · exact { hr (s.setState .llmReady) with }
  · exact { hr s with }
  · have hmark := hr (markRecoverable s
      "GPU ownership is not confirmed after workflow handoff failure")
    have herror : truthy (some "GPU ownership is not confirmed after workflow handoff failure") =
        true := by simp
    exact { hmark with recoverable := .inr (hmark.recoverable.elim (fun heq ↦ heq ▸ herror) id) }

theorem imageShutdown_served (s : State RP Out BE) (n : ℕ) : Served s (imageShutdown s n) :=
  { (resolveImageError_resolved s n "broker is shutting down").served
      (p := .dispatcherCancelled (.image n)) (by simp) rfl with }

theorem dispatcherCancelled_served (s : State RP Out BE) (work : QueuedWork) :
    Served s (dispatcherCancelled s work) :=
  (resolveWork_resolved s work _).served (by simp) rfl

theorem dispatcherFailed_served (s : State RP Out BE) (work : Option QueuedWork) (e : Exn) :
    Served s (dispatcherFailed s work e) :=
  { (dispatcherFailed_resolved s work e).served (p := .ended)
      (by simp [dispatcherFailed, markFatal]) rfl with }

theorem onFault_served {s s' : State RP Out BE} {e : Exn} (h : onFault s e = some s') :
    Served s s' := by
  unfold onFault at h
  cases hp : s.point <;> rw [hp] at h <;> dsimp only at h <;> cases h <;> exact .goto rfl

theorem onCancel_served {s s' : State RP Out BE} (h : onCancel s = some s') : Served s s' := by
  unfold onCancel at h
  cases hp : s.point <;> rw [hp] at h <;> dsimp only at h <;> cases h
  case submit.refl n request => exact { Served.goto (s := s) (p := .imageCancelled n) rfl with }
  case interrupt.refl n =>
    exact { Served.goto (s := s) (p := .dispatcherCancelled (.image n)) rfl with }
  all_goals exact .goto rfl

end StProxy.Coordinator
