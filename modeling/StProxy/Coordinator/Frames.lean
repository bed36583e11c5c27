import StProxy.Coordinator.System

/-!
# What the moves leave alone

Most moves of the dispatcher change only its own attributes.  The others
resolve futures, which changes nothing but the futures and the history.
-/

namespace StProxy.Coordinator

variable {RP Out BE : Type}

/-- The part of the state that the dispatcher shares with its clients. -/
structure Shared (RP Out : Type) where
  queue : List QueuedWork
  sequence : ℕ
  activeChats : ℕ
  activeLlmMetadata : ℕ
  activeComfyControls : ℕ
  passiveLeases : ℕ
  routerControls : ℕ
  closing : Bool
  chats : ℕ → ChatWork RP
  images : ℕ → ImageWork Out
  batches : List (List ℕ)

def State.shared (s : State RP Out BE) : Shared RP Out where
  queue := s.queue
  sequence := s.sequence
  activeChats := s.activeChats
  activeLlmMetadata := s.activeLlmMetadata
  activeComfyControls := s.activeComfyControls
  passiveLeases := s.passiveLeases
  routerControls := s.routerControls
  closing := s.closing
  chats := s.chats
  images := s.images
  batches := s.batches

/-- The parts of a chat work other than its future. -/
def ChatWork.lease (w : ChatWork RP) : Bool × Bool × Option RP × ChatClient :=
  (w.cancelled, w.granted, w.target, w.client)

/-- The parts of an image work other than its futures, and whether it has a
completion future. -/
def ImageWork.lease (w : ImageWork Out) : WorkflowRequest × Bool × ImageClient × Bool :=
  (w.request, w.cancelled, w.client, w.completion.isSome)

theorem truthy_notConfirmedReady (cfg : BrokerConfig) :
    truthy (some (notConfirmedReady cfg)) = true := by
  unfold notConfirmedReady
  cases cfg.llmBackend <;> decide

/-! ## Resolved futures -/

/-- The state without its work objects, its queue and its history. -/
def State.core (s : State RP Out BE) : State RP Out BE :=
  { s with
    queue := []
    waitingChats := 0
    waitingImages := 0
    queuedWorkflowBytes := 0
    chats := fun _ ↦ .absent
    images := fun _ ↦ .absent
    log := [] }

/-- The future has a result. -/
def State.isDone (s : State RP Out BE) : FutureId → Prop
  | .ready n => (s.chats n).ready ≠ none
  | .submitted n => (s.images n).submitted ≠ none
  | .completion n => ∃ outcome, (s.images n).completion = some (some outcome)

/-- `s'` is `s` with some futures resolved; the queue may have changed. -/
structure Resolved (s s' : State RP Out BE) : Prop where
  core : s'.core = s.core
  chats : ∀ n, (s'.chats n).lease = (s.chats n).lease
  images : ∀ n, (s'.images n).lease = (s.images n).lease
  ready : ∀ n r, (s.chats n).ready = some r → (s'.chats n).ready = some r
  log : ∃ fs : List FutureId, s'.log = fs.map .resolved ++ s.log ∧ fs.Nodup ∧
    (∀ f ∈ fs, ¬s.isDone f) ∧ ∀ f, s'.isDone f ↔ f ∈ fs ∨ s.isDone f

namespace Resolved

variable {s t u : State RP Out BE}

theorem refl (s : State RP Out BE) : Resolved s s :=
  ⟨rfl, fun _ ↦ rfl, fun _ ↦ rfl, fun _ _ ↦ id, [], rfl, .nil, by simp, by simp⟩

theorem trans (h : Resolved s t) (h' : Resolved t u) : Resolved s u where
  core := h'.core.trans h.core
  chats n := (h'.chats n).trans (h.chats n)
  images n := (h'.images n).trans (h.images n)
  ready n r hr := h'.ready n r (h.ready n r hr)
  log := by
    obtain ⟨fs, hfs, hnodup, hfresh, hdone⟩ := h.log
    obtain ⟨gs, hgs, hnodup', hfresh', hdone'⟩ := h'.log
    refine ⟨gs ++ fs, by rw [hgs, hfs, List.map_append, List.append_assoc], ?_, ?_, ?_⟩
    · refine List.nodup_append.mpr ⟨hnodup', hnodup, ?_⟩
      rintro f hf _ hf' rfl
      exact hfresh' f hf ((hdone f).mpr (.inl hf'))
    · intro f hf hs
      rcases List.mem_append.mp hf with hf | hf
      · exact hfresh' f hf ((hdone f).mpr (.inr hs))
      · exact hfresh f hf hs
    · intro f
      rw [hdone' f, hdone f, List.mem_append, or_assoc]

/-- Whatever does not depend on works, queue and history stays. -/
theorem field {α : Type} (h : Resolved s t) (f : State RP Out BE → α)
    (hf : ∀ s, f s.core = f s) : f t = f s := by
  rw [← hf t, h.core, hf]

theorem point (h : Resolved s t) : t.point = s.point :=
  h.field State.point fun _ ↦ rfl

theorem cancelled (h : Resolved s t) (n : ℕ) : (t.chats n).cancelled = (s.chats n).cancelled :=
  congrArg Prod.fst (h.chats n)

theorem granted (h : Resolved s t) (n : ℕ) : (t.chats n).granted = (s.chats n).granted :=
  congrArg (fun w ↦ w.2.1) (h.chats n)

theorem target (h : Resolved s t) (n : ℕ) : (t.chats n).target = (s.chats n).target :=
  congrArg (fun w ↦ w.2.2.1) (h.chats n)

theorem client (h : Resolved s t) (n : ℕ) : (t.chats n).client = (s.chats n).client :=
  congrArg (fun w ↦ w.2.2.2) (h.chats n)

theorem request (h : Resolved s t) (n : ℕ) : (t.images n).request = (s.images n).request :=
  congrArg Prod.fst (h.images n)

theorem image_cancelled (h : Resolved s t) (n : ℕ) :
    (t.images n).cancelled = (s.images n).cancelled :=
  congrArg (fun w ↦ w.2.1) (h.images n)

theorem image_client (h : Resolved s t) (n : ℕ) : (t.images n).client = (s.images n).client :=
  congrArg (fun w ↦ w.2.2.1) (h.images n)

theorem completion_isSome (h : Resolved s t) (n : ℕ) :
    (t.images n).completion.isSome = (s.images n).completion.isSome :=
  congrArg (fun w ↦ w.2.2.2) (h.images n)

theorem goto (h : Resolved s t) (p : Point RP) : Resolved (s.goto p) (t.goto p) :=
  ⟨congrArg (fun u ↦ u.goto p) h.core, h.chats, h.images, h.ready, h.log⟩

end Resolved

theorem resolveChat_resolved (s : State RP Out BE) (n : ℕ) (error : Option String) :
    Resolved s (resolveChat s n error) := by
  unfold resolveChat
  split
  · next hnone =>
      refine ⟨rfl, fun m ↦ ?_, fun _ ↦ rfl, fun m r hr ↦ ?_, [.ready n], rfl, by simp, ?_, ?_⟩
      · by_cases hm : m = n
        · subst hm
          simp [ChatWork.lease]
        · simp [hm]
      · have hm : m ≠ n := by
          rintro rfl
          cases hnone.symm.trans hr
        simpa [hm] using hr
      · simp [State.isDone, hnone]
      · rintro (m | m | m)
        · by_cases hm : m = n <;> simp [State.isDone, hm]
        · simp [State.isDone]
        · simp [State.isDone]
  · exact .refl s

theorem resolveSubmitted_resolved (s : State RP Out BE) (n : ℕ) (outcome : SubmissionOutcome) :
    Resolved s (resolveSubmitted s n outcome) := by
  unfold resolveSubmitted
  split
  · next hnone =>
      refine ⟨rfl, fun _ ↦ rfl, fun m ↦ ?_, fun _ _ ↦ id, [.submitted n], rfl, by simp, ?_, ?_⟩
      · by_cases hm : m = n
        · subst hm
          simp [ImageWork.lease]
        · simp [hm]
      · simp [State.isDone, hnone]
      · rintro (m | m | m)
        · simp [State.isDone]
        · by_cases hm : m = n <;> simp [State.isDone, hm]
        · by_cases hm : m = n <;> simp [State.isDone, hm]
  · exact .refl s

theorem resolveCompletion_resolved (s : State RP Out BE) (n : ℕ) (outcome : ImageOutcome Out) :
    Resolved s (resolveCompletion s n outcome) := by
  unfold resolveCompletion
  split
  · next hnone =>
      refine ⟨rfl, fun _ ↦ rfl, fun m ↦ ?_, fun _ _ ↦ id, [.completion n], rfl, by simp, ?_, ?_⟩
      · by_cases hm : m = n
        · subst hm
          simp [ImageWork.lease, hnone]
        · simp [hm]
      · simp [State.isDone, hnone]
      · rintro (m | m | m)
        · simp [State.isDone]
        · by_cases hm : m = n <;> simp [State.isDone, hm]
        · by_cases hm : m = n <;> simp [State.isDone, hm]
  · exact .refl s

theorem resolveImageError_resolved (s : State RP Out BE) (n : ℕ) (error : String) :
    Resolved s (resolveImageError s n error) :=
  (resolveSubmitted_resolved s n _).trans (resolveCompletion_resolved _ n _)

theorem resolveWork_resolved (s : State RP Out BE) (work : QueuedWork) (error : String) :
    Resolved s (resolveWork s work error) := by
  cases work with
  | chat n => exact resolveChat_resolved s n _
  | image n => exact resolveImageError_resolved s n error

@[simp] theorem resolveChat_queue (s : State RP Out BE) (n : ℕ) (error : Option String) :
    (resolveChat s n error).queue = s.queue := by
  unfold resolveChat
  split <;> rfl

@[simp] theorem resolveSubmitted_queue (s : State RP Out BE) (n : ℕ)
    (outcome : SubmissionOutcome) : (resolveSubmitted s n outcome).queue = s.queue := by
  unfold resolveSubmitted
  split <;> rfl

@[simp] theorem resolveCompletion_queue (s : State RP Out BE) (n : ℕ)
    (outcome : ImageOutcome Out) : (resolveCompletion s n outcome).queue = s.queue := by
  unfold resolveCompletion
  split <;> rfl

@[simp] theorem resolveImageError_queue (s : State RP Out BE) (n : ℕ) (error : String) :
    (resolveImageError s n error).queue = s.queue := by
  simp [resolveImageError]

@[simp] theorem resolveWork_queue (s : State RP Out BE) (work : QueuedWork) (error : String) :
    (resolveWork s work error).queue = s.queue := by
  cases work <;> simp [resolveWork]

/-! ## The queue -/

theorem dequeue_resolved (s : State RP Out BE) (queue : List QueuedWork) (work : QueuedWork) :
    Resolved s (releaseQueueAccounting { s with queue := queue } work) := by
  cases work <;>
    exact ⟨rfl, fun _ ↦ rfl, fun _ ↦ rfl, fun _ _ ↦ id, [], rfl, .nil, by simp,
      fun f ↦ by cases f <;> simp [State.isDone, releaseQueueAccounting]⟩

@[simp] theorem releaseQueueAccounting_queue (s : State RP Out BE) (work : QueuedWork) :
    (releaseQueueAccounting s work).queue = s.queue := by
  cases work <;> rfl

theorem failQueuedLoop_resolved (error : String) (works : List QueuedWork) :
    ∀ s : State RP Out BE, Resolved s (failQueuedLoop error works s) := by
  induction works with
  | nil => exact Resolved.refl
  | cons work rest ih =>
      intro s
      exact ((dequeue_resolved s rest work).trans (resolveWork_resolved _ work error)).trans
        (ih _)

theorem failQueuedLoop_queue (error : String) (works : List QueuedWork) :
    ∀ s : State RP Out BE, s.queue = works → (failQueuedLoop error works s).queue = [] := by
  induction works with
  | nil => exact fun s hs ↦ hs
  | cons work rest ih => exact fun s _ ↦ ih _ (by simp)

theorem failQueued_resolved (s : State RP Out BE) (error : String) :
    Resolved s (failQueued s error) :=
  failQueuedLoop_resolved error s.queue s

@[simp] theorem failQueued_queue (s : State RP Out BE) (error : String) :
    (failQueued s error).queue = [] :=
  failQueuedLoop_queue error s.queue s rfl

theorem removeQueued_resolved (s : State RP Out BE) (work : QueuedWork) :
    Resolved s (removeQueued s work).2 := by
  unfold removeQueued
  split
  · exact dequeue_resolved s _ work
  · exact .refl s

@[simp] theorem removeQueued_fst (s : State RP Out BE) (work : QueuedWork) :
    (removeQueued s work).1 = decide (work ∈ s.queue) := by
  unfold removeQueued
  split <;> simp_all

@[simp] theorem removeQueued_queue (s : State RP Out BE) (work : QueuedWork) :
    (removeQueued s work).2.queue = s.queue.erase work := by
  unfold removeQueued
  split
  · simp
  · next hw => exact (List.erase_of_not_mem hw).symm

theorem Resolved.markFatal {s t : State RP Out BE} (h : Resolved s t) (error : String) :
    Resolved { s with fatalError := some error, state := .error } (markFatal t error) :=
  Resolved.trans (t := { t with fatalError := some error, state := .error })
    ⟨congrArg (fun u : State RP Out BE ↦ { u with fatalError := some error, state := .error })
      h.core, h.chats, h.images, h.ready, h.log⟩ (failQueued_resolved _ error)

/-- What the dispatcher does after an unexpected exception, up to futures. -/
theorem dispatcherFailed_resolved (s : State RP Out BE) (work : Option QueuedWork) (e : Exn) :
    Resolved
      ({ s with
        lastError := some e.str
        fatalError := some ("broker dispatcher failed: " ++ e.typeName)
        state := .error }.goto .ended)
      (dispatcherFailed s work e) := by
  cases work with
  | none => exact ((Resolved.refl { s with lastError := some e.str }).markFatal _).goto .ended
  | some work =>
      exact ((resolveWork_resolved { s with lastError := some e.str } work _).markFatal _).goto
        .ended

/-! ## Requests -/

namespace Method

variable {α β : Type} (s : State RP Out BE)

theorem call_throw_bind (e : String) (f : α → Method RP Out BE β) :
    (throw e >>= f : Method RP Out BE β).call s = (.error e, s) := rfl

/-- A check of the state that fails ends the method where it stands. -/
theorem call_check_bind (r : State RP Out BE → Except String Unit)
    (f : State RP Out BE → Unit → Method RP Out BE α) :
    (get >>= fun t ↦ liftM (r t) >>= f t : Method RP Out BE α).call s =
      match r s with
      | .ok u => (f s u).call s
      | .error e => (.error e, s) := by
  change (liftM (r s) >>= f s : Method RP Out BE α).call s = _
  cases r s <;> rfl

end Method

theorem checkOpen_ok {s : State RP Out BE} (h : checkOpen s = .ok ()) :
    s.closing = false ∧ truthy s.fatalError = false := by
  unfold checkOpen at h
  split at h
  · cases h
  · next hc =>
      refine ⟨by simpa using hc, ?_⟩
      split at h
      · next error herror =>
          split at h
          · next hempty => simp [herror, hempty, truthy]
          · cases h
      · next hnone => simp [hnone]

/-- The call is refused, or the chat is in the queue. -/
theorem chatLease_call (s : State RP Out BE) (target : Option RP) :
    (∃ error, (chatLease target).call s = (.error error, s)) ∨
      (s.closing = false ∧ truthy s.fatalError = false) ∧
      (chatLease target).call s = (.ok (),
        (appendQueued ({ s with sequence := s.sequence + 1 }.setChat (s.sequence + 1)
          ⟨none, false, false, target, .waiting⟩) (.chat (s.sequence + 1))).emit
            (.chatAccepted (s.sequence + 1))) := by
  unfold chatLease
  rw [Method.call_check_bind]
  cases hopen : checkOpen s with
  | error e => exact .inl ⟨e, rfl⟩
  | ok u => exact .inr ⟨checkOpen_ok hopen, rfl⟩

theorem comfyControlLease_call (s : State RP Out BE) :
    (∃ error, comfyControlLease.call s = (.error error, s)) ∨
      (s.closing = false ∧ truthy s.fatalError = false) ∧ s.owner = .comfy ∧
      (s.state = .comfyReady ∨ s.state = .imageActive) ∧
      comfyControlLease.call s = (.ok (),
        { s with activeComfyControls := s.activeComfyControls + 1 }.emit .controlGranted) := by
  unfold comfyControlLease
  rw [Method.call_check_bind]
  cases hopen : checkOpen s with
  | error e => exact .inl ⟨e, rfl⟩
  | ok u =>
      dsimp only
      split
      · exact .inl ⟨_, Method.call_throw_bind s _ _⟩
      · next hcond =>
          have hcond' : s.owner = .comfy ∧ (s.state = .comfyReady ∨ s.state = .imageActive) := by
            simpa [Decidable.or_iff_not_imp_left] using hcond
          exact .inr ⟨checkOpen_ok hopen, hcond'.1, hcond'.2, rfl⟩

theorem submitImage_call (cfg : BrokerConfig) (s : State RP Out BE) (request : WorkflowRequest)
    (wantsCompletion : Bool) :
    (∃ error, (submitImage cfg request wantsCompletion).call s = (.error error, s)) ∨
      (s.closing = false ∧ truthy s.fatalError = false) ∧
      checkImageCapacity cfg s [request.body] = .ok () ∧
      (submitImage cfg request wantsCompletion).call s = (.ok (),
        (appendQueued ({ s with sequence := s.sequence + 1 }.setImage (s.sequence + 1)
          ⟨request, none, if wantsCompletion then some none else none, false, .waiting⟩)
            (.image (s.sequence + 1))).emit (.imagesAccepted [s.sequence + 1])) := by
  unfold submitImage
  rw [Method.call_check_bind]
  cases hopen : checkOpen s with
  | error e => exact .inl ⟨e, rfl⟩
  | ok u =>
      dsimp only
      rw [Method.call_check_bind]
      cases hcapacity : checkImageCapacity cfg s [request.body] with
      | error e => exact .inl ⟨e, rfl⟩
      | ok u => exact .inr ⟨checkOpen_ok hopen, rfl, rfl⟩

theorem imageBatch_call (cfg : BrokerConfig) (s : State RP Out BE) (bodies : List (List UInt8)) :
    (∃ error, (imageBatch cfg bodies).call s = (.error error, s)) ∨
      (s.closing = false ∧ truthy s.fatalError = false) ∧
      checkImageCapacity cfg s bodies = .ok () ∧
      (imageBatch cfg bodies).call s = (.ok (),
        { appendBatch bodies s with
          batches := List.range' (s.sequence + 1) bodies.length :: (appendBatch bodies s).batches
          }.emit (.imagesAccepted (List.range' (s.sequence + 1) bodies.length))) := by
  unfold imageBatch
  dsimp only
  split
  · exact .inl ⟨_, Method.call_throw_bind s _ _⟩
  · rw [Method.call_check_bind]
    cases hopen : checkOpen s with
    | error e => exact .inl ⟨e, rfl⟩
    | ok u =>
        dsimp only
        rw [Method.call_check_bind]
        cases hcapacity : checkImageCapacity cfg s bodies with
        | error e => exact .inl ⟨e, rfl⟩
        | ok u => exact .inr ⟨checkOpen_ok hopen, rfl, rfl⟩

/-! ## Withdrawals -/

theorem chatLeave_eq (s : State RP Out BE) (n : ℕ) (entered : Bool) :
    chatLeave s n entered =
      { s with
        queue := if entered then s.queue else s.queue.erase (.chat n)
        waitingChats :=
          if entered = false ∧ .chat n ∈ s.queue then s.waitingChats - 1 else s.waitingChats
        chats := Function.update s.chats n { s.chats n with
          cancelled := (s.chats n).cancelled || !entered
          granted := false
          client := .gone }
        activeChats := s.activeChats - (s.chats n).granted.toNat
        log := (if (s.chats n).granted then [.chatReleased n] else []) ++ s.log } := by
  by_cases hmem : QueuedWork.chat n ∈ s.queue <;> cases entered <;>
    cases hg : (s.chats n).granted <;>
    simp [chatLeave, removeQueued, releaseQueueAccounting, hmem, hg, List.erase_of_not_mem]

theorem withdrawImage_eq (s : State RP Out BE) (n : ℕ) (error : String) :
    withdrawImage s n error =
      let t := (s.setImage n { s.images n with cancelled := true }).emit (.imageCancelled n)
      if .image n ∈ s.queue then resolveImageError (removeQueued t (.image n)).2 n error
      else t := by
  unfold withdrawImage removeQueued
  by_cases hmem : QueuedWork.image n ∈ s.queue <;> simp [hmem]

theorem close_eq {s : State RP Out BE} (h : s.closing = false) :
    close s =
      { failQueued { s with closing := true, state := .shuttingDown } "broker is shutting down" with
        cancelRequested := dispatcherAlive s } := by
  rw [close, if_neg (by simp [h])]

theorem close_resolved {s : State RP Out BE} (h : s.closing = false) :
    Resolved { s with
      closing := true
      state := .shuttingDown
      cancelRequested := dispatcherAlive s } (close s) := by
  have hr := failQueued_resolved { s with closing := true, state := .shuttingDown }
    "broker is shutting down"
  rw [close_eq h]
  exact ⟨congrArg (fun u : State RP Out BE ↦ { u with cancelRequested := dispatcherAlive s })
    hr.core, hr.chats, hr.images, hr.ready, hr.log⟩

theorem close_queue {s : State RP Out BE} (h : s.closing = false) : (close s).queue = [] := by
  simp [close, h]

end StProxy.Coordinator
