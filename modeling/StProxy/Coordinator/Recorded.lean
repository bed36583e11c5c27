import StProxy.Coordinator.Moves

/-!
# What a step records

The events that a step adds to the history, the end of the call in flight apart, and what it
leaves of the targets and of the restore point.
-/

namespace StProxy.Coordinator

variable {RP Out BE : Type}

/-! ## The other tasks -/

/-- The events of the handlers and of the adapters. -/
def Event.foreign : Event RP Out BE → Bool
  | .routerFailed _ | .backend _ => true
  | _ => false

/-- What most actions of the other tasks leave as it is. -/
def State.frame (s : State RP Out BE) : Point RP × (ℕ → Option RP) × ℕ × Option RP :=
  (s.point, fun n ↦ (s.chats n).target, s.log.countP Event.foreign, s.restorePoint)

section Frame

variable {s s' : State RP Out BE}

theorem Resolved.frame (h : Resolved s s') : s'.frame = s.frame := by
  obtain ⟨fs, hlog, -⟩ := h.log
  have hnone : (fs.map Event.resolved : List (Event RP Out BE)).countP Event.foreign = 0 :=
    List.countP_eq_zero.mpr (by simp [Event.foreign])
  have hrestore : s'.restorePoint = s.restorePoint := h.field State.restorePoint fun _ ↦ rfl
  rw [State.frame, h.point, hlog, List.countP_append, hnone, Nat.zero_add, hrestore,
    funext h.target]
  rfl

theorem setChat_frame {n : ℕ} {w : ChatWork RP} (hw : w.target = (s.chats n).target) :
    (s.setChat n w).frame = s.frame := by
  have htarget : (fun m ↦ (Function.update s.chats n w m).target) = fun m ↦ (s.chats m).target := by
    funext m
    by_cases hm : m = n
    · subst hm
      rw [Function.update_self, hw]
    · rw [Function.update_of_ne hm]
  rw [State.frame, State.setChat, htarget]
  rfl

theorem chatLeave_frame (s : State RP Out BE) (n : ℕ) (entered : Bool) :
    (chatLeave s n entered).frame = s.frame := by
  rw [chatLeave_eq]
  refine Eq.trans ?_ (setChat_frame (s := s) (w := { s.chats n with
    cancelled := (s.chats n).cancelled || !entered
    granted := false
    client := .gone }) rfl)
  cases (s.chats n).granted <;> rfl

theorem withdrawImage_frame (s : State RP Out BE) (n : ℕ) (error : String) :
    (withdrawImage s n error).frame = s.frame := by
  rw [withdrawImage_eq]
  dsimp only
  split
  · exact ((removeQueued_resolved _ _).trans (resolveImageError_resolved _ n error)).frame
  · rfl

theorem leaveBatch_frame (works : List ℕ) :
    ∀ s : State RP Out BE, (works.foldl leaveBatchWork s).frame = s.frame := by
  induction works with
  | nil => exact fun _ ↦ rfl
  | cons n works ih =>
      intro s
      refine (ih _).trans ?_
      unfold leaveBatchWork
      split
      · exact withdrawImage_frame s n _
      · rfl

theorem appendBatch_frame (bodies : List (List UInt8)) :
    ∀ s : State RP Out BE, (appendBatch bodies s).frame = s.frame := by
  induction bodies with
  | nil => exact fun _ ↦ rfl
  | cons body bodies ih => exact fun s ↦ ih _

theorem close_frame (s : State RP Out BE) : (close s).frame = s.frame := by
  cases hc : s.closing with
  | true => simp [close, hc]
  | false => exact (close_resolved hc).frame

/-- The actions that change what is framed. -/
def Action.alters : Action RP Out BE → Bool
  | .startup | .cancelStartup | .chatLease _ | .routerRequestFailed _ | .refreshRestorePoint _
  | .backend _ => true
  | _ => false

theorem client_frame [DecidableEq RP] {cfg : BrokerConfig} {a : Action RP Out BE}
    (ha : a.resumes = false) (halters : a.alters = false) (hs : step cfg s a = some s') :
    s'.frame = s.frame := by
  cases a with
  | wake | timeout | fault _ | reply _ | deliverCancel => cases ha
  | startup | cancelStartup | chatLease _ | routerRequestFailed _ | refreshRestorePoint _
  | backend _ => cases halters
  | chatWake n =>
      simp only [step, chatWake] at hs
      split at hs
      · split at hs <;> cases hs
        · exact chatLeave_frame s n false
        · exact setChat_frame rfl
      · cases hs
  | chatCancel n =>
      simp only [step, chatCancel] at hs
      split at hs <;> cases hs
      · exact chatLeave_frame s n false
      · exact chatLeave_frame s n true
  | chatExit n =>
      simp only [step, chatExit] at hs
      split at hs <;> cases hs
      exact chatLeave_frame s n true
  | passiveEnter =>
      simp only [step, passiveEnter] at hs
      cases hs
      split <;> rfl
  | routerControl abort =>
      simp only [step, routerControl] at hs
      cases hs
      split <;> rfl
  | passiveExit | routerControlExit | comfyControlExit =>
      simp only [step, passiveExit, routerControlExit, comfyControlExit] at hs
      split at hs <;> cases hs
      rfl
  | comfyControlLease =>
      cases hs
      obtain ⟨error, heq⟩ | ⟨-, -, -, heq⟩ := comfyControlLease_call s <;> rw [heq]
      rfl
  | submitImage request wantsCompletion =>
      cases hs
      obtain ⟨error, heq⟩ | ⟨-, -, heq⟩ := submitImage_call cfg s request wantsCompletion <;>
        rw [heq]
      rfl
  | imageWake n =>
      simp only [step, imageWake] at hs
      split at hs <;> cases hs
      rfl
  | imageCancel n =>
      simp only [step, imageCancel] at hs
      split at hs <;> cases hs
      exact withdrawImage_frame _ n _
  | imageBatch bodies =>
      cases hs
      obtain ⟨error, heq⟩ | ⟨-, -, heq⟩ := imageBatch_call cfg s bodies <;> rw [heq]
      exact appendBatch_frame bodies s
  | batchExit works =>
      simp only [step, batchExit] at hs
      split at hs <;> cases hs
      exact leaveBatch_frame works _
  | close =>
      cases hs
      exact close_frame s
  | cancelClose =>
      simp only [step] at hs
      split at hs <;> cases hs
      rfl

end Frame

/-! ## The dispatcher -/

/-- The events that the dispatcher records on its way. -/
def Event.onward : Event RP Out BE → Bool
  | .finished _ _ _ | .interrupted _ _ | .routerFailed _ | .backend _ => false
  | _ => true

/-- The dispatcher goes on. -/
structure Onward (s s' : State RP Out BE) : Prop where
  target : ∀ n, (s'.chats n).target = (s.chats n).target
  log : ∃ l, s'.log = l ++ s.log ∧ ∀ e ∈ l, e.onward = true

namespace Onward

variable {cfg : BrokerConfig} {s t u : State RP Out BE}

theorem silent (hchats : t.chats = s.chats) (hlog : t.log = s.log) : Onward s t :=
  ⟨fun _ ↦ by rw [hchats], [], hlog, List.forall_mem_nil _⟩

theorem records {e : Event RP Out BE} (hchats : t.chats = s.chats) (hlog : t.log = e :: s.log)
    (he : e.onward = true) : Onward s t :=
  ⟨fun _ ↦ by rw [hchats], [e], hlog, List.forall_mem_singleton.mpr he⟩

theorem trans (h : Onward s t) (h' : Onward t u) : Onward s u where
  target n := (h'.target n).trans (h.target n)
  log := by
    obtain ⟨l, hlog, hl⟩ := h.log
    obtain ⟨l', hlog', hl'⟩ := h'.log
    refine ⟨l' ++ l, by rw [hlog', hlog, List.append_assoc], fun e he ↦ ?_⟩
    exact (List.mem_append.mp he).elim (hl' e) (hl e)

theorem served (h : Served s t) : Onward s t where
  target n := congrArg (fun w ↦ w.2.2.1) (h.chats n)
  log := by
    obtain ⟨l, hlog, hl⟩ := h.log
    refine ⟨l, hlog, fun e he ↦ ?_⟩
    have hserves := hl e he
    cases e <;> first | rfl | cases hserves

theorem advance [DecidableEq RP] (s : State RP Out BE) : Onward s (advance cfg s) := by
  unfold Coordinator.advance
  cases hp : s.point <;> dsimp only
  case dispatch work => cases work <;> exact silent rfl rfl
  case dispatcherCancelled work => exact served (dispatcherCancelled_served s work)
  case dispatcherFailed work e => exact served (dispatcherFailed_served s work e)
  case chatDenied n => exact served (chatDenied_served cfg s n)
  case chatGrant n =>
    rcases chatGrant_served cfg s n with hs | hs
    · exact served hs
    · refine trans ?_ (served hs)
      refine ⟨fun m ↦ ?_, [.chatGranted n], rfl, List.forall_mem_singleton.mpr rfl⟩
      by_cases hm : m = n
      · subst hm
        simp
      · simp [hm]
  case submitted n result => exact served (imageSubmitted_served s n result)
  case imageRaised n e => exact served (imageRaised_served s n e)
  case imageStart n =>
    simp only [imageStart]
    split_ifs
    · exact trans (t := { s with lastError := none }) (silent rfl rfl)
        (served (imageWithdrawn_served _ n))
    all_goals exact silent rfl rfl
  case imageActivated n =>
    unfold imageActivated
    split
    · exact served (imageWithdrawn_served s n)
    · exact records rfl rfl rfl
  case imageCancelled n =>
    unfold imageCancelled
    split
    · exact records rfl rfl rfl
    · exact served (imageShutdown_served s n)
  case activateDrainCheck n =>
    unfold activateDrainCheck
    split_ifs
    · exact trans (t := s.setState (if s.owner == .llm then .llmReady else .awaitingRequest))
        (silent rfl rfl) (served (imageWithdrawn_served _ n))
    all_goals exact silent rfl rfl
  -- The remaining moves leave the chats as they are and record at most one event.
  all_goals first
    | exact silent rfl rfl
    | simp only [chatStart, chatDrainCheck, chatRestore, restoreStart, restoreControlsCheck,
        cleanupFailed, restoreOwn, restoreBranch, restoreReload, restoreRaised, restoreDone,
        activateDrained, activateRouter, activateRouterUnload, activateUnload, activateDone]
  all_goals repeat' split
  all_goals first
    | exact silent rfl rfl
    | exact records rfl rfl rfl

theorem settle [DecidableEq RP] (s : State RP Out BE) : Onward s (settle cfg s) :=
  settle_invariant (I := Onward s) (fun _ h ↦ h.trans (advance _)) (silent rfl rfl)

theorem onReply {e : Event RP Out BE} {r : Reply RP Out} (h : onReply (s.emit e) r = some t) :
    Onward (s.emit e) t := by
  generalize hp : s.point = p
  cases onReply_returns h hp
  case monitorOutputs n promptId outputs =>
    exact served (imageCompleted_served _ n outputs)
  case interruptDone n =>
    exact served (imageShutdown_served _ n)
  all_goals first
    | exact silent rfl rfl
    | exact records rfl rfl rfl

/-- A step of the dispatcher records the end of the call in flight, if that ends, and goes on. -/
theorem of_step [DecidableEq RP] {a : Action RP Out BE} (ha : a.resumes = true)
    (hs : step cfg s a = some t) : Onward s t ∨ ∃ by_ call e, s.point.call = some (by_, call) ∧
      (e = .interrupted by_ call ∨ ∃ r, a = .reply r ∧ e = .finished by_ call r) ∧
      Onward (s.emit e) t := by
  obtain ⟨s₀, hr, rfl⟩ := step_resumes ha hs
  cases hr with
  | wake hc h =>
      refine .inl (trans ?_ (settle s₀))
      unfold onWake at h
      cases hp : s.point <;> rw [hp] at h <;> cases h
      case nextWork.refl =>
        unfold nextWork
        split
        · exact silent rfl rfl
        · split
          · exact silent rfl rfl
          · next w rest hq => cases w <;> exact silent rfl rfl
      case chatDrain.refl n =>
        unfold chatDrainWake
        split <;> exact silent rfl rfl
      all_goals exact silent rfl rfl
  | timeout hc h =>
      refine .inl (trans ?_ (settle s₀))
      unfold onTimeout at h
      cases hp : s.point <;> rw [hp] at h <;> cases h
      · exact records rfl rfl rfl
      · exact silent rfl rfl
  | fault hc h => exact .inl ((served (onFault_served h)).trans (settle s₀))
  | reply hc hcall h =>
      exact .inr ⟨_, _, _, hcall, .inr ⟨_, rfl, rfl⟩, (onReply h).trans (settle s₀)⟩
  | @cancelCall by_ call _ hc hcall h =>
      refine .inr ⟨by_, call, _, hcall, .inl rfl, ?_⟩
      have hserved : Onward (s.emit (.interrupted by_ call)) s₀ :=
        { served (onCancel_served h) with }
      exact hserved.trans (settle s₀)
  | cancelWait hc hcall h =>
      have hserved : Onward s s₀ := { served (onCancel_served h) with }
      exact .inl (hserved.trans (settle s₀))

end Onward

end StProxy.Coordinator
