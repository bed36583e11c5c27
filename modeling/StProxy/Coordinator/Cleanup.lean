import StProxy.Coordinator.Leases
import StProxy.Lib.History

/-!
# Handing the GPU back to the LLM

ComfyUI is clean when nothing ran on it since its models were freed.  The LLM
owns the GPU, is asked for it and is granted to chats only while ComfyUI is
clean.
-/

namespace StProxy.Coordinator

variable {RP Out BE : Type}

/-- The events that decide whether ComfyUI may hold GPU memory. -/
def Event.isWorkload : Event RP Out BE → Bool
  | .started _ (.submit _) | .controlGranted | .controlReleased
  | .finished _ .freeModels .done => true
  | _ => false

def Event.isFreed : Event RP Out BE → Bool
  | .finished _ .freeModels .done => true
  | _ => false

/-- No submission and no control lease since `free_models` last returned. -/
def ComfyClean (log : List (Event RP Out BE)) : Prop :=
  History.Latest Event.isWorkload Event.isFreed log

/-- The calls with which `_restore_llm` gives the GPU to the LLM. -/
def Call.isAcquisition : Call RP → Bool
  | .acquireGpu _ | .observeReady => true
  | _ => false

/-- The LLM is acquired or observed, and granted to a chat, only after cleanup. -/
def Restored (e : Event RP Out BE) (rest : List (Event RP Out BE)) : Prop :=
  match e with
  | .started (.restoreLlm _) call => call.isAcquisition = true → ComfyClean rest
  | .chatGranted _ => ComfyClean rest
  | _ => True

/-- The events that need no cleanup and undo none. -/
def Event.tidy : Event RP Out BE → Bool
  | .started _ (.submit _) | .chatGranted _ | .controlGranted | .controlReleased => false
  | .started (.restoreLlm _) call => !call.isAcquisition
  | _ => true

/-- The points of `_restore_llm` and `initialize` after the cleanup. -/
def Point.cleaned : Point RP → Bool
  | .initSnapshot | .chatGrant _ | .restoreOwn _ | .restoreValidate _ | .restoreBranch _
  | .restoreAcquireTarget _ _ | .restoreRouterRelease _ _ | .restoreRouterAcquire _
  | .restoreObserve _ | .restoreReload _ | .restoreAcquire _ _ | .restoreDone _ => true
  | _ => false

/-- The point at which an LLM that was just observed is unloaded. -/
def Point.unloading : Point RP → Bool
  | .activateUnload _ => true
  | _ => false

structure Cleanup (s : State RP Out BE) : Prop where
  owner : s.owner = .llm → s.point.unloading = false → ComfyClean s.log
  point : s.point.cleaned = true → ComfyClean s.log
  always : History.Always Restored s.log

theorem Event.tidy_of_byClient {e : Event RP Out BE} (he : e.byClient = true) : e.tidy = true := by
  cases e <;> first | rfl | cases he

theorem Event.tidy_of_serves {e : Event RP Out BE} (he : e.serves = true) : e.tidy = true := by
  cases e with
  | started by_ call => cases by_ <;> cases call <;> first | rfl | cases he
  | resolved f => rfl
  | _ => cases he

theorem restored_of_tidy {e : Event RP Out BE} (he : e.tidy = true)
    (rest : List (Event RP Out BE)) : Restored e rest := by
  unfold Restored
  split
  · next n call =>
      intro hacq
      cases call <;> first | cases hacq; done | cases he
  · cases he
  · trivial

theorem ComfyClean.cons {e : Event RP Out BE} {log : List (Event RP Out BE)}
    (h : ComfyClean log) (he : e.tidy = true ∨ e.isWorkload = false) : ComfyClean (e :: log) := by
  cases hw : e.isWorkload with
  | false => exact (History.latest_cons_of_neg hw).mpr h
  | true =>
      refine (History.latest_cons_of_pos hw).mpr ?_
      unfold Event.isWorkload at hw
      split at hw
      · rcases he with he | he <;> cases he
      · rcases he with he | he <;> cases he
      · rcases he with he | he <;> cases he
      · rfl
      · cases hw

namespace Cleanup

variable {cfg : BrokerConfig} {s s' : State RP Out BE}

theorem initial : Cleanup (.initial : State RP Out BE) where
  owner := nofun
  point := nofun
  always := History.always_nil _

/-- No cleanup is needed, and none is undone. -/
theorem quiet {l : List (Event RP Out BE)} (h : Cleanup s) (hlog : s'.log = l ++ s.log)
    (hes : ∀ e ∈ l, e.tidy = true)
    (howner : s'.owner = .llm → s'.point.unloading = false → ComfyClean s.log)
    (hpoint : s'.point.cleaned = true → ComfyClean s.log) : Cleanup s' := by
  have hkept (hclean : ComfyClean s.log) : ComfyClean (l ++ s.log) :=
    (h.always.append_while hclean fun e he rest hrest ↦
      ⟨restored_of_tidy (hes e he) rest, hrest.cons (.inl (hes e he))⟩).2
  constructor
  · rw [hlog]
    exact fun hllm hp ↦ hkept (howner hllm hp)
  · rw [hlog]
    exact fun hp ↦ hkept (hpoint hp)
  · rw [hlog]
    exact h.always.append fun e he ↦ restored_of_tidy (hes e he)

/-- ComfyUI is clean, and the dispatcher goes on to use the LLM. -/
theorem clean {l : List (Event RP Out BE)} (h : Cleanup s) (hclean : ComfyClean s.log)
    (hlog : s'.log = l ++ s.log) (hes : ∀ e ∈ l, e.isWorkload = false) : Cleanup s' := by
  obtain ⟨halways, hkept⟩ := h.always.append_while hclean (l := l) fun e he rest hrest ↦ by
    refine ⟨?_, hrest.cons (.inr (hes e he))⟩
    unfold Restored
    split
    · exact fun _ ↦ hrest
    · exact hrest
    · trivial
  constructor
  · rw [hlog]
    exact fun _ _ ↦ hkept
  · rw [hlog]
    exact fun _ ↦ hkept
  · rw [hlog]
    exact halways

/-- ComfyUI is used while it owns the GPU. -/
theorem used {e : Event RP Out BE} (h : Cleanup s) (hlog : s'.log = e :: s.log)
    (he : ∀ rest, Restored e rest) (howner : s'.owner ≠ .llm)
    (hpoint : s'.point.cleaned = false) : Cleanup s' where
  owner hllm := absurd hllm howner
  point hp := by
    rw [hpoint] at hp
    cases hp
  always := by
    rw [hlog, History.always_cons]
    exact ⟨he _, h.always⟩

theorem goto {l : List (Event RP Out BE)} {p : Point RP} (h : Cleanup s) (hp : s.point = p)
    (hload : p.unloading = false) (hlog : s'.log = l ++ s.log) (hes : ∀ e ∈ l, e.tidy = true)
    (howner : s'.owner = s.owner) (hpoint : s'.point.cleaned = false) : Cleanup s' := by
  refine h.quiet hlog hes (fun hllm _ ↦ h.owner (howner.symm.trans hllm) (hp ▸ hload)) fun hp' ↦ ?_
  rw [hpoint] at hp'
  cases hp'

theorem served {t : State RP Out BE} {p : Point RP} (h : Cleanup s) (hs : Served t s')
    (hp : s.point = p) (hload : p.unloading = false) (hlog : t.log = s.log)
    (howner : t.owner = s.owner) : Cleanup s' := by
  obtain ⟨l, hlog', hes⟩ := hs.log
  refine h.goto hp hload (hlog'.trans (by rw [hlog])) (fun e he ↦ Event.tidy_of_serves (hes e he))
    (hs.owner.trans howner) ?_
  have hpoint := hs.point
  cases hp' : s'.point <;> rw [hp'] at hpoint <;> first | rfl | cases hpoint

theorem grant {n : ℕ} (h : Cleanup s) (hp : s.point = .chatGrant n) :
    Cleanup (chatGrant cfg s n) := by
  rcases chatGrant_served cfg s n with hs | hs
  · exact h.served hs hp rfl rfl rfl
  · have hclean : ComfyClean s.log := h.point (by rw [hp]; rfl)
    refine Cleanup.served (s := (s.goto .nextWork).emit (.chatGranted n)) ?_ hs rfl rfl rfl rfl
    exact h.clean (l := [.chatGranted n]) hclean rfl (by simp [Event.isWorkload])

/-- The LLM does not own the GPU. -/
theorem away {l : List (Event RP Out BE)} (h : Cleanup s) (hlog : s'.log = l ++ s.log)
    (hes : ∀ e ∈ l, e.tidy = true) (howner : s'.owner ≠ .llm)
    (hpoint : s'.point.cleaned = false) : Cleanup s' := by
  refine h.quiet hlog hes (fun hllm ↦ absurd hllm howner) fun hp ↦ ?_
  rw [hpoint] at hp
  cases hp

theorem freed (h : Cleanup s) (by_ : Routine) :
    Cleanup (s.emit (.finished by_ .freeModels .done)) ∧
      ComfyClean (.finished by_ .freeModels .done :: s.log) := by
  have hclean : ComfyClean (.finished by_ .freeModels .done :: s.log) :=
    (History.latest_cons_of_pos rfl).mpr rfl
  exact ⟨⟨fun _ _ ↦ hclean, fun _ ↦ hclean, History.always_cons.mpr ⟨trivial, h.always⟩⟩, hclean⟩

theorem advance [DecidableEq RP] (hex : Exclusive cfg s) (h : Cleanup s) :
    Cleanup (advance cfg s) := by
  have hx := hex.point
  unfold Coordinator.advance
  cases hp : s.point <;> rw [hp] at hx <;> dsimp only
  case dispatch work => cases work <;> exact h.goto (l := []) hp rfl rfl (by simp) rfl rfl
  case dispatcherCancelled work => exact h.served (dispatcherCancelled_served s work) hp rfl rfl rfl
  case dispatcherFailed work e => exact h.served (dispatcherFailed_served s work e) hp rfl rfl rfl
  case chatDenied n => exact h.served (chatDenied_served cfg s n) hp rfl rfl rfl
  case chatGrant n => exact h.grant hp
  case submitted n result => exact h.served (imageSubmitted_served s n result) hp rfl rfl rfl
  case imageRaised n e => exact h.served (imageRaised_served s n e) hp rfl rfl rfl
  case chatStart n =>
    unfold chatStart
    split_ifs <;> exact h.goto (l := []) hp rfl rfl (by simp) rfl rfl
  case chatDrainCheck n =>
    unfold chatDrainCheck
    split_ifs <;> exact h.goto (l := []) hp rfl rfl (by simp) rfl rfl
  case chatRestore n =>
    unfold chatRestore
    split_ifs with hneeds
    · exact h.goto (l := []) hp rfl rfl (by simp) rfl rfl
    · have howner := Exclusive.owner_of_not_needsRestore (Bool.eq_false_iff.mpr hneeds)
      exact h.clean (l := []) (h.owner howner (by rw [hp]; rfl)) rfl (by simp)
  case restoreStart n =>
    simp only [restoreStart]
    split_ifs with hready hclean
    · have howner : s.owner = .llm := by
        simp only [Bool.and_eq_true, beq_iff_eq] at hready
        exact hready.1.1
      exact h.clean (l := []) (h.owner howner (by rw [hp]; rfl)) rfl (by simp)
    · exact h.goto (l := []) hp rfl rfl (by simp) rfl rfl
    · have howner : s.owner = .llm := by
        simp only [Bool.or_eq_true, not_or, bne_iff_ne, not_not] at hclean
        exact hclean.1
      exact h.clean (l := []) (h.owner howner (by rw [hp]; rfl)) rfl (by simp)
  case restoreControlsCheck n =>
    unfold restoreControlsCheck
    split_ifs
    · exact h.goto (l := []) hp rfl rfl (by simp) rfl rfl
    · exact h.goto (l := [_]) hp rfl rfl (by simp [Event.tidy, Call.isAcquisition]) rfl rfl
  case cleanupFailed n error =>
    simp only [cleanupFailed]
    split_ifs <;> exact h.goto (l := []) hp rfl rfl (by simp) rfl rfl
  case restoreRaised n e =>
    simp only [restoreRaised]
    split_ifs <;> exact h.goto (l := []) hp rfl rfl (by simp) rfl rfl
  case restoreOwn n =>
    simp only [restoreOwn]
    split_ifs
    · exact h.clean (l := []) (h.point (by rw [hp]; rfl)) rfl (by simp)
    · exact h.clean (l := [_]) (h.point (by rw [hp]; rfl)) rfl (by simp [Event.isWorkload])
  case restoreReload n =>
    unfold restoreReload
    split_ifs
    · exact h.clean (l := []) (h.point (by rw [hp]; rfl)) rfl (by simp)
    · exact h.clean (l := [_]) (h.point (by rw [hp]; rfl)) rfl (by simp [Event.isWorkload])
  case restoreDone n =>
    simp only [restoreDone]
    split_ifs <;> exact h.clean (l := []) (h.point (by rw [hp]; rfl)) rfl (by simp)
  case restoreBranch n =>
    have hclean : ComfyClean s.log := h.point (by rw [hp]; rfl)
    unfold restoreBranch
    repeat' split
    all_goals first
      | exact h.clean (l := []) hclean rfl (by simp)
      | exact h.clean (l := [_]) hclean rfl (by simp [Event.isWorkload])
  case imageStart n =>
    simp only [imageStart]
    split_ifs
    · exact h.served (imageWithdrawn_served { s with lastError := none } n) hp rfl rfl rfl
    · exact h.goto (l := []) hp rfl rfl (by simp) rfl rfl
    · exact h.goto (l := []) hp rfl rfl (by simp) rfl rfl
  case imageActivated n =>
    unfold imageActivated
    split_ifs
    · exact h.served (imageWithdrawn_served s n) hp rfl rfl rfl
    · have howner : s.owner = .comfy := hx
      exact h.used rfl (fun _ ↦ trivial) (by simp [howner]) rfl
  case imageCancelled n =>
    unfold imageCancelled
    split_ifs
    · exact h.goto (l := [_]) hp rfl rfl (by simp [Event.tidy]) rfl rfl
    · exact h.served (imageShutdown_served s n) hp rfl rfl rfl
  case activateDrainCheck n =>
    unfold activateDrainCheck
    split_ifs
    · exact h.served (imageWithdrawn_served (s.setState _) n) hp rfl rfl rfl
    · exact h.goto (l := []) hp rfl rfl (by simp) rfl rfl
    · exact h.goto (l := []) hp rfl rfl (by simp) rfl rfl
  case activateDrained n =>
    unfold activateDrained
    split_ifs
    · exact h.goto (l := []) hp rfl rfl (by simp) rfl rfl
    · exact h.goto (l := [_]) hp rfl rfl (by simp [Event.tidy]) rfl rfl
    · exact h.goto (l := [_]) hp rfl rfl (by simp [Event.tidy]) rfl rfl
    · exact h.goto (l := [_]) hp rfl rfl (by simp [Event.tidy]) rfl rfl
    · exact h.goto (l := []) hp rfl rfl (by simp) rfl rfl
  case activateRouter n =>
    unfold activateRouter
    split
    · exact h.goto (l := [_]) hp rfl rfl (by simp [Event.tidy]) rfl rfl
    · exact h.goto (l := []) hp rfl rfl (by simp) rfl rfl
  case activateRouterUnload n restore =>
    exact h.away (l := [_]) rfl (by simp [Event.tidy]) (by rintro ⟨⟩) rfl
  case activateUnload n =>
    simp only [activateUnload]
    split_ifs with howner
    · split
      · exact h.away (l := []) rfl (by simp) (by rintro ⟨⟩) rfl
      · exact h.away (l := [_]) rfl (by simp [Event.tidy]) (by rintro ⟨⟩) rfl
    · have hne : s.owner ≠ .llm := by simpa using howner
      exact h.away (l := []) rfl (by simp) hne rfl
  case activateDone n => exact h.away (l := [_]) rfl (by simp [Event.tidy]) (by rintro ⟨⟩) rfl
  all_goals exact h

theorem onReply {by_ : Routine} {call : Call RP} {r : Reply RP Out} (hex : Exclusive cfg s)
    (h : Cleanup s) (hcall : s.point.call = some (by_, call))
    (hs : onReply (s.emit (.finished by_ call r)) r = some s') : Cleanup s' := by
  have hx := hex.point
  generalize hp : s.point = p at hcall hx
  cases onReply_returns hs hp <;> cases hcall
  case initFreeDone.refl =>
    obtain ⟨hfreed, hclean⟩ := h.freed .startup
    exact hfreed.clean (l := [_]) hclean rfl (by simp [Event.isWorkload])
  case restoreFreeDone.refl n =>
    obtain ⟨hfreed, hclean⟩ := h.freed (.restoreLlm n)
    exact hfreed.clean (l := []) hclean rfl (by simp)
  case initValidateDone.refl =>
    exact h.away (l := [_, _]) rfl (by simp [Event.tidy]) (by simp [hx.1]) rfl
  case initValidateRaised.refl | initFreeRaised.refl | initSnapshotRaised.refl =>
    exact h.away (l := [_]) rfl (by simp [Event.tidy]) nofun rfl
  case restoreRouterReleaseDone.refl =>
    exact h.clean (l := [_, _]) (h.point (by rw [hp]; rfl)) rfl (by simp [Event.isWorkload])
  case initSnapshotAcquired.refl | restoreValidateDone.refl | restoreValidateRaised.refl |
      restoreAcquireTargetAcquired.refl | restoreAcquireTargetRaised.refl |
      restoreRouterReleaseRaised.refl | restoreRouterAcquireAcquired.refl |
      restoreRouterAcquireRaised.refl | restoreObserveNone.refl | restoreObserveSome.refl |
      restoreObserveRaised.refl | restoreAcquireAcquired.refl | restoreAcquireRaised.refl =>
    exact h.clean (l := [_]) (h.point (by rw [hp]; rfl)) rfl (by simp [Event.isWorkload])
  case activateObserveSome.refl =>
    exact h.quiet (l := [_]) rfl (by simp [Event.tidy]) (fun _ hload ↦ nomatch hload)
      (fun hp' ↦ nomatch hp')
  case activateValidateDone.refl =>
    exact h.goto (l := [_, _]) hp rfl rfl (by simp [Event.tidy]) rfl rfl
  case monitorOutputs.refl n promptId outputs =>
    have hemit : Cleanup (s.emit (.finished (.dispatchImage n) (.waitForPrompt promptId)
        (.outputs outputs))) :=
      h.goto (l := [_]) hp rfl rfl (by simp [Event.tidy]) rfl (by dsimp only; rw [hp]; rfl)
    exact hemit.served (imageCompleted_served _ n outputs) hp rfl rfl rfl
  case interruptDone.refl n =>
    have hemit : Cleanup (s.emit (.finished (.dispatchImage n) .interrupt .done)) :=
      h.goto (l := [_]) hp rfl rfl (by simp [Event.tidy]) rfl (by dsimp only; rw [hp]; rfl)
    exact hemit.served (imageShutdown_served _ n) hp rfl rfl rfl
  -- The other calls end with the same owner.
  all_goals exact h.goto (l := [_]) hp rfl rfl (by simp [Event.tidy]) rfl rfl

theorem interrupted {by_ : Routine} {call : Call RP} (h : Cleanup s)
    (hcall : s.point.call = some (by_, call)) :
    Cleanup ((s.emit (.interrupted by_ call)).goto .nextWork) := by
  refine h.quiet (l := [.interrupted by_ call]) rfl (by simp [Event.tidy])
    (fun hllm _ ↦ h.owner hllm ?_) (fun hp ↦ nomatch hp)
  cases hp : s.point <;> rw [hp] at hcall <;> first | rfl | cases hcall

theorem resumes {a : Action RP Out BE} (hex : Exclusive cfg s) (h : Cleanup s)
    (hr : Resumes s a s') : Cleanup s' := by
  cases hr with
  | wake hc hs =>
      unfold onWake at hs
      cases hp : s.point <;> rw [hp] at hs <;> cases hs
      case nextWork.refl =>
        unfold nextWork
        split
        · exact h.goto (l := []) hp rfl rfl (by simp) rfl rfl
        · split
          · exact h
          · next w rest hq =>
              cases w <;> exact h.goto (l := []) hp rfl rfl (by simp) rfl rfl
      case chatDrain.refl n =>
        unfold chatDrainWake
        split <;> exact h.goto (l := []) hp rfl rfl (by simp) rfl rfl
      all_goals exact h.goto (l := []) hp rfl rfl (by simp) rfl rfl
  | timeout hc hs =>
      unfold onTimeout at hs
      cases hp : s.point <;> rw [hp] at hs <;> cases hs
      · exact h.goto (l := [_]) hp rfl rfl (by simp [Event.tidy]) rfl rfl
      · exact h.goto (l := []) hp rfl rfl (by simp) rfl rfl
  | fault hc hs =>
      refine h.served (onFault_served hs) rfl ?_ rfl rfl
      unfold onFault at hs
      cases hp : s.point <;> rw [hp] at hs <;> first | rfl | cases hs
  | reply hc hcall hs => exact h.onReply hex hcall hs
  | cancelCall hc hcall hs =>
      exact (h.interrupted hcall).served (onCancel_served hs) rfl rfl rfl rfl
  | cancelWait hc hcall hs =>
      refine h.served (onCancel_served hs) rfl ?_ rfl rfl
      unfold Coordinator.onCancel at hs
      cases hp : s.point <;> rw [hp] at hs <;> first | rfl | cases hs

/-- Nobody holds ComfyUI while the LLM is being restored. -/
theorem not_comfy_of_cleaned (hex : Exclusive cfg s) (hsusp : s.point.isSuspended = true)
    (hp : s.point.cleaned = true) : s.owner ≠ .comfy := by
  have hx := hex.point
  cases hp' : s.point <;> rw [hp'] at hp hx hsusp <;> cases hp
  case initSnapshot => simp [hx.1]
  all_goals first
    | (cases hsusp; done)
    | simp [show s.owner = .unknown from hx]

theorem control {e : Event RP Out BE} {k : ℕ} (hex : Exclusive cfg s) (h : Cleanup s)
    (hsusp : s.point.isSuspended = true)
    (he : e = .controlGranted ∧ s.owner = .comfy ∨
      e = .controlReleased ∧ s.activeComfyControls ≠ 0) :
    Cleanup ({ s with activeComfyControls := k }.emit e) := by
  have hcomfy : s.owner = .comfy := by
    rcases he with ⟨-, hcomfy⟩ | ⟨-, hheld⟩
    · exact hcomfy
    · by_contra hne
      exact hheld (hex.comfy hne)
  refine h.used rfl (fun rest ↦ ?_) (by simp [hcomfy]) ?_
  · rcases he with ⟨rfl, -⟩ | ⟨rfl, -⟩ <;> trivial
  · refine Bool.eq_false_iff.mpr fun hp ↦ ?_
    exact not_comfy_of_cleaned hex hsusp hp hcomfy

theorem client (hex : Exclusive cfg s) (h : Cleanup s) (hsusp : s.point.isSuspended = true)
    (hs : Clients cfg s s') : Cleanup s' := by
  rcases hs.own with ⟨hp, rfl⟩ | ⟨hinit, by_, call, hcall, rfl⟩ | ⟨e, k, he, rfl⟩ | hbeside
  · unfold initializeStart
    split_ifs
    · exact h.away (l := []) rfl (by simp) nofun rfl
    · exact h.goto (l := [_]) hp rfl rfl (by simp [Event.tidy]) rfl rfl
  · exact { h.interrupted hcall with point := nofun }
  · exact h.control hex hsusp he
  · obtain ⟨l, hlog, hes⟩ := hbeside.log
    refine h.quiet hlog (fun e he ↦ Event.tidy_of_byClient (hes e he)) ?_ ?_
    · rw [hbeside.owner, hbeside.point]
      exact h.owner
    · rw [hbeside.point]
      exact h.point

end Cleanup

theorem cleanup_inductive [DecidableEq RP] {cfg : BrokerConfig}
    {ok : State RP Out BE → Action RP Out BE → Prop} :
    InductiveOver cfg ok (fun s ↦ WellFormed s ∧ Exclusive cfg s)
      (Cleanup : State RP Out BE → Prop) where
  initial := .initial
  advance _ hk h := h.advance hk.2
  resumes _ _ _ hk h _ hr := h.resumes hk.2 hr
  client _ _ _ hk h _ hsusp hs := h.client hk.2 hsusp hs

end StProxy.Coordinator
