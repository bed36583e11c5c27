import StProxy.Coordinator.Handoff
import StProxy.Coordinator.Recorded

/-!
# The unload that a failed request demands

After a request to the router failed, nobody is given the GPU until an unload that
started later was confirmed.  What confirms it is left open here: the coordinator's own
calls in router mode, those of the adapter below it in mode `all`.
-/

namespace StProxy.Coordinator

variable {RP Out BE : Type}

/-- The events that give the GPU to a chat or to a workflow. -/
def Event.grants : Event RP Out BE → Bool
  | .chatGranted _ | .comfyGranted _ | .started _ (.submit _) => true
  | _ => false

def Event.isRouterFailure : Event RP Out BE → Bool
  | .routerFailed _ => true
  | _ => false

/-- The events that neither demand an unload nor need one. -/
def Event.calm (e : Event RP Out BE) : Bool := !e.grants && !e.isRouterFailure

/-- Histories after which no unload is owed: only a failed request ends this. -/
structure Forgives (Clear : List (Event RP Out BE) → Prop) : Prop where
  nil : Clear []
  cons : ∀ e log, e.isRouterFailure = false → Clear log → Clear (e :: log)

/-- The replies after which no unload may be owed. -/
def Confirms (cfg : BrokerConfig) : Call RP → Reply RP Out → Prop
  | .releaseGpu _, .done => True
  | .acquireGpu _, .acquired _ | .observeReady, .observed none => cfg.koboldRouterMode = false
  | _, _ => False

/-- A reply that confirms leaves no unload owed. -/
def Pays (cfg : BrokerConfig) (Clear : List (Event RP Out BE) → Prop) (s : State RP Out BE)
    (a : Action RP Out BE) : Prop :=
  ∀ by_ call r, s.point.call = some (by_, call) → a = .reply r → Confirms cfg call r →
    Clear (.finished by_ call r :: s.log)

/-- Where the dispatcher stands when no unload is owed, and where it does not come in
router mode. -/
def OwingFacts (cfg : BrokerConfig) (Clear : List (Event RP Out BE) → Prop)
    (s : State RP Out BE) : Point RP → Prop
  | .chatGrant _ | .restoreRouterAcquire _ | .activateRouterAcquire _ | .activateDone _ =>
      Clear s.log
  | .restoreDone _ => Clear s.log ∧ s.restorePoint ≠ none
  | .restoreAcquireTarget _ _ | .restoreAcquire _ _ | .activateValidate _ | .activateObserve _ =>
      cfg.koboldRouterMode = false
  | .restoreObserve _ => cfg.koboldRouterMode = false ∧ Clear s.log
  | .restoreReload _ => cfg.koboldRouterMode = false ∧ (s.owner = .llm → Clear s.log)
  | .activateUnload _ => s.owner ≠ .llm → Clear s.log
  | _ => True

/-- An unload that is owed is recorded as an error, and ComfyUI does not own the GPU. -/
structure Owing (cfg : BrokerConfig) (Clear : List (Event RP Out BE) → Prop)
    (s : State RP Out BE) : Prop where
  error : ¬Clear s.log → truthy s.recoverableError = true
  reserves : ¬Clear s.log → cfg.reserves = true
  kept : ¬Clear s.log → s.restorePoint ≠ none
  comfy : s.owner = .comfy → Clear s.log
  known : s.owner = .llm → s.restorePoint ≠ none
  point : OwingFacts cfg Clear s s.point
  always : History.Always (fun e rest ↦ e.grants = true → Clear rest) s.log

/-! ## What the clients owe -/

/-- The failed requests among the foreign events, and the restore point with which an unload is
asked for. -/
def State.debts (s : State RP Out BE) : ℕ × Option RP := s.frame.2.2

theorem Event.foreign_of_failure {e : Event RP Out BE} (he : e.isRouterFailure = true) :
    e.foreign = true := by
  cases e <;> first | rfl | cases he

/-- Only a failed request, TabbyAPI and the adapters change them. -/
theorem Clients.debts {cfg : BrokerConfig} {s s' : State RP Out BE} (h : Clients cfg s s') :
    (∃ n, cfg.reserves = true ∧ (s.chats n).granted = true ∧
      s' = (markRecoverable s "KoboldCpp router request did not complete reliably").emit
        (.routerFailed n)) ∨
    (∃ r, s' = { s with restorePoint := some r }) ∨ (∃ e, s' = s.emit (.backend e)) ∨
      s'.debts = s.debts := by
  have hframe (hf : s'.frame = s.frame) : s'.debts = s.debts := congrArg (·.2.2) hf
  cases h with
  | routerFailed n hreserves hclient hgranted => exact .inl ⟨n, hreserves, hgranted, rfl⟩
  | refreshRestorePoint n restore r hp hkind => exact .inr (.inl ⟨r, rfl⟩)
  | backend e => exact .inr (.inr (.inl ⟨e, rfl⟩))
  | startup hp =>
      refine .inr (.inr (.inr ?_))
      unfold initializeStart
      split <;> rfl
  | close => exact .inr (.inr (.inr (hframe (close_frame s))))
  | chatEnter n error hclient hready herror => exact .inr (.inr (.inr (hframe (setChat_frame rfl))))
  | chatLeave n entered hclient => exact .inr (.inr (.inr (hframe (chatLeave_frame s n entered))))
  | imageCancel n hclient => exact .inr (.inr (.inr (hframe (withdrawImage_frame _ n _))))
  | imageBatch bodies hclosing hfatal hcapacity =>
      exact .inr (.inr (.inr (hframe (appendBatch_frame bodies s))))
  | batchExit works hworks => exact .inr (.inr (.inr (hframe (leaveBatch_frame works _))))
  | _ => exact .inr (.inr (.inr rfl))

theorem Event.calm_of_serves {e : Event RP Out BE} (he : e.serves = true) : e.calm = true := by
  cases e with
  | started by_ call => cases by_ <;> cases call <;> first | rfl | cases he
  | resolved f => rfl
  | _ => cases he

/-- What an unload that is owed is remembered in. -/
def State.memory (s : State RP Out BE) : Option RP × GpuOwner × Option String :=
  (s.restorePoint, s.owner, s.recoverableError)

namespace Owing

variable {cfg : BrokerConfig} {Clear : List (Event RP Out BE) → Prop} {s s' : State RP Out BE}

theorem clear_append (hf : Forgives Clear) {l log : List (Event RP Out BE)}
    (hes : ∀ e ∈ l, e.isRouterFailure = false) (h : Clear log) : Clear (l ++ log) := by
  induction l with
  | nil => exact h
  | cons e l ih => exact hf.cons _ _ (hes e (by simp)) (ih fun e' he' ↦ hes e' (by simp [he']))

theorem calm_iff {e : Event RP Out BE} :
    e.calm = true ↔ e.grants = false ∧ e.isRouterFailure = false := by
  simp [Event.calm]

theorem initial (hf : Forgives Clear) : Owing cfg Clear (.initial : State RP Out BE) where
  error h := absurd hf.nil h
  reserves h := absurd hf.nil h
  kept h := absurd hf.nil h
  comfy := nofun
  known := nofun
  point := trivial
  always := History.always_nil _

/-- The dispatcher goes on.  The LLM owns the GPU only with a restore point. -/
theorem goto {l : List (Event RP Out BE)} (hf : Forgives Clear) (h : Owing cfg Clear s)
    (hlog : s'.log = l ++ s.log) (hes : ∀ e ∈ l, e.calm = true)
    (hrestore : s'.restorePoint = s.restorePoint ∨ s'.restorePoint ≠ none)
    (howner : s'.owner = s.owner ∨ s'.owner = .unknown ∨
      s'.owner = .llm ∧ s'.restorePoint ≠ none)
    (hrec : s'.recoverableError = s.recoverableError ∨ truthy s'.recoverableError = true ∨
      Clear s.log)
    (hpoint : OwingFacts cfg Clear s' s'.point) : Owing cfg Clear s' := by
  have hclear (hc : Clear s.log) : Clear s'.log := by
    rw [hlog]
    exact clear_append hf (fun e he ↦ (calm_iff.mp (hes e he)).2) hc
  refine ⟨fun hn ↦ ?_, fun hn ↦ h.reserves (mt hclear hn), fun hn ↦ ?_, fun hcomfy ↦ ?_,
    fun hllm ↦ ?_, hpoint, ?_⟩
  · rcases hrec with hrec | hrec | hrec
    · rw [hrec]
      exact h.error (mt hclear hn)
    · exact hrec
    · exact absurd (hclear hrec) hn
  · rcases hrestore with hrestore | hrestore
    · rw [hrestore]
      exact h.kept (mt hclear hn)
    · exact hrestore
  · rcases howner with howner | howner | howner
    · exact hclear (h.comfy (howner ▸ hcomfy))
    · cases howner.symm.trans hcomfy
    · cases howner.1.symm.trans hcomfy
  · rcases howner with howner | howner | howner
    · rcases hrestore with hrestore | hrestore
      · rw [hrestore]
        exact h.known (howner ▸ hllm)
      · exact hrestore
    · cases howner.symm.trans hllm
    · exact howner.2
  · rw [hlog]
    exact h.always.append fun e he _ hg ↦
      absurd ((calm_iff.mp (hes e he)).1.symm.trans hg) Bool.false_ne_true

theorem silent (hf : Forgives Clear) (h : Owing cfg Clear s) (hlog : s'.log = s.log)
    (hkept : s'.memory = s.memory) (hpoint : OwingFacts cfg Clear s' s'.point) :
    Owing cfg Clear s' :=
  h.goto (l := []) hf hlog (List.forall_mem_nil _) (.inl (congrArg (·.1) hkept))
    (.inl (congrArg (·.2.1) hkept)) (.inl (congrArg (·.2.2) hkept)) hpoint

theorem records {e : Event RP Out BE} (hf : Forgives Clear) (h : Owing cfg Clear s)
    (hlog : s'.log = e :: s.log) (he : e.calm = true) (hkept : s'.memory = s.memory)
    (hpoint : OwingFacts cfg Clear s' s'.point) : Owing cfg Clear s' :=
  h.goto (l := [e]) hf hlog (by simpa using he) (.inl (congrArg (·.1) hkept))
    (.inl (congrArg (·.2.1) hkept)) (.inl (congrArg (·.2.2) hkept)) hpoint

theorem records₂ {by_ : Routine} {call call' : Call RP} {r : Reply RP Out} (hf : Forgives Clear)
    (h : Owing cfg Clear s)
    (hlog : s'.log = .started by_ call' :: .finished by_ call r :: s.log)
    (hcall : (.started by_ call' : Event RP Out BE).grants = false) (hkept : s'.memory = s.memory)
    (hpoint : OwingFacts cfg Clear s' s'.point) : Owing cfg Clear s' := by
  refine h.goto (l := [_, _]) hf hlog (fun e he ↦ ?_) (.inl (congrArg (·.1) hkept))
    (.inl (congrArg (·.2.1) hkept)) (.inl (congrArg (·.2.2) hkept)) hpoint
  refine calm_iff.mpr ?_
  rcases List.mem_pair.mp he with rfl | rfl
  · exact ⟨hcall, rfl⟩
  · exact ⟨rfl, rfl⟩

/-- The restore point is the one that was found or loaded. -/
theorem restores {by_ : Routine} {call : Call RP} {r : Reply RP Out} {restore : RP}
    (hf : Forgives Clear) (h : Owing cfg Clear s) (hlog : s'.log = .finished by_ call r :: s.log)
    (hrestore : s'.restorePoint = some restore) (howner : s'.owner = s.owner ∨ s'.owner = .llm)
    (hrec : s'.recoverableError = s.recoverableError)
    (hpoint : OwingFacts cfg Clear s' s'.point) : Owing cfg Clear s' := by
  have hsome : s'.restorePoint ≠ none := by simp [hrestore]
  exact h.goto (l := [_]) hf hlog (List.forall_mem_singleton.mpr rfl) (.inr hsome)
    (howner.imp_right fun hllm ↦ .inr ⟨hllm, hsome⟩) (.inl hrec) hpoint

theorem disowns {l : List (Event RP Out BE)} (hf : Forgives Clear) (h : Owing cfg Clear s)
    (hlog : s'.log = l ++ s.log) (hes : ∀ e ∈ l, e.calm = true)
    (hrestore : s'.restorePoint = s.restorePoint) (howner : s'.owner = .unknown)
    (hrec : s'.recoverableError = s.recoverableError)
    (hpoint : OwingFacts cfg Clear s' s'.point) : Owing cfg Clear s' :=
  h.goto hf hlog hes (.inl hrestore) (.inr (.inl howner)) (.inl hrec) hpoint

/-- The GPU is given away, which needs a clear history. -/
theorem grants {e : Event RP Out BE} (hf : Forgives Clear) (h : Owing cfg Clear s)
    (hclear : Clear s.log) (hlog : s'.log = e :: s.log) (he : e.isRouterFailure = false)
    (hknown : s'.owner = .llm → s'.restorePoint ≠ none)
    (hpoint : OwingFacts cfg Clear s' s'.point) : Owing cfg Clear s' := by
  have hclear' : Clear s'.log := by
    rw [hlog]
    exact hf.cons e _ he hclear
  refine ⟨fun hn ↦ absurd hclear' hn, fun hn ↦ absurd hclear' hn, fun hn ↦ absurd hclear' hn,
    fun _ ↦ hclear', hknown, hpoint, ?_⟩
  rw [hlog, History.always_cons]
  exact ⟨fun _ ↦ hclear, h.always⟩

theorem owingFacts_of_served {p : Point RP} (hp : p.served = true) : OwingFacts cfg Clear s p := by
  cases p <;> trivial

theorem served (hf : Forgives Clear) (h : Owing cfg Clear s) (hs : Served s s') :
    Owing cfg Clear s' := by
  obtain ⟨l, hlog, hes⟩ := hs.log
  exact h.goto hf hlog (fun e he ↦ Event.calm_of_serves (hes e he)) (.inl hs.restorePoint)
    (.inl hs.owner) (hs.recoverable.imp_right .inl) (owingFacts_of_served hs.point)

/-- No unload is owed when no error is recorded. -/
theorem clear_of_error (h : Owing cfg Clear s) (hrec : truthy s.recoverableError = false) :
    Clear s.log := by
  by_contra hn
  exact absurd (hrec.symm.trans (h.error hn)) Bool.false_ne_true

theorem grant {n : ℕ} (hf : Forgives Clear) (h : Owing cfg Clear s) (hp : s.point = .chatGrant n) :
    Owing cfg Clear (chatGrant cfg s n) := by
  have hclear : OwingFacts cfg Clear s (.chatGrant n) := hp ▸ h.point
  rcases chatGrant_served cfg s n with hs | hs
  · exact h.served hf hs
  · refine Owing.served hf ?_ hs
    refine h.grants (e := .chatGranted n) hf hclear rfl rfl h.known ?_
    dsimp only
    rw [hp]
    exact hf.cons _ _ rfl hclear

theorem withdrawn {st : HandoffState} {error : Option String} (hf : Forgives Clear)
    (h : Owing cfg Clear s) (n : ℕ) :
    Owing cfg Clear (imageWithdrawn { s with state := st, lastError := error } n) :=
  Owing.served (s := { s with state := st, lastError := error }) hf { h with }
    (imageWithdrawn_served _ n)

theorem advance [DecidableEq RP] (hf : Forgives Clear) (hex : Exclusive cfg s)
    (h : Owing cfg Clear s) : Owing cfg Clear (advance cfg s) := by
  have hw := h.point
  have hx := hex.point
  unfold Coordinator.advance
  cases hp : s.point <;> rw [hp] at hw hx <;> dsimp only
  case dispatch work => cases work <;> exact h.silent hf rfl rfl trivial
  case dispatcherCancelled work => exact h.served hf (dispatcherCancelled_served s work)
  case dispatcherFailed work e => exact h.served hf (dispatcherFailed_served s work e)
  case chatDenied n => exact h.served hf (chatDenied_served cfg s n)
  case chatGrant n => exact h.grant hf hp
  case submitted n result => exact h.served hf (imageSubmitted_served s n result)
  case imageRaised n e => exact h.served hf (imageRaised_served s n e)
  case chatRestore n =>
    unfold chatRestore
    split_ifs with hneeds
    · exact h.silent hf rfl rfl trivial
    · refine h.silent hf rfl rfl (h.clear_of_error ?_)
      rw [Bool.not_eq_true] at hneeds
      simp only [needsRestore, Bool.or_eq_false_iff] at hneeds
      exact hneeds.1.2
  case restoreStart n =>
    simp only [restoreStart]
    split_ifs with hready
    · refine h.silent hf rfl rfl (h.clear_of_error ?_)
      simp only [Bool.and_eq_true, Bool.not_eq_true'] at hready
      exact hready.1.2
    all_goals exact h.silent hf rfl rfl trivial
  case restoreControlsCheck n =>
    unfold restoreControlsCheck
    split_ifs
    · exact h.silent hf rfl rfl trivial
    · exact h.records hf rfl rfl rfl trivial
  case cleanupFailed n error =>
    simp only [cleanupFailed]
    split_ifs
    · exact h.silent hf rfl rfl trivial
    · exact h.goto (l := []) hf rfl (List.forall_mem_nil _) (.inl rfl) (.inl rfl)
        (.inr (.inl (by simp [markRecoverable]))) trivial
  case restoreOwn n =>
    simp only [restoreOwn]
    split_ifs
    · exact h.disowns (l := []) hf rfl (List.forall_mem_nil _) rfl rfl rfl trivial
    · exact h.disowns (l := [_]) hf rfl (List.forall_mem_singleton.mpr rfl) rfl rfl rfl trivial
  case restoreBranch n =>
    have hunknown : s.owner = .unknown := hx
    have hnone (hrestore : s.restorePoint = none) : Clear s.log := by
      by_contra hn
      exact h.kept hn hrestore
    unfold restoreBranch
    repeat' split
    · next target htarget =>
        refine h.records hf rfl rfl rfl (Bool.eq_false_iff.mpr fun hrouter ↦ ?_)
        have hmanaged := hex.target n (by rw [htarget]; rfl)
        exact Bool.false_ne_true ((cfg.not_managed_of_router hrouter).symm.trans hmanaged)
    · exact h.records hf rfl rfl rfl trivial
    · next hrec =>
        exact h.records hf rfl rfl rfl
          (hf.cons _ _ rfl (h.clear_of_error (Bool.eq_false_iff.mpr hrec)))
    · next hrestore => exact h.records hf rfl rfl rfl (hf.cons _ _ rfl (hnone hrestore))
    · next hobserve =>
        simp only [Bool.and_eq_true, Option.isNone_iff_eq_none] at hobserve
        exact h.records hf rfl rfl rfl
          ⟨Bool.eq_false_iff.mpr ‹_›, hf.cons _ _ rfl (hnone hobserve.1.1)⟩
    · exact h.silent hf rfl rfl
        ⟨Bool.eq_false_iff.mpr ‹_›, by simp [hunknown]⟩
  case restoreReload n =>
    unfold restoreReload
    split_ifs with howner
    · rw [beq_iff_eq] at howner
      exact h.silent hf rfl rfl ⟨hw.2 howner, h.known howner⟩
    · exact h.records hf rfl rfl rfl hw.1
  case restoreRaised n e =>
    simp only [restoreRaised]
    split_ifs
    · exact h.silent hf rfl rfl trivial
    · refine h.goto (l := []) hf rfl (List.forall_mem_nil _) (.inl rfl) (.inl rfl)
        (.inr (.inl ?_)) trivial
      cases e with
      | insufficientVram => exact (by decide : truthy (some Exn.insufficientVram.str) = true)
      | error name text => exact truthy_notConfirmedReady cfg
  case restoreDone n =>
    simp only [restoreDone]
    split <;> exact h.goto (l := []) hf rfl (List.forall_mem_nil _) (.inl rfl)
      (.inr (.inr ⟨rfl, hw.2⟩)) (.inr (.inr hw.1)) hw.1
  case imageStart n =>
    simp only [imageStart]
    split_ifs
    · exact h.withdrawn hf n
    all_goals exact h.silent hf rfl rfl trivial
  case imageActivated n =>
    unfold imageActivated
    split_ifs
    · exact h.withdrawn hf n
    · exact h.grants hf (h.comfy hx) rfl rfl h.known trivial
  case imageCancelled n =>
    unfold imageCancelled
    split_ifs
    · exact h.records hf rfl rfl rfl trivial
    · exact h.served hf (imageShutdown_served s n)
  case activateDrainCheck n =>
    unfold activateDrainCheck
    split_ifs
    · exact h.withdrawn hf n
    all_goals exact h.silent hf rfl rfl trivial
  case activateDrained n =>
    have hplain (hrouter : ¬(cfg.koboldRouterMode && s.owner != .comfy) = true) :
        cfg.koboldRouterMode = false := by
      simpa [bne_iff_ne.mpr hx.1] using hrouter
    unfold activateDrained
    split_ifs with hrouter hvalidated hasks hvalidated
    · exact h.silent hf rfl rfl trivial
    · exact h.records hf rfl rfl rfl trivial
    · exact h.records hf rfl rfl rfl (hplain hrouter)
    · exact h.records hf rfl rfl rfl (hplain hrouter)
    · refine h.silent hf rfl rfl fun howner ↦ ?_
      by_contra hn
      have hunknown : s.owner = .unknown := Exclusive.owner_unknown hx.1 howner
      have hdriven := cfg.requestDriven_of_reserves (h.reserves hn)
      simp [hunknown, hdriven] at hasks
  case activateRouter n =>
    unfold activateRouter
    split
    · next hrestore =>
        refine h.records hf rfl rfl rfl (hf.cons _ _ rfl ?_)
        by_contra hn
        exact h.kept hn hrestore
    · exact h.silent hf rfl rfl trivial
  case activateRouterUnload n restore =>
    exact h.disowns (l := [_]) hf rfl (List.forall_mem_singleton.mpr rfl) rfl rfl rfl trivial
  case activateUnload n =>
    simp only [activateUnload]
    split_ifs with howner
    · split
      · exact h.disowns (l := []) hf rfl (List.forall_mem_nil _) rfl rfl rfl trivial
      · exact h.disowns (l := [_]) hf rfl (List.forall_mem_singleton.mpr rfl) rfl rfl rfl trivial
    · exact h.silent hf rfl rfl (hw (by simpa using howner))
  case activateDone n => exact h.grants hf hw rfl rfl (by rintro ⟨⟩) trivial
  all_goals first
    | exact h
    | (simp only [chatStart, chatDrainCheck]
       repeat' split
       all_goals exact h.silent hf rfl rfl trivial)

theorem onReply {by_ : Routine} {call : Call RP} {r : Reply RP Out} (hf : Forgives Clear)
    (hex : Exclusive cfg s) (h : Owing cfg Clear s) (hcall : s.point.call = some (by_, call))
    (hpays : Confirms cfg call r → Clear (.finished by_ call r :: s.log))
    (hs : onReply (s.emit (.finished by_ call r)) r = some s') : Owing cfg Clear s' := by
  have hw := h.point
  have hx := hex.point
  generalize hp : s.point = p at hcall hw hx
  cases onReply_returns hs hp <;> cases hcall
  case initSnapshotAcquired.refl restore =>
    exact h.restores hf rfl rfl (.inr rfl) rfl trivial
  case initValidateRaised.refl e | initFreeRaised.refl e | initSnapshotRaised.refl e =>
    exact h.disowns (l := [_]) hf rfl (List.forall_mem_singleton.mpr rfl) rfl rfl rfl trivial
  case restoreAcquireTargetAcquired.refl n target restore =>
    exact h.restores hf rfl rfl (.inr rfl) rfl ⟨hpays hw, Option.some_ne_none _⟩
  case restoreRouterAcquireAcquired.refl n restore =>
    exact h.restores hf rfl rfl (.inr rfl) rfl ⟨hf.cons _ _ rfl hw, Option.some_ne_none _⟩
  case restoreAcquireAcquired.refl n _ restore =>
    exact h.restores hf rfl rfl (.inl rfl) rfl ⟨hpays hw, Option.some_ne_none _⟩
  case restoreRouterReleaseDone.refl n restore =>
    exact h.records₂ hf rfl rfl rfl (hf.cons _ _ rfl (hpays trivial))
  case restoreObserveNone.refl n =>
    have hunknown : s.owner = .unknown := hx
    exact h.records hf rfl rfl rfl
      ⟨hw.1, fun howner ↦ nomatch hunknown.symm.trans howner⟩
  case restoreObserveSome.refl n restore =>
    have hunknown : s.owner = .unknown := hx
    exact h.restores hf rfl rfl (.inr rfl) rfl ⟨hw.1, fun _ ↦ hf.cons _ _ rfl hw.2⟩
  case activateRouterAcquireAcquired.refl n restore =>
    exact h.restores hf rfl rfl (.inl rfl) rfl trivial
  case activateObserveNone.refl n =>
    exact h.records hf rfl rfl rfl fun _ ↦ hpays hw
  case activateObserveSome.refl n restore =>
    exact h.restores hf rfl rfl (.inr rfl) rfl fun howner ↦ absurd rfl howner
  case activateRouterReleaseDone.refl n restore | activateReleaseDone.refl n restore =>
    exact h.records hf rfl rfl rfl (hpays trivial)
  case monitorOutputs.refl n promptId outputs =>
    refine Owing.served hf ?_ (imageCompleted_served (s.emit _) n outputs)
    exact h.records hf rfl rfl rfl (by dsimp only; rw [hp]; trivial)
  case interruptDone.refl n =>
    refine Owing.served hf ?_ (imageShutdown_served (s.emit _) n)
    exact h.records hf rfl rfl rfl (by dsimp only; rw [hp]; trivial)
  -- The other replies choose the next point or start the next call.
  all_goals first
    | exact h.records hf rfl rfl rfl trivial
    | exact h.records₂ hf rfl rfl rfl hw

theorem resumes {a : Action RP Out BE} (hf : Forgives Clear) (hex : Exclusive cfg s)
    (h : Owing cfg Clear s) (hpays : Pays cfg Clear s a) (hr : Resumes s a s') :
    Owing cfg Clear s' := by
  cases hr with
  | wake hc hs =>
      unfold onWake at hs
      cases hp : s.point <;> rw [hp] at hs <;> cases hs
      case nextWork.refl =>
        unfold nextWork
        split
        · exact h.silent hf rfl rfl trivial
        · split
          · exact h
          · next w rest hq => cases w <;> exact h.silent hf rfl rfl trivial
      case chatDrain.refl n =>
        unfold chatDrainWake
        split <;> exact h.silent hf rfl rfl trivial
      all_goals exact h.silent hf rfl rfl trivial
  | timeout hc hs =>
      unfold onTimeout at hs
      cases hp : s.point <;> rw [hp] at hs <;> cases hs
      · exact h.records hf rfl rfl rfl trivial
      · exact h.silent hf rfl rfl trivial
  | fault hc hs => exact h.served hf (onFault_served hs)
  | reply hc hcall hs => exact h.onReply hf hex hcall (hpays _ _ _ hcall rfl) hs
  | cancelCall hc hcall hs =>
      obtain ⟨l, hlog, hes⟩ := (onCancel_served hs).log
      have hserved := onCancel_served hs
      refine h.goto (l := l ++ [_]) hf (by rw [hlog, List.append_assoc]; rfl) (fun e he ↦ ?_)
        (.inl hserved.restorePoint) (.inl hserved.owner) (hserved.recoverable.imp_right .inl)
        (owingFacts_of_served hserved.point)
      rcases List.mem_append.mp he with he | he
      · exact Event.calm_of_serves (hes e he)
      · rw [List.mem_singleton.mp he]
        rfl
  | cancelWait hc hcall hs =>
      exact Owing.served (s := { s with cancelRequested := false }) hf { h with }
        (onCancel_served hs)

/-- What the other tasks add to the history without a failed request. -/
theorem calm_of_beside {l : List (Event RP Out BE)} (hlog : s'.log = l ++ s.log)
    (hclient : ∀ e ∈ l, e.byClient = true) (hdebts : s'.debts = s.debts) :
    ∀ e ∈ l, e.calm = true := by
  have hcount : (l ++ s.log).countP Event.foreign = s.log.countP Event.foreign :=
    hlog ▸ congrArg Prod.fst hdebts
  rw [List.countP_append, Nat.add_eq_right] at hcount
  intro e he
  have hby := hclient e he
  have hforeign := List.countP_eq_zero.mp hcount e he
  refine calm_iff.mpr ⟨?_, Bool.eq_false_iff.mpr (mt Event.foreign_of_failure hforeign)⟩
  cases e <;> first | rfl | cases hby

/-- At an await the facts depend only on the owner and on what is clear. -/
theorem owingFacts_suspended {p : Point RP} (hsusp : p.isSuspended = true)
    (hclear : Clear s.log → Clear s'.log) (h : OwingFacts cfg Clear s p) :
    OwingFacts cfg Clear s' p := by
  cases p <;> first
    | exact trivial
    | exact h
    | exact hclear h
    | exact ⟨h.1, hclear h.2⟩
    | cases hsusp

/-- A request fails while its lease is held, so the dispatcher has not come far. -/
theorem owingFacts_granted {p : Point RP} {n : ℕ} (hex : Exclusive cfg s)
    (hn : (s.chats n).granted = true) (hp : s.point = p) (hsusp : p.isSuspended = true)
    (h : OwingFacts cfg Clear s p) : OwingFacts cfg Clear s' p := by
  have howner := hex.owner_of_granted hn
  have hactive := hex.active_of_granted hn
  have hx := hex.point
  rw [hp] at hx
  have hknown {q : Prop} (hunknown : s.owner = .unknown) : q := nomatch hunknown.symm.trans howner
  cases p <;> first
    | exact trivial
    | exact h
    | exact hknown hx
    | exact absurd hx.2.1 (Nat.ne_of_gt hactive)
    | cases hsusp

theorem routerFailed {n : ℕ} (hex : Exclusive cfg s) (h : Owing cfg Clear s)
    (hsusp : s.point.isSuspended = true) (hreserves : cfg.reserves = true)
    (hn : (s.chats n).granted = true) :
    Owing cfg Clear ((markRecoverable s "KoboldCpp router request did not complete reliably").emit
      (.routerFailed n)) where
  error _ := by simp [markRecoverable]
  reserves _ := hreserves
  kept _ := h.known (hex.owner_of_granted hn)
  comfy hcomfy := nomatch (hex.owner_of_granted hn).symm.trans hcomfy
  known := h.known
  point := owingFacts_granted hex hn rfl hsusp h.point
  always := History.always_cons.mpr ⟨nofun, h.always⟩

theorem client (hf : Forgives Clear) (hex : Exclusive cfg s) (h : Owing cfg Clear s)
    (hsusp : s.point.isSuspended = true) (hs : Clients cfg s s') : Owing cfg Clear s' := by
  rcases hs.debts with ⟨n, hreserves, hn, rfl⟩ | ⟨r, rfl⟩ | ⟨e, rfl⟩ | hdebts
  · exact h.routerFailed hex hsusp hreserves hn
  · exact h.goto (l := []) hf rfl (List.forall_mem_nil _) (.inr (Option.some_ne_none r))
      (.inl rfl) (.inl rfl) (owingFacts_suspended hsusp (fun hc : Clear s.log ↦ hc) h.point)
  · exact h.records hf rfl rfl rfl
      (owingFacts_suspended hsusp (hf.cons (.backend e) _ rfl) h.point)
  rcases hs.own with ⟨hp, rfl⟩ | ⟨hinit, by_, call, hcall, rfl⟩ | ⟨e, k, he, rfl⟩ | hbeside
  · unfold initializeStart
    split_ifs
    · exact h.disowns (l := []) hf rfl (List.forall_mem_nil _) rfl rfl rfl trivial
    · exact h.records hf rfl rfl rfl trivial
  · exact h.records hf rfl rfl rfl trivial
  · have hcalm : e.calm = true := by rcases he with ⟨rfl, -⟩ | ⟨rfl, -⟩ <;> rfl
    exact h.records hf rfl hcalm rfl
      (owingFacts_suspended hsusp (hf.cons e _ (calm_iff.mp hcalm).2) h.point)
  · obtain ⟨l, hlog, hl⟩ := hbeside.log
    have hcalm := calm_of_beside hlog hl hdebts
    refine h.goto hf hlog hcalm (.inl (congrArg Prod.snd hdebts)) (.inl hbeside.owner)
      (hbeside.recoverable.imp_right .inl) ?_
    rw [hbeside.point]
    refine owingFacts_suspended hsusp (fun hc ↦ ?_) h.point
    rw [hlog]
    exact clear_append hf (fun e he ↦ (calm_iff.mp (hcalm e he)).2) hc

end Owing

theorem owing_inductive [DecidableEq RP] {cfg : BrokerConfig}
    {Clear : List (Event RP Out BE) → Prop} {K : State RP Out BE → Prop}
    {ok : State RP Out BE → Action RP Out BE → Prop} (hf : Forgives Clear)
    (hex : ∀ s, K s → Exclusive cfg s) (hpays : ∀ s a, K s → ok s a → Pays cfg Clear s a) :
    InductiveOver cfg ok K (Owing cfg Clear) where
  initial := .initial hf
  advance s hk h := h.advance hf (hex s hk)
  resumes s a _ hk h hok hr := h.resumes hf (hex s hk) (hpays s a hk hok) hr
  client s _ _ hk h _ hsusp hs := h.client hf (hex s hk) hsusp hs

end StProxy.Coordinator
