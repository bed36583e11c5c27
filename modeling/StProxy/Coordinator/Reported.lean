import StProxy.Coordinator.Leases

/-!
# The reported state

`status` reports the handoff state, and leases are admitted on it.  Before
`close` it never names an owner other than the recorded one.  In the modes that
only reserve the GPU it must not report a ready model; the two branches that
give up a handoff of the LLM do so.
-/

namespace StProxy.Coordinator

variable {RP Out BE : Type}

/-- The owner that a reported state speaks of. -/
def HandoffState.claims : HandoffState → Option GpuOwner
  | .llmReady | .llmReserved => some .llm
  | .comfyReady | .imageActive => some .comfy
  | _ => none

theorem HandoffState.claims_of_not_admits {st : HandoffState} (h : st.admits = false) :
    st.claims = none := by
  cases st <;> first | rfl | cases h

/-- What a client may learn of the dispatcher. -/
def State.report (s : State RP Out BE) : HandoffState × GpuOwner × Bool :=
  (s.state, s.owner, s.closing)

theorem Resolved.report {s s' : State RP Out BE} (h : Resolved s s') : s'.report = s.report :=
  h.field State.report fun _ ↦ rfl

theorem withdrawImage_report (s : State RP Out BE) (n : ℕ) (error : String) :
    (withdrawImage s n error).report = s.report := by
  rw [withdrawImage_eq]
  dsimp only
  split
  · exact ((removeQueued_resolved _ _).trans (resolveImageError_resolved _ n error)).report
  · rfl

theorem leaveBatch_report (works : List ℕ) :
    ∀ s : State RP Out BE, (works.foldl leaveBatchWork s).report = s.report := by
  induction works with
  | nil => exact fun _ ↦ rfl
  | cons n works ih =>
      intro s
      refine (ih _).trans ?_
      unfold leaveBatchWork
      split
      · exact withdrawImage_report s n _
      · rfl

theorem appendBatch_report (bodies : List (List UInt8)) :
    ∀ s : State RP Out BE, (appendBatch bodies s).report = s.report := by
  induction bodies with
  | nil => exact fun _ ↦ rfl
  | cons body bodies ih => exact fun s ↦ ih _

/-- Apart from `initialize`, `close` and a failed router request, the clients
leave the report as it is. -/
theorem Clients.report {cfg : BrokerConfig} {s s' : State RP Out BE} (h : Clients cfg s s') :
    (s.point = .unstarted ∧ s' = initializeStart cfg s) ∨ s'.closing = true ∨
      s'.state.claims = none ∨ s'.report = s.report := by
  cases h with
  | startup hp => exact .inl ⟨hp, rfl⟩
  | close =>
      refine .inr (.inl ?_)
      cases hc : s.closing with
      | true => simp [Coordinator.close, hc]
      | false => exact (close_resolved hc).field State.closing fun _ ↦ rfl
  | routerFailed n hreserves hclient hgranted => exact .inr (.inr (.inl rfl))
  | chatLeave n entered hclient => exact .inr (.inr (.inr (by rw [chatLeave_eq]; rfl)))
  | imageCancel n hclient => exact .inr (.inr (.inr (withdrawImage_report _ n _)))
  | imageBatch bodies hclosing hfatal hcapacity =>
      exact .inr (.inr (.inr (appendBatch_report bodies s)))
  | batchExit works hworks => exact .inr (.inr (.inr (leaveBatch_report works _)))
  | _ => exact .inr (.inr (.inr rfl))

/-- Before `close` the reported state is true of the recorded owner. -/
def Honest (s : State RP Out BE) : Prop :=
  s.closing = false → ∀ owner, s.state.claims = some owner → s.owner = owner

namespace Honest

variable {cfg : BrokerConfig} {s s' : State RP Out BE}

theorem initial : Honest (.initial : State RP Out BE) := nofun

theorem keep (h : Honest s) (hc : s'.closing = s.closing) (howner : s'.owner = s.owner)
    (hstate : s'.state = s.state) : Honest s' := by
  intro hopen owner hclaim
  rw [howner]
  exact h (hc ▸ hopen) owner (hstate ▸ hclaim)

theorem of_none (hclaim : s.state.claims = none) : Honest s := by
  intro _ owner howner
  rw [hclaim] at howner
  cases howner

theorem of_owner (hclaim : s.state.claims = some s.owner) : Honest s := by
  intro _ owner howner
  rw [hclaim] at howner
  exact Option.some.inj howner

theorem of_closing (hc : s.closing = true) : Honest s := by
  intro hopen
  rw [hc] at hopen
  cases hopen

/-- An unknown owner is not spoken of. -/
theorem claims_of_unknown (h : Honest s) (hopen : s.closing = false) (howner : s.owner = .unknown) :
    s.state.claims = none := by
  cases hclaim : s.state.claims with
  | none => rfl
  | some owner =>
      have heq := h hopen owner hclaim
      rw [howner] at heq
      subst heq
      cases hstate : s.state <;> rw [hstate] at hclaim <;> cases hclaim

theorem resolved {t : State RP Out BE} (h : Honest s) (hr : Resolved s t)
    (hc : s'.closing = t.closing) (howner : s'.owner = t.owner) (hstate : s'.state = t.state) :
    Honest s' :=
  h.keep (hc.trans (hr.field State.closing fun _ ↦ rfl))
    (howner.trans (hr.field State.owner fun _ ↦ rfl))
    (hstate.trans (hr.field State.state fun _ ↦ rfl))

/-- The owner is settled while the state speaks of none. -/
theorem setOwner (h : Honest s) (howner : s.owner = .unknown) (hc : s'.closing = s.closing)
    (hstate : s'.state = s.state) : Honest s' := by
  intro hopen owner hclaim
  rw [hstate, h.claims_of_unknown (hc ▸ hopen) howner] at hclaim
  cases hclaim

theorem setOwner_of_noEntry (hno : NoEntry s) (hc : s'.closing = s.closing)
    (hstate : s'.state = s.state) : Honest s' := by
  rcases hno with hclosing | hadmits
  · exact of_closing (hc.trans hclosing)
  · exact of_none (hstate ▸ HandoffState.claims_of_not_admits hadmits)

theorem grant {n : ℕ} (hex : Exclusive cfg s) (h : Honest s) (hp : s.point = .chatGrant n) :
    Honest (chatGrant cfg s n) := by
  have hf : PointFacts cfg s (.chatGrant n) := hp ▸ hex.point
  unfold chatGrant
  split_ifs
  · exact h
  · exact h.resolved (resolveChat_resolved s n _) rfl rfl rfl
  · exact h.resolved (resolveChat_resolved s n _) rfl rfl rfl
  · let t : State RP Out BE :=
      { s.setChat n { s.chats n with granted := true } with
        activeChats := s.activeChats + 1
        state := grantState cfg s.state }.emit (.chatGranted n)
    have ht : Honest t := by
      by_cases hcurrent : grantState cfg s.state = s.state
      · exact h.keep rfl rfl hcurrent
      · refine of_owner ?_
        rw [show t.owner = .llm from hf.1]
        show (grantState cfg s.state).claims = some .llm
        unfold grantState at hcurrent ⊢
        split
        · rfl
        · split
          · rfl
          · next hmode hkind => simp [hmode, hkind] at hcurrent
    exact ht.resolved (resolveChat_resolved t n none) rfl rfl rfl

theorem raised {n : ℕ} {e : Exn} (h : Honest s) : Honest (imageRaised s n e) := by
  have hr (t : State RP Out BE) (ht : Honest t) :
      Honest ((imageFinally (resolveImageError t n e.message) [e.message]).goto .nextWork) :=
    ht.resolved (resolveImageError_resolved t n e.message) rfl rfl rfl
  simp only [imageRaised]
  split_ifs with hcomfy hllm
  · simp only [Bool.and_eq_true, beq_iff_eq] at hcomfy
    exact hr _ (of_owner (congrArg some hcomfy.1.symm))
  · simp only [Bool.and_eq_true, beq_iff_eq] at hllm
    exact hr _ (of_owner (congrArg some hllm.1.symm))
  · exact hr s h
  · exact hr _ (of_none rfl)

theorem withdrawn {n : ℕ} (h : Honest s) : Honest (imageWithdrawn s n) :=
  h.resolved (resolveImageError_resolved s n _) rfl rfl rfl

theorem drainCheck {n : ℕ} (h : Honest s) : Honest (activateDrainCheck s n) := by
  unfold activateDrainCheck
  split_ifs
  · unfold activateWithdrawn
    refine withdrawn ?_
    split
    · next howner => exact of_owner (congrArg some (beq_iff_eq.mp howner).symm)
    · exact of_none rfl
  · exact h
  · exact h

theorem advance [DecidableEq RP] (hex : Exclusive cfg s) (h : Honest s) :
    Honest (advance cfg s) := by
  have hf := hex.point
  unfold Coordinator.advance
  cases hp : s.point <;> rw [hp] at hf <;> dsimp only
  case dispatch w => cases w <;> exact h
  case dispatcherCancelled w => exact h.resolved (resolveWork_resolved s w _) rfl rfl rfl
  case dispatcherFailed w e =>
    have hr := dispatcherFailed_resolved s w e
    exact of_none (by rw [hr.field State.state fun _ ↦ rfl]; rfl)
  case chatGrant n => exact h.grant hex hp
  case chatDenied n => exact h.resolved (resolveChat_resolved s n _) rfl rfl rfl
  case restoreOwn n =>
    simp only [restoreOwn]
    split <;> exact setOwner_of_noEntry hf.1 rfl rfl
  case imageStart n =>
    unfold imageStart
    dsimp only
    split_ifs
    · exact withdrawn (s := { s with lastError := none }) h
    · exact of_none rfl
    · exact h
  case imageActivated n =>
    unfold imageActivated
    split_ifs
    · exact h.withdrawn
    · exact of_owner (congrArg some (Eq.symm hf))
  case submitted n result =>
    have hr := resolveSubmitted_resolved s n ⟨some result.response, none⟩
    simp only [imageSubmitted]
    split_ifs
    · exact h.resolved hr rfl rfl rfl
    · split
      · exact h.resolved hr rfl rfl rfl
      · split_ifs <;> exact h.resolved hr rfl rfl rfl
  case imageRaised n e => exact h.raised
  case imageCancelled n =>
    unfold imageCancelled
    split_ifs
    · exact h
    · exact h.resolved (resolveImageError_resolved s n _) rfl rfl rfl
  case activateDrainCheck n => exact h.drainCheck
  all_goals
    first
      | exact h
      | simp only [chatStart, chatDrainCheck, chatRestore, restoreStart, restoreControlsCheck,
          cleanupFailed, restoreBranch, restoreReload, restoreRaised, restoreDone, activateDrained,
          activateRouter, activateRouterUnload, activateUnload, activateDone]
  all_goals repeat' split
  all_goals first
    | exact h
    | exact of_none rfl
    | exact of_owner rfl
    | exact of_closing ‹_›

/-! ## Resumptions and clients -/

theorem onReply {r : Reply RP Out} (hf : PointFacts cfg s s.point) (h : Honest s)
    (hs : onReply s r = some s') : Honest s' := by
  generalize hp : s.point = p at hf
  cases onReply_returns hs hp
  case monitorOutputs n promptId o =>
    have hclaim : Honest (s.setState .comfyReady) := of_owner (congrArg some (Eq.symm hf))
    have hr := resolveCompletion_resolved s n ⟨some o, none⟩
    exact hclaim.keep (hr.field State.closing fun _ ↦ rfl) (hr.field State.owner fun _ ↦ rfl) rfl
  case interruptDone n =>
    exact h.resolved (resolveImageError_resolved s n _) rfl rfl rfl
  case activateObserveSome n restore =>
    exact setOwner_of_noEntry hf.2.2.2 rfl rfl
  all_goals first
    | exact h
    | exact of_none rfl
    | exact of_owner rfl
    | exact h.setOwner hf rfl rfl

theorem resumes {a : Action RP Out BE} (hex : Exclusive cfg s) (h : Honest s)
    (hr : Resumes s a s') : Honest s' := by
  cases hr with
  | wake hc hs =>
      unfold onWake at hs
      cases hp : s.point <;> rw [hp] at hs <;> dsimp only at hs <;> cases hs
      case nextWork.refl =>
        unfold nextWork
        split
        · exact h
        · split
          · exact h
          · next w rest hq => exact h.resolved (dequeue_resolved s rest w) rfl rfl rfl
      case chatDrain.refl n =>
        unfold chatDrainWake
        split <;> exact h
      all_goals exact h
  | timeout hc hs =>
      unfold onTimeout at hs
      cases hp : s.point <;> rw [hp] at hs <;> cases hs <;> exact h
  | fault hc hs =>
      unfold onFault at hs
      cases hp : s.point <;> rw [hp] at hs <;> cases hs <;> exact h
  | reply hc hcall hs => exact onReply (s := s.emit _) hex.point h hs
  | cancelCall hc hcall hs =>
      unfold onCancel at hs
      cases hp : s.point <;> simp only [hp] at hs <;> cases hs <;> exact h
  | cancelWait hc hcall hs =>
      unfold onCancel at hs
      cases hp : s.point <;> simp only [hp] at hs <;> cases hs <;> exact h

theorem client (h : Honest s) (hs : Clients cfg s s') : Honest s' := by
  rcases hs.report with ⟨-, rfl⟩ | hclosing | hclaim | hreport
  · unfold initializeStart
    split
    · exact of_none rfl
    · exact h
  · exact of_closing hclosing
  · exact of_none hclaim
  · exact h.keep (congrArg (fun r ↦ r.2.2) hreport) (congrArg (fun r ↦ r.2.1) hreport)
      (congrArg Prod.fst hreport)

end Honest

theorem honest_inductive [DecidableEq RP] {cfg : BrokerConfig}
    {ok : State RP Out BE → Action RP Out BE → Prop} :
    InductiveOver cfg ok (fun s ↦ WellFormed s ∧ Exclusive cfg s)
      (Honest : State RP Out BE → Prop) where
  initial := .initial
  advance _ hk h := h.advance hk.2
  resumes _ _ _ hk h _ hr := h.resumes hk.2 hr
  client _ _ _ _ h _ _ hs := h.client hs

/-! ## Reservations -/

/-- The step gives up an image request while the LLM still owns the GPU: the
request was cancelled, or its handoff times out or fails. -/
def givesUp (s : State RP Out BE) (a : Action RP Out BE) : Bool :=
  s.owner == .llm && match s.point.current, a with
    | some (.image n), .wake => (s.images n).cancelled
    | some (.image _), .timeout | some (.image _), .fault _
    | some (.image _), .reply (.raised _) => true
    | _, _ => false

/-- In the modes that reserve the GPU, no image request is given up while the
LLM owns the GPU. -/
def Kept (cfg : BrokerConfig) (s : State RP Out BE) (a : Action RP Out BE) : Prop :=
  cfg.reserves = true → givesUp s a = false

instance (cfg : BrokerConfig) (s : State RP Out BE) (a : Action RP Out BE) :
    Decidable (Kept cfg s a) :=
  inferInstanceAs (Decidable (_ → _))

/-- The point leads to a report of a ready model. -/
def Readying (s : State RP Out BE) : Point RP → Prop
  | .initValidate | .initFree | .initSnapshot => True
  | .imageRaised _ _ => s.owner = .llm
  | .activateDrainCheck n => s.owner = .llm ∧ (s.images n).cancelled = true
  | _ => False

/-- In the modes that reserve the GPU no model is reported as ready. -/
structure Reserved (cfg : BrokerConfig) (s : State RP Out BE) : Prop where
  unready : cfg.reserves = true → s.closing = false → s.state ≠ .llmReady
  kept : cfg.reserves = true → ¬Readying s s.point

namespace Reserved

variable {cfg : BrokerConfig} {s s' : State RP Out BE}

theorem initial : Reserved cfg (.initial : State RP Out BE) where
  unready _ _ := nofun
  kept _ := nofun

theorem keep (h : Reserved cfg s) (hc : s'.closing = s.closing) (hstate : s'.state = s.state)
    (hp : ¬Readying s' s'.point) : Reserved cfg s' where
  unready hres hopen := hstate ▸ h.unready hres (hc ▸ hopen)
  kept _ := hp

theorem of_state (hstate : cfg.reserves = true → s.state ≠ .llmReady)
    (hp : ¬Readying s s.point) : Reserved cfg s where
  unready hres _ := hstate hres
  kept _ := hp

theorem of_closing (hc : s.closing = true) (hp : ¬Readying s s.point) : Reserved cfg s where
  unready _ hopen := by
    rw [hc] at hopen
    cases hopen
  kept _ := hp

theorem resolved {t : State RP Out BE} (h : Reserved cfg s) (hr : Resolved s t)
    (hc : s'.closing = t.closing) (hstate : s'.state = t.state) (hp : ¬Readying s' s'.point) :
    Reserved cfg s' :=
  h.keep (hc.trans (hr.field State.closing fun _ ↦ rfl))
    (hstate.trans (hr.field State.state fun _ ↦ rfl)) hp

theorem grant {n : ℕ} (h : Reserved cfg s) : Reserved cfg (chatGrant cfg s n) := by
  unfold chatGrant
  split_ifs
  · exact h.keep rfl rfl id
  · exact h.resolved (resolveChat_resolved s n _) rfl rfl id
  · exact h.resolved (resolveChat_resolved s n _) rfl rfl id
  · let t : State RP Out BE :=
      { s.setChat n { s.chats n with granted := true } with
        activeChats := s.activeChats + 1
        state := grantState cfg s.state }.emit (.chatGranted n)
    have hr : Resolved t (resolveChat t n none) := resolveChat_resolved t n none
    refine of_state (fun hres ↦ ?_) id
    have hstate : (resolveChat t n none).state = .llmReserved := by
      rw [hr.field State.state fun _ ↦ rfl]
      simp [t, grantState, hres]
    rw [hstate]
    nofun

theorem withdrawn {n : ℕ}
    (hstate : cfg.reserves = true → s.closing = false → s.state ≠ .llmReady) :
    Reserved cfg (imageWithdrawn s n) := by
  have hr := resolveImageError_resolved s n "image request was cancelled"
  refine ⟨fun hres hopen ↦ ?_, fun _ ↦ id⟩
  have hopen' : s.closing = false := (hr.field State.closing fun _ ↦ rfl).symm.trans hopen
  exact fun hready ↦ hstate hres hopen' ((hr.field State.state fun _ ↦ rfl).symm.trans hready)

theorem raised {n : ℕ} {e : Exn} (h : Reserved cfg s) (hp : s.point = .imageRaised n e) :
    Reserved cfg (imageRaised s n e) := by
  have hr (t : State RP Out BE) := resolveImageError_resolved t n e.message
  simp only [imageRaised]
  split_ifs with hcomfy hllm
  · have hstate := (hr (s.setState .comfyReady)).field State.state fun _ ↦ rfl
    exact of_state (fun _ hready ↦ by cases hstate ▸ hready) id
  · -- The LLM still owns the GPU, which the condition on the steps excludes.
    simp only [Bool.and_eq_true, beq_iff_eq] at hllm
    refine of_state (fun hres ↦ absurd hllm.1 ?_) id
    have hkept := h.kept hres
    rw [hp] at hkept
    exact hkept
  · exact h.resolved (hr s) rfl rfl id
  · have hstate := (hr (markRecoverable s
        "GPU ownership is not confirmed after workflow handoff failure")).field State.state
      fun _ ↦ rfl
    exact of_state (fun _ hready ↦ by cases hstate ▸ hready) id

theorem drainCheck {n : ℕ} (h : Reserved cfg s) (hp : s.point = .activateDrainCheck n) :
    Reserved cfg (activateDrainCheck s n) := by
  unfold activateDrainCheck
  split_ifs with hcancelled
  · unfold activateWithdrawn
    refine withdrawn fun hres _ ↦ ?_
    have hkept := h.kept hres
    rw [hp] at hkept
    split
    · next howner => exact absurd ⟨beq_iff_eq.mp howner, hcancelled⟩ hkept
    · nofun
  · exact h.keep rfl rfl id
  · exact h.keep rfl rfl id

theorem advance [DecidableEq RP] (hex : Exclusive cfg s) (h : Reserved cfg s) :
    Reserved cfg (advance cfg s) := by
  have hf := hex.point
  unfold Coordinator.advance
  cases hp : s.point <;> rw [hp] at hf <;> dsimp only
  case dispatch w => cases w <;> exact h.keep rfl rfl id
  case dispatcherCancelled w => exact h.resolved (resolveWork_resolved s w _) rfl rfl id
  case dispatcherFailed w e =>
    have hr := dispatcherFailed_resolved s w e
    refine of_state (fun _ ↦ ?_) id
    rw [hr.field State.state fun _ ↦ rfl]
    simp
  case chatGrant n => exact h.grant
  case chatDenied n => exact h.resolved (resolveChat_resolved s n _) rfl rfl id
  case imageStart n =>
    unfold imageStart
    dsimp only
    split_ifs with hcancelled
    · exact withdrawn (s := { s with lastError := none }) h.unready
    · exact of_state (fun _ ↦ by simp) fun hab ↦ hcancelled hab.2
    · exact h.keep rfl rfl id
  case imageActivated n =>
    unfold imageActivated
    split_ifs
    · exact withdrawn h.unready
    · exact of_state (fun _ ↦ by simp) id
  case submitted n result =>
    have hr := resolveSubmitted_resolved s n ⟨some result.response, none⟩
    have howner : (resolveSubmitted s n ⟨some result.response, none⟩).owner ≠ .llm := by
      rw [hr.field State.owner fun _ ↦ rfl, show s.owner = .comfy from hf]
      simp
    simp only [imageSubmitted]
    split_ifs
    · exact h.resolved hr rfl rfl howner
    · split
      · exact h.resolved hr rfl rfl howner
      · split_ifs
        · exact h.resolved hr rfl rfl howner
        · exact h.resolved hr rfl rfl id
  case imageRaised n e => exact h.raised hp
  case imageCancelled n =>
    unfold imageCancelled
    split_ifs
    · exact h.keep rfl rfl id
    · exact h.resolved (resolveImageError_resolved s n _) rfl rfl id
  case activateDrainCheck n => exact h.drainCheck hp
  case restoreDone n =>
    simp only [restoreDone]
    split
    · exact h.keep rfl rfl id
    · exact of_state (fun hres ↦ by simp [hres]) id
  all_goals
    first
      | exact h
      | simp only [chatStart, chatDrainCheck, chatRestore, restoreStart, restoreControlsCheck,
          cleanupFailed, restoreOwn, restoreBranch, restoreReload, restoreRaised, activateDrained,
          activateRouter, activateRouterUnload, activateUnload, activateDone]
  all_goals repeat' split
  all_goals first
    | exact h.keep rfl rfl id
    | exact of_state (fun _ ↦ by rintro ⟨⟩) id
    | exact of_state (fun _ ↦ by rintro ⟨⟩) (by rintro ⟨⟩)

/-- A failure leads to the report only if the LLM owns the GPU. -/
theorem raises {n : ℕ} {e : Exn} {a : Action RP Out BE} (h : Reserved cfg s) (hok : Kept cfg s a)
    (hcur : s.point.current = some (.image n)) (hc : s'.closing = s.closing)
    (hstate : s'.state = s.state) (howner : s'.owner = s.owner) (hp : s'.point = .imageRaised n e)
    (ha : a = .timeout ∨ a = .fault e ∨ a = .reply (.raised e)) : Reserved cfg s' where
  unready hres hopen := hstate ▸ h.unready hres (hc ▸ hopen)
  kept hres hab := by
    rw [hp] at hab
    have hllm : s.owner = .llm := howner ▸ hab
    have hok := hok hres
    rcases ha with rfl | rfl | rfl <;> simp [givesUp, hllm, hcur] at hok

theorem onReply {r : Reply RP Out} (h : Reserved cfg s) (hok : Kept cfg s (.reply r))
    (hs : onReply s r = some s') : Reserved cfg s' := by
  generalize hp : s.point = p
  cases onReply_returns hs hp
  case monitorOutputs n promptId o =>
    exact of_state (fun _ ↦ nofun) id
  case interruptDone n =>
    exact h.resolved (resolveImageError_resolved s n _) rfl rfl id
  case initSnapshotAcquired r =>
    exact of_state (fun hres ↦ absurd (hp ▸ trivial : Readying s s.point) (h.kept hres)) id
  case initValidateDone | initFreeDone =>
    exact ⟨fun _ _ ↦ nofun, fun hres _ ↦ h.kept hres (hp ▸ trivial)⟩
  all_goals first
    | exact h.keep rfl rfl id
    | exact of_state (fun _ ↦ nofun) id
    | exact h.raises hok (by rw [hp]; rfl) rfl rfl rfl rfl (.inr (.inr rfl))

theorem resumes {a : Action RP Out BE} (h : Reserved cfg s) (hok : Kept cfg s a)
    (hr : Resumes s a s') : Reserved cfg s' := by
  cases hr with
  | wake hc hs =>
      unfold onWake at hs
      cases hp : s.point <;> rw [hp] at hs <;> dsimp only at hs <;> cases hs
      case nextWork.refl =>
        unfold nextWork
        split
        · exact h.keep rfl rfl id
        · split
          · exact h
          · next w rest hq => exact h.resolved (dequeue_resolved s rest w) rfl rfl id
      case chatDrain.refl n =>
        unfold chatDrainWake
        split <;> exact h.keep rfl rfl id
      case activateDrain.refl n =>
        refine ⟨h.unready, fun hres hab ↦ ?_⟩
        obtain ⟨howner, hcancelled⟩ : s.owner = .llm ∧ (s.images n).cancelled = true := hab
        have hok := hok hres
        simp [givesUp, hp, Point.current, howner, hcancelled] at hok
      all_goals exact h.keep rfl rfl id
  | timeout hc hs =>
      unfold onTimeout at hs
      cases hp : s.point <;> rw [hp] at hs <;> cases hs
      · exact h.keep rfl rfl id
      · exact h.raises hok (by rw [hp]; rfl) rfl rfl rfl rfl (.inl rfl)
  | fault hc hs =>
      unfold onFault at hs
      cases hp : s.point <;> rw [hp] at hs <;> cases hs
      case activateDrain.refl n =>
        exact h.raises hok (by rw [hp]; rfl) rfl rfl rfl rfl (.inr (.inl rfl))
      all_goals exact h.keep rfl rfl id
  | reply hc hcall hs => exact onReply (s := s.emit _) ⟨h.unready, h.kept⟩ hok hs
  | cancelCall hc hcall hs =>
      unfold onCancel at hs
      cases hp : s.point <;> simp only [hp] at hs <;> cases hs <;> exact h.keep rfl rfl id
  | cancelWait hc hcall hs =>
      unfold onCancel at hs
      cases hp : s.point <;> simp only [hp] at hs <;> cases hs <;> exact h.keep rfl rfl id

theorem readying_of_suspended (hsusp : s.point.isSuspended = true)
    (hp : Readying s s.point) : s.point.isInitializing = true := by
  cases hpoint : s.point <;> rw [hpoint] at hsusp hp <;> first
    | rfl
    | exact False.elim hp
    | cases hsusp

theorem client (h : Reserved cfg s) (hsusp : s.point.isSuspended = true)
    (hs : Clients cfg s s') : Reserved cfg s' where
  unready hres hopen := by
    rcases hs.report with ⟨-, rfl⟩ | hclosing | hclaim | hreport
    · simp [initializeStart, cfg.requestDriven_of_reserves hres]
    · rw [hclosing] at hopen
      cases hopen
    · rintro hready
      rw [hready] at hclaim
      cases hclaim
    · rw [show s'.state = s.state from congrArg Prod.fst hreport]
      exact h.unready hres ((congrArg (fun r ↦ r.2.2) hreport).symm.trans hopen)
  kept hres hp := by
    have hinit := readying_of_suspended (hs.suspended hsusp) hp
    have hkept (hp' : s'.point = s.point) : False := by
      refine h.kept hres ?_
      rw [hp'] at hinit
      cases hpoint : s.point <;> rw [hpoint] at hinit <;> trivial
    rcases hs.own with ⟨-, rfl⟩ | ⟨-, by_, call, -, rfl⟩ | ⟨e, k, -, rfl⟩ | hbeside
    · simp [initializeStart, cfg.requestDriven_of_reserves hres, Point.isInitializing] at hinit
    · cases hinit
    · exact hkept rfl
    · exact hkept hbeside.point

end Reserved

theorem reserved_inductive [DecidableEq RP] {cfg : BrokerConfig} :
    InductiveOver cfg (Kept cfg) (fun s ↦ WellFormed s ∧ Exclusive cfg s)
      (Reserved cfg : State RP Out BE → Prop) where
  initial := .initial
  advance _ hk h := h.advance hk.2
  resumes _ _ _ _ h hok hr := h.resumes hok hr
  client _ _ _ _ h _ hsusp hs := h.client hsusp hs

section
variable [DecidableEq RP] {cfg : BrokerConfig} {s : State RP Out BE}

/-- Before `close` the reported state claims no more than the ownership record.
A mode that only reserves the GPU reports no ready model in the runs that give
up no image request while the LLM owns the GPU. -/
theorem reported_state (hs : (system RP Out BE cfg).Reachable s) (hopen : s.closing = false) :
    (s.state = .llmReady ∨ s.state = .llmReserved → s.owner = .llm) ∧
    (s.state = .comfyReady ∨ s.state = .imageActive → s.owner = .comfy) ∧
    ((system RP Out BE cfg).ReachableVia (Kept cfg) s → cfg.reserves = true →
      s.state ≠ .llmReady) := by
  have hhonest : Honest s :=
    (((wellFormed_inductive.extend exclusive_inductive).extend honest_inductive).reachableVia
      hs).2.2
  refine ⟨fun hstate ↦ hhonest hopen .llm ?_, fun hstate ↦ hhonest hopen .comfy ?_,
    fun hkept hres ↦ ?_⟩
  · rcases hstate with hstate | hstate <;> rw [hstate] <;> rfl
  · rcases hstate with hstate | hstate <;> rw [hstate] <;> rfl
  · have hreserved : Reserved cfg s :=
      (((wellFormed_inductive.extend exclusive_inductive).extend reserved_inductive).reachableVia
        hkept).2.2
    exact hreserved.unready hres hopen

theorem settle_withdrawn {n : ℕ} (howner : s.owner = .llm)
    (hcancelled : (s.images n).cancelled = true) :
    (settle cfg (s.goto (.activateDrainCheck n))).state = .llmReady := by
  have hmove : advance cfg (s.goto (.activateDrainCheck n)) =
      imageWithdrawn ((s.goto (.activateDrainCheck n)).setState .llmReady) n := by
    simp [advance, activateDrainCheck, activateWithdrawn, hcancelled, howner]
  rw [settle_of_advance (by rw [hmove]; rfl), hmove]
  exact (resolveImageError_resolved _ n _).field State.state fun _ ↦ rfl

theorem settle_raised {n : ℕ} {e : Exn} (howner : s.owner = .llm)
    (hfatal : truthy s.fatalError = false) :
    (settle cfg (s.goto (.imageRaised n e))).state = .llmReady := by
  have hmove : advance cfg (s.goto (.imageRaised n e)) =
      (imageFinally (resolveImageError ((s.goto (.imageRaised n e)).setState .llmReady) n
        e.message) [e.message]).goto .nextWork := by
    simp [advance, imageRaised, howner, hfatal]
  rw [settle_of_advance (by rw [hmove]; rfl), hmove]
  exact (resolveImageError_resolved _ n _).field State.state fun _ ↦ rfl

/-- The condition is exact: a step that gives up an image request while the LLM
owns the GPU makes a reserving mode report a ready model. -/
theorem llmReady_of_givesUp {s' : State RP Out BE} {a : Action RP Out BE}
    (hs : (system RP Out BE cfg).Reachable s) (hopen : s.closing = false)
    (hgives : givesUp s a = true) (hstep : step cfg s a = some s') : s'.state = .llmReady := by
  have hwf : WellFormed s := (wellFormed_inductive.reachableVia hs).2
  simp only [givesUp, Bool.and_eq_true, beq_iff_eq] at hgives
  obtain ⟨howner, hgives⟩ := hgives
  split at hgives
  · next n hcur =>
      obtain ⟨s₀, hr, rfl⟩ := step_resumes rfl hstep
      cases hr with
      | wake hc h₀ =>
          unfold onWake at h₀
          cases hp : s.point <;> rw [hp] at h₀ hcur <;> cases h₀ <;> cases hcur
          exact settle_withdrawn howner hgives
  · next n hcur =>
      obtain ⟨s₀, hr, rfl⟩ := step_resumes rfl hstep
      cases hr with
      | timeout hc h₀ =>
          unfold onTimeout at h₀
          cases hp : s.point <;> rw [hp] at h₀ hcur <;> cases h₀ <;> cases hcur
          exact settle_raised howner (hwf.not_fatal (by rw [hp]; rfl))
  · next n e hcur =>
      obtain ⟨s₀, hr, rfl⟩ := step_resumes rfl hstep
      cases hr with
      | fault hc h₀ =>
          unfold onFault at h₀
          cases hp : s.point <;> rw [hp] at h₀ hcur <;> cases h₀ <;> cases hcur
          exact settle_raised howner (hwf.not_fatal (by rw [hp]; rfl))
  · next n e hcur =>
      obtain ⟨s₀, hr, rfl⟩ := step_resumes rfl hstep
      cases hr with
      | reply hc hcall h₀ =>
          have hfatal := hwf.not_fatal (Point.running_of_current hcur)
          generalize hp : s.point = p at hcur
          cases onReply_returns h₀ hp <;> cases hcur
          case interruptRaised.refl =>
            have hclosing := hwf.shutdown (by rw [hp]; rfl)
            rw [hopen] at hclosing
            cases hclosing
          all_goals exact settle_raised howner hfatal
  · cases hgives

end

/-! ## A cancelled and a timed-out image request -/

/-- A KoboldCpp broker in router mode. -/
def routerConfig : BrokerConfig :=
  { koboldConfig with koboldRouterMode := true, router_koboldcpp := fun _ ↦ rfl }

/-- A chat is granted in router mode and an image request waits for it. -/
def drainingRun : List (Action ℕ Unit Empty) :=
  [.startup, .chatLease none, .wake, .reply .done, .reply .done, .reply (.acquired 7),
    .chatWake 1, .submitImage ⟨"/prompt", "", [], []⟩ true, .wake]

def drainingState : State ℕ Unit Empty :=
  ((system ℕ Unit Empty routerConfig).exec .initial drainingRun).get (by decide)

def drainTimeoutState : State ℕ Unit Empty :=
  ((system ℕ Unit Empty routerConfig).exec .initial (drainingRun ++ [.timeout])).get (by decide)

/-- The image request times out while it drains, and router mode reports a ready model. -/
theorem reported_ready_model :
    (system ℕ Unit Empty routerConfig).Reachable drainTimeoutState ∧
      drainTimeoutState.closing = false ∧ routerConfig.reserves = true ∧
      drainTimeoutState.state = .llmReady :=
  ⟨TransitionSystem.exec_get_reachable rfl (by decide), by decide, by decide, by decide⟩

theorem reported_state_draining :
    drainingState.owner = .llm ∧ drainingState.state ≠ .llmReady :=
  ⟨by decide, (reported_state (TransitionSystem.exec_get_reachable (M := system ℕ Unit Empty
    routerConfig) rfl (by decide) : (system ℕ Unit Empty routerConfig).Reachable drainingState)
      (by decide)).2.2 (TransitionSystem.exec_reachableVia (.start rfl) (l := drainingRun)
        (by decide) (Option.some_get _).symm) (by decide)⟩

end StProxy.Coordinator
