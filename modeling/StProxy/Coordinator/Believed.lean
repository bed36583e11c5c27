import StProxy.Coordinator.Owing

/-!
# What the history tells about the LLM

Since a call was started the dispatcher has recorded nothing.  When the LLM owns the GPU,
its restore point is what the latest event of its lifecycle reported.
-/

namespace StProxy.Coordinator

variable {RP Out BE : Type}

/-! ## The call in flight -/

/-- The events of the other tasks. -/
def Event.meanwhile : Event RP Out BE → Bool
  | .controlGranted | .controlReleased => true
  | e => e.byClient

theorem Event.meanwhile_of_byClient {e : Event RP Out BE} (he : e.byClient = true) :
    e.meanwhile = true := by
  cases e <;> first | rfl | exact he

theorem Event.not_lifecycle_of_meanwhile {e : Event RP Out BE} (he : e.meanwhile = true) :
    e.isLifecycle = false := by
  cases e <;> first | rfl | cases he

theorem client_log [DecidableEq RP] {cfg : BrokerConfig} {s s' : State RP Out BE}
    {a : Action RP Out BE} (ha : a.resumes = false) (halters : a.alters = false)
    (hs : step cfg s a = some s') :
    ∃ l, s'.log = l ++ s.log ∧ ∀ e ∈ l, e.meanwhile = true ∧ e.foreign = false := by
  have hframe := client_frame ha halters hs
  have hpoint : s'.point = s.point := congrArg (·.1) hframe
  have hcount : s'.log.countP Event.foreign = s.log.countP Event.foreign :=
    congrArg (·.2.2.1) hframe
  have hadds (l : List (Event RP Out BE)) (hlog : s'.log = l ++ s.log)
      (hl : ∀ e ∈ l, e.meanwhile = true) :
      ∃ l, s'.log = l ++ s.log ∧ ∀ e ∈ l, e.meanwhile = true ∧ e.foreign = false := by
    rw [hlog, List.countP_append, Nat.add_eq_right] at hcount
    exact ⟨l, hlog, fun e he ↦ ⟨hl e he, by simpa using List.countP_eq_zero.mp hcount e he⟩⟩
  rcases (client_cases ha hs).own with ⟨hp, rfl⟩ | ⟨hinit, by_, call, hcall, rfl⟩ |
    ⟨e, k, he, rfl⟩ | hbeside
  · rw [hp] at hpoint
    unfold initializeStart at hpoint
    split at hpoint <;> cases hpoint
  · have hfailed : s.point = .initFailed := hpoint.symm
    rw [hfailed] at hinit
    cases hinit
  · refine hadds [e] rfl (List.forall_mem_singleton.mpr ?_)
    rcases he with ⟨rfl, -⟩ | ⟨rfl, -⟩ <;> rfl
  · obtain ⟨l, hlog, hl⟩ := hbeside.log
    exact hadds l hlog fun e he ↦ Event.meanwhile_of_byClient (hl e he)

/-- The call in flight is the latest that was started.  No request to the router failed since,
if it concerns the LLM. -/
def InFlight (s : State RP Out BE) : Prop :=
  ∀ by_ call, s.point.call = some (by_, call) →
    ∃ l rest, s.log = l ++ .started by_ call :: rest ∧
      ∀ e ∈ l, e.meanwhile = true ∧ (call.isLifecycle = true → e.isRouterFailure = false)

namespace InFlight

variable {cfg : BrokerConfig} {s s' : State RP Out BE}

theorem of_none (hp : s.point.call = none) : InFlight s :=
  fun _ _ hcall ↦ nomatch hp.symm.trans hcall

theorem of_start {by_ : Routine} {call : Call RP} {rest : List (Event RP Out BE)}
    (hp : s.point.call = some (by_, call)) (hlog : s.log = .started by_ call :: rest) :
    InFlight s := by
  intro by' call' hcall
  cases hp.symm.trans hcall
  exact ⟨[], rest, hlog, List.forall_mem_nil _⟩

theorem extend {l : List (Event RP Out BE)} (h : InFlight s) (hp : s'.point = s.point)
    (hlog : s'.log = l ++ s.log) (hl : ∀ e ∈ l, e.meanwhile = true)
    (hfailure : ∀ by_ call, s.point.call = some (by_, call) → call.isLifecycle = true →
      ∀ e ∈ l, e.isRouterFailure = false) : InFlight s' := by
  intro by_ call hcall
  rw [hp] at hcall
  obtain ⟨l', rest, hrest, hl'⟩ := h by_ call hcall
  refine ⟨l ++ l', rest, by rw [hlog, hrest, List.append_assoc], fun e he ↦ ?_⟩
  rcases List.mem_append.mp he with he | he
  · exact ⟨hl e he, fun hlife ↦ hfailure by_ call hcall hlife e he⟩
  · exact hl' e he

theorem initial : InFlight (.initial : State RP Out BE) := of_none rfl

theorem advance [DecidableEq RP] (h : InFlight s) : InFlight (advance cfg s) := by
  unfold Coordinator.advance
  cases hp : s.point <;> dsimp only
  case dispatch work => cases work <;> exact of_none rfl
  all_goals first
    | exact h
    | exact of_none rfl
    | simp only [chatStart, chatDrainCheck, chatRestore, chatGrant, restoreStart,
        restoreControlsCheck, restoreOwn, restoreBranch, restoreReload, imageStart, imageActivated,
        imageSubmitted, imageCancelled, activateDrainCheck, activateDrained, activateRouter,
        activateRouterUnload, activateUnload]
  all_goals repeat' split
  all_goals first
    | exact of_none rfl
    | exact of_start rfl rfl

theorem onReply {by_ : Routine} {call : Call RP} {r : Reply RP Out}
    (hs : onReply (s.emit (.finished by_ call r)) r = some s') : InFlight s' := by
  generalize hp : s.point = p
  cases onReply_returns hs hp
  all_goals first
    | exact of_none rfl
    | exact of_start rfl rfl

theorem onCancel (hs : onCancel s = some s') : InFlight s' := by
  unfold Coordinator.onCancel at hs
  cases hp : s.point <;> rw [hp] at hs <;> dsimp only at hs <;> cases hs <;> exact of_none rfl

theorem resumes {a : Action RP Out BE} (h : InFlight s) (hr : Resumes s a s') : InFlight s' := by
  cases hr with
  | wake hc hs =>
      unfold onWake at hs
      cases hp : s.point <;> rw [hp] at hs <;> cases hs
      case nextWork.refl =>
        unfold nextWork
        split
        · exact of_none rfl
        · split
          · exact h
          · exact of_none rfl
      case chatDrain.refl n =>
        unfold chatDrainWake
        split <;> exact of_none rfl
      all_goals exact of_none rfl
  | timeout hc hs =>
      unfold onTimeout at hs
      cases hp : s.point <;> rw [hp] at hs <;> cases hs <;> exact of_none rfl
  | fault hc hs =>
      unfold onFault at hs
      cases hp : s.point <;> rw [hp] at hs <;> cases hs <;> exact of_none rfl
  | reply hc hcall hs => exact onReply hs
  | cancelCall hc hcall hs => exact onCancel hs
  | cancelWait hc hcall hs => exact onCancel hs

end InFlight

/-- The calls to the LLM adapter. -/
def Call.isLlm : Call RP → Bool
  | .validateControl => true
  | call => call.isLifecycle

theorem Call.isLlm_of_lifecycle {call : Call RP} (h : call.isLifecycle = true) :
    call.isLlm = true := by
  cases call <;> first | rfl | exact h

/-- No chat is active during a call to the LLM adapter. -/
theorem Exclusive.drained_of_call {cfg : BrokerConfig} {s : State RP Out BE}
    (h : Exclusive cfg s) {by_ : Routine} {call : Call RP}
    (hcall : s.point.call = some (by_, call))
    (hllm : call.isLlm = true) : s.activeChats = 0 := by
  have hunknown (howner : s.owner = .unknown) : s.activeChats = 0 :=
    (h.llm (by simp [howner])).1
  have hx := h.point
  cases hp : s.point <;> rw [hp] at hcall hx <;> cases hcall <;>
    first
      | exact hunknown hx
      | exact hunknown hx.1
      | exact hx.2.1
      | cases hllm

theorem InFlight.client {cfg : BrokerConfig} {s s' : State RP Out BE} (hex : Exclusive cfg s)
    (h : InFlight s) (hs : Clients cfg s s') : InFlight s' := by
  rcases hs.own with ⟨hp, rfl⟩ | ⟨hinit, by_, call, hcall, rfl⟩ | ⟨e, k, he, rfl⟩ | hbeside
  · unfold initializeStart
    split
    · exact of_none rfl
    · exact of_start rfl rfl
  · exact of_none rfl
  · refine h.extend (l := [e]) rfl rfl (List.forall_mem_singleton.mpr ?_)
      fun _ _ _ _ ↦ List.forall_mem_singleton.mpr ?_ <;> rcases he with ⟨rfl, -⟩ | ⟨rfl, -⟩ <;> rfl
  · obtain ⟨l, hlog, hl⟩ := hbeside.log
    refine h.extend hbeside.point hlog (fun e he ↦ Event.meanwhile_of_byClient (hl e he))
      fun by_ call hcall hlife ↦ ?_
    rcases hs.debts with ⟨n, -, hn, -⟩ | ⟨r, rfl⟩ | ⟨e, rfl⟩ | hdebts
    · have hactive := hex.active_of_granted hn
      exact absurd (hex.drained_of_call hcall (Call.isLlm_of_lifecycle hlife))
        (Nat.ne_of_gt hactive)
    · obtain rfl : l = [] := List.append_left_eq_self.mp hlog.symm
      exact List.forall_mem_nil _
    · obtain rfl : l = [.backend e] := List.append_cancel_right hlog.symm
      exact List.forall_mem_singleton.mpr rfl
    · exact fun e he ↦ (Owing.calm_iff.mp (Owing.calm_of_beside hlog hl hdebts e he)).2

theorem inFlight_inductive [DecidableEq RP] {cfg : BrokerConfig}
    {ok : State RP Out BE → Action RP Out BE → Prop} :
    InductiveOver cfg ok (fun s ↦ WellFormed s ∧ Exclusive cfg s)
      (InFlight : State RP Out BE → Prop) where
  initial := .initial
  advance _ _ h := h.advance
  resumes _ _ _ _ h _ hr := h.resumes hr
  client _ _ _ hk h _ _ hs := h.client hk.2 hs

/-! ## The restore point -/

variable [DecidableEq RP]

/-- The adapter reported `r`. -/
def Event.reports (r : RP) : Event RP Out BE → Bool
  | .finished _ _ (.acquired r') | .finished _ _ (.observed (some r')) => decide (r' = r)
  | _ => false

theorem Event.reports_acquired {by_ : Routine} {call : Call RP} {r r' : RP} :
    (.finished by_ call (.acquired r') : Event RP Out BE).reports r = true ↔ r' = r :=
  decide_eq_true_iff

theorem Event.reports_observed {by_ : Routine} {call : Call RP} {r r' : RP} :
    (.finished by_ call (.observed (some r')) : Event RP Out BE).reports r = true ↔ r' = r :=
  decide_eq_true_iff

/-- The restore point is what the latest event of the lifecycle reported. -/
def State.Believed (s : State RP Out BE) : Prop :=
  ∃ r, s.restorePoint = some r ∧ History.Latest Event.isLifecycle (Event.reports r) s.log

/-- Where the LLM is about to own the GPU, and where it does not. -/
def BelievesFacts (s : State RP Out BE) : Point RP → Prop
  | .restoreDone _ => s.Believed
  | .activateRouterAcquire _ | .activateValidate _ | .activateObserve _ => s.owner ≠ .llm
  | _ => True

structure Believes (s : State RP Out BE) : Prop where
  owner : s.owner = .llm → s.Believed
  point : BelievesFacts s s.point

namespace Believes

variable {cfg : BrokerConfig} {s s' : State RP Out BE}

theorem initial : Believes (.initial : State RP Out BE) := ⟨nofun, trivial⟩

theorem of_owner (howner : s.owner ≠ .llm) (hpoint : BelievesFacts s s.point) : Believes s :=
  ⟨fun h ↦ absurd h howner, hpoint⟩

/-- The LLM was just reported. -/
theorem of_report {by_ : Routine} {call : Call RP} {reply : Reply RP Out} {r : RP}
    {rest : List (Event RP Out BE)} (hrestore : s.restorePoint = some r)
    (hlog : s.log = .finished by_ call reply :: rest) (hcall : call.isLifecycle = true)
    (hreply : reply = .acquired r ∨ reply = .observed (some r))
    (hpoint : s.Believed → BelievesFacts s s.point) : Believes s := by
  have hbelieved : s.Believed := by
    have hlife : Event.isLifecycle (.finished by_ call reply : Event RP Out BE) = true := hcall
    refine ⟨r, hrestore, ?_⟩
    rw [hlog]
    refine (History.latest_cons_of_pos hlife).mpr ?_
    rcases hreply with rfl | rfl
    · exact Event.reports_acquired.mpr rfl
    · exact Event.reports_observed.mpr rfl
  exact ⟨fun _ ↦ hbelieved, hpoint hbelieved⟩

theorem keep {l : List (Event RP Out BE)} (h : Believes s) (hlog : s'.log = l ++ s.log)
    (hl : ∀ e ∈ l, e.isLifecycle = false) (hrestore : s'.restorePoint = s.restorePoint)
    (howner : s'.owner = s.owner) (hpoint : BelievesFacts s' s'.point) : Believes s' where
  owner hllm := by
    obtain ⟨r, hr, hlatest⟩ := h.owner (howner ▸ hllm)
    refine ⟨r, hrestore.trans hr, ?_⟩
    rw [hlog]
    exact (History.latest_append hl).mpr hlatest
  point := hpoint

theorem silent (h : Believes s) (hlog : s'.log = s.log)
    (hrestore : s'.restorePoint = s.restorePoint) (howner : s'.owner = s.owner)
    (hpoint : BelievesFacts s' s'.point) : Believes s' :=
  h.keep (l := []) hlog (List.forall_mem_nil _) hrestore howner hpoint

theorem records {e : Event RP Out BE} (h : Believes s) (hlog : s'.log = e :: s.log)
    (he : e.isLifecycle = false) (hrestore : s'.restorePoint = s.restorePoint)
    (howner : s'.owner = s.owner) (hpoint : BelievesFacts s' s'.point) : Believes s' :=
  h.keep (l := [e]) hlog (List.forall_mem_singleton.mpr he) hrestore howner hpoint

theorem served (h : Believes s) (hs : Served s s') : Believes s' := by
  obtain ⟨l, hlog, hl⟩ := hs.log
  refine h.keep hlog (fun e he ↦ ?_) hs.restorePoint hs.owner ?_
  · have hserves := hl e he
    cases e with
    | started by_ call => cases by_ <;> cases call <;> first | rfl | cases hserves
    | resolved f => rfl
    | _ => cases hserves
  · have hp := hs.point
    generalize s'.point = p at hp
    cases p <;> trivial

theorem advance (hex : Exclusive cfg s) (h : Believes s) : Believes (advance cfg s) := by
  have hw := h.point
  have hx := hex.point
  unfold Coordinator.advance
  cases hp : s.point <;> rw [hp] at hw hx <;> dsimp only
  case dispatch work => cases work <;> exact h.silent rfl rfl rfl trivial
  case dispatcherCancelled work => exact h.served (dispatcherCancelled_served s work)
  case dispatcherFailed work e => exact h.served (dispatcherFailed_served s work e)
  case chatDenied n => exact h.served (chatDenied_served cfg s n)
  case chatGrant n =>
    rcases chatGrant_served cfg s n with hs | hs
    · exact h.served hs
    · refine Believes.served ?_ hs
      exact h.records (e := .chatGranted n) rfl rfl rfl rfl (by dsimp only; rw [hp]; trivial)
  case submitted n result => exact h.served (imageSubmitted_served s n result)
  case imageRaised n e => exact h.served (imageRaised_served s n e)
  case restoreOwn n =>
    simp only [restoreOwn]
    split <;> exact of_owner (by rintro ⟨⟩) trivial
  case restoreBranch n =>
    have howner : s.owner ≠ .llm := by simp [show s.owner = .unknown from hx]
    unfold restoreBranch
    repeat' split
    all_goals exact of_owner howner trivial
  case restoreReload n =>
    unfold restoreReload
    split
    · next howner => exact h.silent rfl rfl rfl (h.owner (beq_iff_eq.mp howner))
    · next howner => exact of_owner (fun h ↦ howner (beq_iff_eq.mpr h)) trivial
  case restoreDone n =>
    simp only [restoreDone]
    split <;> exact ⟨fun _ ↦ hw, trivial⟩
  case imageStart n =>
    simp only [imageStart]
    split_ifs
    · exact Believes.served (s := { s with lastError := none }) { h with }
        (imageWithdrawn_served _ n)
    all_goals exact h.silent rfl rfl rfl trivial
  case imageActivated n =>
    unfold imageActivated
    split
    · exact h.served (imageWithdrawn_served s n)
    · exact h.records rfl rfl rfl rfl trivial
  case imageCancelled n =>
    unfold imageCancelled
    split
    · exact h.records rfl rfl rfl rfl trivial
    · exact h.served (imageShutdown_served s n)
  case activateDrainCheck n =>
    unfold activateDrainCheck
    split_ifs
    · exact Believes.served (s := s.setState (if s.owner == .llm then .llmReady else
        .awaitingRequest)) { h with } (imageWithdrawn_served _ n)
    all_goals exact h.silent rfl rfl rfl trivial
  case activateDrained n =>
    have hunknown (hasks : (cfg.llmBackend.isRequestDriven && s.owner == .unknown) = true) :
        s.owner ≠ .llm := by
      simp only [Bool.and_eq_true, beq_iff_eq] at hasks
      simp [hasks.2]
    unfold activateDrained
    split_ifs with hrouter hvalidated hasks hvalidated
    · exact h.silent rfl rfl rfl trivial
    · exact h.records rfl rfl rfl rfl trivial
    · have howner : s.owner ≠ .llm := hunknown hasks
      exact of_owner howner howner
    · have howner : s.owner ≠ .llm := hunknown hasks
      exact of_owner howner howner
    · exact h.silent rfl rfl rfl trivial
  case activateRouter n =>
    unfold activateRouter
    split
    · next hrestore =>
        have howner : s.owner ≠ .llm := fun howner ↦ by
          obtain ⟨r, hr, -⟩ := h.owner howner
          cases hrestore.symm.trans hr
        exact of_owner howner howner
    · exact h.silent rfl rfl rfl trivial
  case activateRouterUnload n restore => exact of_owner (by rintro ⟨⟩) trivial
  case activateUnload n =>
    simp only [activateUnload]
    split
    · split <;> exact of_owner (by rintro ⟨⟩) trivial
    · exact h.silent rfl rfl rfl trivial
  case activateDone n => exact of_owner (by rintro ⟨⟩) trivial
  case restoreControlsCheck n =>
    unfold restoreControlsCheck
    split
    · exact h.silent rfl rfl rfl trivial
    · exact h.records rfl rfl rfl rfl trivial
  -- The remaining moves only choose the next point.
  all_goals first
    | exact h
    | simp only [chatStart, chatDrainCheck, chatRestore, restoreStart, cleanupFailed, restoreRaised]
  all_goals repeat' split
  all_goals exact h.silent rfl rfl rfl trivial

/-- The LLM does not own the GPU while it is loaded, unloaded or observed. -/
theorem not_llm_of_lifecycle (hex : Exclusive cfg s) (h : Believes s) {by_ : Routine}
    {call : Call RP} (hcall : s.point.call = some (by_, call)) (hlife : call.isLifecycle = true) :
    s.owner ≠ .llm := by
  have hw := h.point
  have hx := hex.point
  have hunknown (howner : s.owner = .unknown) : s.owner ≠ .llm := by simp [howner]
  cases hp : s.point <;> rw [hp] at hcall hw hx <;> cases hcall <;>
    first
      | exact hw
      | exact hunknown hx
      | exact hunknown hx.1
      | cases hlife

theorem onReply {by_ : Routine} {call : Call RP} {r : Reply RP Out} (hex : Exclusive cfg s)
    (h : Believes s) (hcall : s.point.call = some (by_, call))
    (hs : onReply (s.emit (.finished by_ call r)) r = some s') : Believes s' := by
  have hllm := h.not_llm_of_lifecycle hex hcall
  have hw := h.point
  have hx := hex.point
  generalize hp : s.point = p at hcall hw hx
  cases onReply_returns hs hp <;> cases hcall
  case initSnapshotAcquired.refl restore =>
    exact of_report rfl rfl rfl (.inl rfl) fun _ ↦ trivial
  case initFreeDone.refl =>
    exact of_owner (by simp [hx.1]) trivial
  case restoreAcquireTargetAcquired.refl n target restore |
      restoreRouterAcquireAcquired.refl n restore | restoreAcquireAcquired.refl n _ restore =>
    exact of_report rfl rfl rfl (.inl rfl) id
  case activateRouterAcquireAcquired.refl n restore =>
    exact of_report rfl rfl rfl (.inl rfl) fun _ ↦ trivial
  case restoreObserveNone.refl n | activateObserveNone.refl n =>
    exact of_owner (hllm rfl) trivial
  case restoreObserveSome.refl n restore | activateObserveSome.refl n restore =>
    exact of_report rfl rfl rfl (.inr rfl) fun _ ↦ trivial
  case initValidateRaised.refl | initFreeRaised.refl | initSnapshotRaised.refl =>
    exact of_owner nofun trivial
  case activateValidateDone.refl n =>
    exact of_owner hw hw
  case monitorOutputs.refl n promptId outputs =>
    refine Believes.served ?_ (imageCompleted_served (s.emit _) n outputs)
    exact h.records rfl rfl rfl rfl (by dsimp only; rw [hp]; trivial)
  case interruptDone.refl n =>
    refine Believes.served ?_ (imageShutdown_served (s.emit _) n)
    exact h.records rfl rfl rfl rfl (by dsimp only; rw [hp]; trivial)
  -- The other replies choose the next point or start the next call.
  all_goals first
    | exact of_owner (hllm rfl) trivial
    | exact h.records rfl rfl rfl rfl trivial
    | exact h.keep (l := [_, _]) rfl (by simp [Event.isLifecycle, Call.isLifecycle]) rfl rfl
        trivial

theorem resumes {a : Action RP Out BE} (hex : Exclusive cfg s) (h : Believes s)
    (hr : Resumes s a s') : Believes s' := by
  cases hr with
  | wake hc hs =>
      unfold onWake at hs
      cases hp : s.point <;> rw [hp] at hs <;> cases hs
      case nextWork.refl =>
        unfold nextWork
        split
        · exact h.silent rfl rfl rfl trivial
        · split
          · exact h
          · next w rest hq => cases w <;> exact h.silent rfl rfl rfl trivial
      case chatDrain.refl n =>
        unfold chatDrainWake
        split <;> exact h.silent rfl rfl rfl trivial
      all_goals exact h.silent rfl rfl rfl trivial
  | timeout hc hs =>
      unfold onTimeout at hs
      cases hp : s.point <;> rw [hp] at hs <;> cases hs
      · exact h.records rfl rfl rfl rfl trivial
      · exact h.silent rfl rfl rfl trivial
  | fault hc hs => exact h.served (onFault_served hs)
  | reply hc hcall hs => exact h.onReply hex hcall hs
  | @cancelCall by_ call _ hc hcall hs =>
      have hserved := onCancel_served hs
      cases hlife : call.isLifecycle with
      | true =>
          have howner : s.owner ≠ .llm := h.not_llm_of_lifecycle hex hcall hlife
          refine of_owner (by rwa [hserved.owner]) ?_
          have hp := hserved.point
          generalize s'.point = p at hp
          cases p <;> trivial
      | false =>
          refine Believes.served (s := { s.emit (.interrupted by_ call) with
            cancelRequested := false }) (h.records rfl hlife rfl rfl ?_) hserved
          have hw := h.point
          dsimp only
          cases hp : s.point <;> rw [hp] at hw hcall <;> trivial
  | cancelWait hc hcall hs =>
      exact Believes.served (s := { s with cancelRequested := false }) { h with }
        (onCancel_served hs)

theorem client (hex : Exclusive cfg s) (h : Believes s) (hsusp : s.point.isSuspended = true)
    (hs : Clients cfg s s') : Believes s' := by
  have hkeep {t : State RP Out BE} (hp : t.point = s.point) (howner : t.owner = s.owner) :
      BelievesFacts t t.point := by
    have hw := h.point
    rw [hp]
    generalize s.point = p at hw hsusp
    cases p <;> first
      | trivial
      | (simp only [BelievesFacts, howner]; exact hw)
  rcases hs.own with ⟨hp, rfl⟩ | ⟨hinit, by_, call, hcall, rfl⟩ | ⟨e, k, he, rfl⟩ | hbeside
  · unfold initializeStart
    split
    · exact of_owner nofun trivial
    · exact h.records rfl rfl rfl rfl trivial
  · refine of_owner ?_ trivial
    have hx := hex.point
    cases hp : s.point <;> rw [hp] at hinit hx <;> first
      | (simp [hx.1]; done)
      | cases hinit
  · have hlife : e.isLifecycle = false := by rcases he with ⟨rfl, -⟩ | ⟨rfl, -⟩ <;> rfl
    exact h.records rfl hlife rfl rfl (hkeep rfl rfl)
  · obtain ⟨l, hlog, hl⟩ := hbeside.log
    have hpoint := hkeep hbeside.point hbeside.owner
    rcases hbeside.restorePoint with hrestore | ⟨n, restore, hp⟩
    · exact h.keep hlog (fun e he ↦ not_lifecycle_of_aloof (Event.aloof_of_byClient (hl e he)))
        hrestore hbeside.owner hpoint
    · have howner : s.owner = .unknown := by
        have hx := hex.point
        rwa [hp] at hx
      exact of_owner (by rw [hbeside.owner, howner]; nofun) hpoint

end Believes

theorem believes_inductive {cfg : BrokerConfig}
    {ok : State RP Out BE → Action RP Out BE → Prop} :
    InductiveOver cfg ok (fun s ↦ WellFormed s ∧ Exclusive cfg s)
      (Believes : State RP Out BE → Prop) where
  initial := .initial
  advance _ hk h := h.advance hk.2
  resumes _ _ _ hk h _ hr := h.resumes hk.2 hr
  client _ _ _ hk h _ hsusp hs := h.client hk.2 hsusp hs

end StProxy.Coordinator
