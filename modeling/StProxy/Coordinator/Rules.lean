import StProxy.Coordinator.Clients

/-!
# Proof rules for the coordinator

An invariant of all runs is proved on the parts of a step: the move with which
the dispatcher resumes, the moves inside a segment, and the steps of the other
tasks.  Invariants are stacked, so each clause may use those proved before.
-/

namespace StProxy.Coordinator

variable {RP Out BE : Type}

/-! ## Segments end -/

/-- A bound on the moves that remain in a segment. -/
def Point.rank : Point RP → ℕ
  | .dispatch _ => 10
  | .chatStart _ => 9
  | .chatDrainCheck _ => 8
  | .chatRestore _ => 7
  | .restoreStart _ | .imageStart _ => 6
  | .restoreOwn _ | .activateDrainCheck _ => 5
  | .restoreBranch _ | .activateDrained _ => 4
  | .restoreReload _ | .activateUnload _ => 3
  | .restoreDone _ | .restoreRaised _ _ | .cleanupFailed _ _ | .activateDone _
  | .activateRouter _ | .submitted _ _ | .imageCancelled _ => 2
  | .chatDenied _ | .chatGrant _ | .restoreControlsCheck _ | .imageActivated _
  | .imageRaised _ _ | .activateRouterUnload _ _ | .dispatcherCancelled _
  | .dispatcherFailed _ _ => 1
  | _ => 0

theorem Point.isSuspended_of_rank {p : Point RP} (h : p.rank = 0) : p.isSuspended = true := by
  cases p <;> first | rfl | cases h

theorem Point.rank_le (p : Point RP) : p.rank ≤ 10 := by
  cases p <;> exact Nat.le_of_ble_eq_true rfl

theorem advance_rank [DecidableEq RP] (cfg : BrokerConfig) (s : State RP Out BE) :
    (advance cfg s).point.rank ≤ s.point.rank - 1 := by
  unfold advance
  cases hp : s.point <;> dsimp only
  case dispatch work => cases work <;> exact Nat.le_of_ble_eq_true rfl
  all_goals
    try simp only [chatStart, chatDrainCheck, chatRestore, chatDenied, chatGrant, restoreStart,
      restoreControlsCheck, cleanupFailed, restoreOwn, restoreBranch, restoreReload,
      restoreRaised, restoreDone, imageStart, imageActivated, imageSubmitted, imageRaised,
      imageCancelled, activateDrainCheck, activateDrained, activateRouter,
      activateUnload, activateWithdrawn, imageWithdrawn]
  all_goals
    repeat' split
  all_goals first
    | exact Nat.zero_le _
    | exact Nat.le_refl _
    | (rw [hp]; exact Nat.zero_le _)
    | exact Nat.le_of_ble_eq_true rfl

theorem iterate_rank [DecidableEq RP] (cfg : BrokerConfig) (s : State RP Out BE) (k : ℕ) :
    ((advance cfg)^[k] s).point.rank ≤ s.point.rank - k := by
  induction k generalizing s with
  | zero => exact Nat.le_refl _
  | succ k ih =>
      have hstep := advance_rank cfg s
      have hrest := ih (advance cfg s)
      rw [Function.iterate_succ_apply]
      omega

/-- A segment runs to the next suspension. -/
theorem settle_suspended [DecidableEq RP] (cfg : BrokerConfig) (s : State RP Out BE) :
    (settle cfg s).point.isSuspended = true := by
  have hiter := iterate_rank cfg s 10
  have hrank := s.point.rank_le
  exact Point.isSuspended_of_rank (by unfold settle; omega)

theorem advance_of_suspended [DecidableEq RP] {cfg : BrokerConfig} {s : State RP Out BE}
    (hsusp : s.point.isSuspended = true) : advance cfg s = s := by
  unfold advance
  cases hp : s.point <;> rw [hp] at hsusp <;> first | rfl | cases hsusp

theorem settle_of_advance [DecidableEq RP] {cfg : BrokerConfig} {s : State RP Out BE}
    (hsusp : (advance cfg s).point.isSuspended = true) :
    settle cfg s = advance cfg s :=
  Function.iterate_fixed (advance_of_suspended hsusp) 9

/-! ## Replies -/

/-- The call in flight at a point returns or raises; one constructor for each reply that
`onReply` takes. -/
inductive Returns (s : State RP Out BE) : Point RP → Reply RP Out → State RP Out BE → Prop
  | initValidateDone : Returns s .initValidate .done
      ({ s with controlValidated := true, state := .cleaningComfy }.await .initFree .startup
        .freeModels)
  | initValidateRaised (e) : Returns s .initValidate (.raised e) (initRaised s e)
  | initFreeDone : Returns s .initFree .done
      ((s.setState .verifyingLlm).await .initSnapshot .startup .snapshotReady)
  | initFreeRaised (e) : Returns s .initFree (.raised e) (initRaised s e)
  | initSnapshotAcquired (restore) : Returns s .initSnapshot (.acquired restore)
      (initDone s restore)
  | initSnapshotRaised (e) : Returns s .initSnapshot (.raised e) (initRaised s e)
  | restoreFreeDone (n) : Returns s (.restoreFree n) .done (s.goto (.restoreOwn n))
  | restoreFreeRaised (n e) : Returns s (.restoreFree n) (.raised e)
      (s.goto (.cleanupFailed n e.str))
  | restoreValidateDone (n) : Returns s (.restoreValidate n) .done
      ({ s with controlValidated := true }.goto (.restoreBranch n))
  | restoreValidateRaised (n e) : Returns s (.restoreValidate n) (.raised e)
      (s.goto (.restoreRaised n e))
  | restoreAcquireTargetAcquired (n target restore) :
      Returns s (.restoreAcquireTarget n target) (.acquired restore)
        ({ s with restorePoint := some restore, owner := .llm }.goto (.restoreDone n))
  | restoreAcquireTargetRaised (n target e) :
      Returns s (.restoreAcquireTarget n target) (.raised e) (s.goto (.restoreRaised n e))
  | restoreRouterReleaseDone (n restore) : Returns s (.restoreRouterRelease n restore) .done
      (s.await (.restoreRouterAcquire n) (.restoreLlm n) (.acquireGpu none))
  | restoreRouterReleaseRaised (n restore e) :
      Returns s (.restoreRouterRelease n restore) (.raised e) (s.goto (.restoreRaised n e))
  | restoreRouterAcquireAcquired (n restore) :
      Returns s (.restoreRouterAcquire n) (.acquired restore)
        ({ s with restorePoint := some restore, owner := .llm }.goto (.restoreDone n))
  | restoreRouterAcquireRaised (n e) : Returns s (.restoreRouterAcquire n) (.raised e)
      (s.goto (.restoreRaised n e))
  | restoreObserveNone (n) : Returns s (.restoreObserve n) (.observed none)
      (s.goto (.restoreReload n))
  | restoreObserveSome (n restore) : Returns s (.restoreObserve n) (.observed (some restore))
      ({ s with restorePoint := some restore, owner := .llm }.goto (.restoreReload n))
  | restoreObserveRaised (n e) : Returns s (.restoreObserve n) (.raised e)
      (s.goto (.restoreRaised n e))
  | restoreAcquireAcquired (n known restore) :
      Returns s (.restoreAcquire n known) (.acquired restore)
        ({ s with restorePoint := some restore }.goto (.restoreDone n))
  | restoreAcquireRaised (n known e) : Returns s (.restoreAcquire n known) (.raised e)
      (s.goto (.restoreRaised n e))
  | activateRouterValidateDone (n) : Returns s (.activateRouterValidate n) .done
      ({ s with controlValidated := true }.goto (.activateRouter n))
  | activateRouterValidateRaised (n e) : Returns s (.activateRouterValidate n) (.raised e)
      (s.goto (.imageRaised n e))
  | activateRouterAcquireAcquired (n restore) :
      Returns s (.activateRouterAcquire n) (.acquired restore)
        ({ s with restorePoint := some restore }.goto (.activateRouterUnload n restore))
  | activateRouterAcquireRaised (n e) : Returns s (.activateRouterAcquire n) (.raised e)
      (s.goto (.imageRaised n e))
  | activateRouterReleaseDone (n restore) : Returns s (.activateRouterRelease n restore) .done
      (s.goto (.activateDone n))
  | activateRouterReleaseRaised (n restore e) :
      Returns s (.activateRouterRelease n restore) (.raised e) (s.goto (.imageRaised n e))
  | activateValidateDone (n) : Returns s (.activateValidate n) .done
      ({ s with controlValidated := true }.await (.activateObserve n) (.activateComfy n)
        .observeReady)
  | activateValidateRaised (n e) : Returns s (.activateValidate n) (.raised e)
      (s.goto (.imageRaised n e))
  | activateObserveNone (n) : Returns s (.activateObserve n) (.observed none)
      (s.goto (.activateUnload n))
  | activateObserveSome (n restore) : Returns s (.activateObserve n) (.observed (some restore))
      ({ s with restorePoint := some restore, owner := .llm }.goto (.activateUnload n))
  | activateObserveRaised (n e) : Returns s (.activateObserve n) (.raised e)
      (s.goto (.imageRaised n e))
  | activateReleaseDone (n restore) : Returns s (.activateRelease n restore) .done
      (s.goto (.activateDone n))
  | activateReleaseRaised (n restore e) : Returns s (.activateRelease n restore) (.raised e)
      (s.goto (.imageRaised n e))
  | submitSubmitted (n request result) : Returns s (.submit n request) (.submitted result)
      ((clearRequest s n).goto (.submitted n result))
  | submitRaised (n request e) : Returns s (.submit n request) (.raised e)
      ((clearRequest s n).goto (.imageRaised n e))
  | monitorOutputs (n promptId outputs) : Returns s (.monitor n promptId) (.outputs outputs)
      (imageCompleted s n outputs)
  | monitorRaised (n promptId e) : Returns s (.monitor n promptId) (.raised e)
      (s.goto (.imageRaised n e))
  | interruptDone (n) : Returns s (.interrupt n) .done (imageShutdown s n)
  | interruptRaised (n e) : Returns s (.interrupt n) (.raised e)
      ((imageFinally s ["handoff cancelled during shutdown"]).goto
        (.dispatcherFailed (some (.image n)) e))

theorem onReply_returns {s s' : State RP Out BE} {p : Point RP} {r : Reply RP Out}
    (h : onReply s r = some s') (hp : s.point = p) : Returns s p r s' := by
  subst hp
  unfold onReply at h
  generalize s.point = p at h ⊢
  split at h <;> cases h <;> constructor

/-! ## Steps -/

/-- The dispatcher resumes from `s` and stands at `s'` inside a segment. -/
inductive Resumes (s : State RP Out BE) : Action RP Out BE → State RP Out BE → Prop
  | wake {s'} (hc : s.cancelRequested = false) (h : onWake s = some s') : Resumes s .wake s'
  | timeout {s'} (hc : s.cancelRequested = false) (h : onTimeout s = some s') :
      Resumes s .timeout s'
  | fault {e s'} (hc : s.cancelRequested = false) (h : onFault s e = some s') :
      Resumes s (.fault e) s'
  | reply {by_ call r s'} (hc : s.cancelRequested = false)
      (hcall : s.point.call = some (by_, call))
      (h : onReply (s.emit (.finished by_ call r)) r = some s') : Resumes s (.reply r) s'
  | cancelCall {by_ call s'} (hc : s.cancelRequested = true)
      (hcall : s.point.call = some (by_, call))
      (h : onCancel { s.emit (.interrupted by_ call) with cancelRequested := false } = some s') :
      Resumes s .deliverCancel s'
  | cancelWait {s'} (hc : s.cancelRequested = true) (hcall : s.point.call = none)
      (h : onCancel { s with cancelRequested := false } = some s') : Resumes s .deliverCancel s'

section
variable [DecidableEq RP] {cfg : BrokerConfig}

theorem resume_eq {s s' : State RP Out BE} {next : Option (State RP Out BE)}
    (h : resume cfg s next = some s') :
    s.cancelRequested = false ∧ ∃ s₀, next = some s₀ ∧ s' = settle cfg s₀ := by
  unfold resume at h
  split at h
  · cases h
  · next hc =>
      obtain ⟨s₀, hs₀, rfl⟩ := Option.map_eq_some_iff.mp h
      exact ⟨by simpa using hc, s₀, hs₀, rfl⟩

/-- A step of the dispatcher is a resumption followed by the rest of the segment. -/
theorem step_resumes {s s' : State RP Out BE} {a : Action RP Out BE} (ha : a.resumes = true)
    (h : step cfg s a = some s') : ∃ s₀, Resumes s a s₀ ∧ s' = settle cfg s₀ := by
  cases a with
  | wake =>
      obtain ⟨hc, s₀, h₀, rfl⟩ := resume_eq h
      exact ⟨s₀, .wake hc h₀, rfl⟩
  | timeout =>
      obtain ⟨hc, s₀, h₀, rfl⟩ := resume_eq h
      exact ⟨s₀, .timeout hc h₀, rfl⟩
  | fault e =>
      obtain ⟨hc, s₀, h₀, rfl⟩ := resume_eq h
      exact ⟨s₀, .fault hc h₀, rfl⟩
  | reply r =>
      simp only [step, reply] at h
      split at h
      · next hcall =>
          obtain ⟨hc, s₀, h₀, rfl⟩ := resume_eq h
          exact ⟨s₀, .reply hc hcall h₀, rfl⟩
      · cases h
  | deliverCancel =>
      simp only [step, deliverCancel] at h
      split at h
      · next hc =>
          obtain ⟨s₀, h₀, rfl⟩ := Option.map_eq_some_iff.mp h
          cases hcall : s.point.call with
          | none => exact ⟨s₀, .cancelWait hc hcall (by simpa [hcall] using h₀), rfl⟩
          | some c => exact ⟨s₀, .cancelCall hc hcall (by simpa [hcall] using h₀), rfl⟩
      · cases h
  | _ => cases ha

/-- What holds along the moves of a segment holds at its end. -/
theorem settle_invariant {I : State RP Out BE → Prop} (h : ∀ s, I s → I (advance cfg s))
    {s : State RP Out BE} (hs : I s) : I (settle cfg s) :=
  Function.Iterate.rec I hs h 10

/-- The clauses that make `I` an invariant, given that `K` is one. -/
structure InductiveOver (cfg : BrokerConfig)
    (ok : State RP Out BE → Action RP Out BE → Prop) (K I : State RP Out BE → Prop) : Prop where
  initial : I .initial
  advance : ∀ s, K s → I s → I (advance cfg s)
  resumes : ∀ s a s', K s → I s → ok s a → Resumes s a s' → I s'
  client : ∀ s a s', K s → I s → ok s a → s.point.isSuspended = true → Clients cfg s s' → I s'

/-- An invariant that needs no other. -/
abbrev Inductive (cfg : BrokerConfig) (ok : State RP Out BE → Action RP Out BE → Prop)
    (I : State RP Out BE → Prop) : Prop :=
  InductiveOver cfg ok (fun _ ↦ True) I

variable {ok : State RP Out BE → Action RP Out BE → Prop} {K I : State RP Out BE → Prop}

/-- Stack `I` on the invariant `K`. -/
theorem InductiveOver.extend (hK : Inductive cfg ok K) (hI : InductiveOver cfg ok K I) :
    Inductive cfg ok fun s ↦ K s ∧ I s where
  initial := ⟨hK.initial, hI.initial⟩
  advance s _ h := ⟨hK.advance s trivial h.1, hI.advance s h.1 h.2⟩
  resumes s a s' _ h hok hr :=
    ⟨hK.resumes s a s' trivial h.1 hok hr, hI.resumes s a s' h.1 h.2 hok hr⟩
  client s a s' _ h hok hsusp hs :=
    ⟨hK.client s a s' trivial h.1 hok hsusp hs, hI.client s a s' h.1 h.2 hok hsusp hs⟩

omit [DecidableEq RP] in
/-- The other tasks run only while the dispatcher is suspended, and leave it so. -/
theorem Clients.suspended {s s' : State RP Out BE} (h : Clients cfg s s')
    (hsusp : s.point.isSuspended = true) : s'.point.isSuspended = true := by
  rcases h.own with ⟨-, rfl⟩ | ⟨-, by_, call, -, rfl⟩ |
    ⟨e, k, -, rfl⟩ | hbeside
  · unfold initializeStart
    split <;> rfl
  · rfl
  · exact hsusp
  · rw [hbeside.point]
    exact hsusp

theorem Inductive.step (hI : Inductive cfg ok I) {s s' : State RP Out BE}
    {a : Action RP Out BE} (hsusp : s.point.isSuspended = true) (h : I s) (hok : ok s a)
    (hs : step cfg s a = some s') : s'.point.isSuspended = true ∧ I s' := by
  cases ha : a.resumes with
  | true =>
      obtain ⟨s₀, hr, rfl⟩ := step_resumes ha hs
      exact ⟨settle_suspended cfg s₀,
        settle_invariant (fun s ↦ hI.advance s trivial) (hI.resumes s a s₀ trivial h hok hr)⟩
  | false =>
      have hclient := client_cases ha hs
      exact ⟨hclient.suspended hsusp, hI.client s a s' trivial h hok hsusp hclient⟩

/-- An inductive invariant holds in every state of every run. -/
theorem Inductive.reachableVia (hI : Inductive cfg ok I) {s : State RP Out BE}
    (hs : (system RP Out BE cfg).ReachableVia ok s) : s.point.isSuspended = true ∧ I s := by
  refine hs.invariant ?_ fun s a s' _ h hok hstep ↦ hI.step h.1 h.2 hok hstep
  rintro _ rfl
  exact ⟨rfl, hI.initial⟩

end

end StProxy.Coordinator
