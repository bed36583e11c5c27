import StProxy.Coordinator.Leases

/-!
# The target of a lease

A lease with a target is granted only when that target is the restore point, and the
restore point stays while the lease is held.
-/

namespace StProxy.Coordinator

variable {RP Out BE : Type}

/-- An adapter that is asked for a target returns it. -/
def Faithful (s : State RP Out BE) (a : Action RP Out BE) : Prop :=
  ∀ n target r, s.point = .restoreAcquireTarget n target → a = .reply (.acquired r) → r = target

/-- The restore point is the target of the chat, if that has one. -/
def State.OnTarget (s : State RP Out BE) (n : ℕ) : Prop :=
  ∀ target, (s.chats n).target = some target → s.restorePoint = some target

/-- What holds of the target at a point of the dispatcher. -/
def TargetFacts (s : State RP Out BE) : Point RP → Prop
  | .chatGrant n | .restoreDone n => s.OnTarget n
  | .restoreAcquireTarget n target => (s.chats n).target = some target
  | .restoreRouterRelease n _ | .restoreRouterAcquire n | .restoreObserve n | .restoreReload n
  | .restoreAcquire n _ => (s.chats n).target = none
  | _ => True

structure Targeted (s : State RP Out BE) : Prop where
  lease : ∀ n, (s.chats n).granted = true → s.OnTarget n
  point : TargetFacts s s.point

/-! ## What the other tasks do to the chats -/

/-- Leases are only given back, and the targets of known chats stay. -/
structure Leases (s s' : State RP Out BE) : Prop where
  granted : ∀ n, (s'.chats n).granted = true → (s.chats n).granted = true
  target : ∀ n, n ≤ s.sequence → (s'.chats n).target = (s.chats n).target

section
variable {cfg : BrokerConfig} {s s' : State RP Out BE}

theorem Leases.of_lease (h : ∀ n, (s'.chats n).lease = (s.chats n).lease) : Leases s s' where
  granted n hn := (congrArg (fun w ↦ w.2.1) (h n)).symm.trans hn
  target n _ := congrArg (fun w ↦ w.2.2.1) (h n)

theorem Leases.setChat {n : ℕ} {w : ChatWork RP}
    (hgranted : w.granted = true → (s.chats n).granted = true)
    (htarget : n ≤ s.sequence → w.target = (s.chats n).target) : Leases s (s.setChat n w) := by
  refine ⟨fun m hm ↦ ?_, fun m hm ↦ ?_⟩
  · by_cases h : m = n
    · subst h
      exact hgranted (by simpa using hm)
    · simpa [h] using hm
  · by_cases h : m = n
    · subst h
      simpa using htarget hm
    · simp [h]

theorem chatLeave_leases (s : State RP Out BE) (n : ℕ) (entered : Bool) :
    Leases s (chatLeave s n entered) := by
  have h : Leases s (s.setChat n { s.chats n with
      cancelled := (s.chats n).cancelled || !entered
      granted := false
      client := .gone }) := .setChat nofun fun _ ↦ rfl
  rw [chatLeave_eq]
  exact ⟨h.granted, h.target⟩

theorem withdrawImage_lease (s : State RP Out BE) (n : ℕ) (error : String) (m : ℕ) :
    ((withdrawImage s n error).chats m).lease = (s.chats m).lease := by
  rw [withdrawImage_eq]
  dsimp only
  split
  · exact ((removeQueued_resolved ((s.setImage n { s.images n with cancelled := true }).emit
      (.imageCancelled n)) (.image n)).trans (resolveImageError_resolved _ n error)).chats m
  · rfl

theorem leaveBatch_lease (works : List ℕ) (m : ℕ) :
    ∀ s : State RP Out BE, ((works.foldl leaveBatchWork s).chats m).lease = (s.chats m).lease := by
  induction works with
  | nil => exact fun _ ↦ rfl
  | cons n works ih =>
      intro s
      refine (ih _).trans ?_
      unfold leaveBatchWork
      split
      · exact withdrawImage_lease s n _ m
      · rfl

theorem appendBatch_chats (bodies : List (List UInt8)) :
    ∀ s : State RP Out BE, (appendBatch bodies s).chats = s.chats := by
  induction bodies with
  | nil => exact fun _ ↦ rfl
  | cons body bodies ih => exact fun s ↦ ih _

theorem close_lease (s : State RP Out BE) (m : ℕ) :
    ((close s).chats m).lease = (s.chats m).lease := by
  cases h : s.closing with
  | true => rw [close, if_pos h]
  | false => exact (close_resolved h).chats m

theorem Clients.leases (h : Clients cfg s s') : Leases s s' := by
  cases h with
  | startup hp =>
      unfold initializeStart
      split <;> exact .of_lease fun _ ↦ rfl
  | chatLease target htarget hclosing hfatal =>
      have h : Leases s (s.setChat (s.sequence + 1) ⟨none, false, false, target, .waiting⟩) :=
        .setChat nofun fun hn ↦ absurd hn (Nat.not_succ_le_self _)
      exact ⟨h.granted, h.target⟩
  | chatEnter n error hclient hready herror => exact .setChat id fun _ ↦ rfl
  | chatLeave n entered hclient => exact chatLeave_leases s n entered
  | imageCancel n hclient =>
      exact .of_lease (withdrawImage_lease
        (s.setImage n { s.images n with client := .gone }) n "image request was cancelled")
  | imageBatch bodies hclosing hfatal =>
      exact .of_lease fun m ↦ congrArg (fun chats ↦ (chats m).lease) (appendBatch_chats bodies s)
  | batchExit works hworks =>
      exact .of_lease fun m ↦ leaveBatch_lease works m { s with batches := s.batches.erase works }
  | close => exact .of_lease (close_lease s)
  | _ => exact .of_lease fun _ ↦ rfl

end

namespace Targeted

variable {cfg : BrokerConfig} {s s' : State RP Out BE}

theorem initial : Targeted (.initial : State RP Out BE) := ⟨nofun, trivial⟩

theorem keep (h : Targeted s) (hrestore : s'.restorePoint = s.restorePoint)
    (hlease : ∀ n, (s'.chats n).lease = (s.chats n).lease) (hpoint : TargetFacts s' s'.point) :
    Targeted s' where
  lease n hn target htarget := by
    have hleases : Leases s s' := .of_lease hlease
    rw [hrestore]
    exact h.lease n (hleases.granted n hn) target
      ((congrArg (fun w ↦ w.2.2.1) (hlease n)).symm.trans htarget)
  point := hpoint

theorem fresh (hgranted : ∀ n, (s.chats n).granted = false) (hchats : s'.chats = s.chats)
    (hpoint : TargetFacts s' s'.point) : Targeted s' where
  lease n hn := by
    rw [hchats] at hn
    exact absurd ((hgranted n).symm.trans hn) Bool.false_ne_true
  point := hpoint

theorem targetFacts_congr {p : Point RP} (hrestore : s'.restorePoint = s.restorePoint)
    (htarget : ∀ n, p.current = some (.chat n) → (s'.chats n).target = (s.chats n).target)
    (h : TargetFacts s p) : TargetFacts s' p := by
  unfold TargetFacts at h ⊢
  unfold State.OnTarget at h ⊢
  split at h
  all_goals first
    | exact trivial
    | (rw [hrestore, htarget _ rfl]; exact h)
    | (rw [htarget _ rfl]; exact h)

theorem targetFacts_of_served {p : Point RP} (hp : p.served = true) : TargetFacts s p := by
  cases p <;> trivial

theorem served (h : Targeted s) (hs : Served s s') : Targeted s' :=
  h.keep hs.restorePoint hs.chats (targetFacts_of_served hs.point)

theorem not_granted (hex : Exclusive cfg s) (howner : s.owner ≠ .llm) (n : ℕ) :
    (s.chats n).granted = false := by
  by_contra hn
  exact howner (hex.owner_of_granted (by simpa using hn))

theorem not_granted_of_still (hex : Exclusive cfg s) (hstill : s.activeChats = 0) (n : ℕ) :
    (s.chats n).granted = false := by
  by_contra hn
  have hactive := hex.active_of_granted (by simpa using hn)
  rw [hstill] at hactive
  exact absurd hactive (Nat.lt_irrefl 0)

/-- A chat that needs no restoration is on its target. -/
theorem onTarget_of_not_needsRestore [DecidableEq RP] {n : ℕ} (h : needsRestore s n = false) :
    s.OnTarget n := by
  intro target htarget
  simp only [needsRestore, htarget, Option.isSome_some, Bool.true_and, Bool.or_eq_false_iff,
    decide_eq_false_iff_not, not_not] at h
  exact h.2.symm

theorem grant {n : ℕ} (h : Targeted s) (hp : s.point = .chatGrant n) :
    Targeted (chatGrant cfg s n) := by
  rcases chatGrant_served cfg s n with hs | hs
  · exact h.served hs
  · refine Targeted.served ⟨fun m hm ↦ ?_, ?_⟩ hs
    · by_cases hmn : m = n
      · subst hmn
        have hfacts : TargetFacts s (.chatGrant m) := hp ▸ h.point
        intro target htarget
        exact hfacts target (by simpa using htarget)
      · intro target htarget
        exact h.lease m (by simpa [hmn] using hm) target (by simpa [hmn] using htarget)
    · dsimp only
      rw [hp]
      intro target htarget
      have hfacts : TargetFacts s (.chatGrant n) := hp ▸ h.point
      exact hfacts target (by simpa using htarget)

theorem advance [DecidableEq RP] (hex : Exclusive cfg s) (h : Targeted s) :
    Targeted (advance cfg s) := by
  have hf := h.point
  have hx := hex.point
  unfold Coordinator.advance
  cases hp : s.point <;> rw [hp] at hf hx <;> dsimp only
  case dispatch work => cases work <;> exact h.keep rfl (fun _ ↦ rfl) trivial
  case dispatcherCancelled work => exact h.served (dispatcherCancelled_served s work)
  case dispatcherFailed work e => exact h.served (dispatcherFailed_served s work e)
  case chatDenied n => exact h.served (chatDenied_served cfg s n)
  case chatGrant n => exact h.grant hp
  case submitted n result => exact h.served (imageSubmitted_served s n result)
  case imageRaised n e => exact h.served (imageRaised_served s n e)
  case chatRestore n =>
    unfold chatRestore
    split_ifs with hneeds
    · exact h.keep rfl (fun _ ↦ rfl) trivial
    · exact h.keep rfl (fun _ ↦ rfl) (onTarget_of_not_needsRestore (Bool.eq_false_iff.mpr hneeds))
  case restoreStart n =>
    simp only [restoreStart]
    split_ifs with hready
    · refine h.keep rfl (fun _ ↦ rfl) fun target htarget ↦ ?_
      have htarget' : (s.chats n).target = some target := htarget
      simp only [htarget', Option.isNone_some, Bool.false_or, Bool.and_eq_true,
        decide_eq_true_eq] at hready
      exact hready.2.symm
    all_goals exact h.keep rfl (fun _ ↦ rfl) trivial
  case restoreBranch n =>
    unfold restoreBranch
    split
    · next target htarget => exact h.keep rfl (fun _ ↦ rfl) htarget
    · next htarget =>
        repeat' split
        all_goals exact h.keep rfl (fun _ ↦ rfl) htarget
  case restoreReload n =>
    unfold restoreReload
    split_ifs
    · refine h.keep rfl (fun _ ↦ rfl) fun target htarget ↦ ?_
      cases hf.symm.trans htarget
    · exact h.keep rfl (fun _ ↦ rfl) hf
  case restoreDone n =>
    simp only [restoreDone]
    split <;> exact h.keep rfl (fun _ ↦ rfl) hf
  case imageStart n =>
    simp only [imageStart]
    split_ifs
    · exact Targeted.served (s := { s with lastError := none }) (h.keep rfl (fun _ ↦ rfl)
        (by dsimp only; rw [hp]; trivial)) (imageWithdrawn_served _ n)
    all_goals exact h.keep rfl (fun _ ↦ rfl) trivial
  case imageActivated n =>
    unfold imageActivated
    split_ifs
    · exact h.served (imageWithdrawn_served s n)
    · exact h.keep rfl (fun _ ↦ rfl) trivial
  case imageCancelled n =>
    unfold imageCancelled
    split_ifs
    · exact h.keep rfl (fun _ ↦ rfl) trivial
    · exact h.served (imageShutdown_served s n)
  case activateDrainCheck n =>
    unfold activateDrainCheck
    split_ifs
    · exact Targeted.served (s := s.setState (if s.owner == .llm then .llmReady else
        .awaitingRequest)) (h.keep rfl (fun _ ↦ rfl) (by dsimp only; rw [hp]; trivial))
        (imageWithdrawn_served _ n)
    all_goals exact h.keep rfl (fun _ ↦ rfl) trivial
  -- The remaining moves leave the restore point and the chats as they are.
  all_goals first
    | exact h
    | simp only [chatStart, chatDrainCheck, restoreControlsCheck, cleanupFailed, restoreOwn,
        restoreRaised, activateDrained, activateRouter, activateRouterUnload, activateUnload,
        activateDone]
  all_goals repeat' split
  all_goals exact h.keep rfl (fun _ ↦ rfl) trivial

theorem onReply {by_ : Routine} {call : Call RP} {r : Reply RP Out} (hex : Exclusive cfg s)
    (h : Targeted s) (hcall : s.point.call = some (by_, call))
    (hfaithful : ∀ n target restore, s.point = .restoreAcquireTarget n target →
      r = .acquired restore → restore = target)
    (hs : onReply (s.emit (.finished by_ call r)) r = some s') : Targeted s' := by
  have hf := h.point
  have hx := hex.point
  generalize hp : s.point = p at hcall hf hx
  cases onReply_returns hs hp <;> cases hcall
  case initSnapshotAcquired.refl restore =>
    exact fresh (not_granted hex (by simp [hx.1])) rfl trivial
  case restoreAcquireTargetAcquired.refl n target restore =>
    obtain rfl := hfaithful n target restore hp rfl
    have howner : s.owner = .unknown := hx
    exact fresh (not_granted hex (by simp [howner])) rfl fun _ ht ↦ hf.symm.trans ht
  case restoreRouterAcquireAcquired.refl n restore | restoreAcquireAcquired.refl n _ restore =>
    have howner : s.owner = .unknown := hx
    exact fresh (not_granted hex (by simp [howner])) rfl fun _ ht ↦ nomatch hf.symm.trans ht
  case restoreObserveNone.refl n | restoreObserveSome.refl n restore =>
    have howner : s.owner = .unknown := hx
    exact fresh (not_granted hex (by simp [howner])) rfl hf
  case activateRouterAcquireAcquired.refl n restore =>
    exact fresh (not_granted_of_still hex hx.2.1) rfl trivial
  case activateObserveNone.refl n | activateObserveSome.refl n restore =>
    exact fresh (not_granted_of_still hex hx.2.1) rfl trivial
  case monitorOutputs.refl n promptId outputs =>
    exact Targeted.served (s := s.emit _) { h with } (imageCompleted_served _ n outputs)
  case interruptDone.refl n =>
    exact Targeted.served (s := s.emit _) { h with } (imageShutdown_served _ n)
  all_goals first
    | exact h.keep rfl (fun _ ↦ rfl) trivial
    | exact h.keep rfl (fun _ ↦ rfl) hf

theorem resumes {a : Action RP Out BE} (hex : Exclusive cfg s) (h : Targeted s)
    (hok : Faithful s a) (hr : Resumes s a s') : Targeted s' := by
  cases hr with
  | wake hc hs =>
      unfold onWake at hs
      cases hp : s.point <;> rw [hp] at hs <;> cases hs
      case nextWork.refl =>
        unfold nextWork
        split
        · exact h.keep rfl (fun _ ↦ rfl) trivial
        · split
          · exact h
          · next w rest hq =>
              have hr := dequeue_resolved s rest w
              exact h.keep (hr.field State.restorePoint fun _ ↦ rfl) hr.chats trivial
      case chatDrain.refl n =>
        unfold chatDrainWake
        split <;> exact h.keep rfl (fun _ ↦ rfl) trivial
      all_goals exact h.keep rfl (fun _ ↦ rfl) trivial
  | timeout hc hs =>
      unfold onTimeout at hs
      cases hp : s.point <;> rw [hp] at hs <;> cases hs <;>
        exact h.keep rfl (fun _ ↦ rfl) trivial
  | fault hc hs => exact h.served (onFault_served hs)
  | reply hc hcall hs =>
      refine h.onReply hex hcall (fun n target restore hp hr ↦ ?_) hs
      exact hok n target restore hp (by rw [hr])
  | cancelCall hc hcall hs =>
      exact Targeted.served (s := { s.emit _ with cancelRequested := false }) { h with }
        (onCancel_served hs)
  | cancelWait hc hcall hs =>
      exact Targeted.served (s := { s with cancelRequested := false }) { h with }
        (onCancel_served hs)

theorem client (hwf : WellFormed s) (hex : Exclusive cfg s) (h : Targeted s)
    (hs : Clients cfg s s') : Targeted s' := by
  have hl := hs.leases
  rcases hs.own with ⟨hp, rfl⟩ | ⟨hinit, by_, call, hcall, rfl⟩ | ⟨e, k, he, rfl⟩ | hbeside
  · unfold initializeStart
    split_ifs <;> exact h.keep rfl (fun _ ↦ rfl) trivial
  · exact h.keep rfl (fun _ ↦ rfl) trivial
  · exact { h with }
  · rcases hbeside.restorePoint with hrestore | ⟨n, restore, hp⟩
    · refine ⟨fun n hn ↦ ?_, ?_⟩
      · have hn' := hl.granted n hn
        have hle : n ≤ s.sequence := by
          by_contra hlt
          exact absurd ((hwf.fresh n (Nat.lt_of_not_le hlt)).2.symm.trans hn') Bool.false_ne_true
        intro target htarget
        rw [hrestore]
        exact h.lease n hn' target ((hl.target n hle).symm.trans htarget)
      · rw [hbeside.point]
        exact targetFacts_congr hrestore (fun n hn ↦ hl.target n (hwf.current_le _ hn)) h.point
    · have howner : s.owner = .unknown := by
        have hx := hex.point
        rwa [hp] at hx
      refine ⟨fun m hm ↦ ?_, ?_⟩
      · exact absurd ((not_granted hex (by simp [howner]) m).symm.trans (hl.granted m hm))
          Bool.false_ne_true
      · rw [hbeside.point, hp]
        trivial

end Targeted

theorem targeted_inductive [DecidableEq RP] {cfg : BrokerConfig}
    {ok : State RP Out BE → Action RP Out BE → Prop} (hok : ∀ s a, ok s a → Faithful s a) :
    InductiveOver cfg ok (fun s ↦ WellFormed s ∧ Exclusive cfg s)
      (Targeted : State RP Out BE → Prop) where
  initial := .initial
  advance _ hk h := h.advance hk.2
  resumes s a _ hk h ha hr := h.resumes hk.2 (hok s a ha) hr
  client _ _ _ hk h _ _ hs := h.client hk.1 hk.2 hs

section
variable [DecidableEq RP] {cfg : BrokerConfig} {s : State RP Out BE}

theorem targeted_of_reachable (hs : (system RP Out BE cfg).ReachableVia Faithful s) :
    Targeted s :=
  (((wellFormed_inductive.extend exclusive_inductive).extend
    (targeted_inductive fun _ _ ↦ id)).reachableVia hs).2.2

/-- A granted lease is on its target, and the LLM owns the GPU. -/
theorem lease_onTarget (hs : (system RP Out BE cfg).ReachableVia Faithful s) {n : ℕ}
    (hn : (s.chats n).granted = true) : s.owner = .llm ∧ s.OnTarget n :=
  ⟨(exclusive_of_reachable hs.reachable).owner_of_granted hn, (targeted_of_reachable hs).lease n hn⟩

end

end StProxy.Coordinator
