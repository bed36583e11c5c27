import StProxy.Coordinator.Cleanup
import StProxy.Coordinator.Pending

/-!
# Chats whose cleanup failed

When ComfyUI controls do not finish or its models are not freed, the LLM is
not acquired for the waiting chat, and the chat is answered with an error.
-/

namespace StProxy.Coordinator

variable {RP Out BE : Type}

/-- The chat for which the LLM is acquired or observed. -/
def Event.acquires : Event RP Out BE → Option ℕ
  | .started (.restoreLlm n) (.acquireGpu _) | .started (.restoreLlm n) .observeReady => some n
  | _ => none

/-- The chat for which the cleanup of ComfyUI did not succeed. -/
def Event.failsCleanup : Event RP Out BE → Option ℕ
  | .controlsTimedOut n | .finished (.restoreLlm n) .freeModels (.raised _)
  | .interrupted (.restoreLlm n) .freeModels => some n
  | _ => none

def Acquired (log : List (Event RP Out BE)) (n : ℕ) : Prop :=
  ∃ e ∈ log, e.acquires = some n

def CleanupFailed (log : List (Event RP Out BE)) (n : ℕ) : Prop :=
  ∃ e ∈ log, e.failsCleanup = some n

/-- The future of the chat carries an error. -/
def State.Denied (s : State RP Out BE) (n : ℕ) : Prop :=
  ∃ error, (s.chats n).ready = some error ∧ truthy error = true

/-- The events that neither acquire the LLM nor fail a cleanup. -/
def Event.quiet (e : Event RP Out BE) : Bool :=
  e.acquires.isNone && e.failsCleanup.isNone

namespace Point

/-- The chat at whose points nothing was acquired yet. -/
def untried : Point RP → Option ℕ
  | dispatch (.chat n) | chatStart n | chatDrainCheck n | chatDrain n | chatRestore n
  | restoreStart n | restoreControlsCheck n | restoreControls n | restoreFree n => some n
  | _ => none

/-- The chat that is about to get an error. -/
def failing : Point RP → Option ℕ
  | cleanupFailed n _ | chatDenied n | dispatcherCancelled (.chat n) => some n
  | _ => none

end Point

structure Attempts (s : State RP Out BE) : Prop where
  untried : ∀ n, s.sequence < n ∨ .chat n ∈ s.queue ∨ s.point.untried = some n →
    ¬Acquired s.log n
  failed : ∀ n, CleanupFailed s.log n →
    ¬Acquired s.log n ∧ (s.point.failing = some n ∨ s.Denied n)

theorem Event.quiet_of_byClient {e : Event RP Out BE} (he : e.byClient = true) :
    e.quiet = true := by
  cases e <;> first | rfl | cases he

theorem Event.quiet_of_serves {e : Event RP Out BE} (he : e.serves = true) : e.quiet = true := by
  cases e with
  | started by_ call => cases by_ <;> cases call <;> first | rfl | cases he
  | resolved f => rfl
  | _ => cases he

theorem acquired_cons {e : Event RP Out BE} {log : List (Event RP Out BE)} {n : ℕ} :
    Acquired (e :: log) n ↔ e.acquires = some n ∨ Acquired log n := by
  simp [Acquired]

theorem cleanupFailed_cons {e : Event RP Out BE} {log : List (Event RP Out BE)} {n : ℕ} :
    CleanupFailed (e :: log) n ↔ e.failsCleanup = some n ∨ CleanupFailed log n := by
  simp [CleanupFailed]

theorem quiet_append {l log : List (Event RP Out BE)} (hes : ∀ e ∈ l, e.quiet = true) (n : ℕ) :
    (Acquired (l ++ log) n ↔ Acquired log n) ∧
      (CleanupFailed (l ++ log) n ↔ CleanupFailed log n) := by
  induction l with
  | nil => exact ⟨Iff.rfl, Iff.rfl⟩
  | cons e l ih =>
      have he : e.acquires = none ∧ e.failsCleanup = none := by
        simpa [Event.quiet] using hes e (by simp)
      rw [List.cons_append, acquired_cons, cleanupFailed_cons, he.1, he.2]
      simpa using ih fun f hf ↦ hes f (by simp [hf])

theorem resolveChat_denied {s : State RP Out BE} {n : ℕ} {error : Option String}
    (hready : (s.chats n).ready = none) (herror : truthy error = true) :
    (resolveChat s n error).Denied n :=
  ⟨error, by simp [resolveChat, hready], herror⟩

namespace Attempts

variable {cfg : BrokerConfig} {s s' : State RP Out BE}

theorem initial : Attempts (.initial : State RP Out BE) where
  untried := by simp [State.initial, Acquired]
  failed := by simp [State.initial, CleanupFailed]

/-- Nothing is acquired and no cleanup fails. -/
theorem frame {l : List (Event RP Out BE)} (h : Attempts s) (hlog : s'.log = l ++ s.log)
    (hes : ∀ e ∈ l, e.quiet = true)
    (huntried : ∀ n, s'.sequence < n ∨ .chat n ∈ s'.queue ∨ s'.point.untried = some n →
      s.sequence < n ∨ .chat n ∈ s.queue ∨ s.point.untried = some n)
    (hfailing : ∀ n, s.point.failing = some n ∨ s.Denied n →
      s'.point.failing = some n ∨ s'.Denied n) : Attempts s' where
  untried n hn := by
    rw [hlog, (quiet_append hes n).1]
    exact h.untried n (huntried n hn)
  failed n hn := by
    rw [hlog, (quiet_append hes n).2] at hn
    rw [hlog, (quiet_append hes n).1]
    exact (h.failed n hn).imp_right (hfailing n)

theorem goto {l : List (Event RP Out BE)} {p : Point RP} (h : Attempts s) (hp : s.point = p)
    (hq : s'.queue = s.queue) (hsequence : s'.sequence = s.sequence)
    (hready : ∀ n, (s'.chats n).ready = (s.chats n).ready) (hlog : s'.log = l ++ s.log)
    (hes : ∀ e ∈ l, e.quiet = true)
    (huntried : s'.point.untried = none ∨ s'.point.untried = p.untried)
    (hfailing : p.failing = none ∨ s'.point.failing = p.failing) : Attempts s' := by
  subst hp
  refine h.frame hlog hes (fun n hn ↦ ?_) fun n hn ↦ ?_
  · rw [hq, hsequence] at hn
    rcases huntried with hnone | hsame
    · rw [hnone] at hn
      exact hn.imp_right fun hn ↦ .inl (hn.resolve_right nofun)
    · rwa [hsame] at hn
  · rcases hn with hn | ⟨error, herror, htruthy⟩
    · rcases hfailing with hnone | hsame
      · rw [hnone] at hn
        cases hn
      · exact .inl (hsame.trans hn)
    · exact .inr ⟨error, (hready n).trans herror, htruthy⟩

theorem silent {p : Point RP} (h : Attempts s) (hp : s.point = p) (hq : s'.queue = s.queue)
    (hsequence : s'.sequence = s.sequence) (hready : ∀ n, (s'.chats n).ready = (s.chats n).ready)
    (hlog : s'.log = s.log) (huntried : s'.point.untried = none ∨ s'.point.untried = p.untried)
    (hfailing : p.failing = none ∨ s'.point.failing = p.failing) : Attempts s' :=
  h.goto (l := []) hp hq hsequence hready hlog (List.forall_mem_nil _) huntried hfailing

theorem records {e : Event RP Out BE} {p : Point RP} (h : Attempts s) (hp : s.point = p)
    (hq : s'.queue = s.queue) (hsequence : s'.sequence = s.sequence)
    (hready : ∀ n, (s'.chats n).ready = (s.chats n).ready) (hlog : s'.log = e :: s.log)
    (he : e.quiet = true) (huntried : s'.point.untried = none ∨ s'.point.untried = p.untried)
    (hfailing : p.failing = none ∨ s'.point.failing = p.failing) : Attempts s' :=
  h.goto (l := [e]) hp hq hsequence hready hlog (by simpa using he) huntried hfailing

theorem emit {e : Event RP Out BE} (h : Attempts s) (he : e.quiet = true) :
    Attempts (s.emit e) :=
  h.frame (l := [e]) rfl (by simpa using he) (fun _ ↦ id) fun _ ↦ id

theorem served (h : Attempts s) (hs : Served s s')
    (hdenied : ∀ n, s.point.failing = some n → s'.Denied n) : Attempts s' := by
  obtain ⟨l, hlog, hes⟩ := hs.log
  have hpoint := hs.point
  have hnone : s'.point.untried = none := by
    cases hp : s'.point <;> rw [hp] at hpoint <;> first | rfl | cases hpoint
  refine h.frame hlog (fun e he ↦ Event.quiet_of_serves (hes e he)) (fun n hn ↦ ?_) fun n hn ↦ ?_
  · rw [hs.sequence, hnone] at hn
    exact hn.imp_right fun hn ↦ .inl (hs.queue _ (hn.resolve_right nofun))
  · rcases hn with hn | ⟨error, herror, htruthy⟩
    · exact .inr (hdenied n hn)
    · exact .inr ⟨error, hs.ready n error herror, htruthy⟩

theorem not_failed {n : ℕ} (hpending : Pending s) (h : Attempts s)
    (hcur : s.point.current = some (.chat n)) (hp : s.point.failing = none) :
    ¬CleanupFailed s.log n := by
  intro hn
  rcases (h.failed n hn).2 with hfailing | ⟨error, herror, -⟩
  · cases hp.symm.trans hfailing
  · cases (hpending.unresolved n (.inr hcur)).symm.trans herror

/-- The LLM is acquired or observed for the current chat. -/
theorem acquire {e : Event RP Out BE} {n : ℕ} {p : Point RP} (hwf : WellFormed s)
    (hpending : Pending s) (h : Attempts s) (hp : s.point = p)
    (hcur : p.current = some (.chat n)) (hnone : p.failing = none)
    (hq : s'.queue = s.queue) (hsequence : s'.sequence = s.sequence)
    (hready : ∀ m, (s'.chats m).ready = (s.chats m).ready) (hlog : s'.log = e :: s.log)
    (he : e.acquires = some n) (he' : e.failsCleanup = none)
    (huntried : s'.point.untried = none) : Attempts s' := by
  subst hp
  have hother {m : ℕ} (hm : m ≠ n) : Acquired s'.log m ↔ Acquired s.log m := by
    rw [hlog, acquired_cons, he]
    simp [Ne.symm hm]
  constructor
  · intro m hm
    rw [hq, hsequence, huntried] at hm
    have hmn : m ≠ n := by
      rintro rfl
      rcases hm with hm | hm | hm
      · exact absurd (hwf.current_le _ hcur) (Nat.not_le_of_lt hm)
      · exact absurd (hwf.current_lt _ hcur _ hm) (Nat.lt_irrefl m)
      · cases hm
    rw [hother hmn]
    exact h.untried m (hm.imp_right fun hm ↦ .inl (hm.resolve_right nofun))
  · intro m hm
    rw [hlog, cleanupFailed_cons, he'] at hm
    have hm' : CleanupFailed s.log m := hm.resolve_left nofun
    have hmn : m ≠ n := by
      rintro rfl
      exact h.not_failed hpending hcur hnone hm'
    obtain ⟨hacquired, hfailing | ⟨error, herror, htruthy⟩⟩ := h.failed m hm'
    · cases hnone.symm.trans hfailing
    · exact ⟨mt (hother hmn).mp hacquired, .inr ⟨error, (hready m).trans herror, htruthy⟩⟩

/-- The cleanup for the current chat fails. -/
theorem fail {e : Event RP Out BE} {n : ℕ} {p : Point RP} (h : Attempts s) (hp : s.point = p)
    (huntried : p.untried = some n) (hnone : p.failing = none) (hq : s'.queue = s.queue)
    (hsequence : s'.sequence = s.sequence)
    (hready : ∀ m, (s'.chats m).ready = (s.chats m).ready) (hlog : s'.log = e :: s.log)
    (he : e.acquires = none) (he' : e.failsCleanup = some n)
    (huntried' : s'.point.untried = none) (hfailing : s'.point.failing = some n) :
    Attempts s' := by
  subst hp
  have hsame (m : ℕ) : Acquired s'.log m ↔ Acquired s.log m := by
    rw [hlog, acquired_cons, he]
    simp
  constructor
  · intro m hm
    rw [hq, hsequence, huntried'] at hm
    rw [hsame]
    exact h.untried m (hm.imp_right fun hm ↦ .inl (hm.resolve_right nofun))
  · intro m hm
    rw [hlog, cleanupFailed_cons, he'] at hm
    rw [hsame]
    rcases hm with hm | hm
    · cases hm
      exact ⟨h.untried n (.inr (.inr huntried)), .inl hfailing⟩
    · obtain ⟨hacquired, hfailing' | ⟨error, herror, htruthy⟩⟩ := h.failed m hm
      · cases hnone.symm.trans hfailing'
      · exact ⟨hacquired, .inr ⟨error, (hready m).trans herror, htruthy⟩⟩

theorem grant {n : ℕ} (h : Attempts s) (hp : s.point = .chatGrant n) :
    Attempts (chatGrant cfg s n) := by
  rcases chatGrant_served cfg s n with hs | hs
  · exact h.served hs (by rw [hp]; nofun)
  · refine Attempts.served ?_ hs (by dsimp only; rw [hp]; nofun)
    refine h.records (e := .chatGranted n) hp rfl rfl (fun m ↦ ?_) rfl rfl
      (.inr (by dsimp only; rw [hp])) (.inl rfl)
    by_cases hm : m = n
    · subst hm
      simp
    · simp [hm]

theorem advance [DecidableEq RP] (hwf : WellFormed s) (hpending : Pending s) (h : Attempts s) :
    Attempts (advance cfg s) := by
  have hnone {p : Point RP} (hp : s.point = p) (hfailing : p.failing = none) (n : ℕ)
      {P : Prop} (hn : s.point.failing = some n) : P := by
    rw [hp, hfailing] at hn
    cases hn
  unfold Coordinator.advance
  cases hp : s.point <;> dsimp only
  case dispatch work =>
    cases work with
    | chat n => exact h.silent hp rfl rfl (fun _ ↦ rfl) rfl (.inr rfl) (.inl rfl)
    | image n => exact h.silent hp rfl rfl (fun _ ↦ rfl) rfl (.inl rfl) (.inl rfl)
  case dispatcherCancelled work =>
    refine h.served (dispatcherCancelled_served s work) fun n hn ↦ ?_
    rw [hp] at hn
    cases work <;> cases hn
    exact resolveChat_denied (hpending.unresolved n (.inr (by rw [hp]; rfl))) (by simp)
  case chatDenied n =>
    refine h.served (chatDenied_served cfg s n) fun m hm ↦ ?_
    rw [hp] at hm
    cases hm
    exact resolveChat_denied (hpending.unresolved n (.inr (by rw [hp]; rfl)))
      (pyOr_truthy (pyOr_truthy (truthy_notConfirmedReady cfg)))
  case dispatcherFailed work e =>
    exact h.served (dispatcherFailed_served s work e) fun n ↦ hnone hp rfl n
  case chatGrant n => exact h.grant hp
  case submitted n result =>
    exact h.served (imageSubmitted_served s n result) fun n ↦ hnone hp rfl n
  case imageRaised n e => exact h.served (imageRaised_served s n e) fun n ↦ hnone hp rfl n
  case imageStart n =>
    simp only [imageStart]
    split_ifs
    · exact Attempts.served (s := { s with lastError := none }) { h with }
        (imageWithdrawn_served _ n) fun n ↦ hnone hp rfl n
    all_goals exact h.silent hp rfl rfl (fun _ ↦ rfl) rfl (.inl rfl) (.inl rfl)
  case imageActivated n =>
    unfold imageActivated
    split_ifs
    · exact h.served (imageWithdrawn_served s n) fun n ↦ hnone hp rfl n
    · exact h.records hp rfl rfl (fun _ ↦ rfl) rfl rfl (.inl rfl) (.inl rfl)
  case imageCancelled n =>
    unfold imageCancelled
    split_ifs
    · exact h.records hp rfl rfl (fun _ ↦ rfl) rfl rfl (.inl rfl) (.inl rfl)
    · exact h.served (imageShutdown_served s n) fun n ↦ hnone hp rfl n
  case activateDrainCheck n =>
    unfold activateDrainCheck
    split_ifs
    · have hstate : Attempts (s.setState
        (if s.owner == .llm then .llmReady else .awaitingRequest)) := { h with }
      exact hstate.served (imageWithdrawn_served _ n) fun n ↦ hnone hp rfl n
    all_goals exact h.silent hp rfl rfl (fun _ ↦ rfl) rfl (.inl rfl) (.inl rfl)
  -- The remaining moves choose the next point, start a call or acquire the LLM.
  all_goals first
    | exact h
    | simp only [chatStart, chatDrainCheck, chatRestore, restoreStart, restoreControlsCheck,
        cleanupFailed, restoreOwn, restoreBranch, restoreReload, restoreRaised, restoreDone,
        activateDrained, activateRouter, activateRouterUnload, activateUnload, activateDone]
  all_goals repeat' split
  all_goals first
    | exact h.silent hp rfl rfl (fun _ ↦ rfl) rfl (.inl rfl) (.inl rfl)
    | exact h.silent hp rfl rfl (fun _ ↦ rfl) rfl (.inr rfl) (.inl rfl)
    | exact h.silent hp rfl rfl (fun _ ↦ rfl) rfl (.inl rfl) (.inr rfl)
    | exact h.acquire hwf hpending hp rfl rfl rfl rfl (fun _ ↦ rfl) rfl rfl rfl rfl
    | exact h.records hp rfl rfl (fun _ ↦ rfl) rfl rfl (.inl rfl) (.inl rfl)
    | exact h.records hp rfl rfl (fun _ ↦ rfl) rfl rfl (.inr rfl) (.inl rfl)

theorem onReply {by_ : Routine} {call : Call RP} {r : Reply RP Out} (hwf : WellFormed s)
    (hpending : Pending s) (h : Attempts s) (hcall : s.point.call = some (by_, call))
    (hs : onReply (s.emit (.finished by_ call r)) r = some s') : Attempts s' := by
  generalize hp : s.point = p at hcall
  cases onReply_returns hs hp <;> cases hcall
  case restoreFreeRaised.refl n e =>
    exact h.fail hp rfl rfl rfl rfl (fun _ ↦ rfl) rfl rfl rfl rfl rfl
  case restoreRouterReleaseDone.refl n restore =>
    have hemit : Attempts (s.emit (.finished (.restoreLlm n) (.releaseGpu restore) .done)) :=
      h.emit rfl
    exact Attempts.acquire (s := s.emit _) { hwf with } { hpending with } hemit hp rfl rfl rfl rfl
      (fun _ ↦ rfl) rfl rfl rfl
      rfl
  case monitorOutputs.refl n promptId outputs =>
    have hemit : Attempts (s.emit (.finished (.dispatchImage n) (.waitForPrompt promptId)
        (.outputs outputs))) :=
      h.emit rfl
    exact hemit.served (imageCompleted_served _ n outputs) (by dsimp only; rw [hp]; nofun)
  case interruptDone.refl n =>
    have hemit : Attempts (s.emit (.finished (.dispatchImage n) .interrupt .done)) :=
      h.emit rfl
    exact hemit.served (imageShutdown_served _ n) (by dsimp only; rw [hp]; nofun)
  all_goals first
    | exact h.records hp rfl rfl (fun _ ↦ rfl) rfl rfl (.inl rfl) (.inl rfl)
    | exact h.goto (l := [_, _]) hp rfl rfl (fun _ ↦ rfl) rfl (by simp [Event.quiet,
        Event.acquires, Event.failsCleanup]) (.inl rfl) (.inl rfl)

theorem resumes {a : Action RP Out BE} (hwf : WellFormed s) (hpending : Pending s)
    (h : Attempts s) (hr : Resumes s a s') : Attempts s' := by
  cases hr with
  | wake hc hs =>
      unfold onWake at hs
      cases hp : s.point <;> rw [hp] at hs <;> cases hs
      case nextWork.refl =>
        unfold nextWork
        split
        · exact h.silent hp rfl rfl (fun _ ↦ rfl) rfl (.inl rfl) (.inl rfl)
        · split
          · exact h
          · next w rest hq =>
              refine h.frame (l := []) (by cases w <;> rfl) (List.forall_mem_nil _)
                (fun n hn ↦ ?_) fun n hn ↦ ?_
              · rw [hq]
                cases w with
                | chat m =>
                    rcases hn with hn | hn | hn
                    · exact .inl hn
                    · exact .inr (.inl (.tail _ hn))
                    · cases hn
                      exact .inr (.inl (.head _))
                | image m => exact hn.imp_right fun hn ↦ .inl (.tail _ (hn.resolve_right nofun))
              · rw [hp] at hn
                cases w <;> exact .inr (hn.resolve_left nofun)
      case chatDrain.refl n =>
        unfold chatDrainWake
        split
        · exact h.silent hp rfl rfl (fun _ ↦ rfl) rfl (.inl rfl) (.inl rfl)
        · exact h.silent hp rfl rfl (fun _ ↦ rfl) rfl (.inr rfl) (.inl rfl)
      case restoreControls.refl n =>
        exact h.silent hp rfl rfl (fun _ ↦ rfl) rfl (.inr rfl) (.inl rfl)
      case activateDrain.refl n =>
        exact h.silent hp rfl rfl (fun _ ↦ rfl) rfl (.inl rfl) (.inl rfl)
  | timeout hc hs =>
      unfold onTimeout at hs
      cases hp : s.point <;> rw [hp] at hs <;> cases hs
      · exact h.fail hp rfl rfl rfl rfl (fun _ ↦ rfl) rfl rfl rfl rfl rfl
      · exact h.silent hp rfl rfl (fun _ ↦ rfl) rfl (.inl rfl) (.inl rfl)
  | fault hc hs =>
      refine h.served (onFault_served hs) ?_
      unfold onFault at hs
      cases hp : s.point <;> rw [hp] at hs <;> first | (cases hs; done) | nofun
  | reply hc hcall hs => exact h.onReply hwf hpending hcall hs
  | cancelCall hc hcall hs =>
      cases hp : s.point <;> unfold onCancel at hs <;> dsimp only at hs <;> rw [hp] at hs hcall <;>
        cases hcall <;> cases hs
      case restoreFree.refl.refl n =>
        exact h.fail hp rfl rfl rfl rfl (fun _ ↦ rfl) rfl rfl rfl rfl rfl
      all_goals exact h.records hp rfl rfl (fun _ ↦ rfl) rfl rfl (.inl rfl) (.inl rfl)
  | cancelWait hc hcall hs =>
      refine Attempts.served (s := { s with cancelRequested := false }) { h with }
        (onCancel_served hs) ?_
      unfold onCancel at hs
      dsimp only at hs ⊢
      cases hp : s.point <;> rw [hp] at hs <;> first | (cases hs; done) | nofun

theorem client (hfutures : Futures s) (h : Attempts s) (hs : Clients cfg s s') : Attempts s' := by
  rcases hs.own with ⟨hp, rfl⟩ | ⟨hinit, by_, call, hcall, rfl⟩ | ⟨e, k, he, rfl⟩ | hbeside
  · unfold initializeStart
    split_ifs
    · exact h.silent hp rfl rfl (fun _ ↦ rfl) rfl (.inl rfl) (.inl rfl)
    · exact h.records hp rfl rfl (fun _ ↦ rfl) rfl rfl (.inl rfl) (.inl rfl)
  · cases hp : s.point <;> rw [hp] at hinit hcall <;> cases hinit <;> cases hcall <;>
      exact h.records hp rfl rfl (fun _ ↦ rfl) rfl rfl (.inl rfl) (.inl rfl)
  · have hquiet : e.quiet = true := by rcases he with ⟨rfl, -⟩ | ⟨rfl, -⟩ <;> rfl
    exact { h.emit hquiet with }
  · obtain ⟨l, hlog, hes⟩ := hbeside.log
    refine h.frame hlog (fun e he ↦ Event.quiet_of_byClient (hes e he)) (fun n hn ↦ ?_)
      fun n hn ↦ ?_
    · rw [hbeside.point] at hn
      rcases hn with hn | hn | hn
      · exact .inl (Nat.lt_of_le_of_lt hbeside.sequence hn)
      · exact (hbeside.queue _ hn).elim (fun hn ↦ .inr (.inl hn)) .inl
      · exact .inr (.inr hn)
    · rw [hbeside.point]
      refine hn.imp_right fun ⟨error, herror, htruthy⟩ ↦ ⟨error, ?_, htruthy⟩
      exact hbeside.ready n error (hfutures.bound (.ready n) (by simp [State.isDone, herror]))
        herror

end Attempts

theorem attempts_inductive [DecidableEq RP] {cfg : BrokerConfig}
    {ok : State RP Out BE → Action RP Out BE → Prop} :
    InductiveOver cfg ok (fun s ↦ (WellFormed s ∧ Futures s) ∧ Pending s)
      (Attempts : State RP Out BE → Prop) where
  initial := .initial
  advance _ hk h := h.advance hk.1.1 hk.2
  resumes _ _ _ hk h _ hr := h.resumes hk.1.1 hk.2 hr
  client _ _ _ hk h _ _ hs := h.client hk.1.2 hs

section
variable [DecidableEq RP] {cfg : BrokerConfig} {s : State RP Out BE}

theorem cleanup_of_reachable (hs : (system RP Out BE cfg).Reachable s) : Cleanup s :=
  (((wellFormed_inductive.extend exclusive_inductive).extend cleanup_inductive).reachableVia hs).2.2

/-- The LLM is acquired for a chat and granted to it only after the cleanup of
ComfyUI, and a chat whose cleanup fails gets an error. -/
theorem llm_granted_after_cleanup (hs : (system RP Out BE cfg).Reachable s) :
    (∀ n call rest, .started (.restoreLlm n) call :: rest <:+ s.log →
      call.isAcquisition = true → ComfyClean rest) ∧
    (∀ n rest, .chatGranted n :: rest <:+ s.log → ComfyClean rest) ∧
    ∀ n, CleanupFailed s.log n → ¬Acquired s.log n ∧ s.Denied n := by
  have hclean := (cleanup_of_reachable hs).always
  obtain ⟨hsusp, -, h⟩ := (((wellFormed_inductive.extend futures_inductive).extend
    pending_inductive).extend attempts_inductive).reachableVia hs
  refine ⟨fun n call rest ↦ hclean _ rest, fun n rest ↦ hclean _ rest, fun n hn ↦ ?_⟩
  obtain ⟨hacquired, hfailing | hdenied⟩ := h.failed n hn
  · cases hp : s.point <;> rw [hp] at hfailing hsusp <;>
      first | (cases hfailing; done) | cases hsusp
  · exact ⟨hacquired, hdenied⟩

end

/-- The cleanup fails for the first chat and succeeds for the second. -/
def failedCleanupRun : List (Action ℕ Unit Empty) :=
  [.startup, .chatLease none, .chatLease none, .wake, .reply (.raised .timeout), .wake,
    .reply .done, .reply .done, .reply (.observed (some 7))]

def failedCleanupState : State ℕ Unit Empty :=
  ((system ℕ Unit Empty koboldConfig).exec .initial failedCleanupRun).get (by decide)

theorem llm_granted_after_cleanup_failed :
    failedCleanupState.Denied 1 ∧
      ∀ rest, .chatGranted 2 :: rest <:+ failedCleanupState.log → ComfyClean rest :=
  have h := llm_granted_after_cleanup (TransitionSystem.exec_get_reachable (M := system ℕ Unit
    Empty koboldConfig) rfl (by decide) : (system ℕ Unit Empty koboldConfig).Reachable
      failedCleanupState)
  ⟨(h.2.2 1 (show ∃ e ∈ failedCleanupState.log, e.failsCleanup = some 1 by decide)).2, h.2.1 2⟩

end StProxy.Coordinator
