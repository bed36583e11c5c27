import StProxy.Coordinator.Handoff
import StProxy.Coordinator.Pending

/-!
# Shutdown

Runs after `close`.  No lease is granted and no work is accepted, the
dispatcher is cancelled wherever it stands, and on its way out it starts at
most one call, the interrupt of the active prompt.
-/

namespace StProxy.Coordinator

variable {RP Out BE : Type}

/-- `initialize` has not been called, or is not finished. -/
def Point.starting : Point RP → Bool
  | unstarted | initValidate | initFree | initSnapshot => true
  | _ => false

/-- The points of a dispatcher on its way out, past the active prompt. -/
def Point.stopping : Point RP → Bool
  | interrupt _ | dispatcherCancelled _ | dispatcherFailed _ _ | ended => true
  | _ => false

theorem Point.handler {p : Point RP} (h : p.afterClose = true)
    (hsusp : p.isSuspended = false) : (∃ w, p = .dispatcherCancelled w) ∨
      (∃ w e, p = .dispatcherFailed w e) ∨ ∃ n, p = .imageCancelled n := by
  cases p with
  | dispatcherCancelled w => exact .inl ⟨w, rfl⟩
  | dispatcherFailed w e => exact .inr (.inl ⟨w, e, rfl⟩)
  | imageCancelled n => exact .inr (.inr ⟨n, rfl⟩)
  | _ => first | (cases h; done) | cases hsusp

/-- The calls of `initialize`. -/
def Call.isStartup : Call RP → Bool
  | validateControl | freeModels | snapshotReady => true
  | _ => false

/-- The events of a shutdown.  An `initialize` that is not finished goes on. -/
def Event.winding (starting : Bool) : Event RP Out BE → Bool
  | .started by_ call | .finished by_ call _ =>
      match by_, call with
      | _, .interrupt => true
      | .startup, call => call.isStartup && starting
      | _, _ => false
  | .interrupted _ _ | .chatReleased _ | .controlReleased | .imageCancelled _ | .routerFailed _
  | .resolved _ | .backend _ => true
  | _ => false

/-- The interrupt of the active prompt is started. -/
def Event.interrupts : Event RP Out BE → Bool
  | .started _ .interrupt => true
  | _ => false

/-- The history of a shutdown from `s` on. -/
structure Wound (s t : State RP Out BE) (es : List (Event RP Out BE)) : Prop where
  log : t.log = es ++ s.log
  winding : ∀ e ∈ es, e.winding s.point.starting = true
  once : es.countP Event.interrupts ≤ 1
  prompt : 0 < es.countP Event.interrupts → truthy s.activePromptId = true
  before : t.point.stopping = false →
    es.countP Event.interrupts = 0 ∧ t.activePromptId = s.activePromptId

/-- `t` is reached after `close` in `s`. -/
structure Closing (s t : State RP Out BE) : Prop where
  closing : t.closing = true
  passive : t.passiveLeases ≤ s.passiveLeases
  controls : t.routerControls ≤ s.routerControls
  sequence : t.sequence = s.sequence
  place : t.cancelRequested = true ∧ t.point = s.point ∨ t.point.afterClose = true
  starting : t.point.starting = true → s.point.starting = true
  log : ∃ es, Wound s t es

namespace Closing

variable {cfg : BrokerConfig} {s t t' : State RP Out BE}

/-- Any later state is one from which the shutdown goes on. -/
theorem refl (h : Closing s t) : Closing t t where
  closing := h.closing
  passive := Nat.le_refl _
  controls := Nat.le_refl _
  sequence := rfl
  place := h.place.imp_left fun hplace ↦ ⟨hplace.1, rfl⟩
  starting := id
  log := ⟨[], rfl, List.forall_mem_nil _, Nat.zero_le 1, nofun, fun _ ↦ ⟨rfl, rfl⟩⟩

/-- A step that starts no interrupt. -/
theorem quiet {l : List (Event RP Out BE)} (h : Closing s t) (hlog : t'.log = l ++ t.log)
    (hl : ∀ e ∈ l, e.winding s.point.starting = true ∧ e.interrupts = false)
    (hclosing : t'.closing = t.closing) (hpassive : t'.passiveLeases ≤ t.passiveLeases)
    (hcontrols : t'.routerControls ≤ t.routerControls) (hsequence : t'.sequence = t.sequence)
    (hplace : t'.cancelRequested = true ∧ t'.point = s.point ∨ t'.point.afterClose = true)
    (hstarting : t'.point.starting = true → s.point.starting = true)
    (hprompt : t'.point.stopping = false →
      t.point.stopping = false ∧ t'.activePromptId = t.activePromptId) : Closing s t' where
  closing := hclosing.trans h.closing
  passive := Nat.le_trans hpassive h.passive
  controls := Nat.le_trans hcontrols h.controls
  sequence := hsequence.trans h.sequence
  place := hplace
  starting := hstarting
  log := by
    obtain ⟨es, hes⟩ := h.log
    have hcount : (l ++ es).countP Event.interrupts = es.countP Event.interrupts := by
      have hzero : l.countP Event.interrupts = 0 :=
        List.countP_eq_zero.mpr fun e he ↦ by simp [(hl e he).2]
      rw [List.countP_append, hzero, Nat.zero_add]
    refine ⟨l ++ es, ?_, ?_, ?_, ?_, ?_⟩
    · rw [hlog, hes.log, List.append_assoc]
    · exact fun e he ↦ (List.mem_append.mp he).elim (fun he ↦ (hl e he).1) (hes.winding e)
    · rw [hcount]
      exact hes.once
    · rw [hcount]
      exact hes.prompt
    · intro hstop
      obtain ⟨hbefore, hsame⟩ := hprompt hstop
      rw [hcount, hsame]
      exact hes.before hbefore

theorem silent (h : Closing s t) (hlog : t'.log = t.log) (hclosing : t'.closing = t.closing)
    (hpassive : t'.passiveLeases = t.passiveLeases)
    (hcontrols : t'.routerControls = t.routerControls) (hsequence : t'.sequence = t.sequence)
    (hplace : t'.cancelRequested = true ∧ t'.point = s.point ∨ t'.point.afterClose = true)
    (hstarting : t'.point.starting = true → s.point.starting = true)
    (hprompt : t'.point.stopping = false →
      t.point.stopping = false ∧ t'.activePromptId = t.activePromptId) : Closing s t' :=
  h.quiet (l := []) hlog (List.forall_mem_nil _) hclosing (Nat.le_of_eq hpassive)
    (Nat.le_of_eq hcontrols) hsequence hplace hstarting hprompt

theorem resolved {u : State RP Out BE} (h : Closing s t) (hr : Resolved t u)
    (hlog : t'.log = u.log) (hclosing : t'.closing = u.closing)
    (hpassive : t'.passiveLeases = u.passiveLeases)
    (hcontrols : t'.routerControls = u.routerControls) (hsequence : t'.sequence = u.sequence)
    (hafter : t'.point.afterClose = true) (hstarting : t'.point.starting = false)
    (hstop : t'.point.stopping = true) : Closing s t' := by
  obtain ⟨fs, hfs, -⟩ := hr.log
  refine h.quiet (hlog.trans hfs) ?_ (hclosing.trans (hr.field State.closing fun _ ↦ rfl))
    (Nat.le_of_eq (hpassive.trans (hr.field State.passiveLeases fun _ ↦ rfl)))
    (Nat.le_of_eq (hcontrols.trans (hr.field State.routerControls fun _ ↦ rfl)))
    (hsequence.trans (hr.field State.sequence fun _ ↦ rfl)) (.inr hafter) (by simp [hstarting])
    (by simp [hstop])
  intro e he
  obtain ⟨f, -, rfl⟩ := List.mem_map.mp he
  exact ⟨rfl, rfl⟩

/-- The interrupt is started at the one point that leads to it. -/
theorem interrupt {n : ℕ} (h : Closing s t) (hp : t.point = .imageCancelled n)
    (hprompt : truthy t.activePromptId = true) :
    Closing s (t.await (.interrupt n) (.dispatchImage n) .interrupt) := by
  obtain ⟨es, hes⟩ := h.log
  obtain ⟨hcount, hsame⟩ := hes.before (by rw [hp]; rfl)
  have hone : (.started (.dispatchImage n) .interrupt :: es).countP Event.interrupts = 1 := by
    rw [List.countP_cons_of_pos rfl, hcount]
  exact { h with
    place := .inr rfl
    starting := nofun
    log := ⟨.started (.dispatchImage n) .interrupt :: es,
      { log := congrArg (List.cons _) hes.log
        winding := fun e he ↦ by
          rcases List.mem_cons.mp he with rfl | he
          · rfl
          · exact hes.winding e he
        once := Nat.le_of_eq hone
        prompt := fun _ ↦ hsame ▸ hprompt
        before := nofun }⟩ }

theorem afterClose_of_running (h : Closing s t)
    (hlive : t.point.isSuspended = false → t.cancelRequested = false)
    (hsusp : t.point.isSuspended = false) : t.point.afterClose = true := by
  rcases h.place with ⟨hc, -⟩ | hafter
  · rw [hlive hsusp] at hc
    cases hc
  · exact hafter

/-- The handlers of a cancelled or failed dispatcher. -/
theorem advance [DecidableEq RP] (hlive : t.point.isSuspended = false → t.cancelRequested = false)
    (h : Closing s t) : Closing s (advance cfg t) := by
  cases hsusp : t.point.isSuspended with
  | true => rwa [advance_of_suspended hsusp]
  | false =>
      unfold Coordinator.advance
      rcases Point.handler (h.afterClose_of_running hlive hsusp) hsusp with
        ⟨w, hp⟩ | ⟨w, e, hp⟩ | ⟨n, hp⟩ <;> rw [hp] <;> dsimp only
      · exact h.resolved (resolveWork_resolved t w _) rfl rfl rfl rfl rfl rfl rfl rfl
      · have hfailed := dispatcherFailed_resolved t w e
        refine Closing.resolved (t := { t with
            lastError := some e.str
            fatalError := some ("broker dispatcher failed: " ++ e.typeName)
            state := .error }.goto .ended) ?_ hfailed rfl rfl rfl rfl rfl rfl rfl rfl
        exact h.silent rfl rfl rfl rfl rfl (.inr rfl) nofun nofun
      · unfold imageCancelled
        split
        · next hprompt => exact h.interrupt hp hprompt
        · exact h.resolved (resolveImageError_resolved t n _) rfl rfl rfl rfl rfl rfl rfl rfl

/-! ## Resumptions -/

theorem finished {r : Reply RP Out} {by_ : Routine} {call : Call RP} (h : Closing s t)
    (hp : t.point.afterClose = true) (hcall : t.point.call = some (by_, call)) :
    Closing s (t.emit (.finished by_ call r)) := by
  have hwinding : (.finished by_ call r : Event RP Out BE).winding s.point.starting = true := by
    have hstart : t.point.starting = true → s.point.starting = true := h.starting
    cases hpoint : t.point <;> rw [hpoint] at hp hcall hstart <;>
      first | (cases hp; done) | cases hcall
    case interrupt.refl => rfl
    all_goals exact hstart rfl
  refine h.quiet (l := [_]) rfl ?_ rfl (Nat.le_refl _) (Nat.le_refl _) rfl h.place h.starting
    fun hstop ↦ ⟨hstop, rfl⟩
  intro e he
  cases List.mem_singleton.mp he
  exact ⟨hwinding, rfl⟩

/-- A dispatcher that is not cancelled gets replies only in `initialize` and to
the interrupt. -/
theorem onReply {r : Reply RP Out} (h : Closing s t) (hp : t.point.afterClose = true)
    (hs : onReply t r = some t') : Closing s t' := by
  have hstart : t.point.starting = true → s.point.starting = true := h.starting
  generalize hpoint : t.point = p at hp hstart
  cases onReply_returns hs hpoint
  case interruptDone n =>
    exact h.resolved (resolveImageError_resolved t n _) rfl rfl rfl rfl rfl rfl rfl rfl
  case interruptRaised n e =>
    exact h.silent rfl rfl rfl rfl rfl (.inr rfl) nofun nofun
  case initValidateDone | initFreeDone =>
    refine h.quiet (l := [_]) rfl ?_ rfl (Nat.le_refl _) (Nat.le_refl _) rfl (.inr rfl)
      (fun _ ↦ hstart rfl) fun _ ↦ ⟨by rw [hpoint]; rfl, rfl⟩
    intro e he
    cases List.mem_singleton.mp he
    exact ⟨hstart rfl, rfl⟩
  case initSnapshotAcquired | initValidateRaised | initFreeRaised | initSnapshotRaised =>
    exact h.silent rfl rfl rfl rfl rfl (.inr rfl) nofun
      fun _ ↦ ⟨by rw [hpoint]; rfl, rfl⟩
  all_goals cases hp

theorem onCancel {u : State RP Out BE} {l : List (Event RP Out BE)} (h : Closing s t)
    (hl : ∀ e ∈ l, ∃ by_ call, e = .interrupted by_ call)
    (hu : u = { t with cancelRequested := false, log := l ++ t.log })
    (hs : onCancel u = some t') : Closing s t' := by
  have hquiet : ∀ e ∈ l, e.winding s.point.starting = true ∧ e.interrupts = false := by
    intro e he
    obtain ⟨by_, call, rfl⟩ := hl e he
    exact ⟨rfl, rfl⟩
  subst hu
  unfold Coordinator.onCancel at hs
  cases hpoint : t.point <;> simp only [hpoint] at hs <;> cases hs
  case nextWork.refl =>
    exact h.quiet rfl hquiet rfl (Nat.le_refl _) (Nat.le_refl _) rfl (.inr rfl) nofun nofun
  all_goals
    refine h.quiet rfl hquiet rfl (Nat.le_refl _) (Nat.le_refl _) rfl (.inr rfl) nofun ?_
    first
      | exact fun _ ↦ ⟨by rw [hpoint]; rfl, rfl⟩
      | nofun

theorem resumes {a : Action RP Out BE} (h : Closing s t) (hr : Resumes t a t') :
    Closing s t' := by
  have hafter (hc : t.cancelRequested = false) : t.point.afterClose = true := by
    rcases h.place with ⟨hc', -⟩ | hafter
    · rw [hc] at hc'
      cases hc'
    · exact hafter
  cases hr with
  | wake hc hs =>
      have hp := hafter hc
      unfold onWake at hs
      cases hpoint : t.point <;> rw [hpoint] at hs hp <;> first | (cases hp; done) | cases hs
      rw [nextWork, if_pos (by simp [h.closing])]
      exact h.silent rfl rfl rfl rfl rfl (.inr rfl) nofun nofun
  | timeout hc hs =>
      have hp := hafter hc
      unfold onTimeout at hs
      cases hpoint : t.point <;> rw [hpoint] at hs hp <;> first | (cases hp; done) | cases hs
  | fault hc hs =>
      have hp := hafter hc
      unfold onFault at hs
      cases hpoint : t.point <;> rw [hpoint] at hs hp <;> first | (cases hp; done) | cases hs
      exact h.silent rfl rfl rfl rfl rfl (.inr rfl) nofun nofun
  | reply hc hcall hs => exact (h.finished (hafter hc) hcall).onReply (hafter hc) hs
  | cancelCall hc hcall hs => exact h.onCancel (l := [_]) (by simp) rfl hs
  | cancelWait hc hcall hs => exact h.onCancel (l := []) (List.forall_mem_nil _) rfl hs

/-! ## Clients -/

/-- A step of a client that leaves the dispatcher where it is. -/
theorem aside {l : List (Event RP Out BE)} (h : Closing s t) (hlog : t'.log = l ++ t.log)
    (hl : ∀ e ∈ l, e.winding s.point.starting = true ∧ e.interrupts = false)
    (hclosing : t'.closing = t.closing) (hpassive : t'.passiveLeases ≤ t.passiveLeases)
    (hcontrols : t'.routerControls ≤ t.routerControls) (hsequence : t'.sequence = t.sequence)
    (hpoint : t'.point = t.point) (hcancel : t'.cancelRequested = t.cancelRequested)
    (hprompt : t'.activePromptId = t.activePromptId) : Closing s t' :=
  h.quiet hlog hl hclosing hpassive hcontrols hsequence (by rw [hpoint, hcancel]; exact h.place)
    (by rw [hpoint]; exact h.starting) fun hstop ↦ ⟨hpoint ▸ hstop, hprompt⟩

theorem beside (h : Closing s t) (hlog : t'.log = t.log) (hclosing : t'.closing = t.closing)
    (hpassive : t'.passiveLeases ≤ t.passiveLeases)
    (hcontrols : t'.routerControls ≤ t.routerControls) (hsequence : t'.sequence = t.sequence)
    (hpoint : t'.point = t.point) (hcancel : t'.cancelRequested = t.cancelRequested)
    (hprompt : t'.activePromptId = t.activePromptId) : Closing s t' :=
  h.aside (l := []) hlog (List.forall_mem_nil _) hclosing hpassive hcontrols hsequence hpoint
    hcancel hprompt

theorem settled {u : State RP Out BE} (h : Closing s t) (hr : Resolved t u) : Closing s u := by
  obtain ⟨fs, hfs, -⟩ := hr.log
  refine h.aside hfs ?_ (hr.field State.closing fun _ ↦ rfl)
    (Nat.le_of_eq (hr.field State.passiveLeases fun _ ↦ rfl))
    (Nat.le_of_eq (hr.field State.routerControls fun _ ↦ rfl))
    (hr.field State.sequence fun _ ↦ rfl) hr.point
    (hr.field State.cancelRequested fun _ ↦ rfl) (hr.field State.activePromptId fun _ ↦ rfl)
  intro e he
  obtain ⟨f, -, rfl⟩ := List.mem_map.mp he
  exact ⟨rfl, rfl⟩

theorem withdrawImage (h : Closing s t) (n : ℕ) (error : String) :
    Closing s (withdrawImage t n error) := by
  have hset : Closing s
      ((t.setImage n { t.images n with cancelled := true }).emit (.imageCancelled n)) :=
    h.aside (l := [_]) rfl (by simp [Event.winding, Event.interrupts]) rfl (Nat.le_refl _)
      (Nat.le_refl _) rfl rfl rfl rfl
  rw [withdrawImage_eq]
  dsimp only
  split
  · exact hset.settled ((removeQueued_resolved _ _).trans (resolveImageError_resolved _ n error))
  · exact hset

theorem leaveBatch (works : List ℕ) : ∀ t : State RP Out BE, Closing s t →
    Closing s (works.foldl leaveBatchWork t) := by
  induction works with
  | nil => exact fun t h ↦ h
  | cons n works ih =>
      intro t h
      refine ih _ ?_
      unfold leaveBatchWork
      split
      · exact h.withdrawImage n _
      · exact h

theorem chatLeave (h : Closing s t) (n : ℕ) (entered : Bool) :
    Closing s (chatLeave t n entered) := by
  rw [chatLeave_eq]
  refine h.aside rfl ?_ rfl (Nat.le_refl _) (Nat.le_refl _) rfl rfl rfl rfl
  intro e he
  split at he
  · cases List.mem_singleton.mp he
    exact ⟨rfl, rfl⟩
  · cases he

theorem startup (h : Closing s t) (hp : t.point = .unstarted) :
    Closing s (initializeStart cfg t) := by
  have hstart : s.point.starting = true := h.starting (by rw [hp]; rfl)
  have hstop : t.point.stopping = false := by rw [hp]; rfl
  unfold initializeStart
  split
  · exact h.silent rfl rfl rfl rfl rfl (.inr rfl) nofun
      fun _ ↦ ⟨hstop, rfl⟩
  · refine h.quiet (l := [_]) rfl ?_ rfl (Nat.le_refl _) (Nat.le_refl _) rfl (.inr rfl)
      (fun _ ↦ hstart) fun _ ↦ ⟨hstop, rfl⟩
    intro e he
    cases List.mem_singleton.mp he
    exact ⟨hstart, rfl⟩

theorem cancelStartup {by_ : Routine} {call : Call RP} (h : Closing s t)
    (hp : t.point.isInitializing = true) :
    Closing s ((t.emit (.interrupted by_ call)).goto .initFailed) := by
  refine h.quiet (l := [_]) rfl (by simp [Event.winding, Event.interrupts]) rfl (Nat.le_refl _)
    (Nat.le_refl _) rfl (.inr rfl) nofun fun _ ↦ ⟨?_, rfl⟩
  cases hpoint : t.point <;> rw [hpoint] at hp <;> first | rfl | cases hp

theorem client (h : Closing s t) (hs : Clients cfg t t') : Closing s t' := by
  have hopen {P : Prop} (hclosing : t.closing = false) : P := by
    rw [h.closing] at hclosing
    cases hclosing
  cases hs with
  | refused => exact h
  | startup hp => exact h.startup hp
  | cancelStartup by_ call hp hcall => exact h.cancelStartup hp
  | chatLease target htarget hclosing hfatal => exact hopen hclosing
  | chatLeave n entered hclient => exact h.chatLeave n entered
  | passiveEnter hallowed => simp [passiveAllowed, h.closing] at hallowed
  | routerControl abort hallowed => simp [routerControlAllowed, h.closing] at hallowed
  | control hclosing howner hstate => exact hopen hclosing
  | submitImage request wantsCompletion hclosing hfatal hcapacity => exact hopen hclosing
  | imageBatch bodies hclosing hfatal hcapacity => exact hopen hclosing
  | imageCancel n hclient =>
      have hgone : Closing s (t.setImage n { t.images n with client := .gone }) :=
        h.beside rfl rfl (Nat.le_refl _) (Nat.le_refl _) rfl rfl rfl rfl
      exact hgone.withdrawImage n _
  | batchExit works hworks =>
      refine leaveBatch works { t with batches := t.batches.erase works } ?_
      exact h.beside rfl rfl (Nat.le_refl _) (Nat.le_refl _) rfl rfl rfl rfl
  | close => rwa [Coordinator.close, if_pos h.closing]
  | cancelClose hclosing halive =>
      refine h.silent rfl rfl rfl rfl rfl ?_ h.starting
        fun hstop ↦ ⟨hstop, rfl⟩
      exact h.place.imp_left fun hplace ↦ ⟨rfl, hplace.2⟩
  | routerFailed n hreserves hclient hgranted =>
      exact h.aside (l := [_]) rfl (by simp [Event.winding, Event.interrupts]) rfl (Nat.le_refl _)
        (Nat.le_refl _) rfl rfl rfl rfl
  | controlExit hheld =>
      exact h.aside (l := [_]) rfl (by simp [Event.winding, Event.interrupts]) rfl (Nat.le_refl _)
        (Nat.le_refl _) rfl rfl rfl rfl
  | backend e =>
      exact h.aside (l := [_]) rfl (by simp [Event.winding, Event.interrupts]) rfl (Nat.le_refl _)
        (Nat.le_refl _) rfl rfl rfl rfl
  | passiveExit hheld =>
      exact h.beside rfl rfl (Nat.sub_le _ _) (Nat.le_refl _) rfl rfl rfl rfl
  | routerControlExit hheld =>
      exact h.beside rfl rfl (Nat.le_refl _) (Nat.sub_le _ _) rfl rfl rfl rfl
  | _ => exact h.beside rfl rfl (Nat.le_refl _) (Nat.le_refl _) rfl rfl rfl rfl

/-- The step in which `close` sets `_closing`. -/
theorem close (hopen : s.closing = false) :
    Closing s (close s) := by
  have hset : Closing s { s with
      closing := true
      state := .shuttingDown
      cancelRequested := dispatcherAlive s } :=
    { closing := rfl
      passive := Nat.le_refl _
      controls := Nat.le_refl _
      sequence := rfl
      place := by
        cases halive : dispatcherAlive s with
        | true => exact .inl ⟨rfl, rfl⟩
        | false =>
            refine .inr ?_
            unfold dispatcherAlive at halive
            cases hp : s.point <;> rw [hp] at halive <;> first | rfl | cases halive
      starting := id
      log := ⟨[], rfl, List.forall_mem_nil _, Nat.zero_le 1, nofun, fun _ ↦ ⟨rfl, rfl⟩⟩ }
  exact hset.settled (close_resolved hopen)

theorem step [DecidableEq RP] {a : Action RP Out BE} (hwf : WellFormed t) (h : Closing s t)
    (hs : step cfg t a = some t') :
    Closing s t' := by
  cases ha : a.resumes with
  | true =>
      obtain ⟨t₀, hr, rfl⟩ := step_resumes ha hs
      have hinv : WellFormed (settle cfg t₀) ∧ Closing s (settle cfg t₀) :=
        settle_invariant (I := fun u ↦ WellFormed u ∧ Closing s u)
          (fun u hu ↦ ⟨hu.1.moves (advance_moves u), hu.2.advance hu.1.live⟩)
          ⟨hwf.starts (resumes_starts hr), h.resumes hr⟩
      exact hinv.2
  | false => exact h.client (client_cases ha hs)

end Closing

/-! ## The dispatcher ends -/

/-- The points of a cancelled dispatcher. -/
def Point.leaving : Point RP → Bool
  | imageCancelled _ | interrupt _ | dispatcherCancelled _ | dispatcherFailed _ _ | ended => true
  | _ => false

/-- The points of a cancelled dispatcher that has left its routines. -/
def Point.left : Point RP → Bool
  | dispatcherCancelled _ | dispatcherFailed _ _ | ended => true
  | _ => false

def Point.isInterrupt : Point RP → Bool
  | interrupt _ => true
  | _ => false

theorem Point.afterClose_of_leaving {p : Point RP} (h : p.leaving = true) :
    p.afterClose = true := by
  cases p <;> first | rfl | cases h

theorem Point.leaving_of_left {p : Point RP} (h : p.left = true) : p.leaving = true := by
  cases p <;> first | rfl | cases h

/-- The dispatcher leaves, or waits for the interrupt. -/
theorem Point.ended_of_leaving {p : Point RP} (h : p.leaving = true)
    (hsusp : p.isSuspended = true) : p = .ended ∨ p.isInterrupt = true := by
  cases p <;> first | exact .inl rfl | exact .inr rfl | (cases h; done) | cases hsusp

theorem Point.ended_of_left {p : Point RP} (h : p.left = true) (hsusp : p.isSuspended = true) :
    p = .ended := by
  cases p <;> first | rfl | (cases h; done) | cases hsusp

theorem onCancel_leaving {u t' : State RP Out BE} (hcur : u.point.current ≠ none)
    (hs : onCancel u = some t') :
    t'.point.leaving = true ∧ (u.point.isInterrupt = true → t'.point.left = true) := by
  unfold onCancel at hs
  cases hp : u.point <;> simp only [hp] at hs <;> cases hs
  case nextWork.refl => exact absurd (by rw [hp]; rfl) hcur
  case interrupt.refl n => exact ⟨rfl, fun _ ↦ rfl⟩
  all_goals exact ⟨rfl, fun hint ↦ by cases hint⟩

theorem onReply_left {t t' : State RP Out BE} {r : Reply RP Out} {n : ℕ}
    (hp : t.point = .interrupt n) (hs : onReply t r = some t') : t'.point.left = true := by
  cases onReply_returns hs hp <;> rfl

/-- While a work is in service, the dispatcher stands where its cancellation
arrives, or at the interrupt. -/
theorem place_of_current {s t : State RP Out BE} (h : Closing s t)
    (hsusp : t.point.isSuspended = true) (hcur : t.point.current ≠ none) :
    t.cancelRequested = true ∨ ∃ n, t.point = .interrupt n := by
  rcases h.place with ⟨hc, -⟩ | hafter
  · exact .inl hc
  · refine .inr ?_
    cases hp : t.point <;> rw [hp] at hafter hsusp hcur <;> first
      | (cases hafter; done)
      | (cases hsusp; done)
      | exact absurd rfl hcur
      | exact ⟨_, rfl⟩

theorem onCancel_isSome {t : State RP Out BE} (hsusp : t.point.isSuspended = true)
    (hcur : t.point.current ≠ none) : (onCancel t).isSome = true := by
  unfold onCancel
  cases hp : t.point <;> rw [hp] at hsusp hcur <;> first
    | rfl
    | (cases hsusp; done)
    | exact absurd rfl hcur

section
variable [DecidableEq RP] {cfg : BrokerConfig} {s t t' : State RP Out BE}

theorem advance_leaving (h : t.point.leaving = true) : (advance cfg t).point.leaving = true := by
  cases hsusp : t.point.isSuspended with
  | true => rwa [advance_of_suspended hsusp]
  | false =>
      unfold advance
      rcases Point.handler (Point.afterClose_of_leaving h) hsusp with
        ⟨w, hp⟩ | ⟨w, e, hp⟩ | ⟨n, hp⟩ <;> rw [hp] <;> dsimp only
      · rfl
      · rfl
      · unfold imageCancelled
        split <;> rfl

theorem advance_left (h : t.point.left = true) : (advance cfg t).point.left = true := by
  cases hsusp : t.point.isSuspended with
  | true => rwa [advance_of_suspended hsusp]
  | false =>
      unfold advance
      rcases Point.handler (Point.afterClose_of_leaving (Point.leaving_of_left h)) hsusp with
        ⟨w, hp⟩ | ⟨w, e, hp⟩ | ⟨n, hp⟩
      · rw [hp]
        rfl
      · rw [hp]
        rfl
      · rw [hp] at h
        cases h

theorem settle_leaving (h : t.point.leaving = true) :
    (settle cfg t).point = .ended ∨ (settle cfg t).point.isInterrupt = true :=
  Point.ended_of_leaving
    (settle_invariant (I := fun u ↦ u.point.leaving = true) (fun _ ↦ advance_leaving) h)
    (settle_suspended cfg t)

theorem settle_left (h : t.point.left = true) : (settle cfg t).point = .ended :=
  Point.ended_of_left (settle_invariant (I := fun u ↦ u.point.left = true) (fun _ ↦ advance_left) h)
    (settle_suspended cfg t)

/-- The work in service keeps the dispatcher only until its cancellation and the
interrupt are done. -/
theorem current_ends {a : Action RP Out BE} (h : Closing s t) (hsusp : t.point.isSuspended = true)
    (hcur : t.point.current ≠ none) (ha : a.resumes = true) (hs : step cfg t a = some t') :
    t'.point = .ended ∨ t'.point.isInterrupt = true ∧ t.point.isInterrupt = false := by
  have hcancel {u t₀ : State RP Out BE} (hu : u.point = t.point) (h₀ : onCancel u = some t₀) :
      (settle cfg t₀).point = .ended ∨
        (settle cfg t₀).point.isInterrupt = true ∧ t.point.isInterrupt = false := by
    obtain ⟨hleaving, hleft⟩ := onCancel_leaving (hu.symm ▸ hcur) h₀
    rw [hu] at hleft
    cases hint : t.point.isInterrupt with
    | true => exact .inl (settle_left (hleft hint))
    | false => exact (settle_leaving hleaving).imp_right fun hp ↦ ⟨hp, rfl⟩
  obtain ⟨t₀, hr, rfl⟩ := step_resumes ha hs
  have hinterrupt (hc : t.cancelRequested = false) : ∃ n, t.point = .interrupt n :=
    (place_of_current h hsusp hcur).resolve_left (by simp [hc])
  cases hr with
  | wake hc h₀ =>
      obtain ⟨n, hp⟩ := hinterrupt hc
      simp [onWake, hp] at h₀
  | timeout hc h₀ =>
      obtain ⟨n, hp⟩ := hinterrupt hc
      simp [onTimeout, hp] at h₀
  | fault hc h₀ =>
      obtain ⟨n, hp⟩ := hinterrupt hc
      simp [onFault, hp] at h₀
  | reply hc hcall h₀ =>
      obtain ⟨n, hp⟩ := hinterrupt hc
      exact .inl (settle_left (onReply_left (t := t.emit _) hp h₀))
  | cancelCall hc hcall h₀ =>
      exact hcancel (u := { t.emit _ with cancelRequested := false }) rfl h₀
  | cancelWait hc hcall h₀ => exact hcancel (u := { t with cancelRequested := false }) rfl h₀

/-- The dispatcher is never stuck with a work in service. -/
theorem current_proceeds (h : Closing s t) (hsusp : t.point.isSuspended = true)
    (hcur : t.point.current ≠ none) :
    ∃ a : Action RP Out BE, a.resumes = true ∧ (step cfg t a).isSome = true := by
  cases hc : t.cancelRequested with
  | true =>
      refine ⟨.deliverCancel, rfl, ?_⟩
      simp only [step, deliverCancel, hc, if_true, Option.isSome_map]
      exact onCancel_isSome (by split <;> exact hsusp) (by split <;> exact hcur)
  | false =>
      obtain ⟨n, hp⟩ := (place_of_current h hsusp hcur).resolve_left (by simp [hc])
      have hcall : t.point.call = some (.dispatchImage n, .interrupt) := by rw [hp]; rfl
      have hsome := (isSome_onReply_iff
        (s := t.emit (.finished (.dispatchImage n) .interrupt .done)) hcall .done).mpr trivial
      refine ⟨.reply .done, rfl, ?_⟩
      simp only [step, reply, hcall, resume, hc, Bool.false_eq_true, if_false, Option.isSome_map]
      exact hsome

theorem closing_of_startingAt (hs : (system RP Out BE cfg).Reachable s) (hopen : s.closing = false)
    (ht : ((system RP Out BE cfg).startingAt (close s)).Reachable t) :
    (system RP Out BE cfg).Reachable t ∧ Closing s t := by
  have hclose : (system RP Out BE cfg).Reachable (close s) := .next (a := .close) hs trivial rfl
  refine ⟨hclose.of_startingAt ht, ?_⟩
  refine ht.invariant ?_ fun u a u' hu hclosing _ hstep ↦ ?_
  · rintro _ rfl
    exact .close hopen
  · exact hclosing.step (wellFormed_inductive.reachableVia (hclose.of_startingAt hu)).2 hstep

end

/-! ## Nothing is started -/

/-- The events that grant a lease or accept a work. -/
def Event.admits : Event RP Out BE → Bool
  | .chatAccepted _ | .imagesAccepted _ | .comfyGranted _ | .chatGranted _ | .controlGranted => true
  | _ => false

theorem Event.not_admits_of_winding {e : Event RP Out BE} {starting : Bool}
    (he : e.winding starting = true) : e.admits = false := by
  cases e <;> first | rfl | cases he

theorem Event.interrupt_of_winding {by_ : Routine} {call : Call RP} {starting : Bool}
    (he : (Event.started by_ call : Event RP Out BE).winding starting = true) :
    call = .interrupt ∨ by_ = .startup ∧ call.isStartup = true ∧ starting = true := by
  cases call
  case interrupt => exact .inl rfl
  all_goals cases by_ <;> first | exact .inr ⟨rfl, rfl, he⟩ | cases he

/-- Shutdown starts nothing.  After `close` only one interrupt of an active prompt
is started, apart from the calls of an `initialize` that had not finished, which
`BrokerService` awaits before it can close.  No later step grants a lease.  Every work is
settled at the latest when the dispatcher ends, after at most two more of its steps. -/
theorem shutdown_starts_nothing [DecidableEq RP] {cfg : BrokerConfig} {s t : State RP Out BE}
    (hs : (system RP Out BE cfg).Reachable s) (hopen : s.closing = false)
    (ht : ((system RP Out BE cfg).startingAt (close s)).Reachable t) :
    (∃ es, t.log = es ++ s.log ∧ (∀ e ∈ es, e.admits = false) ∧
      (∀ by_ call, .started by_ call ∈ es → call = .interrupt ∨
        by_ = .startup ∧ call.isStartup = true ∧ s.point.starting = true) ∧
      es.countP Event.interrupts ≤ 1 ∧
      (0 < es.countP Event.interrupts → truthy s.activePromptId = true)) ∧
    (∀ a u, step cfg t a = some u →
      u.passiveLeases ≤ t.passiveLeases ∧ u.routerControls ≤ t.routerControls) ∧
    t.sequence = s.sequence ∧ t.queue = [] ∧
    (∀ w, t.Accepted w → ¬t.Withdrawn w → t.Settled w ∨ t.point.current = some w) ∧
    (t.point.current ≠ none →
      (∃ a : Action RP Out BE, a.resumes = true ∧ (step cfg t a).isSome = true) ∧
      ∀ a t', a.resumes = true → step cfg t a = some t' →
        t'.point = .ended ∨ t'.point.isInterrupt = true ∧ t.point.isInterrupt = false) := by
  obtain ⟨hreach, h⟩ := closing_of_startingAt hs hopen ht
  obtain ⟨hsusp, hwf⟩ := wellFormed_inductive.reachableVia hreach
  have hq : t.queue = [] := hwf.closing_queue h.closing
  refine ⟨?_, fun a u hstep ↦ ?_, h.sequence, hq, fun w hw hkept ↦ ?_, fun hcur ↦
    ⟨current_proceeds h hsusp hcur, fun a t' ha hstep ↦ current_ends h hsusp hcur ha hstep⟩⟩
  · obtain ⟨es, hes⟩ := h.log
    refine ⟨es, hes.log, fun e he ↦ Event.not_admits_of_winding (hes.winding e he),
      fun by_ call he ↦ Event.interrupt_of_winding (hes.winding _ he), hes.once, hes.prompt⟩
  · have hnext : Closing t u := h.refl.step hwf hstep
    exact ⟨hnext.passive, hnext.controls⟩
  · rcases (pending_of_reachable hreach).accounted w hw with hgone | hsettled | hqueued | hcur
    · exact absurd hgone hkept
    · exact .inl hsettled
    · rw [hq] at hqueued
      cases hqueued
    · exact .inr hcur

/-- A prompt runs for one image and another image waits. -/
def promptRun : List (Action ℕ Unit Empty) :=
  [.startup, .submitImage ⟨"/prompt", "", [], []⟩ true, .submitImage ⟨"/prompt", "", [], []⟩ false,
    .wake, .reply .done, .reply (.observed none),
    .reply (.submitted ⟨⟨200, none, [], []⟩, some "synthetic-1"⟩)]

def promptState : State ℕ Unit Empty :=
  ((system ℕ Unit Empty koboldConfig).exec .initial promptRun).get (by decide)

def interruptedState : State ℕ Unit Empty :=
  (((system ℕ Unit Empty koboldConfig).startingAt (close promptState)).exec (close promptState)
    [.deliverCancel]).get (by decide)

theorem shutdown_starts_nothing_prompt :
    interruptedState.point.isInterrupt = true ∧ interruptedState.queue = [] ∧
      interruptedState.Settled (.image 2) := by
  have h := shutdown_starts_nothing
    (TransitionSystem.exec_get_reachable (M := system ℕ Unit Empty koboldConfig) rfl (by decide) :
      (system ℕ Unit Empty koboldConfig).Reachable promptState) (by decide)
    (TransitionSystem.exec_get_reachable rfl (by decide) : ((system ℕ Unit Empty
      koboldConfig).startingAt (close promptState)).Reachable interruptedState)
  obtain ⟨-, -, -, hqueue, hsettled, -⟩ := h
  refine ⟨by decide, hqueue, ?_⟩
  have haccepted : (interruptedState.images 2).client ≠ .absent ∧
      ¬(interruptedState.images 2).cancelled = true := by decide
  exact (hsettled (.image 2) haccepted.1 haccepted.2).resolve_right (by decide)

/-! ## An unfinished `initialize` -/

/-- An Ollama broker waits for the validation with which `initialize` begins. -/
def validatingState : State ℕ Unit Empty :=
  ((system ℕ Unit Empty ollamaConfig).exec .initial [.startup]).get (by decide)

def freeingState : State ℕ Unit Empty :=
  (((system ℕ Unit Empty ollamaConfig).startingAt (close validatingState)).exec
    (close validatingState) [.reply .done]).get (by decide)

/-- `initialize` does not look at `_closing` and goes on with its calls. -/
theorem initialize_outlives_close :
    (system ℕ Unit Empty ollamaConfig).Reachable validatingState ∧
      validatingState.closing = false ∧
      ((system ℕ Unit Empty ollamaConfig).startingAt (close validatingState)).Reachable
        freeingState ∧
      freeingState.log = .started .startup .freeModels ::
        .finished .startup .validateControl .done :: validatingState.log :=
  ⟨TransitionSystem.exec_get_reachable rfl (by decide), by decide,
    TransitionSystem.exec_get_reachable rfl (by decide), rfl⟩

end StProxy.Coordinator
