import StProxy.Coordinator.Moves

/-!
# The queue and the life of the dispatcher

The invariant under all others: the queue is in the order of sequence numbers
and lies after the current work, a work is granted at most once, and after
`close` or a fatal error the dispatcher serves nobody.
-/

namespace StProxy.Coordinator

variable {RP Out BE : Type}

structure WellFormed (s : State RP Out BE) : Prop where
  sorted : s.queue.Pairwise fun v w ↦ v.sequence < w.sequence
  bound : ∀ w ∈ s.queue, w.sequence ≤ s.sequence
  current_le : ∀ w, s.point.current = some w → w.sequence ≤ s.sequence
  current_lt : ∀ w, s.point.current = some w → ∀ v ∈ s.queue, w.sequence < v.sequence
  fresh : ∀ n, s.sequence < n → (s.chats n).client = .absent ∧ (s.chats n).granted = false
  waiting : ∀ n, .chat n ∈ s.queue ∨ s.point.current = some (.chat n) →
    (s.chats n).granted = false
  closing_point : s.closing = true → s.cancelRequested = true ∨ s.point.afterClose = true
  cancel_closing : s.cancelRequested = true → s.closing = true
  closing_queue : s.closing = true → s.queue = []
  fatal_point : truthy s.fatalError = true → s.point.running = false
  shutdown : s.point.shutdown = true → s.closing = true
  live : s.point.isSuspended = false → s.cancelRequested = false
  ended : s.point = .ended → s.queue = [] ∧ (s.closing = true ∨ truthy s.fatalError = true)

namespace WellFormed

variable {s s' : State RP Out BE}

theorem initial : WellFormed (.initial : State RP Out BE) where
  sorted := .nil
  bound := by simp [State.initial]
  current_le := by simp [State.initial, Point.current]
  current_lt := by simp [State.initial, Point.current]
  fresh n _ := ⟨rfl, rfl⟩
  waiting n _ := rfl
  closing_point := nofun
  cancel_closing := nofun
  closing_queue := nofun
  fatal_point := nofun
  shutdown := nofun
  live := nofun
  ended := nofun

theorem not_closing (h : WellFormed s) (hc : s.cancelRequested = false)
    (hp : s.point.afterClose = false) : s.closing = false := by
  cases hclosing : s.closing with
  | false => rfl
  | true =>
      rcases h.closing_point hclosing with h' | h'
      · rw [hc] at h'
        cases h'
      · rw [hp] at h'
        cases h'

theorem not_fatal (h : WellFormed s) (hp : s.point.running = true) :
    truthy s.fatalError = false := by
  cases hfatal : truthy s.fatalError with
  | false => rfl
  | true =>
      have := h.fatal_point hfatal
      rw [hp] at this
      cases this

/-- Outside the handlers of a shutdown the dispatcher runs only before `close`. -/
theorem open_of_running {p : Point RP} (h : WellFormed s) (hp : s.point = p)
    (hsusp : p.isSuspended = false) (hclose : p.afterClose = false) : s.closing = false := by
  subst hp
  exact h.not_closing (h.live hsusp) hclose

/-! ## Moves -/

theorem resolved (h : WellFormed s) (hr : Resolved s s') (hq : s'.queue = s.queue) :
    WellFormed s' := by
  have hpoint : s'.point = s.point := hr.point
  have hseq : s'.sequence = s.sequence := hr.field State.sequence fun _ ↦ rfl
  have hclosing : s'.closing = s.closing := hr.field State.closing fun _ ↦ rfl
  have hcancel : s'.cancelRequested = s.cancelRequested :=
    hr.field State.cancelRequested fun _ ↦ rfl
  have hfatal : s'.fatalError = s.fatalError := hr.field State.fatalError fun _ ↦ rfl
  constructor
  · simpa [hq] using h.sorted
  · simpa [hq, hseq] using h.bound
  · simpa [hpoint, hseq] using h.current_le
  · simpa [hpoint, hq] using h.current_lt
  · simpa [hseq, hr.client, hr.granted] using h.fresh
  · simpa [hq, hpoint, hr.granted] using h.waiting
  · simpa [hclosing, hcancel, hpoint] using h.closing_point
  · simpa [hclosing, hcancel] using h.cancel_closing
  · simpa [hclosing, hq] using h.closing_queue
  · simpa [hfatal, hpoint] using h.fatal_point
  · simpa [hpoint, hclosing] using h.shutdown
  · simpa [hpoint, hcancel] using h.live
  · simpa [hpoint, hq, hclosing, hfatal] using h.ended

theorem congr (h : WellFormed s) (hs : s'.shared = s.shared) (hp : s'.point = s.point)
    (hcancel : s'.cancelRequested = s.cancelRequested) (hfatal : s'.fatalError = s.fatalError) :
    WellFormed s' := by
  have hq : s'.queue = s.queue := congrArg Shared.queue hs
  have hseq : s'.sequence = s.sequence := congrArg Shared.sequence hs
  have hclosing : s'.closing = s.closing := congrArg Shared.closing hs
  have hchats : s'.chats = s.chats := congrArg Shared.chats hs
  constructor
  · simpa [hq] using h.sorted
  · simpa [hq, hseq] using h.bound
  · simpa [hp, hseq] using h.current_le
  · simpa [hp, hq] using h.current_lt
  · simpa [hseq, hchats] using h.fresh
  · simpa [hq, hp, hchats] using h.waiting
  · simpa [hclosing, hcancel, hp] using h.closing_point
  · simpa [hclosing, hcancel] using h.cancel_closing
  · simpa [hclosing, hq] using h.closing_queue
  · simpa [hfatal, hp] using h.fatal_point
  · simpa [hp, hclosing] using h.shutdown
  · simpa [hp, hcancel] using h.live
  · simpa [hp, hq, hclosing, hfatal] using h.ended

/-- A change of the dispatcher's own attributes. -/
theorem scalar {p : Point RP} (h : WellFormed s) (hp : s.point = p) (hs : s'.shared = s.shared)
    (hcancel : s'.cancelRequested = s.cancelRequested)
    (hfatal : s'.fatalError = s.fatalError ∨ s'.fatalError = none)
    (hcur : s'.point.current = p.current ∨ s'.point.current = none)
    (hclose : (!p.afterClose || s'.point.afterClose) = true)
    (hrun : (p.running && s'.point.running) = true)
    (hshut : (p.shutdown || !s'.point.shutdown) = true)
    (hlive : s.cancelRequested = false ∨ s'.point.isSuspended = true) : WellFormed s' := by
  subst hp
  have hq : s'.queue = s.queue := congrArg Shared.queue hs
  have hseq : s'.sequence = s.sequence := congrArg Shared.sequence hs
  have hclosing : s'.closing = s.closing := congrArg Shared.closing hs
  have hchats : s'.chats = s.chats := congrArg Shared.chats hs
  have hcur' : ∀ w, s'.point.current = some w → s.point.current = some w := by
    intro w hw
    rcases hcur with hcur | hcur
    · rw [← hcur, hw]
    · rw [hcur] at hw
      cases hw
  rw [Bool.and_eq_true] at hrun
  constructor
  · simpa [hq] using h.sorted
  · simpa [hq, hseq] using h.bound
  · exact fun w hw ↦ hseq ▸ h.current_le w (hcur' w hw)
  · exact fun w hw ↦ hq ▸ h.current_lt w (hcur' w hw)
  · simpa [hseq, hchats] using h.fresh
  · intro n hn
    rw [hchats]
    exact h.waiting n (hn.imp (hq ▸ ·) (hcur' _))
  · intro hc
    rcases h.closing_point (hclosing ▸ hc) with h' | h'
    · exact .inl (hcancel.trans h')
    · exact .inr (by simpa [h'] using hclose)
  · simpa [hclosing, hcancel] using h.cancel_closing
  · simpa [hclosing, hq] using h.closing_queue
  · intro hf
    have hfalse := h.not_fatal hrun.1
    rcases hfatal with hfatal | hfatal
    · rw [hfatal, hfalse] at hf
      cases hf
    · rw [hfatal] at hf
      cases hf
  · intro hs'
    exact hclosing.trans (h.shutdown (by simpa [hs'] using hshut))
  · intro hsusp
    rcases hlive with hlive | hlive
    · exact hcancel.trans hlive
    · rw [hlive] at hsusp
      cases hsusp
  · intro hended
    rw [hended] at hrun
    cases hrun.2

theorem plain (h : WellFormed s) (hm : Plain s s') (hc : s.cancelRequested = false) :
    WellFormed s' :=
  h.scalar rfl hm.shared hm.cancelRequested hm.fatal (.inl hm.follows.current)
    hm.follows.afterClose hm.follows.running hm.follows.shutdown (.inl hc)

theorem setImage (h : WellFormed s) (n : ℕ) (w : ImageWork Out) : WellFormed (s.setImage n w) :=
  { h with }

theorem grantChat {n : ℕ} {w : ChatWork RP} (h : WellFormed s) (hp : s.point = .chatGrant n) :
    WellFormed ((s.setChat n w).goto .nextWork) := by
  have hcur : s.point.current = some (.chat n) := by rw [hp]; rfl
  have hq : ∀ m, .chat m ∈ s.queue → m ≠ n := by
    rintro m hm rfl
    exact absurd (h.current_lt _ hcur _ hm) (Nat.lt_irrefl _)
  have hg : WellFormed (s.goto .nextWork) :=
    h.scalar hp rfl rfl (.inl rfl) (.inr rfl) rfl rfl rfl (.inr rfl)
  refine { hg with fresh := ?_, waiting := ?_ }
  · intro m hm
    have hne : m ≠ n := by
      rintro rfl
      exact absurd (h.current_le _ hcur) (Nat.not_le.mpr hm)
    simpa [hne] using h.fresh m hm
  · rintro m (hm | hm)
    · simpa [hq m hm] using h.waiting m (.inl hm)
    · cases hm

theorem goto_ended (h : WellFormed s) (hq : s.queue = [])
    (hc : s.closing = true ∨ truthy s.fatalError = true) : WellFormed (s.goto .ended) where
  sorted := h.sorted
  bound := h.bound
  current_le := nofun
  current_lt := nofun
  fresh := h.fresh
  waiting n hn := hn.elim (fun hn ↦ h.waiting n (.inl hn)) nofun
  closing_point _ := .inr rfl
  cancel_closing := h.cancel_closing
  closing_queue := h.closing_queue
  fatal_point _ := rfl
  shutdown := nofun
  live := nofun
  ended _ := ⟨hq, hc⟩

theorem nextWork {w : QueuedWork} (h : WellFormed s) (hcur : s.point.current = some w) :
    WellFormed (s.goto .nextWork) :=
  h.scalar rfl rfl rfl (.inl rfl) (.inr rfl) (by simp [Point.afterClose])
    (by rw [Point.running_of_current hcur]; rfl) (by simp [Point.shutdown]) (.inr rfl)

theorem deny {cfg : BrokerConfig} {n : ℕ} (h : WellFormed s) (hp : s.point = .chatDenied n) :
    WellFormed (chatDenied cfg s n) :=
  (h.nextWork (by rw [hp]; rfl)).resolved ((resolveChat_resolved s n _).goto .nextWork)
    (by simp [chatDenied])

theorem grant {cfg : BrokerConfig} {n : ℕ} (h : WellFormed s) (hp : s.point = .chatGrant n) :
    WellFormed (chatGrant cfg s n) := by
  have hnext : WellFormed (s.goto .nextWork) := h.nextWork (by rw [hp]; rfl)
  unfold chatGrant
  split_ifs
  · exact hnext
  · exact hnext.resolved ((resolveChat_resolved s n _).goto .nextWork) (by simp)
  · exact hnext.resolved ((resolveChat_resolved s n _).goto .nextWork) (by simp)
  · refine WellFormed.resolved ?_ ((resolveChat_resolved _ n none).goto .nextWork) (by simp)
    exact { h.grantChat hp with }

theorem withdraw {n : ℕ} (h : WellFormed s) (hcur : s.point.current = some (.image n)) :
    WellFormed (imageWithdrawn s n) :=
  have hr := (resolveImageError_resolved s n "image request was cancelled").goto .nextWork
  { (h.nextWork hcur).resolved hr (by simp) with }

theorem submitted {n : ℕ} {result : PromptResult} (h : WellFormed s)
    (hp : s.point = .submitted n result) : WellFormed (imageSubmitted s n result) := by
  have hr := resolveSubmitted_resolved s n ⟨some result.response, none⟩
  have h' := h.resolved hr (by simp)
  have hp' := hr.point.trans hp
  have hlive := h'.live (by rw [hp']; rfl)
  simp only [imageSubmitted]
  split_ifs
  · exact h'.scalar hp' rfl rfl (.inl rfl) (.inl rfl) rfl rfl rfl (.inl hlive)
  · split
    · exact h'.scalar hp' rfl rfl (.inl rfl) (.inl rfl) rfl rfl rfl (.inl hlive)
    · split_ifs <;> exact h'.scalar hp' rfl rfl (.inl rfl) (.inl rfl) rfl rfl rfl (.inl hlive)

theorem completed {n : ℕ} {outputs : Out} (h : WellFormed s)
    (hcur : s.point.current = some (.image n)) : WellFormed (imageCompleted s n outputs) :=
  have hr := (resolveCompletion_resolved s n ⟨some outputs, none⟩).goto .nextWork
  { (h.nextWork hcur).resolved hr (by simp) with }

theorem raised {n : ℕ} {e : Exn} (h : WellFormed s) (hp : s.point = .imageRaised n e) :
    WellFormed (imageRaised s n e) := by
  have hnext : WellFormed (s.goto .nextWork) := h.nextWork (by rw [hp]; rfl)
  simp only [imageRaised]
  have hr (t : State RP Out BE) := (resolveImageError_resolved t n e.message).goto .nextWork
  split_ifs
  · exact { WellFormed.resolved (s := (s.setState .comfyReady).goto .nextWork) { hnext with }
      (hr _) (by simp) with }
  · exact { WellFormed.resolved (s := (s.setState .llmReady).goto .nextWork) { hnext with }
      (hr _) (by simp) with }
  · exact { hnext.resolved (hr _) (by simp) with }
  · exact { WellFormed.resolved (s := (markRecoverable s _).goto .nextWork) { hnext with }
      (hr _) (by simp) with }

theorem imageShutdown {n : ℕ} {p : Point RP} (h : WellFormed s) (hp : s.point = p)
    (hcur : p.current = some (.image n)) (hshut : p.shutdown = true)
    (hc : s.cancelRequested = false) :
    WellFormed (Coordinator.imageShutdown s n) := by
  have hr := resolveImageError_resolved s n "broker is shutting down"
  exact (h.resolved hr (by simp)).scalar (hr.point.trans hp) rfl rfl (.inl rfl) (.inl hcur.symm)
    (by simp [Coordinator.imageShutdown, Point.afterClose])
    (by rw [Point.running_of_current hcur]; rfl) (by rw [hshut]; rfl)
    (.inl ((hr.field State.cancelRequested fun _ ↦ rfl).trans hc))

theorem cancelled {w : QueuedWork} (h : WellFormed s) (hp : s.point = .dispatcherCancelled w) :
    WellFormed (dispatcherCancelled s w) := by
  have hr := resolveWork_resolved s w "broker is shutting down"
  have hclosing : s.closing = true := h.shutdown (by rw [hp]; rfl)
  exact (h.goto_ended (h.closing_queue hclosing) (.inl hclosing)).resolved (hr.goto .ended)
    (by simp [dispatcherCancelled])

theorem truthy_failure (e : Exn) :
    truthy (some ("broker dispatcher failed: " ++ e.typeName)) = true := by
  simp

theorem failed {w : Option QueuedWork} {e : Exn} (h : WellFormed s) :
    WellFormed (dispatcherFailed s w e) := by
  let base : State RP Out BE :=
    { s with
      queue := []
      lastError := some e.str
      fatalError := some ("broker dispatcher failed: " ++ e.typeName)
      state := .error
      point := .ended }
  have hbase : WellFormed base :=
    { sorted := .nil
      bound := nofun
      current_le := nofun
      current_lt := nofun
      fresh := h.fresh
      waiting := fun n hn ↦ hn.elim nofun nofun
      closing_point := fun _ ↦ .inr rfl
      cancel_closing := h.cancel_closing
      closing_queue := fun _ ↦ rfl
      fatal_point := fun _ ↦ rfl
      shutdown := nofun
      live := nofun
      ended := fun _ ↦ ⟨rfl, .inr (truthy_failure e)⟩ }
  have hr := dispatcherFailed_resolved s w e
  exact hbase.resolved ⟨hr.core, hr.chats, hr.images, hr.ready, hr.log⟩
    (by simp [dispatcherFailed, markFatal, base])

theorem pop {w : QueuedWork} {rest : List QueuedWork} (h : WellFormed s)
    (hp : s.point = .nextWork) (hc : s.cancelRequested = false) (hq : s.queue = w :: rest)
    (hclosing : s.closing = false) :
    WellFormed ((releaseQueueAccounting { s with queue := rest } w).goto (.dispatch w)) := by
  have hsorted := h.sorted
  rw [hq, List.pairwise_cons] at hsorted
  have hbase : WellFormed ({ s with queue := rest }.goto (.dispatch w)) :=
    { sorted := hsorted.2
      bound := fun v hv ↦ h.bound v (by simp [hq, hv])
      current_le := by
        rintro _ ⟨⟩
        exact h.bound w (by simp [hq])
      current_lt := by
        rintro _ ⟨⟩
        exact hsorted.1
      fresh := h.fresh
      waiting := by
        rintro n (hn | ⟨⟨⟩⟩)
        · exact h.waiting n (.inl (by simp [hq, hn]))
        · exact h.waiting n (.inl (by simp [hq]))
      closing_point := fun hc ↦ absurd hc (by simp [hclosing])
      cancel_closing := h.cancel_closing
      closing_queue := fun hc ↦ absurd hc (by simp [hclosing])
      fatal_point := fun hf ↦ absurd hf (by simp [h.not_fatal (by rw [hp]; rfl)])
      shutdown := nofun
      live := fun _ ↦ hc
      ended := nofun }
  have hr := (dequeue_resolved s rest w).goto (.dispatch w)
  exact hbase.resolved ⟨hr.core, hr.chats, hr.images, hr.ready, hr.log⟩ (by simp)

/-- Cancellation is delivered and leads to the handlers of the routines. -/
theorem delivered {p : Point RP} (h : WellFormed s) (hc : s.cancelRequested = true)
    (hrun : s.point.running = true) (hcur : p.current = s.point.current)
    (hclose : p.afterClose = true) (hp : p.running = true) :
    WellFormed ({ s with cancelRequested := false }.goto p) where
  sorted := h.sorted
  bound := h.bound
  current_le := by simpa [hcur] using h.current_le
  current_lt := by simpa [hcur] using h.current_lt
  fresh := h.fresh
  waiting := by simpa [hcur] using h.waiting
  closing_point _ := .inr hclose
  cancel_closing := nofun
  closing_queue := h.closing_queue
  fatal_point hf := absurd hf (by simp [h.not_fatal hrun])
  shutdown _ := h.cancel_closing hc
  live _ := rfl
  ended hp' := by
    rw [show p = .ended from hp'] at hp
    cases hp

/-- The dispatcher stops between two works. -/
theorem finish (h : WellFormed s) (hp : s.point = .nextWork)
    (hc : s.cancelRequested = true ∨ s.closing = true ∨ truthy s.fatalError = true) :
    WellFormed ({ s with cancelRequested := false }.goto .ended) := by
  have hclosing : s.closing = true := by
    rcases hc with hc | hc | hc
    · exact h.cancel_closing hc
    · exact hc
    · rw [h.not_fatal (by rw [hp]; rfl)] at hc
      cases hc
  exact { h.goto_ended (h.closing_queue hclosing) (.inl hclosing) with
    closing_point := fun _ ↦ .inr rfl
    cancel_closing := nofun
    live := nofun }

theorem goto_initFailed (h : WellFormed s) : WellFormed (s.goto .initFailed) where
  sorted := h.sorted
  bound := h.bound
  current_le := nofun
  current_lt := nofun
  fresh := h.fresh
  waiting n hn := hn.elim (fun hn ↦ h.waiting n (.inl hn)) nofun
  closing_point _ := .inr rfl
  cancel_closing := h.cancel_closing
  closing_queue := h.closing_queue
  fatal_point _ := rfl
  shutdown := nofun
  live := nofun
  ended := nofun

theorem initFailed {e : Exn} (h : WellFormed s) : WellFormed (initRaised s e) :=
  { h.goto_initFailed with
    fatal_point := fun _ ↦ rfl
    ended := nofun }

theorem moves {cfg : BrokerConfig} (h : WellFormed s) (hm : Moves cfg s s') : WellFormed s' := by
  cases hm with
  | stay => exact h
  | plain hsusp hm => exact h.plain hm (h.live hsusp)
  | skip n hp hc => exact h.nextWork (by rw [hp]; rfl)
  | deny n hp => exact h.deny hp
  | grant n hp => exact h.grant hp
  | withdraw n st err hp hcur hc =>
      exact WellFormed.withdraw (s := { s with state := st, lastError := err }) { h with } hcur
  | submit n hp hc => exact h.scalar hp rfl rfl (.inl rfl) (.inl rfl) rfl rfl rfl (.inr rfl)
  | submitted n result hp => exact h.submitted hp
  | raised n e hp => exact h.raised hp
  | shutdown n hp => exact h.imageShutdown hp rfl rfl (h.live (by rw [hp]; rfl))
  | cancelled w hp => exact h.cancelled hp
  | failed w e hp => exact h.failed

theorem starts (h : WellFormed s) (hs : Starts s s') : WellFormed s' := by
  cases hs with
  | stay => exact h
  | plain hc hm => exact h.plain hm hc
  | pop w rest hp hc hq hclosing hfatal => exact h.pop hp hc hq hclosing
  | finish hp hp' hc hc' hs hfatal hlog =>
      exact (h.finish hp hc).congr hs hp' hc' hfatal
  | leave n hp hc hl => exact h.nextWork (by rw [hp]; rfl)
  | initFailed by_ call e hp hcall =>
      exact WellFormed.initFailed (s := s.emit _) { h with }
  | submitReturned n request result hp hc =>
      exact (h.setImage n _).scalar hp rfl rfl (.inl rfl) (.inl rfl) rfl rfl rfl (.inl hc)
  | submitRaised n request e hp hc =>
      exact (h.setImage n _).scalar hp rfl rfl (.inl rfl) (.inl rfl) rfl rfl rfl (.inl hc)
  | promptCompleted n promptId outputs hp hc =>
      exact WellFormed.completed (s := s.emit _) { h with } (by rw [hp]; rfl)
  | promptRaised n promptId e hp hc =>
      exact h.scalar hp rfl rfl (.inl rfl) (.inl rfl) rfl rfl rfl (.inl hc)
  | interruptDone n hp hc =>
      exact WellFormed.imageShutdown (s := s.emit _) { h with } hp rfl rfl hc
  | cancel hc hc' hs hfatal hp hcur hlog =>
      exact (h.delivered hc hp.2.2.2.1 hcur hp.1 hp.2.2.2.2.1).congr hs rfl hc' hfatal
  | cancelSubmit n request hp hc =>
      have hrun : s.point.running = true := by rw [hp]; rfl
      have hcur : (Point.imageCancelled n : Point RP).current = s.point.current := by rw [hp]; rfl
      exact { h.delivered hc hrun hcur rfl rfl with }

/-! ## Clients -/

/-- A client changes its own chat work without granting it. -/
theorem setChat {n : ℕ} {w : ChatWork RP} (h : WellFormed s) (hn : n ≤ s.sequence)
    (hw : w.granted = true → (s.chats n).granted = true) : WellFormed (s.setChat n w) := by
  refine { h with fresh := ?_, waiting := ?_ }
  · intro m hm
    have hne : m ≠ n := by
      rintro rfl
      exact absurd hn (Nat.not_le.mpr hm)
    simpa [hne] using h.fresh m hm
  · intro m hm
    by_cases hmn : m = n
    · subst hmn
      have := h.waiting m hm
      simp only [Function.update_self]
      cases hg : w.granted with
      | false => rfl
      | true =>
          rw [hw hg] at this
          cases this
    · simpa [hmn] using h.waiting m hm

theorem le_of_client (h : WellFormed s) {n : ℕ} (hn : (s.chats n).client ≠ .absent) :
    n ≤ s.sequence := by
  by_contra hlt
  exact hn (h.fresh n (Nat.not_le.mp hlt)).1

theorem append {w : QueuedWork} (h : WellFormed s) (hw : w.sequence = s.sequence + 1)
    (hclosing : s.closing = false) (hfatal : truthy s.fatalError = false)
    (hs : s'.shared = { s.shared with
      queue := s.queue ++ [w], sequence := s.sequence + 1, chats := s'.chats, images := s'.images })
    (hchats : ∀ n, n ≠ w.sequence → s'.chats n = s.chats n)
    (hwork : (s'.chats w.sequence).granted = false)
    (hp : s'.point = s.point) (hcancel : s'.cancelRequested = s.cancelRequested)
    (hfatal' : s'.fatalError = s.fatalError) : WellFormed s' := by
  have hq : s'.queue = s.queue ++ [w] := congrArg Shared.queue hs
  have hseq : s'.sequence = s.sequence + 1 := congrArg Shared.sequence hs
  have hclosing' : s'.closing = false := (congrArg Shared.closing hs).trans hclosing
  constructor
  · rw [hq, List.pairwise_append]
    refine ⟨h.sorted, List.pairwise_singleton _ _, fun v hv u hu ↦ ?_⟩
    rw [List.mem_singleton.mp hu, hw]
    exact Nat.lt_succ_of_le (h.bound v hv)
  · intro v hv
    rw [hq, List.mem_append, List.mem_singleton] at hv
    rw [hseq]
    rcases hv with hv | rfl
    · exact Nat.le_succ_of_le (h.bound v hv)
    · exact Nat.le_of_eq hw
  · intro v hv
    rw [hp] at hv
    rw [hseq]
    exact Nat.le_succ_of_le (h.current_le v hv)
  · intro v hv u hu
    rw [hp] at hv
    rw [hq, List.mem_append, List.mem_singleton] at hu
    rcases hu with hu | rfl
    · exact h.current_lt v hv u hu
    · rw [hw]
      exact Nat.lt_succ_of_le (h.current_le v hv)
  · intro n hn
    rw [hseq] at hn
    rw [hchats n (by omega)]
    exact h.fresh n (by omega)
  · intro n hn
    by_cases hne : n = w.sequence
    · rw [hne, hwork]
    · rw [hchats n hne]
      refine h.waiting n (hn.imp (fun hn ↦ ?_) (hp ▸ ·))
      rw [hq, List.mem_append, List.mem_singleton] at hn
      refine hn.resolve_right ?_
      rintro rfl
      exact hne rfl
  · simp [hclosing']
  · intro hc
    rw [hcancel] at hc
    exact absurd (h.cancel_closing hc) (by simp [hclosing])
  · simp [hclosing']
  · simp [hfatal', hfatal]
  · intro hs'
    rw [hp] at hs'
    exact absurd (h.shutdown hs') (by simp [hclosing])
  · simpa [hp, hcancel] using h.live
  · intro hended
    rw [hp] at hended
    rcases (h.ended hended).2 with hc | hc
    · rw [hclosing] at hc
      cases hc
    · rw [hfatal] at hc
      cases hc

theorem erase (h : WellFormed s) (w : QueuedWork) :
    WellFormed { s with queue := s.queue.erase w } :=
  { h with
    sorted := h.sorted.sublist List.erase_sublist
    bound := fun v hv ↦ h.bound v (List.mem_of_mem_erase hv)
    current_lt := fun v hv u hu ↦ h.current_lt v hv u (List.mem_of_mem_erase hu)
    waiting := fun n hn ↦ h.waiting n (hn.imp_left List.mem_of_mem_erase)
    closing_queue := fun hc ↦ by simp [h.closing_queue hc]
    ended := fun hp ↦ ⟨by simp [(h.ended hp).1], (h.ended hp).2⟩ }

theorem removeQueued (h : WellFormed s) (w : QueuedWork) :
    WellFormed (Coordinator.removeQueued s w).2 := by
  have hr := removeQueued_resolved s w
  exact (h.erase w).resolved ⟨hr.core, hr.chats, hr.images, hr.ready, hr.log⟩ (by simp)

theorem chatLease {target : Option RP} (h : WellFormed s) (hclosing : s.closing = false)
    (hfatal : truthy s.fatalError = false) :
    WellFormed ((appendQueued ({ s with sequence := s.sequence + 1 }.setChat (s.sequence + 1)
      ⟨none, false, false, target, .waiting⟩) (.chat (s.sequence + 1))).emit
        (.chatAccepted (s.sequence + 1))) :=
  h.append (w := .chat (s.sequence + 1)) rfl hclosing hfatal rfl
    (fun n hn ↦ Function.update_of_ne hn _ _) (by simp [QueuedWork.sequence, appendQueued])
    rfl rfl rfl

theorem chatLeave {n : ℕ} (h : WellFormed s) (hn : n ≤ s.sequence) (entered : Bool) :
    WellFormed (Coordinator.chatLeave s n entered) := by
  rw [chatLeave_eq]
  cases entered with
  | false => exact { (h.erase (.chat n)).setChat hn (by nofun) with }
  | true => exact { h.setChat hn (by nofun) with }

theorem submitImage {w : ImageWork Out} (h : WellFormed s) (hclosing : s.closing = false)
    (hfatal : truthy s.fatalError = false) :
    WellFormed ((appendQueued ({ s with sequence := s.sequence + 1 }.setImage (s.sequence + 1) w)
      (.image (s.sequence + 1))).emit (.imagesAccepted [s.sequence + 1])) :=
  h.append (w := .image (s.sequence + 1)) rfl hclosing hfatal rfl (fun _ _ ↦ rfl)
    (h.fresh _ (Nat.lt_succ_self _)).2 rfl rfl rfl

theorem appendBatch (bodies : List (List UInt8)) : ∀ s : State RP Out BE, WellFormed s →
    s.closing = false → truthy s.fatalError = false →
      WellFormed (Coordinator.appendBatch bodies s) := by
  induction bodies with
  | nil => exact fun s h _ _ ↦ h
  | cons body bodies ih =>
      intro s h hclosing hfatal
      refine ih _ ?_ hclosing hfatal
      exact h.append (w := .image (s.sequence + 1)) rfl hclosing hfatal rfl (fun _ _ ↦ rfl)
        (h.fresh _ (Nat.lt_succ_self _)).2 rfl rfl rfl

theorem withdrawImage (h : WellFormed s) (n : ℕ) (error : String) :
    WellFormed (Coordinator.withdrawImage s n error) := by
  have h' := WellFormed.removeQueued (s := (s.setImage n { s.images n with cancelled := true }).emit
    (.imageCancelled n)) { h with } (.image n)
  rw [withdrawImage_eq]
  dsimp only
  split
  · exact h'.resolved (resolveImageError_resolved _ n error) (by simp)
  · exact { h with }

theorem leaveBatch (works : List ℕ) : ∀ s : State RP Out BE, WellFormed s →
    WellFormed (works.foldl leaveBatchWork s) := by
  induction works with
  | nil => exact fun s h ↦ h
  | cons n works ih =>
      intro s h
      refine ih _ ?_
      unfold leaveBatchWork
      split
      · exact h.withdrawImage n _
      · exact h

theorem close (h : WellFormed s) (hsusp : s.point.isSuspended = true) :
    WellFormed (Coordinator.close s) := by
  cases hc : s.closing with
  | true => simpa [Coordinator.close, hc] using h
  | false =>
      let base : State RP Out BE :=
        { s with
          closing := true
          state := .shuttingDown
          cancelRequested := dispatcherAlive s
          queue := [] }
      have hbase : WellFormed base :=
        { h with
          sorted := .nil
          bound := List.forall_mem_nil _
          current_lt := fun _ _ ↦ List.forall_mem_nil _
          waiting := fun n hn ↦ h.waiting n (.inr (hn.resolve_left List.not_mem_nil))
          closing_point := fun _ ↦ by
            simp only [base, dispatcherAlive]
            cases s.point <;> simp [Point.afterClose]
          cancel_closing := fun _ ↦ rfl
          closing_queue := fun _ ↦ rfl
          shutdown := fun _ ↦ rfl
          live := fun hs ↦ absurd hs (by simp [base, hsusp])
          ended := fun _ ↦ ⟨rfl, .inl rfl⟩ }
      have hr := close_resolved hc
      exact hbase.resolved ⟨hr.core, hr.chats, hr.images, hr.ready, hr.log⟩ (close_queue hc)

theorem client {cfg : BrokerConfig} (h : WellFormed s) (hsusp : s.point.isSuspended = true)
    (hs : Clients cfg s s') : WellFormed s' := by
  cases hs with
  | refused => exact h
  | startup hp =>
      unfold initializeStart
      split_ifs <;> exact h.scalar hp rfl rfl (.inl rfl) (.inl rfl) rfl rfl rfl (.inr rfl)
  | cancelStartup by_ call hp hcall => exact { h.goto_initFailed with }
  | chatLease target htarget hclosing hfatal => exact h.chatLease hclosing hfatal
  | chatEnter n error hclient hready herror =>
      exact h.setChat (h.le_of_client (by simp [hclient])) id
  | chatLeave n entered hclient =>
      refine h.chatLeave (h.le_of_client ?_) entered
      rw [hclient]
      cases entered <;> nofun
  | submitImage request wantsCompletion hclosing hfatal => exact h.submitImage hclosing hfatal
  | imageCancel n hclient => exact (h.setImage n _).withdrawImage n _
  | imageBatch bodies hclosing hfatal =>
      exact { WellFormed.appendBatch bodies s h hclosing hfatal with }
  | batchExit works hworks => exact leaveBatch works _ { h with }
  | close => exact h.close hsusp
  | cancelClose hclosing halive =>
      exact { h with
        closing_point := fun _ ↦ .inl rfl
        live := fun hs ↦ absurd hs (by simp [hsusp])
        cancel_closing := fun _ ↦ hclosing }
  | _ => exact { h with }

end WellFormed

/-- The queue is well formed in every reachable state. -/
theorem wellFormed_inductive [DecidableEq RP] {cfg : BrokerConfig}
    {ok : State RP Out BE → Action RP Out BE → Prop} :
    Inductive cfg ok (WellFormed : State RP Out BE → Prop) where
  initial := .initial
  advance s _ h := h.moves (advance_moves s)
  resumes _ _ _ _ h _ hr := h.starts (resumes_starts hr)
  client _ _ _ _ h _ hsusp hs := h.client hsusp hs

end StProxy.Coordinator
