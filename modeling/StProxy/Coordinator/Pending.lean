import StProxy.Coordinator.Futures

/-!
# No accepted work is lost

A work that is neither withdrawn nor settled is in the queue or in service, so
nothing is left over when the dispatcher has ended.
-/

namespace StProxy.Coordinator

variable {RP Out BE : Type}

/-- Where the accepted works are. -/
structure Pending (s : State RP Out BE) : Prop where
  accounted : ∀ w, s.Accepted w →
    s.Withdrawn w ∨ s.Settled w ∨ w ∈ s.queue ∨ s.point.current = some w
  monitored : ∀ n promptId, s.point = .monitor n promptId → (s.images n).submitted ≠ none
  unresolved : ∀ n, .chat n ∈ s.queue ∨ s.point.current = some (.chat n) →
    (s.chats n).ready = none

namespace Pending

variable {s s' : State RP Out BE}

theorem initial : Pending (.initial : State RP Out BE) where
  accounted w hw := by cases w <;> exact absurd rfl hw
  monitored := nofun
  unresolved n hn := rfl

theorem not_monitor {p : Point RP} (h : p.isSubmitted = false) (n : ℕ) (promptId : String) :
    p ≠ .monitor n promptId := by
  rintro rfl
  cases h

/-- Futures are resolved and flags are set; no work leaves queue or service
without either. -/
theorem step (h : Pending s) (haccepted : ∀ w, s'.Accepted w → s.Accepted w ∨ w ∈ s'.queue)
    (hkept : ∀ w, s.Accepted w → s.Withdrawn w ∨ s.Settled w → s'.Withdrawn w ∨ s'.Settled w)
    (hplaced : ∀ w, w ∈ s.queue ∨ s.point.current = some w →
      s'.Withdrawn w ∨ s'.Settled w ∨ w ∈ s'.queue ∨ s'.point.current = some w)
    (hmonitored : ∀ n promptId, s'.point = .monitor n promptId → (s'.images n).submitted ≠ none)
    (hunresolved : ∀ n, .chat n ∈ s'.queue ∨ s'.point.current = some (.chat n) →
      (s'.chats n).ready = none) : Pending s' where
  accounted w hw := by
    rcases haccepted w hw with hw | hw
    · rcases h.accounted w hw with hwithdrawn | hsettled | hplace
      · exact (hkept w hw (.inl hwithdrawn)).imp_right .inl
      · exact (hkept w hw (.inr hsettled)).imp_right .inl
      · exact hplaced w hplace
    · exact .inr (.inr (.inl hw))
  monitored := hmonitored
  unresolved := hunresolved

theorem congr (h : Pending s) (hchats : s'.chats = s.chats) (himages : s'.images = s.images)
    (hq : s'.queue = s.queue) (hcur : s'.point.current = s.point.current)
    (hmonitored : ∀ n promptId, s'.point ≠ .monitor n promptId) : Pending s' := by
  refine h.step (fun w hw ↦ .inl ?_) (fun w _ hw ↦ ?_) (fun w hw ↦ ?_)
    (fun n promptId hp ↦ absurd hp (hmonitored n promptId)) fun n hn ↦ ?_
  · cases w <;> simpa [State.Accepted, hchats, himages] using hw
  · cases w <;> simpa [State.Withdrawn, State.Settled, hchats, himages] using hw
  · rw [hq, hcur]
    exact .inr (.inr hw)
  · rw [hchats]
    exact h.unresolved n (by rwa [hq, hcur] at hn)

/-- Futures other than those of waiting chats are resolved. -/
theorem resolved (h : Pending s) (hr : Resolved s s') (hq : ∀ w ∈ s'.queue, w ∈ s.queue)
    (hplaced : ∀ w ∈ s.queue, s'.Withdrawn w ∨ s'.Settled w ∨ w ∈ s'.queue)
    (hready : ∀ n, .chat n ∈ s'.queue ∨ s.point.current = some (.chat n) →
      s'.isDone (.ready n) → s.isDone (.ready n)) : Pending s' := by
  have hpoint := hr.point
  refine h.step (fun w hw ↦ .inl ((hr.accepted w).mp hw))
    (fun w _ hw ↦ hw.imp (hr.withdrawn w).mpr hr.settled) (fun w hw ↦ ?_) (fun n promptId hp ↦ ?_)
    fun n hn ↦ ?_
  · rcases hw with hw | hw
    · rcases hplaced w hw with h' | h' | h'
      · exact .inl h'
      · exact .inr (.inl h')
      · exact .inr (.inr (.inl h'))
    · exact .inr (.inr (.inr (hpoint ▸ hw)))
  · exact hr.isDone (f := .submitted n) (h.monitored n promptId (hpoint ▸ hp))
  · rw [hpoint] at hn
    by_contra hne
    exact hready n hn hne (h.unresolved n (hn.imp_left (hq _)))

theorem ends {w : QueuedWork} (h : Pending s) (hr : Resolved (s.goto .nextWork) s')
    (hq : s'.queue = s.queue) (hcur : s.point.current = some w)
    (hlt : ∀ v ∈ s.queue, w.sequence < v.sequence)
    (honly : ∀ f, s'.isDone f → s.isDone f ∨ f.owner = w)
    (hw : s'.Withdrawn w ∨ s'.Settled w) : Pending s' := by
  have hpoint : s'.point = .nextWork := hr.point
  have hkept {v : QueuedWork} (hv : s.Withdrawn v ∨ s.Settled v) :
      s'.Withdrawn v ∨ s'.Settled v :=
    hv.imp (hr.withdrawn v).mpr fun hv ↦ hr.settled (s := s.goto .nextWork) hv
  refine h.step (fun v hv ↦ .inl ((hr.accepted v).mp hv)) (fun v _ ↦ hkept) (fun v hv ↦ ?_)
    (fun n promptId hp ↦ absurd (hpoint ▸ hp) nofun) fun n hn ↦ ?_
  · rcases hv with hv | hv
    · exact .inr (.inr (.inl (hq ▸ hv)))
    · rw [hcur] at hv
      cases hv
      exact hw.imp_right .inl
  · rw [hpoint, hq] at hn
    have hqueue : .chat n ∈ s.queue := hn.resolve_right nofun
    by_contra hne
    rcases honly (.ready n) hne with hdone | howner
    · exact hdone (h.unresolved n (.inl hqueue))
    · exact absurd (hlt _ hqueue) (howner ▸ Nat.lt_irrefl n)

theorem ended {t : State RP Out BE} (h : Pending s) (hr : Resolved t s')
    (hchats : t.chats = s.chats) (himages : t.images = s.images) (hp : t.point = .ended)
    (hq : s'.queue = [])
    (hsettled : ∀ w, w ∈ s.queue ∨ s.point.current = some w → s'.Settled w) : Pending s' := by
  have hpoint : s'.point = .ended := hr.point.trans hp
  refine h.step (fun w hw ↦ .inl ?_) (fun w _ hw ↦ ?_) (fun w hw ↦ .inr (.inl (hsettled w hw)))
    (fun n promptId hp ↦ absurd (hpoint ▸ hp) (by simp)) fun n hn ↦ ?_
  · have := (hr.accepted w).mp hw
    cases w <;> simpa [State.Accepted, hchats, himages] using this
  · refine hw.imp (fun hw ↦ (hr.withdrawn w).mpr ?_) (fun hw ↦ hr.settled ?_) <;>
      cases w <;> simpa [State.Withdrawn, State.Settled, hchats, himages] using hw
  · rw [hpoint, hq] at hn
    simp [Point.current] at hn

theorem resolves_image {n : ℕ} (h : Pending s) (hr : Resolves [.image n] s s')
    (hq : s'.queue = s.queue) : Pending s' :=
  h.resolved hr.toResolved (fun w hw ↦ hq ▸ hw) (fun w hw ↦ .inr (.inr (hq ▸ hw)))
    fun m _ hd ↦ (hr.only (.ready m) hd).resolve_right (by simp [FutureId.owner])

theorem submitted {n : ℕ} {result : PromptResult} (h : Pending s)
    (hp : s.point = .submitted n result) : Pending (imageSubmitted s n result) := by
  have hr := resolveSubmitted_resolves s n ⟨some result.response, none⟩
  have h' := h.resolves_image hr (by simp)
  have hcur : some (.image n) =
      (resolveSubmitted s n ⟨some result.response, none⟩).point.current := by
    rw [hr.point, hp]
    rfl
  simp only [imageSubmitted]
  split_ifs
  · exact h'.congr rfl rfl rfl hcur (by simp)
  · split
    · exact h'.congr rfl rfl rfl hcur (by simp)
    · next promptId hsome =>
        split_ifs
        · exact h'.congr rfl rfl rfl hcur (by simp)
        · refine h'.step (fun _ ↦ .inl) (fun _ _ ↦ id) (fun w hw ↦ ?_) ?_ fun m hm ↦ ?_
          · exact .inr (.inr (hw.imp_right fun hw ↦ hcur.trans hw))
          · rintro _ _ ⟨⟩
            exact resolveSubmitted_submitted s n _
          · exact h'.unresolved m (hm.imp_right fun hm ↦ hcur.symm.trans hm)

theorem grant {cfg : BrokerConfig} {n : ℕ} (hwf : WellFormed s) (h : Pending s)
    (hp : s.point = .chatGrant n) : Pending (chatGrant cfg s n) := by
  have hcur : s.point.current = some (.chat n) := by rw [hp]; rfl
  have hdeny (error : Option String) : Pending ((resolveChat s n error).goto .nextWork) :=
    h.ends ((resolveChat_resolved s n error).goto .nextWork) (by simp) hcur
      (hwf.current_lt _ hcur) (fun f hf ↦ by simpa using (resolveChat_resolves s n error).only f hf)
      (.inr (resolveChat_ready s n error))
  unfold chatGrant
  split_ifs with hc
  · exact h.ends (.refl _) rfl hcur (hwf.current_lt _ hcur) (fun _ ↦ .inl) (.inl hc)
  · exact hdeny _
  · exact hdeny _
  · let t : State RP Out BE :=
      ({ s.setChat n { s.chats n with granted := true } with
        activeChats := s.activeChats + 1
        state := grantState cfg s.state }).emit (.chatGranted n)
    have hother {m : ℕ} (hm : m ≠ n) : t.chats m = s.chats m := Function.update_of_ne hm _ _
    have hself : t.chats n = { s.chats n with granted := true } := Function.update_self _ _ _
    have hsame (w : QueuedWork) : (t.Accepted w ↔ s.Accepted w) ∧
        (t.Withdrawn w ↔ s.Withdrawn w) ∧ (t.Settled w ↔ s.Settled w) := by
      cases w with
      | chat m =>
          by_cases hm : m = n
          · subst hm
            simp only [State.Accepted, State.Withdrawn, State.Settled, hself, and_self]
          · simp only [State.Accepted, State.Withdrawn, State.Settled, hother hm, and_self]
      | image m => exact ⟨Iff.rfl, Iff.rfl, Iff.rfl⟩
    have ht : Pending t := by
      refine h.step (fun w hw ↦ .inl ((hsame w).1.mp hw))
        (fun w _ hw ↦ hw.imp (hsame w).2.1.mpr (hsame w).2.2.mpr) (fun w hw ↦ .inr (.inr hw))
        (fun m promptId hm ↦ absurd (hp.symm.trans hm) (by simp)) fun m hm ↦ ?_
      by_cases hmn : m = n
      · rw [hmn, hself]
        exact h.unresolved n (.inr hcur)
      · rw [hother hmn]
        exact h.unresolved m hm
    exact ht.ends ((resolveChat_resolved t n none).goto .nextWork) (resolveChat_queue t n none) hcur
      (hwf.current_lt _ hcur) (fun f hf ↦ by simpa using (resolveChat_resolves t n none).only f hf)
      (.inr (resolveChat_ready t n none))

theorem deny {cfg : BrokerConfig} {n : ℕ} (hwf : WellFormed s) (h : Pending s)
    (hp : s.point = .chatDenied n) : Pending (chatDenied cfg s n) := by
  have hcur : s.point.current = some (.chat n) := by rw [hp]; rfl
  exact h.ends ((resolveChat_resolved s n _).goto .nextWork) (by simp [chatDenied]) hcur
    (hwf.current_lt _ hcur)
    (fun f hf ↦ by simpa using (resolveChat_resolves s n _).only f hf)
    (.inr (resolveChat_ready s n _))

theorem endsImage {n : ℕ} {error : String} (hwf : WellFormed s) (h : Pending s)
    (hcur : s.point.current = some (.image n)) :
    Pending ((resolveImageError s n error).goto .nextWork) :=
  h.ends ((resolveImageError_resolved s n error).goto .nextWork) (by simp) hcur
    (hwf.current_lt _ hcur)
    (fun f hf ↦ by simpa using (resolveImageError_resolves s n error).only f hf)
    (.inr (resolveImageError_settled s n error))

theorem raised {n : ℕ} {e : Exn} (hwf : WellFormed s) (h : Pending s)
    (hp : s.point = .imageRaised n e) : Pending (imageRaised s n e) := by
  have hcur : s.point.current = some (.image n) := by rw [hp]; rfl
  simp only [imageRaised]
  split_ifs
  · exact { endsImage (s := s.setState .comfyReady) { hwf with } { h with } hcur with }
  · exact { endsImage (s := s.setState .llmReady) { hwf with } { h with } hcur with }
  · exact { h.endsImage hwf hcur with }
  · exact { endsImage (s := markRecoverable s _) { hwf with } { h with } hcur with }

theorem imageShutdown {n : ℕ} (h : Pending s) (hcur : s.point.current = some (.image n)) :
    Pending (imageShutdown s n) := by
  have hr := resolveImageError_resolves s n "broker is shutting down"
  have hpoint := hr.point
  exact (h.resolves_image hr (by simp)).congr rfl rfl rfl (by rw [hpoint, hcur]; rfl) nofun

theorem moves {cfg : BrokerConfig} (hwf : WellFormed s) (h : Pending s) (hm : Moves cfg s s') :
    Pending s' := by
  cases hm with
  | stay => exact h
  | plain hsusp hm =>
      exact h.congr (congrArg Shared.chats hm.shared) (congrArg Shared.images hm.shared)
        (congrArg Shared.queue hm.shared) hm.follows.current (not_monitor hm.follows.submitted)
  | skip n hp hc =>
      have hcur : s.point.current = some (.chat n) := by rw [hp]; rfl
      exact h.ends (.refl _) rfl hcur (hwf.current_lt _ hcur) (fun _ ↦ .inl) (.inl hc)
  | deny n hp => exact h.deny hwf hp
  | grant n hp => exact h.grant hwf hp
  | withdraw n st err hp hcur hc =>
      exact { endsImage (s := { s with state := st, lastError := err }) { hwf with } { h with }
        hcur with }
  | submit n hp hc => exact h.congr rfl rfl rfl (by rw [hp]; rfl) (by simp)
  | submitted n result hp => exact h.submitted hp
  | raised n e hp => exact h.raised hwf hp
  | shutdown n hp => exact h.imageShutdown (by rw [hp]; rfl)
  | cancelled w hp =>
      have hclosing : s.closing = true := hwf.shutdown (by rw [hp]; rfl)
      have hqueue : s.queue = [] := hwf.closing_queue hclosing
      refine h.ended ((resolveWork_resolved s w _).goto .ended) rfl rfl rfl
        (by simp [dispatcherCancelled, hqueue]) fun v hv ↦ ?_
      rw [hqueue, hp] at hv
      cases hv.resolve_left (List.not_mem_nil)
      exact resolveWork_settled s w _
  | failed w e hp =>
      obtain ⟨hr, hsettled⟩ := dispatcherFailed_resolves s w e
      refine h.ended hr.toResolved rfl rfl rfl (by simp [dispatcherFailed, markFatal])
        fun v hv ↦ hsettled v ?_
      rw [hp] at hv
      exact List.mem_append.mpr (hv.symm.imp_left Option.mem_toList.mpr)

theorem setImage {n : ℕ} {w : ImageWork Out} (h : Pending s)
    (hclient : w.client ≠ .absent → (s.images n).client ≠ .absent)
    (hsubmitted : w.submitted = (s.images n).submitted)
    (hcompletion : w.completion = (s.images n).completion)
    (hcancelled : (s.images n).cancelled = true → w.cancelled = true) :
    Pending (s.setImage n w) := by
  refine h.step (fun v hv ↦ .inl ?_) (fun v _ hv ↦ ?_) (fun v hv ↦ .inr (.inr hv)) ?_ h.unresolved
  · cases v with
    | chat m => exact hv
    | image m =>
        by_cases hm : m = n
        · subst hm
          exact hclient (by simpa [State.Accepted] using hv)
        · simpa [State.Accepted, hm] using hv
  · cases v with
    | chat m => exact hv
    | image m =>
        by_cases hm : m = n
        · subst hm
          refine hv.imp (fun hv ↦ ?_) (fun hv ↦ ?_)
          · simpa [State.Withdrawn] using hcancelled hv
          · simpa [State.Settled, hsubmitted, hcompletion] using hv
        · simpa [State.Withdrawn, State.Settled, hm] using hv
  · intro m promptId hp
    have := h.monitored m promptId hp
    by_cases hm : m = n
    · subst hm
      simpa [hsubmitted] using this
    · simpa [hm] using this

theorem clearRequest {n : ℕ} (h : Pending s) : Pending (clearRequest s n) :=
  h.setImage id rfl rfl id

theorem completed {n : ℕ} {outputs : Out} (h : Pending s)
    (hcur : s.point.current = some (.image n)) (hlt : ∀ v ∈ s.queue, n < v.sequence)
    (hsubmitted : (s.images n).submitted ≠ none) : Pending (imageCompleted s n outputs) := by
  have hr := resolveCompletion_resolved s n ⟨some outputs, none⟩
  have hsettled : (resolveCompletion s n ⟨some outputs, none⟩).Settled (.image n) :=
    ⟨hr.isDone (f := .submitted n) hsubmitted, resolveCompletion_completion s n _⟩
  exact { h.ends (hr.goto .nextWork) (by simp) hcur hlt
    (fun f hf ↦ by simpa using resolveCompletion_only s n _ f hf) (.inr hsettled) with }

theorem starts (hwf : WellFormed s) (h : Pending s) (hs : Starts s s') : Pending s' := by
  cases hs with
  | stay => exact h
  | plain hc hm =>
      exact h.congr (congrArg Shared.chats hm.shared) (congrArg Shared.images hm.shared)
        (congrArg Shared.queue hm.shared) hm.follows.current (not_monitor hm.follows.submitted)
  | pop w rest hp hc hq hclosing hfatal =>
      have hr := (dequeue_resolved s rest w).goto (.dispatch w)
      have hbase : Pending ({ s with queue := rest }.goto (.dispatch w)) := by
        refine h.step (fun _ ↦ .inl) (fun _ _ ↦ id) (fun v hv ↦ .inr (.inr ?_)) nofun fun n hn ↦ ?_
        · rw [hq, hp, List.mem_cons] at hv
          rcases hv with (rfl | hv) | hv
          · exact .inr rfl
          · exact .inl hv
          · cases hv
        · refine h.unresolved n (.inl ?_)
          rw [hq, List.mem_cons]
          exact hn.symm.imp (fun hn ↦ (Option.some.inj hn).symm) id
      exact hbase.resolved ⟨hr.core, hr.chats, hr.images, hr.ready, hr.log⟩ (by simp)
        (fun v hv ↦ .inr (.inr (by simpa using hv)))
        fun n _ hd ↦ ((dequeue_resolves s rest w).only (.ready n) hd).resolve_right nofun
  | finish hp hp' hc hc' hs hfatal hlog =>
      exact h.congr (congrArg Shared.chats hs) (congrArg Shared.images hs)
        (congrArg Shared.queue hs) (by rw [hp, hp']; rfl) (by rw [hp']; nofun)
  | leave n hp hc hl =>
      have hcur : s.point.current = some (.chat n) := by rw [hp]; rfl
      have hclosing : s.closing = false := hwf.not_closing hc (by rw [hp]; rfl)
      have hcancelled := hl.resolve_right (by simp [hclosing])
      exact h.ends (.refl _) rfl hcur (hwf.current_lt _ hcur) (fun _ ↦ .inl) (.inl hcancelled)
  | initFailed by_ call e hp hcall =>
      refine h.congr rfl rfl rfl ?_ nofun
      cases hp' : s.point <;> rw [hp'] at hp <;> first | rfl | cases hp
  | submitReturned n request result hp hc =>
      exact h.clearRequest.congr rfl rfl rfl
        (show _ = s.point.current by rw [hp]; rfl) nofun
  | submitRaised n request e hp hc =>
      exact h.clearRequest.congr rfl rfl rfl
        (show _ = s.point.current by rw [hp]; rfl) nofun
  | promptCompleted n promptId outputs hp hc =>
      have hcur : s.point.current = some (.image n) := by rw [hp]; rfl
      exact { completed (s := s.emit _) { h with } hcur (hwf.current_lt _ hcur)
        (h.monitored n promptId hp) with }
  | promptRaised n promptId e hp hc => exact h.congr rfl rfl rfl (by rw [hp]; rfl) nofun
  | interruptDone n hp hc =>
      exact imageShutdown (s := s.emit _) { h with } (by dsimp only; rw [hp]; rfl)
  | cancel hc hc' hs hfatal hp hcur hlog =>
      exact h.congr (congrArg Shared.chats hs) (congrArg Shared.images hs)
        (congrArg Shared.queue hs) hcur (not_monitor hp.2.2.2.2.2)
  | cancelSubmit n request hp hc =>
      exact h.clearRequest.congr rfl rfl rfl
        (show _ = s.point.current by rw [hp]; rfl) nofun

/-! ## Clients -/

theorem setChat {n : ℕ} {w : ChatWork RP} (h : Pending s)
    (hclient : (s.chats n).client ≠ .absent) (hready : w.ready = (s.chats n).ready)
    (hcancelled : (s.chats n).cancelled = true → w.cancelled = true) :
    Pending (s.setChat n w) := by
  refine h.step (fun v hv ↦ .inl ?_) (fun v _ hv ↦ ?_) (fun v hv ↦ .inr (.inr hv)) h.monitored
    fun m hm ↦ ?_
  · cases v with
    | image m => exact hv
    | chat m =>
        by_cases hm : m = n
        · subst hm
          exact hclient
        · simpa [State.Accepted, hm] using hv
  · cases v with
    | image m => exact hv
    | chat m =>
        by_cases hm : m = n
        · subst hm
          refine hv.imp (fun hv ↦ ?_) (fun hv ↦ ?_)
          · simpa [State.Withdrawn] using hcancelled hv
          · simpa [State.Settled, hready] using hv
        · simpa [State.Withdrawn, State.Settled, hm] using hv
  · have := h.unresolved m hm
    by_cases hmn : m = n
    · subst hmn
      simpa [hready] using this
    · simpa [hmn] using this

/-- A withdrawn work leaves the queue. -/
theorem erase {w : QueuedWork} (h : Pending s) (hw : s.Withdrawn w) :
    Pending { s with queue := s.queue.erase w } := by
  refine h.step (fun _ ↦ .inl) (fun _ _ ↦ id) (fun v hv ↦ ?_) h.monitored
    fun m hm ↦ h.unresolved m (hm.imp_left List.mem_of_mem_erase)
  rcases hv with hv | hv
  · by_cases hvw : v = w
    · exact .inl (hvw ▸ hw)
    · exact .inr (.inr (.inl ((List.mem_erase_of_ne hvw).mpr hv)))
  · exact .inr (.inr (.inr hv))

theorem chatLeave {n : ℕ} {entered : Bool} (h : Pending s)
    (hclient : (s.chats n).client ≠ .absent) : Pending (chatLeave s n entered) := by
  rw [chatLeave_eq]
  have hset : Pending (s.setChat n { s.chats n with
      cancelled := (s.chats n).cancelled || !entered
      granted := false
      client := .gone }) :=
    h.setChat hclient rfl (fun hc ↦ by simp [hc])
  cases entered with
  | true => exact { hset with }
  | false => exact { hset.erase (w := .chat n) (by simp [State.Withdrawn]) with }

theorem withdrawImage {n : ℕ} (h : Pending s) (error : String) :
    Pending (withdrawImage s n error) := by
  let t := (s.setImage n { s.images n with cancelled := true }).emit (.imageCancelled n)
  have ht : Pending t :=
    { h.setImage (n := n) (w := { s.images n with cancelled := true }) id rfl rfl fun _ ↦ rfl with }
  rw [withdrawImage_eq]
  dsimp only
  split
  · have herase := ht.erase (w := .image n) (by simp [t, State.Withdrawn])
    have hr := (removeQueued_resolves t (.image n)).trans (resolveImageError_resolves _ n error)
    exact herase.resolves_image (n := n) { hr with
      toResolved := ⟨hr.core, hr.chats, hr.images, hr.ready, hr.log⟩ } (by simp [t])
  · exact ht

theorem leaveBatch (works : List ℕ) : ∀ s : State RP Out BE, Pending s →
    Pending (works.foldl leaveBatchWork s) := by
  induction works with
  | nil => exact fun s h ↦ h
  | cons n works ih =>
      intro s h
      refine ih _ ?_
      unfold leaveBatchWork
      split
      · exact h.withdrawImage _
      · exact h

theorem chatLease {target : Option RP} (hwf : WellFormed s) (h : Pending s) :
    Pending ((appendQueued ({ s with sequence := s.sequence + 1 }.setChat (s.sequence + 1)
      ⟨none, false, false, target, .waiting⟩) (.chat (s.sequence + 1))).emit
        (.chatAccepted (s.sequence + 1))) := by
  have hnew : (s.chats (s.sequence + 1)).client = .absent :=
    (hwf.fresh _ (Nat.lt_succ_self _)).1
  refine h.step (fun v hv ↦ ?_) (fun v ha hv ↦ ?_) (fun v hv ↦ ?_) h.monitored fun m hm ↦ ?_
  · cases v with
    | image m => exact .inl hv
    | chat m =>
        by_cases hm : m = s.sequence + 1
        · exact .inr (by simp [appendQueued, hm])
        · exact .inl (by simpa [State.Accepted, appendQueued, hm] using hv)
  · cases v with
    | image m => exact hv
    | chat m =>
        have hm : m ≠ s.sequence + 1 := by
          rintro rfl
          exact ha hnew
        simpa [State.Withdrawn, State.Settled, appendQueued, hm] using hv
  · exact .inr (.inr (hv.imp_left (List.mem_append_left _)))
  · by_cases hmn : m = s.sequence + 1
    · simp [appendQueued, hmn]
    · have hm' : .chat m ∈ s.queue ∨ s.point.current = some (.chat m) := by
        simpa [appendQueued, hmn] using hm
      simpa [appendQueued, hmn] using h.unresolved m hm'

theorem appendImage {w : ImageWork Out} (hwf : WellFormed s) (hfutures : Futures s)
    (h : Pending s) : Pending (appendQueued ({ s with sequence := s.sequence + 1 }.setImage
      (s.sequence + 1) w) (.image (s.sequence + 1))) := by
  have hnew : (s.images (s.sequence + 1)).client = .absent :=
    (hfutures.fresh _ (Nat.lt_succ_self _)).1
  refine h.step (fun v hv ↦ ?_) (fun v ha hv ↦ ?_) (fun v hv ↦ ?_) (fun m promptId hp ↦ ?_)
    fun m hm ↦ ?_
  · cases v with
    | chat m => exact .inl hv
    | image m =>
        by_cases hm : m = s.sequence + 1
        · exact .inr (by simp [appendQueued, hm])
        · exact .inl (by simpa [State.Accepted, appendQueued, hm] using hv)
  · cases v with
    | chat m => exact hv
    | image m =>
        have hm : m ≠ s.sequence + 1 := by
          rintro rfl
          exact ha hnew
        simpa [State.Withdrawn, State.Settled, appendQueued, hm] using hv
  · exact .inr (.inr (hv.imp_left (List.mem_append_left _)))
  · have hp' : s.point = .monitor m promptId := hp
    have hm : m ≠ s.sequence + 1 := by
      rintro rfl
      exact absurd (hwf.current_le (.image (s.sequence + 1)) (by rw [hp']; rfl))
        (Nat.not_succ_le_self _)
    simpa [appendQueued, hm] using h.monitored m promptId hp'
  · have hm' : .chat m ∈ s.queue ∨ s.point.current = some (.chat m) := by
      simpa [appendQueued] using hm
    exact h.unresolved m hm'

theorem appendBatch (bodies : List (List UInt8)) : ∀ s : State RP Out BE, WellFormed s →
    s.closing = false → truthy s.fatalError = false → Futures s → Pending s →
      Pending (appendBatch bodies s) := by
  induction bodies with
  | nil => exact fun s _ _ _ _ h ↦ h
  | cons body bodies ih =>
      intro s hwf hclosing hfatal hfutures h
      refine ih _ ?_ hclosing hfatal (hfutures.appendImage rfl (.inr rfl) rfl)
        (h.appendImage hwf hfutures)
      exact { hwf.submitImage hclosing hfatal with }

theorem close (hwf : WellFormed s) (h : Pending s) : Pending (close s) := by
  cases hc : s.closing with
  | true => simpa [Coordinator.close, hc] using h
  | false =>
      refine Pending.resolved (s := { s with
        closing := true
        state := .shuttingDown
        cancelRequested := dispatcherAlive s }) { h with } (close_resolved hc)
        (by simp [close_queue hc]) (fun w hw ↦ .inr (.inl ?_)) fun n hn hd ↦ ?_
      · rw [close_eq hc]
        exact failQueued_settled { s with closing := true, state := .shuttingDown }
          "broker is shutting down" hw
      · have hcur : s.point.current = some (.chat n) :=
          hn.resolve_left (by simp [close_queue hc])
        have hr := failQueued_resolves { s with closing := true, state := .shuttingDown }
          "broker is shutting down"
        rw [close_eq hc] at hd
        rcases hr.only (.ready n) hd with hd | hq
        · exact hd
        · exact absurd (hwf.current_lt _ hcur _ hq) (Nat.lt_irrefl n)

theorem client {cfg : BrokerConfig} (hwf : WellFormed s) (hfutures : Futures s) (h : Pending s)
    (hs : Clients cfg s s') : Pending s' := by
  cases hs with
  | refused => exact h
  | startup hp =>
      unfold initializeStart
      split_ifs <;> exact h.congr rfl rfl rfl (by rw [hp]; rfl) nofun
  | cancelStartup by_ call hinit hcall =>
      refine h.congr rfl rfl rfl ?_ nofun
      cases hp : s.point <;> rw [hp] at hinit <;> first | rfl | cases hinit
  | chatLease target htarget hclosing hfatal => exact h.chatLease hwf
  | chatEnter n error hclient hready herror => exact h.setChat (by simp [hclient]) rfl id
  | chatLeave n entered hclient =>
      refine h.chatLeave ?_
      rw [hclient]
      cases entered <;> nofun
  | submitImage request wantsCompletion hclosing hfatal =>
      exact { h.appendImage hwf hfutures with }
  | imageWake n hclient hsubmitted => exact h.setImage (by simp [hclient]) rfl rfl id
  | imageCancel n hclient =>
      exact (h.setImage (w := { s.images n with client := .gone }) (by simp [hclient]) rfl rfl
        id).withdrawImage _
  | imageBatch bodies hclosing hfatal =>
      exact { appendBatch bodies s hwf hclosing hfatal hfutures h with }
  | batchExit works hworks => exact leaveBatch works _ { h with }
  | close => exact h.close hwf
  | _ => exact { h with }

end Pending

theorem futures_inductive [DecidableEq RP] {cfg : BrokerConfig}
    {ok : State RP Out BE → Action RP Out BE → Prop} :
    InductiveOver cfg ok WellFormed (Futures : State RP Out BE → Prop) where
  initial := .initial
  advance s hwf h := h.moves hwf (advance_moves s)
  resumes _ _ _ hwf h _ hr := h.starts hwf (resumes_starts hr)
  client _ _ _ hwf h _ _ hs := h.client hwf hs

theorem pending_inductive [DecidableEq RP] {cfg : BrokerConfig}
    {ok : State RP Out BE → Action RP Out BE → Prop} :
    InductiveOver cfg ok (fun s ↦ WellFormed s ∧ Futures s)
      (Pending : State RP Out BE → Prop) where
  initial := .initial
  advance s hk h := h.moves hk.1 (advance_moves s)
  resumes _ _ _ hk h _ hr := h.starts hk.1 (resumes_starts hr)
  client _ _ _ hk h _ _ hs := h.client hk.1 hk.2 hs

/-- The work that an event submits to ComfyUI. -/
def Event.submits : Event RP Out BE → Option ℕ
  | .started (.dispatchImage n) (.submit _) => some n
  | _ => none

theorem Event.served_of_submits {e : Event RP Out BE} {n : ℕ} (h : e.submits = some n) :
    e.served = some n := by
  unfold Event.submits at h
  split at h
  · exact h
  · cases h

/-- A submission is a service, and no work is served twice. -/
theorem Fifo.submits_nodup {s : State RP Out BE} (h : Fifo s) :
    (s.log.filterMap Event.submits).Nodup := by
  have hdecreasing := h.decreasing
  rw [List.pairwise_filterMap] at hdecreasing
  rw [List.Nodup, List.pairwise_filterMap]
  refine hdecreasing.imp fun hlt m hm m' hm' ↦ Nat.ne_of_gt ?_
  exact hlt m (Event.served_of_submits hm) m' (Event.served_of_submits hm')

/-- When the dispatcher has ended, nothing is queued or in service. -/
theorem Pending.settled_of_ended {s : State RP Out BE} (hwf : WellFormed s) (h : Pending s)
    (hp : s.point = .ended) {w : QueuedWork} (hw : s.Accepted w) (hwithdrawn : ¬s.Withdrawn w) :
    s.Settled w := by
  rcases h.accounted w hw with hwd | hset | hq | hcur
  · exact absurd hwd hwithdrawn
  · exact hset
  · rw [(hwf.ended hp).1] at hq
    cases hq
  · rw [hp] at hcur
    cases hcur

section
variable [DecidableEq RP] {cfg : BrokerConfig} {s : State RP Out BE}

theorem futures_of_reachable (hs : (system RP Out BE cfg).Reachable s) : Futures s :=
  ((wellFormed_inductive.extend futures_inductive).reachableVia hs).2.2

theorem pending_of_reachable (hs : (system RP Out BE cfg).Reachable s) : Pending s :=
  (((wellFormed_inductive.extend futures_inductive).extend pending_inductive).reachableVia hs).2.2

/-- No accepted work is lost, duplicated or run after its cancellation. -/
theorem work_conserved (hs : (system RP Out BE cfg).Reachable s) :
    ((s.log.filterMap Event.resolvedFuture).Nodup ∧
      ∀ f, f ∈ s.log.filterMap Event.resolvedFuture ↔ s.isDone f) ∧
    (s.log.filterMap Event.submits).Nodup ∧
    (∀ n, .imageCancelled n ∈ s.log ↔ (s.images n).cancelled = true) ∧
    (∀ n request rest, .started (.dispatchImage n) (.submit request) :: rest <:+ s.log →
      .imageCancelled n ∉ rest) ∧
    (∃ counted : Finset ℕ, counted.card = s.activeChats ∧
      (∀ n, n ∈ counted ↔ (s.chats n).granted = true) ∧
      ∀ n, (s.chats n).cancelled = true → n ∉ counted) ∧
    (∀ n outputs, s.HasOutputs n outputs → Returned s.log n outputs) ∧
    (s.point = .ended → ∀ w, s.Accepted w → ¬s.Withdrawn w → s.Settled w) := by
  have hwf : WellFormed s := (wellFormed_inductive.reachableVia hs).2
  have hex := exclusive_of_reachable hs
  have h := futures_of_reachable hs
  obtain ⟨counted, hmem, hcard⟩ := hex.counted
  refine ⟨⟨h.nodup, h.done⟩, (fifo_of_reachable hs).submits_nodup, h.withdrawn, ?_,
    ⟨counted, hcard, hmem, ?_⟩, h.outputs, ?_⟩
  · exact fun n request rest hrest ↦ h.uncancelled _ rest hrest
  · intro n hc hn
    have hgranted := (hmem n).mp hn
    rw [hex.cancelled n hc] at hgranted
    cases hgranted
  · exact fun hp w hw hwithdrawn ↦
      (pending_of_reachable hs).settled_of_ended hwf hp hw hwithdrawn

end

/-- The broker closes with an image in service and a chat in the queue. -/
def closedRun : List (Action ℕ Unit Empty) :=
  [.startup, .submitImage ⟨"/prompt", "", [], []⟩ true, .chatLease none, .wake, .reply .done,
    .reply (.observed none), .close, .deliverCancel]

def closedState : State ℕ Unit Empty :=
  ((system ℕ Unit Empty koboldConfig).exec .initial closedRun).get (by decide)

theorem work_conserved_closed : closedState.Settled (.image 1) ∧ closedState.Settled (.chat 2) :=
  have h := (work_conserved (TransitionSystem.exec_get_reachable (M := system ℕ Unit Empty
    koboldConfig) rfl (by decide) : (system ℕ Unit Empty koboldConfig).Reachable
      closedState)).2.2.2.2.2.2 rfl
  have himage : (closedState.images 1).client ≠ .absent ∧
      ¬(closedState.images 1).cancelled = true := by decide
  have hchat : (closedState.chats 2).client ≠ .absent ∧
      ¬(closedState.chats 2).cancelled = true := by decide
  ⟨h (.image 1) himage.1 himage.2, h (.chat 2) hchat.1 hchat.2⟩

end StProxy.Coordinator
