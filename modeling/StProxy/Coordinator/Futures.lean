import StProxy.Coordinator.Fifo

/-!
# The futures of accepted works

Every future is resolved at most once and with a result that is its own, and a
work that is neither withdrawn nor settled is in the queue or in service.
-/

namespace StProxy.Coordinator

variable {RP Out BE : Type}

/-- The work that a future belongs to. -/
def FutureId.owner : FutureId → QueuedWork
  | .ready n => .chat n
  | .submitted n | .completion n => .image n

def Event.resolvedFuture : Event RP Out BE → Option FutureId
  | .resolved f => some f
  | _ => none

namespace State

/-- The work was accepted. -/
def Accepted (s : State RP Out BE) : QueuedWork → Prop
  | .chat n => (s.chats n).client ≠ .absent
  | .image n => (s.images n).client ≠ .absent

/-- The `cancelled` flag of the work is set. -/
def Withdrawn (s : State RP Out BE) : QueuedWork → Prop
  | .chat n => (s.chats n).cancelled = true
  | .image n => (s.images n).cancelled = true

/-- The futures of the work are resolved. -/
def Settled (s : State RP Out BE) : QueuedWork → Prop
  | .chat n => (s.chats n).ready ≠ none
  | .image n => (s.images n).submitted ≠ none ∧ (s.images n).completion ≠ some none

/-- The completion future carries outputs. -/
def HasOutputs (s : State RP Out BE) (n : ℕ) (outputs : Out) : Prop :=
  ∃ error, (s.images n).completion = some (some ⟨some outputs, error⟩)

end State

section
variable {s s' t u : State RP Out BE}

theorem Resolved.isDone (h : Resolved s t) {f : FutureId} (hf : s.isDone f) : t.isDone f := by
  obtain ⟨fs, -, -, -, hdone⟩ := h.log
  exact (hdone f).mpr (.inr hf)

theorem Resolved.accepted (h : Resolved s t) (w : QueuedWork) : t.Accepted w ↔ s.Accepted w := by
  cases w with
  | chat n => simp [State.Accepted, h.client]
  | image n => simp [State.Accepted, h.image_client]

theorem Resolved.withdrawn (h : Resolved s t) (w : QueuedWork) :
    t.Withdrawn w ↔ s.Withdrawn w := by
  cases w with
  | chat n => simp [State.Withdrawn, h.cancelled]
  | image n => simp [State.Withdrawn, h.image_cancelled]

theorem completion_settled {c : Option (Option (ImageOutcome Out))} (h : c ≠ some none) :
    c = none ∨ ∃ outcome, c = some (some outcome) := by
  match c, h with
  | none, _ => exact .inl rfl
  | some (some outcome), _ => exact .inr ⟨outcome, rfl⟩

theorem Resolved.settled (h : Resolved s t) {w : QueuedWork} (hw : s.Settled w) :
    t.Settled w := by
  cases w with
  | chat n => exact h.isDone (f := .ready n) hw
  | image n =>
      refine ⟨h.isDone (f := .submitted n) hw.1, fun hnone ↦ ?_⟩
      have hsome := h.completion_isSome n
      rcases completion_settled hw.2 with hc | hc
      · simp [hnone, hc] at hsome
      · obtain ⟨outcome, ho⟩ := h.isDone (f := .completion n) hc
        rw [hnone] at ho
        cases ho

/-! ## What the resolvers resolve -/

/-- Only futures of the given works are resolved, and none with outputs. -/
structure Resolves (ws : List QueuedWork) (s s' : State RP Out BE) : Prop
    extends Resolved s s' where
  only : ∀ f, s'.isDone f → s.isDone f ∨ f.owner ∈ ws
  outputs : ∀ n outputs, s'.HasOutputs n outputs → s.HasOutputs n outputs

namespace Resolves

variable {ws ws' : List QueuedWork}

theorem trans (h : Resolves ws s t) (h' : Resolves ws' t u) : Resolves (ws ++ ws') s u where
  toResolved := h.toResolved.trans h'.toResolved
  only f hf := by
    rcases h'.only f hf with hf | hf
    · exact (h.only f hf).imp_right (List.mem_append_left ws')
    · exact .inr (List.mem_append_right ws hf)
  outputs n outputs ho := h.outputs n outputs (h'.outputs n outputs ho)

theorem mono (h : Resolves ws s t) (hle : ∀ w ∈ ws, w ∈ ws') : Resolves ws' s t :=
  { h with only := fun f hf ↦ (h.only f hf).imp_right (hle f.owner) }

theorem goto (h : Resolves ws s t) (p : Point RP) : Resolves ws (s.goto p) (t.goto p) where
  toResolved := h.toResolved.goto p
  only f hf := h.only f hf
  outputs := h.outputs

end Resolves

theorem resolveChat_resolves (s : State RP Out BE) (n : ℕ) (error : Option String) :
    Resolves [.chat n] s (resolveChat s n error) where
  toResolved := resolveChat_resolved s n error
  only f hf := by
    unfold resolveChat at hf
    split at hf
    · cases f with
      | ready m =>
          by_cases hm : m = n
          · exact .inr (by simp [hm, FutureId.owner])
          · exact .inl (by simpa [State.isDone, hm] using hf)
      | submitted m => exact .inl hf
      | completion m => exact .inl hf
    · exact .inl hf
  outputs m outputs := by
    unfold resolveChat
    split <;> exact id

theorem resolveSubmitted_resolves (s : State RP Out BE) (n : ℕ) (outcome : SubmissionOutcome) :
    Resolves [.image n] s (resolveSubmitted s n outcome) where
  toResolved := resolveSubmitted_resolved s n outcome
  only f hf := by
    unfold resolveSubmitted at hf
    split at hf
    · cases f with
      | ready m => exact .inl hf
      | submitted m =>
          by_cases hm : m = n
          · exact .inr (by simp [hm, FutureId.owner])
          · exact .inl (by simpa [State.isDone, hm] using hf)
      | completion m => by_cases hm : m = n <;> exact .inl (by simpa [State.isDone, hm] using hf)
    · exact .inl hf
  outputs m outputs := by
    unfold resolveSubmitted
    split
    · by_cases hm : m = n <;> simp [State.HasOutputs, hm]
    · exact id

theorem resolveCompletion_only (s : State RP Out BE) (n : ℕ) (outcome : ImageOutcome Out)
    (f : FutureId) (hf : (resolveCompletion s n outcome).isDone f) :
    s.isDone f ∨ f.owner ∈ [QueuedWork.image n] := by
  unfold resolveCompletion at hf
  split at hf
  · cases f with
    | ready m => exact .inl hf
    | submitted m => by_cases hm : m = n <;> exact .inl (by simpa [State.isDone, hm] using hf)
    | completion m =>
        by_cases hm : m = n
        · exact .inr (by simp [hm, FutureId.owner])
        · exact .inl (by simpa [State.isDone, hm] using hf)
  · exact .inl hf

theorem resolveCompletion_outputs (s : State RP Out BE) (n : ℕ) (outcome : ImageOutcome Out)
    (m : ℕ) (outputs : Out) (h : (resolveCompletion s n outcome).HasOutputs m outputs) :
    s.HasOutputs m outputs ∨ m = n ∧ outcome.outputs = some outputs := by
  unfold resolveCompletion at h
  split at h
  · by_cases hm : m = n
    · obtain ⟨error, h⟩ := h
      simp only [hm, Function.update_self, Option.some.injEq] at h
      exact .inr ⟨hm, by rw [h]⟩
    · exact .inl (by simpa [State.HasOutputs, hm] using h)
  · exact .inl h

theorem resolveImageError_resolves (s : State RP Out BE) (n : ℕ) (error : String) :
    Resolves [.image n] s (resolveImageError s n error) :=
  have hcompletion (t : State RP Out BE) :
      Resolves [.image n] t (resolveCompletion t n ⟨none, some error⟩) :=
    { toResolved := resolveCompletion_resolved t n _
      only := resolveCompletion_only t n _
      outputs := fun m outputs h ↦
        (resolveCompletion_outputs t n _ m outputs h).resolve_right (by simp) }
  ((resolveSubmitted_resolves s n _).trans (hcompletion _)).mono (by simp)

theorem resolveWork_resolves (s : State RP Out BE) (work : QueuedWork) (error : String) :
    Resolves [work] s (resolveWork s work error) := by
  cases work with
  | chat n => exact resolveChat_resolves s n _
  | image n => exact resolveImageError_resolves s n error

theorem dequeue_resolves (s : State RP Out BE) (queue : List QueuedWork) (work : QueuedWork) :
    Resolves [] s (releaseQueueAccounting { s with queue := queue } work) where
  toResolved := dequeue_resolved s queue work
  only f hf := .inl (by cases work <;> exact hf)
  outputs n outputs h := by cases work <;> exact h

theorem removeQueued_resolves (s : State RP Out BE) (work : QueuedWork) :
    Resolves [] s (removeQueued s work).2 := by
  unfold removeQueued
  split
  · exact dequeue_resolves s _ work
  · exact ⟨.refl s, fun _ ↦ .inl, fun _ _ ↦ id⟩

theorem failQueuedLoop_resolves (error : String) (works : List QueuedWork) :
    ∀ s : State RP Out BE, Resolves works s (failQueuedLoop error works s) := by
  induction works with
  | nil => exact fun s ↦ ⟨.refl s, fun _ ↦ .inl, fun _ _ ↦ id⟩
  | cons work rest ih =>
      intro s
      exact ((dequeue_resolves s rest work).trans (resolveWork_resolves _ work error)).trans (ih _)

theorem failQueued_resolves (s : State RP Out BE) (error : String) :
    Resolves s.queue s (failQueued s error) :=
  failQueuedLoop_resolves error s.queue s

theorem resolveChat_ready (s : State RP Out BE) (n : ℕ) (error : Option String) :
    ((resolveChat s n error).chats n).ready ≠ none := by
  unfold resolveChat
  split
  · simp
  · next hsome => simp [hsome]

theorem resolveSubmitted_submitted (s : State RP Out BE) (n : ℕ) (outcome : SubmissionOutcome) :
    ((resolveSubmitted s n outcome).images n).submitted ≠ none := by
  unfold resolveSubmitted
  split
  · simp
  · next hsome => simp [hsome]

theorem resolveCompletion_completion (s : State RP Out BE) (n : ℕ) (outcome : ImageOutcome Out) :
    ((resolveCompletion s n outcome).images n).completion ≠ some none := by
  unfold resolveCompletion
  split
  · simp
  · next hsome => exact hsome

theorem resolveImageError_settled (s : State RP Out BE) (n : ℕ) (error : String) :
    (resolveImageError s n error).Settled (.image n) :=
  ⟨(resolveCompletion_resolved _ n _).isDone (f := .submitted n)
    (resolveSubmitted_submitted s n _), resolveCompletion_completion _ n _⟩

theorem resolveWork_settled (s : State RP Out BE) (work : QueuedWork) (error : String) :
    (resolveWork s work error).Settled work := by
  cases work with
  | chat n => exact resolveChat_ready s n _
  | image n => exact resolveImageError_settled s n error

theorem failQueuedLoop_settled (error : String) (works : List QueuedWork) :
    ∀ s : State RP Out BE, ∀ w ∈ works, (failQueuedLoop error works s).Settled w := by
  induction works with
  | nil => exact fun s w hw ↦ nomatch hw
  | cons work rest ih =>
      intro s w hw
      rcases List.mem_cons.mp hw with rfl | hw
      · exact (failQueuedLoop_resolved error rest _).settled (resolveWork_settled _ w error)
      · exact ih _ w hw

theorem failQueued_settled (s : State RP Out BE) (error : String) {w : QueuedWork}
    (hw : w ∈ s.queue) : (failQueued s error).Settled w :=
  failQueuedLoop_settled error s.queue s w hw

/-- The current work and the queue are resolved when the dispatcher fails. -/
theorem dispatcherFailed_resolves (s : State RP Out BE) (work : Option QueuedWork) (e : Exn) :
    Resolves (work.toList ++ s.queue)
        ({ s with
          lastError := some e.str
          fatalError := some ("broker dispatcher failed: " ++ e.typeName)
          state := .error }.goto .ended)
        (dispatcherFailed s work e) ∧
      ∀ w ∈ work.toList ++ s.queue, (dispatcherFailed s work e).Settled w := by
  let error := "broker dispatcher failed: " ++ e.typeName
  have hfail (t : State RP Out BE) := failQueued_resolves
    { t with fatalError := some error, state := .error } error
  have hsettled (t : State RP Out BE) {w : QueuedWork} := failQueued_settled
    { t with fatalError := some error, state := .error } error (w := w)
  cases work with
  | none =>
      exact ⟨(hfail { s with lastError := some e.str }).goto .ended,
        fun w hw ↦ hsettled { s with lastError := some e.str } hw⟩
  | some work =>
      let t := resolveWork { s with lastError := some e.str } work error
      have hwork : Resolves [work] { s with lastError := some e.str } t :=
        resolveWork_resolves _ work error
      have hqueue : t.queue = s.queue := resolveWork_queue _ work error
      refine ⟨{
        toResolved := dispatcherFailed_resolved s (some work) e
        only := ?_
        outputs := ?_ }, ?_⟩
      · intro f hf
        rcases (hfail t).only f hf with hf | hf
        · exact (hwork.only f hf).imp_right (List.mem_append_left _)
        · exact .inr (List.mem_append_right _ (hqueue ▸ hf))
      · exact fun n outputs ho ↦ hwork.outputs n outputs ((hfail t).outputs n outputs ho)
      · intro w hw
        rcases List.mem_append.mp hw with hw | hw
        · cases List.mem_singleton.mp hw
          exact (hfail t).settled (w := work)
            (resolveWork_settled { s with lastError := some e.str } work error)
        · exact hsettled t (hqueue ▸ hw)

end

/-! ## Resolved at most once -/

/-- The events that say nothing about futures, cancellation and submission. -/
def Event.idle : Event RP Out BE → Bool
  | .resolved _ | .imageCancelled _ | .started (.dispatchImage _) (.submit _) => false
  | _ => true

theorem Event.idle_of_neutral {e : Event RP Out BE} (he : e.neutral = true) : e.idle = true := by
  cases e with
  | started by_ call => cases by_ <;> cases call <;> first | rfl | cases he
  | resolved f => cases he
  | imageCancelled n => cases he
  | _ => rfl

/-- `wait_for_prompt` returned the outputs for this work. -/
def Returned (log : List (Event RP Out BE)) (n : ℕ) (outputs : Out) : Prop :=
  ∃ promptId, .finished (.dispatchImage n) (.waitForPrompt promptId) (.outputs outputs) ∈ log

/-- A workflow that is submitted was not cancelled before. -/
def Uncancelled (e : Event RP Out BE) (rest : List (Event RP Out BE)) : Prop :=
  match e with
  | .started (.dispatchImage n) (.submit _) => .imageCancelled n ∉ rest
  | _ => True

/-- The history of futures, cancellations and submissions. -/
structure Futures (s : State RP Out BE) : Prop where
  nodup : (s.log.filterMap Event.resolvedFuture).Nodup
  done : ∀ f, f ∈ s.log.filterMap Event.resolvedFuture ↔ s.isDone f
  bound : ∀ f, s.isDone f → f.owner.sequence ≤ s.sequence
  outputs : ∀ n outputs, s.HasOutputs n outputs → Returned s.log n outputs
  fresh : ∀ n, s.sequence < n → (s.images n).client = .absent ∧
    (s.images n).cancelled = false ∧ (s.images n).completion = none
  withdrawn : ∀ n, .imageCancelled n ∈ s.log ↔ (s.images n).cancelled = true
  uncancelled : History.Always Uncancelled s.log

namespace Futures

variable {s s' : State RP Out BE}

theorem initial : Futures (.initial : State RP Out BE) where
  nodup := .nil
  done f := by cases f <;> simp [State.initial, State.isDone, ChatWork.absent, ImageWork.absent]
  bound f hf := by
    cases f <;> simp [State.initial, State.isDone, ChatWork.absent, ImageWork.absent] at hf
  outputs n outputs ho := by simp [State.initial, State.HasOutputs, ImageWork.absent] at ho
  fresh n _ := ⟨rfl, rfl, rfl⟩
  withdrawn n := by simp [State.initial, ImageWork.absent]
  uncancelled := History.always_nil _

theorem uncancelled_of_idle {e : Event RP Out BE} (he : e.idle = true)
    (rest : List (Event RP Out BE)) : Uncancelled e rest := by
  unfold Uncancelled
  split
  · cases he
  · trivial

/-- The futures and the flags stay, and idle events are recorded. -/
theorem frame {l : List (Event RP Out BE)} (h : Futures s) (hlog : s'.log = l ++ s.log)
    (hes : ∀ e ∈ l, e.idle = true) (hseq : s.sequence ≤ s'.sequence)
    (hdone : ∀ f, s'.isDone f ↔ s.isDone f)
    (houtputs : ∀ n outputs, s'.HasOutputs n outputs → s.HasOutputs n outputs)
    (hcancelled : ∀ n, (s'.images n).cancelled = (s.images n).cancelled)
    (hfresh : ∀ n, s'.sequence < n → (s'.images n).client = .absent ∧
      (s'.images n).completion = none) : Futures s' := by
  have hfilter : s'.log.filterMap Event.resolvedFuture =
      s.log.filterMap Event.resolvedFuture := by
    rw [hlog, List.filterMap_append, List.filterMap_eq_nil_iff.mpr, List.nil_append]
    intro e he
    cases e <;> first | rfl | exact absurd (hes _ he) nofun
  constructor
  · rw [hfilter]
    exact h.nodup
  · intro f
    rw [hfilter, hdone, h.done]
  · exact fun f hf ↦ (h.bound f ((hdone f).mp hf)).trans hseq
  · intro n outputs ho
    obtain ⟨promptId, hmem⟩ := h.outputs n outputs (houtputs n outputs ho)
    exact ⟨promptId, hlog ▸ List.mem_append_right l hmem⟩
  · intro n hn
    rw [hcancelled]
    exact ⟨(hfresh n hn).1, (h.fresh n (hseq.trans_lt hn)).2.1, (hfresh n hn).2⟩
  · intro n
    rw [hcancelled, ← h.withdrawn, hlog, List.mem_append]
    exact ⟨fun hn ↦ hn.resolve_left fun hn ↦ absurd (hes _ hn) nofun, .inr⟩
  · rw [hlog]
    exact h.uncancelled.append fun e he ↦ uncancelled_of_idle (hes e he)

theorem resolved (h : Futures s) (hr : Resolved s s')
    (hbound : ∀ f, s'.isDone f → f.owner.sequence ≤ s.sequence)
    (houtputs : ∀ n outputs, s'.HasOutputs n outputs → Returned s.log n outputs) :
    Futures s' := by
  obtain ⟨fs, hlog, hnodup, hnew, hdone⟩ := hr.log
  have hseq : s'.sequence = s.sequence := hr.field State.sequence fun _ ↦ rfl
  have hfilter : s'.log.filterMap Event.resolvedFuture =
      fs ++ s.log.filterMap Event.resolvedFuture := by
    rw [hlog, List.filterMap_append, List.filterMap_map]
    congr 1
    exact List.filterMap_some
  constructor
  · rw [hfilter, List.nodup_append]
    refine ⟨hnodup, h.nodup, ?_⟩
    rintro f hf _ hf' rfl
    exact hnew f hf ((h.done f).mp hf')
  · intro f
    rw [hfilter, List.mem_append, h.done, hdone]
  · rw [hseq]
    exact hbound
  · intro n outputs ho
    obtain ⟨promptId, hmem⟩ := houtputs n outputs ho
    exact ⟨promptId, hlog ▸ List.mem_append_right _ hmem⟩
  · intro n hn
    obtain ⟨hclient, hcancelled, hcompletion⟩ := h.fresh n (hseq ▸ hn)
    refine ⟨(hr.image_client n).trans hclient, (hr.image_cancelled n).trans hcancelled, ?_⟩
    have hsome := hr.completion_isSome n
    rw [hcompletion] at hsome
    exact Option.not_isSome_iff_eq_none.mp (by simp [hsome])
  · intro n
    rw [hr.image_cancelled, ← h.withdrawn, hlog, List.mem_append]
    exact ⟨fun hn ↦ hn.resolve_left (by simp), .inr⟩
  · rw [hlog]
    refine h.uncancelled.append fun e he rest ↦ ?_
    obtain ⟨f, -, rfl⟩ := List.mem_map.mp he
    trivial

/-- Errors are set on futures of works that exist. -/
theorem resolves {ws : List QueuedWork} (h : Futures s) (hr : Resolves ws s s')
    (hws : ∀ w ∈ ws, w.sequence ≤ s.sequence) : Futures s' :=
  h.resolved hr.toResolved
    (fun f hf ↦ (hr.only f hf).elim (h.bound f) (hws f.owner))
    fun n outputs ho ↦ h.outputs n outputs (hr.outputs n outputs ho)

/-- Nothing but idle events. -/
theorem quiet {l : List (Event RP Out BE)} (h : Futures s) (hlog : s'.log = l ++ s.log)
    (hes : ∀ e ∈ l, e.idle = true) (hs : s'.shared = s.shared) : Futures s' := by
  have hseq : s'.sequence = s.sequence := congrArg Shared.sequence hs
  have hchats : s'.chats = s.chats := congrArg Shared.chats hs
  have himages : s'.images = s.images := congrArg Shared.images hs
  refine h.frame hlog hes hseq.ge (fun f ↦ ?_) (fun n outputs ho ↦ ?_) (fun n ↦ by rw [himages])
    fun n hn ↦ ?_
  · unfold State.isDone
    rw [hchats, himages]
  · unfold State.HasOutputs at ho
    rwa [himages] at ho
  · rw [himages]
    exact ⟨(h.fresh n (hseq ▸ hn)).1, (h.fresh n (hseq ▸ hn)).2.2⟩

theorem congr (h : Futures s) (hlog : s'.log = s.log) (hs : s'.shared = s.shared) : Futures s' :=
  h.quiet (l := []) hlog (List.forall_mem_nil _) hs

theorem setState {st : HandoffState} (h : Futures s) : Futures (s.setState st) := h.congr rfl rfl

theorem goto {p : Point RP} (h : Futures s) : Futures (s.goto p) := h.congr rfl rfl

theorem finally_goto {errors : List String} {p : Point RP} (h : Futures s) :
    Futures ((imageFinally s errors).goto p) := h.congr rfl rfl

theorem emit {e : Event RP Out BE} (h : Futures s) (he : e.idle = true) : Futures (s.emit e) :=
  h.quiet (l := [e]) rfl (by simpa) rfl

theorem isDone_setChat {n : ℕ} {w : ChatWork RP} (hready : w.ready = (s.chats n).ready)
    (f : FutureId) : (s.setChat n w).isDone f ↔ s.isDone f := by
  cases f with
  | ready m =>
      by_cases hm : m = n
      · subst hm
        simp [State.isDone, hready]
      · simp [State.isDone, hm]
  | submitted m => rfl
  | completion m => rfl

theorem isDone_setImage {n : ℕ} {w : ImageWork Out}
    (hsubmitted : w.submitted = (s.images n).submitted)
    (hcompletion : ∀ outcome, w.completion = some (some outcome) ↔
      (s.images n).completion = some (some outcome)) (f : FutureId) :
    (s.setImage n w).isDone f ↔ s.isDone f := by
  cases f with
  | ready m => rfl
  | submitted m =>
      by_cases hm : m = n
      · subst hm
        simp [State.isDone, hsubmitted]
      · simp [State.isDone, hm]
  | completion m =>
      by_cases hm : m = n
      · subst hm
        simp [State.isDone, hcompletion]
      · simp [State.isDone, hm]

theorem hasOutputs_setImage {n : ℕ} {w : ImageWork Out}
    (hcompletion : ∀ outcome, w.completion = some (some outcome) ↔
      (s.images n).completion = some (some outcome)) (m : ℕ) (outputs : Out)
    (ho : (s.setImage n w).HasOutputs m outputs) : s.HasOutputs m outputs := by
  obtain ⟨error, ho⟩ := ho
  by_cases hm : m = n
  · subst hm
    exact ⟨error, (hcompletion _).mp (by simpa using ho)⟩
  · exact ⟨error, by simpa [hm] using ho⟩

theorem setChat {n : ℕ} {w : ChatWork RP} (h : Futures s)
    (hready : w.ready = (s.chats n).ready) : Futures (s.setChat n w) :=
  h.frame (l := []) rfl (by simp) (le_refl _) (isDone_setChat hready) (fun _ _ ↦ id)
    (fun _ ↦ rfl) fun n hn ↦ ⟨(h.fresh n hn).1, (h.fresh n hn).2.2⟩

theorem setImage {n : ℕ} {w : ImageWork Out} (h : Futures s) (hn : n ≤ s.sequence)
    (hsubmitted : w.submitted = (s.images n).submitted)
    (hcompletion : w.completion = (s.images n).completion)
    (hcancelled : w.cancelled = (s.images n).cancelled) : Futures (s.setImage n w) := by
  refine h.frame (l := []) rfl (by simp) (le_refl _)
    (isDone_setImage hsubmitted fun outcome ↦ by rw [hcompletion])
    (hasOutputs_setImage fun outcome ↦ by rw [hcompletion]) (fun m ↦ ?_) fun m hm ↦ ?_
  · by_cases hm : m = n
    · subst hm
      simpa using hcancelled
    · simp [hm]
  · have hne : m ≠ n := by
      rintro rfl
      exact absurd hn (Nat.not_le.mpr hm)
    simpa [hne] using ⟨(h.fresh m hm).1, (h.fresh m hm).2.2⟩

theorem clearRequest {n : ℕ} (h : Futures s) (hn : n ≤ s.sequence) : Futures (clearRequest s n) :=
  h.setImage hn rfl rfl rfl

/-- The end of a prompt whose outputs were just returned. -/
theorem completed {n : ℕ} {promptId : String} {outputs : Out} (h : Futures s)
    (hn : n ≤ s.sequence) : Futures (imageCompleted
      (s.emit (.finished (.dispatchImage n) (.waitForPrompt promptId) (.outputs outputs))) n
        outputs) := by
  let t := s.emit (.finished (.dispatchImage n) (.waitForPrompt promptId) (.outputs outputs))
  have ht : Futures t := h.emit rfl
  have hr := resolveCompletion_resolved t n ⟨some outputs, none⟩
  have hresolved : Futures (resolveCompletion t n ⟨some outputs, none⟩) := by
    refine ht.resolved hr (fun f hf ↦ ?_) fun m outputs' ho ↦ ?_
    · rcases resolveCompletion_only t n _ f hf with hf | hf
      · exact ht.bound f hf
      · rw [List.mem_singleton.mp hf]
        exact hn
    · rcases resolveCompletion_outputs t n _ m outputs' ho with ho | ⟨rfl, heq⟩
      · exact ht.outputs m outputs' ho
      · cases heq
        exact ⟨promptId, List.mem_cons_self⟩
  exact hresolved.setState.finally_goto

theorem submit {n : ℕ} (h : Futures s) (hc : (s.images n).cancelled = false) :
    Futures ((s.setState .imageActive).await (.submit n (s.images n).request) (.dispatchImage n)
      (.submit (s.images n).request)) :=
  { h with
    outputs := fun m outputs ho ↦ by
      obtain ⟨promptId, hmem⟩ := h.outputs m outputs ho
      exact ⟨promptId, List.mem_cons_of_mem _ hmem⟩
    withdrawn := fun m ↦ by simpa using h.withdrawn m
    uncancelled := by
      rw [History.always_cons]
      refine ⟨fun hmem ↦ ?_, h.uncancelled⟩
      rw [h.withdrawn, hc] at hmem
      cases hmem }

theorem grant {cfg : BrokerConfig} {n : ℕ} (h : Futures s) (hn : n ≤ s.sequence) :
    Futures (chatGrant cfg s n) := by
  have hws : ∀ w ∈ [QueuedWork.chat n], w.sequence ≤ s.sequence := by simpa [QueuedWork.sequence]
  have hdeny (error : Option String) : Futures ((resolveChat s n error).goto .nextWork) :=
    { h.resolves (resolveChat_resolves s n error) hws with }
  unfold chatGrant
  split_ifs
  · exact { h with }
  · exact hdeny _
  · exact hdeny _
  · refine Futures.resolves ?_ ((resolveChat_resolves _ n none).goto .nextWork) hws
    have hset : Futures (s.setChat n { s.chats n with granted := true }) := h.setChat rfl
    exact { hset.emit (e := .chatGranted n) rfl with }

theorem moves {cfg : BrokerConfig} (hwf : WellFormed s) (h : Futures s) (hm : Moves cfg s s') :
    Futures s' := by
  have hcur {w : QueuedWork} (hw : s.point.current = some w) :
      ∀ v ∈ [w], v.sequence ≤ s.sequence := by simpa using hwf.current_le w hw
  cases hm with
  | stay => exact h
  | plain hsusp hm =>
      obtain ⟨l, hlog, hes⟩ := hm.log
      exact h.quiet hlog (fun e he ↦ Event.idle_of_neutral (hes e he)) hm.shared
  | skip n hp hc => exact h.goto
  | deny n hp =>
      exact (h.resolves (resolveChat_resolves s n _) (hcur (by rw [hp]; rfl))).goto
  | grant n hp => exact h.grant (hwf.current_le (.chat n) (by rw [hp]; rfl))
  | withdraw n st err hp hw hc =>
      let t : State RP Out BE := { s with state := st, lastError := err }
      exact (Futures.resolves (s := t) (h.congr rfl rfl) (resolveImageError_resolves t n _)
        (hcur hw)).finally_goto
  | submit n hp hc => exact h.submit hc
  | submitted n result hp =>
      have h' := h.resolves (resolveSubmitted_resolves s n ⟨some result.response, none⟩)
        (hcur (by rw [hp]; rfl))
      unfold imageSubmitted
      dsimp only
      generalize resolveSubmitted s n ⟨some result.response, none⟩ = u at h' ⊢
      split_ifs
      · exact h'.goto
      · split
        · exact h'.goto
        · split_ifs
          · exact h'.goto
          · exact (h'.emit (e := .started (.dispatchImage n) (.waitForPrompt _)) rfl).congr rfl rfl
  | raised n e hp =>
      have hr (t : State RP Out BE) := resolveImageError_resolves t n e.message
      have hws := hcur (w := .image n) (by rw [hp]; rfl)
      simp only [imageRaised]
      split_ifs
      · exact (Futures.resolves (s := s.setState .comfyReady) h.setState (hr _) hws).finally_goto
      · exact (Futures.resolves (s := s.setState .llmReady) h.setState (hr _) hws).finally_goto
      · exact (h.resolves (hr _) hws).finally_goto
      · exact (Futures.resolves (s := markRecoverable s _) (h.congr rfl rfl) (hr _)
          hws).finally_goto
  | shutdown n hp =>
      exact (h.resolves (resolveImageError_resolves s n _) (hcur (by rw [hp]; rfl))).finally_goto
  | cancelled w hp =>
      exact (h.resolves (resolveWork_resolves s w _) (hcur (by rw [hp]; rfl))).goto
  | failed w e hp =>
      refine Futures.resolves ?_ (dispatcherFailed_resolves s w e).1 fun v hv ↦ ?_
      · exact { h with }
      · rcases List.mem_append.mp hv with hv | hv
        · exact hwf.current_le v (by rw [hp]; exact Option.mem_toList.mp hv)
        · exact hwf.bound v hv

theorem starts (hwf : WellFormed s) (h : Futures s) (hs : Starts s s') : Futures s' := by
  cases hs with
  | stay => exact h
  | plain hc hm =>
      obtain ⟨l, hlog, hes⟩ := hm.log
      exact h.quiet hlog (fun e he ↦ Event.idle_of_neutral (hes e he)) hm.shared
  | pop w rest hp hc hq hclosing hfatal =>
      exact { h.resolves (dequeue_resolves s rest w) (by simp) with }
  | finish hp hp' hc hc' hs hfatal hlog => exact h.congr hlog hs
  | leave n hp hc hl => exact { h with }
  | initFailed by_ call e hp hcall => exact { h.emit (e := .finished by_ call _) rfl with }
  | submitReturned n request result hp hc =>
      exact { (h.emit (e := .finished (.dispatchImage n) (.submit request) _) rfl).clearRequest
        (hwf.current_le (.image n) (by rw [hp]; rfl)) with }
  | submitRaised n request e hp hc =>
      exact { (h.emit (e := .finished (.dispatchImage n) (.submit request) _) rfl).clearRequest
        (hwf.current_le (.image n) (by rw [hp]; rfl)) with }
  | promptCompleted n promptId outputs hp hc =>
      exact h.completed (hwf.current_le (.image n) (by rw [hp]; rfl))
  | promptRaised n promptId e hp hc =>
      exact { h.emit (e := .finished (.dispatchImage n) (.waitForPrompt promptId) _) rfl with }
  | interruptDone n hp hc =>
      have hws : ∀ w ∈ [QueuedWork.image n], w.sequence ≤ s.sequence := by
        simpa using hwf.current_le (.image n) (by rw [hp]; rfl)
      have hemit : Futures (s.emit (.finished (.dispatchImage n) .interrupt .done)) := h.emit rfl
      exact { hemit.resolves (resolveImageError_resolves _ n _) hws with }
  | cancel hc hc' hs hfatal hp hcur hlog =>
      rcases hlog with hlog | ⟨by_, call, hlog⟩
      · exact h.congr hlog hs
      · exact h.quiet (l := [.interrupted by_ call]) hlog (by simp [Event.idle]) hs
  | cancelSubmit n request hp hc =>
      exact { (h.emit (e := .interrupted (.dispatchImage n) (.submit request)) rfl).clearRequest
        (hwf.current_le (.image n) (by rw [hp]; rfl)) with }

/-! ### Clients -/

theorem appendImage {w : ImageWork Out} (h : Futures s) (hsubmitted : w.submitted = none)
    (hcompletion : w.completion = none ∨ w.completion = some none)
    (hcancelled : w.cancelled = false) :
    Futures (appendQueued ({ s with sequence := s.sequence + 1 }.setImage (s.sequence + 1) w)
      (.image (s.sequence + 1))) := by
  obtain ⟨-, hcancelled', hcompletion'⟩ := h.fresh _ (Nat.lt_succ_self s.sequence)
  have hsub : (s.images (s.sequence + 1)).submitted = none := by
    by_contra hne
    exact absurd (h.bound (.submitted (s.sequence + 1)) hne) (Nat.not_succ_le_self _)
  have hcomp (outcome : ImageOutcome Out) : w.completion = some (some outcome) ↔
      (s.images (s.sequence + 1)).completion = some (some outcome) := by
    rw [hcompletion']
    rcases hcompletion with hc | hc <;> simp [hc]
  refine h.frame (l := []) rfl (by simp) (Nat.le_succ _)
    (isDone_setImage (hsubmitted.trans hsub.symm) hcomp) (hasOutputs_setImage hcomp)
    (fun m ↦ ?_) fun m hm ↦ ?_
  · by_cases hm : m = s.sequence + 1
    · simp [appendQueued, hm, hcancelled, hcancelled']
    · simp [appendQueued, hm]
  · have hne : m ≠ s.sequence + 1 := Nat.ne_of_gt hm
    obtain ⟨hclient, -, hnone⟩ := h.fresh m (Nat.lt_of_succ_lt hm)
    simp [appendQueued, hne, hclient, hnone]

theorem appendBatch (bodies : List (List UInt8)) : ∀ s : State RP Out BE, Futures s →
    Futures (appendBatch bodies s) := by
  induction bodies with
  | nil => exact fun s h ↦ h
  | cons body bodies ih => exact fun s h ↦ ih _ (h.appendImage rfl (.inr rfl) rfl)

theorem le_of_client (h : Futures s) {n : ℕ} (hn : (s.images n).client ≠ .absent) :
    n ≤ s.sequence := by
  by_contra hlt
  exact hn (h.fresh n (Nat.not_le.mp hlt)).1

theorem withdrawImage {n : ℕ} (h : Futures s) (hn : n ≤ s.sequence) (error : String) :
    Futures (withdrawImage s n error) := by
  have hw : Futures
      ((s.setImage n { s.images n with cancelled := true }).emit (.imageCancelled n)) := by
    have hdone := isDone_setImage (s := s) (n := n) (w := { s.images n with cancelled := true }) rfl
      fun _ ↦ Iff.rfl
    have houtputs := hasOutputs_setImage (s := s) (n := n)
      (w := { s.images n with cancelled := true }) fun _ ↦ Iff.rfl
    refine ⟨h.nodup, ?_, ?_, ?_, ?_, ?_, ?_⟩
    · exact fun f ↦ (h.done f).trans (hdone f).symm
    · exact fun f hf ↦ h.bound f ((hdone f).mp hf)
    · intro m outputs ho
      obtain ⟨promptId, hmem⟩ := h.outputs m outputs (houtputs m outputs ho)
      exact ⟨promptId, List.mem_cons_of_mem _ hmem⟩
    · intro m hm
      have hne : m ≠ n := by
        rintro rfl
        exact absurd hn (Nat.not_le.mpr hm)
      simpa [hne] using h.fresh m hm
    · intro m
      by_cases hm : m = n
      · simp [hm]
      · simpa [hm] using h.withdrawn m
    · rw [History.always_cons]
      exact ⟨trivial, h.uncancelled⟩
  rw [withdrawImage_eq]
  dsimp only
  split
  · refine hw.resolves ((removeQueued_resolves _ _).trans (resolveImageError_resolves _ n error)) ?_
    simpa [QueuedWork.sequence] using hn
  · exact hw

theorem leaveBatch (works : List ℕ) : ∀ s : State RP Out BE, Futures s →
    Futures (works.foldl leaveBatchWork s) := by
  induction works with
  | nil => exact fun s h ↦ h
  | cons n works ih =>
      intro s h
      refine ih _ ?_
      unfold leaveBatchWork
      split
      · next hpending =>
          refine h.withdrawImage ?_ _
          by_contra hlt
          rw [(h.fresh n (Nat.not_le.mp hlt)).2.2] at hpending
          cases hpending
      · exact h

theorem chatLease {target : Option RP} (h : Futures s) :
    Futures ((appendQueued ({ s with sequence := s.sequence + 1 }.setChat (s.sequence + 1)
      ⟨none, false, false, target, .waiting⟩) (.chat (s.sequence + 1))).emit
        (.chatAccepted (s.sequence + 1))) := by
  have hready : (s.chats (s.sequence + 1)).ready = none := by
    by_contra hne
    exact absurd (h.bound (.ready (s.sequence + 1)) hne) (Nat.not_succ_le_self _)
  refine h.frame (l := [.chatAccepted (s.sequence + 1)]) rfl (by simp [Event.idle])
    (Nat.le_succ _) (isDone_setChat hready.symm) (fun _ _ ↦ id) (fun _ ↦ rfl) fun m hm ↦ ?_
  obtain ⟨hclient, -, hnone⟩ := h.fresh m (Nat.lt_of_succ_lt hm)
  exact ⟨hclient, hnone⟩

theorem chatLeave (h : Futures s) (n : ℕ) (entered : Bool) : Futures (chatLeave s n entered) := by
  rw [chatLeave_eq]
  refine h.frame rfl ?_ (le_refl _) (isDone_setChat rfl) (fun _ _ ↦ id) (fun _ ↦ rfl)
    fun m hm ↦ ⟨(h.fresh m hm).1, (h.fresh m hm).2.2⟩
  intro e he
  split at he
  · cases List.mem_singleton.mp he
    rfl
  · cases he

theorem close (hwf : WellFormed s) (h : Futures s) : Futures (close s) := by
  unfold Coordinator.close
  split
  · exact h
  · have hr := failQueued_resolves { s with closing := true, state := .shuttingDown }
      "broker is shutting down"
    exact { Futures.resolves (s := { s with closing := true, state := .shuttingDown })
      { h with } hr hwf.bound with }

theorem client {cfg : BrokerConfig} (hwf : WellFormed s) (h : Futures s)
    (hs : Clients cfg s s') : Futures s' := by
  cases hs with
  | refused => exact h
  | startup hp =>
      unfold initializeStart
      split_ifs
      · exact { h with }
      · exact { h.emit (e := .started .startup .validateControl) rfl with }
  | cancelStartup by_ call hinit hcall => exact { h.emit (e := .interrupted by_ call) rfl with }
  | chatLease target htarget hclosing hfatal => exact h.chatLease
  | chatEnter n error hclient hready herror => exact h.setChat rfl
  | chatLeave n entered hclient => exact h.chatLeave n entered
  | routerFailed n hreserves hclient hgranted => exact { h.emit (e := .routerFailed n) rfl with }
  | control hclosing howner hstate => exact { h.emit (e := .controlGranted) rfl with }
  | controlExit hheld => exact { h.emit (e := .controlReleased) rfl with }
  | submitImage request wantsCompletion hclosing hfatal =>
      refine Futures.emit (h.appendImage rfl ?_ rfl) rfl
      cases wantsCompletion
      · exact .inl rfl
      · exact .inr rfl
  | imageWake n hclient hsubmitted =>
      exact h.setImage (h.le_of_client (by simp [hclient])) rfl rfl rfl
  | imageCancel n hclient =>
      have hn : n ≤ s.sequence := h.le_of_client (by simp [hclient])
      exact (h.setImage (w := { s.images n with client := .gone }) hn rfl rfl rfl).withdrawImage
        hn _
  | imageBatch bodies hclosing hfatal =>
      exact { (appendBatch bodies s h).emit (e := .imagesAccepted _) rfl with }
  | batchExit works hworks => exact leaveBatch works _ { h with }
  | close => exact h.close hwf
  | backend e => exact h.emit rfl
  | _ => exact { h with }

end Futures

end StProxy.Coordinator
