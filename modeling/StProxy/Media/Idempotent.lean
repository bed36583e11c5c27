import StProxy.Media.Moves
import StProxy.Workflows.Values

/-!
# One job for each identifier

The fingerprint is taken before seeds are drawn, and the registry is read and written
without an `await` in between.
-/

namespace StProxy.Media

open Json Workflows

section Jobs

variable {F : Type} {closing : Bool} {job job' : Job F}

/-- The task was not cancelled. -/
def Job.Uncancelled (job : Job F) : Prop :=
  match job.work with
  | .image item => item.Calm
  | .batch batch => batch.cancelling = false ∧ batch.point ≠ .done true

lemma Job.Uncancelled.isCancelled (h : job.Uncancelled) : job.isCancelled = false := by
  unfold Job.Uncancelled at h
  unfold Job.isCancelled
  cases hwork : job.work with
  | image item =>
      rw [hwork] at h
      exact h.not_cancelled
  | batch batch =>
      rw [hwork] at h
      dsimp only at h ⊢
      split
      · next cancelled hpoint =>
          cases cancelled with
          | true => exact absurd hpoint h.2
          | false => rfl
      · rfl

lemma Batch.Moves.uncancelled {batch batch' : Batch} (h : batch.Moves closing batch')
    (hbatch : batch.cancelling = false ∧ batch.point ≠ .done true) :
    batch'.cancelling = false ∧ batch'.point ≠ .done true := by
  cases h with
  | item hitem h => exact hbatch
  | dropped hpoint hcancel | interrupted hpoint hcancel | stopped hpoint hdone hcancel =>
      exact absurd (hbatch.1.symm.trans hcancel) Bool.false_ne_true
  | queued | entered | submitted => exact ⟨hbatch.1, nofun⟩
  | abandoned | gathered | raised | published => exact ⟨rfl, nofun⟩
  | finished => exact ⟨hbatch.1, nofun⟩

lemma Job.Moves.uncancelled (h : job.Moves closing job') (hjob : job.Uncancelled) :
    job'.Uncancelled := by
  unfold Job.Uncancelled at hjob ⊢
  cases h with
  | image hwork h =>
      rw [hwork] at hjob
      exact h.calm hjob
  | batch hwork h =>
      rw [hwork] at hjob
      exact h.uncancelled hjob

end Jobs

/-! ## The registry -/

section Registry

variable {F : Type} {jobs jobs' : List (String × Job F)}

/-- The same jobs, each later in its run. -/
def KeptAll (jobs jobs' : List (String × Job F)) : Prop :=
  List.Forall₂ (fun a b ↦ b.1 = a.1 ∧ a.2.Kept b.2) jobs jobs'

lemma keptAll_map {f : String × Job F → String × Job F}
    (h : ∀ entry ∈ jobs, (f entry).1 = entry.1 ∧ entry.2.Kept (f entry).2) :
    KeptAll jobs (jobs.map f) :=
  List.forall₂_map_right_iff.mpr (List.forall₂_same.mpr h)

lemma KeptAll.keys (h : KeptAll jobs jobs') : jobs'.map Prod.fst = jobs.map Prod.fst :=
  keys_of_forall₂ h fun _ _ hkept ↦ hkept.1

/-- No job starts to count again. -/
lemma KeptAll.activeItems_le (h : KeptAll jobs jobs') : activeItems jobs' ≤ activeItems jobs := by
  induction h with
  | nil => exact le_rfl
  | @cons a b l l' hab _ ih =>
      obtain ⟨-, -, hsize, hdone⟩ := hab
      unfold activeItems at ih ⊢
      cases ha : a.2.isDone with
      | true => simpa [ha, hdone ha] using ih
      | false =>
          cases hb : b.2.isDone with
          | true => simpa [ha, hb] using Nat.le_add_left_of_le ih
          | false => simpa [ha, hb, hsize] using ih

lemma KeptAll.made {fingerprint : Request → F} {created : List (String × Request)}
    (h : KeptAll jobs jobs') (hmade : List.Forall₂ (fun entry made ↦ entry.1 = made.1 ∧
      entry.2.fingerprint = fingerprint made.2) jobs created) :
    List.Forall₂ (fun entry made ↦ entry.1 = made.1 ∧
      entry.2.fingerprint = fingerprint made.2) jobs' created := by
  induction h generalizing created with
  | nil => exact hmade
  | cons hab _ ih =>
      cases hmade with
      | cons hfirst hrest =>
          exact .cons ⟨hab.1.trans hfirst.1, hab.2.fingerprint.trans hfirst.2⟩ (ih hrest)

lemma activeItems_append (entry : String × Job F) :
    activeItems (jobs ++ [entry]) =
      activeItems jobs + if entry.2.isDone then 0 else entry.2.size := by
  unfold activeItems
  cases h : entry.2.isDone <;> simp [h]

lemma keptAll_replace {jobId : String} {job job' : Job F} (hnodup : (jobs.map Prod.fst).Nodup)
    (hjob : jobs.lookup jobId = some job) (h : job.Kept job') :
    KeptAll jobs (jobs.map fun entry ↦ if entry.1 = jobId then (jobId, job') else entry) := by
  refine keptAll_map fun entry hentry ↦ ?_
  split
  · next hid =>
      subst hid
      obtain rfl : entry.2 = job := by
        simpa using (lookup_of_mem hnodup hentry).symm.trans hjob
      exact ⟨rfl, h⟩
  · exact ⟨rfl, .refl _⟩

lemma keptAll_close : KeptAll jobs (jobs.map fun entry ↦ (entry.1, entry.2.close)) :=
  keptAll_map fun entry _ ↦ ⟨rfl, entry.2.close_kept⟩

end Registry

section System

variable {F : Type} {service : Service F} {s s' : State F} {a : Action}

/-- Each job was created once, for the request of its fingerprint. -/
structure Registered (service : Service F) (s : State F) : Prop where
  made : List.Forall₂ (fun entry made ↦ entry.1 = made.1 ∧
    entry.2.fingerprint = service.fingerprint made.2) s.jobs s.created
  nodup : (s.created.map Prod.fst).Nodup
  capacity : activeItems s.jobs ≤ service.limits.cfg.maxQueuedImages
  uncancelled : s.closing = false → ∀ entry ∈ s.jobs, entry.2.Uncancelled
  asked : ∀ c cursor, s.calls c = .resolving cursor → cursor.asked.values ≠ []

namespace Registered

lemma keys (h : Registered service s) : s.jobs.map Prod.fst = s.created.map Prod.fst :=
  (keys_of_forall₂ h.made fun _ _ hmade ↦ hmade.1.symm).symm

lemma nodup_jobs (h : Registered service s) : (s.jobs.map Prod.fst).Nodup := h.keys ▸ h.nodup

lemma exists_job (h : Registered service s) {jobId : String} {request : Request}
    (hmem : (jobId, request) ∈ s.created) : ∃ job, s.jobs.lookup jobId = some job ∧
      job.fingerprint = service.fingerprint request := by
  obtain ⟨entry, hentry, hid, hprint⟩ := exists_of_forall₂ h.made hmem
  subst hid
  exact ⟨entry.2, lookup_of_mem h.nodup_jobs hentry, hprint⟩

lemma notMem (h : Registered service s) {jobId : String} (hnone : s.jobs.lookup jobId = none) :
    jobId ∉ s.created.map Prod.fst := by
  intro hmem
  rw [← h.keys] at hmem
  obtain ⟨job, hjob⟩ := lookup_isSome hmem
  cases hnone.symm.trans hjob

lemma lookup_none (h : Registered service s) {jobId : String}
    (hmem : jobId ∉ s.created.map Prod.fst) : s.jobs.lookup jobId = none := by
  cases hjob : s.jobs.lookup jobId with
  | none => rfl
  | some job =>
      rw [← h.keys] at hmem
      exact absurd (List.mem_map_of_mem (mem_of_lookup_eq hjob)) hmem

lemma values_ne_nil (h : Registered service s) {c : ℕ} {asked : Asked}
    (hpending : Pending s c asked) : asked.values ≠ [] := by
  rcases hpending with hne | ⟨cursor, hcursor, rfl⟩
  · exact hne
  · exact h.asked c cursor hcursor

lemma setCall (h : Registered service s) {c : ℕ} {call : Call}
    (hcall : ∀ cursor, call = .resolving cursor → Pending s c cursor.asked) :
    Registered service (s.setCall c call) where
  made := h.made
  nodup := h.nodup
  capacity := h.capacity
  uncancelled := h.uncancelled
  asked c' cursor hcursor := by
    replace hcursor : Function.update s.calls c call c' = .resolving cursor := hcursor
    by_cases hc : c' = c
    · subst hc
      rw [Function.update_self] at hcursor
      exact h.values_ne_nil (hcall cursor hcursor)
    · rw [Function.update_of_ne hc] at hcursor
      exact h.asked c' cursor hcursor

lemma logged (h : Registered service s) (c : ℕ) (jobId : String) (request : Request) :
    Registered service (s.logged c jobId request) := ⟨h.1, h.2, h.3, h.4, h.5⟩

lemma kept (h : Registered service s) {jobs : List (String × Job F)} (hkept : KeptAll s.jobs jobs)
    (huncancelled : s'.closing = false → ∀ entry ∈ jobs, entry.2.Uncancelled)
    (hjobs : s'.jobs = jobs) (hcreated : s'.created = s.created) (hcalls : s'.calls = s.calls) :
    Registered service s' where
  made := by
    rw [hjobs, hcreated]
    exact hkept.made h.made
  nodup := hcreated ▸ h.nodup
  capacity := hjobs ▸ hkept.activeItems_le.trans h.capacity
  uncancelled := hjobs ▸ huncancelled
  asked := hcalls ▸ h.asked

end Registered

lemma joined_eq {jobId : String} {job : Job F} (hjob : s.jobs.lookup jobId = some job) :
    s.joined jobId true =
      if job.isDone then State.outcomeOf s.closing jobId job else .waiting jobId := by
  rw [State.joined, hjob]
  rfl

section New

variable (asked : Asked) (values : List Fields) (references : List (List ReferenceImage))
  (fingerprint : F)

lemma newJob_not_done : (newJob asked values references fingerprint).isDone = false := by
  unfold newJob Job.isDone
  cases asked.batch <;> rfl

lemma newJob_uncancelled : (newJob asked values references fingerprint).Uncancelled := by
  unfold newJob Job.Uncancelled
  cases asked.batch with
  | true => exact ⟨rfl, nofun⟩
  | false =>
      rintro _ ⟨⟩
      exact ⟨rfl, nofun⟩

lemma newJob_size_le (h : values ≠ []) :
    (newJob asked values references fingerprint).size ≤ values.length := by
  unfold newJob Job.size
  cases asked.batch with
  | true => simp
  | false => exact List.length_pos_iff.mpr h

end New

lemma Registered.create (h : Registered service s) {asked : Asked} (hvalues : asked.values ≠ [])
    (hnone : s.jobs.lookup asked.jobId = none)
    (hfree : activeItems s.jobs + asked.values.length ≤ service.limits.cfg.maxQueuedImages)
    (references : List (List ReferenceImage)) (randbelow : ℕ → ℤ → ℤ) :
    Registered service (s.create service asked references randbelow) where
  made := List.rel_append h.made (.cons ⟨rfl, rfl⟩ .nil)
  nodup := by
    unfold State.create
    rw [List.map_append]
    refine List.nodup_append.mpr ⟨h.nodup, List.nodup_singleton _, fun a ha b hb hab ↦ ?_⟩
    obtain rfl : b = asked.jobId := List.mem_singleton.mp hb
    exact h.notMem hnone (hab ▸ ha)
  capacity := by
    unfold State.create
    rw [activeItems_append, newJob_not_done]
    refine le_trans (Nat.add_le_add_left (newJob_size_le _ _ _ _ ?_) _) ?_
    · simpa using hvalues
    · simpa using hfree
  uncancelled hclosing entry hentry := by
    rcases List.mem_append.mp hentry with hentry | hentry
    · exact h.uncancelled hclosing entry hentry
    · obtain rfl := List.mem_singleton.mp hentry
      exact newJob_uncancelled _ _ _ _
  asked := h.asked

/-- The last part of `_generate`: the call joins the job of its request, is refused, or
creates a job and joins it. -/
lemma arrive_cases (service : Service F) [DecidableEq F] (c : ℕ) (asked : Asked)
    (references : List (List ReferenceImage)) (randbelow : ℕ → ℤ → ℤ)
    (hclosing : s.closing = false) :
    let request := asked.request references
    let s₁ := s.logged c asked.jobId request
    let s' := s.arrive service c asked references randbelow
    (∃ job, s.jobs.lookup asked.jobId = some job ∧
      job.fingerprint = service.fingerprint request ∧ s' = s₁.join c asked.jobId true) ∨
    (∃ job, s.jobs.lookup asked.jobId = some job ∧
      job.fingerprint ≠ service.fingerprint request ∧ s' = s₁.setCall c (.raised conflict)) ∨
    (s.jobs.lookup asked.jobId = none ∧
      service.limits.cfg.maxQueuedImages < activeItems s.jobs + asked.values.length ∧
      s' = s₁.setCall c (.raised capacityExhausted)) ∨
    (s.jobs.lookup asked.jobId = none ∧
      activeItems s.jobs + asked.values.length ≤ service.limits.cfg.maxQueuedImages ∧
      s' = (s₁.create service asked references randbelow).join c asked.jobId true) := by
  dsimp only
  rw [State.arrive, if_neg (by simp [hclosing])]
  dsimp only [State.logged]
  cases hjob : s.jobs.lookup asked.jobId with
  | some job =>
      dsimp only
      split
      · next hprint => exact .inl ⟨job, rfl, hprint, rfl⟩
      · next hprint => exact .inr (.inl ⟨job, rfl, hprint, rfl⟩)
  | none =>
      dsimp only
      split
      · next hfull => exact .inr (.inr (.inl ⟨rfl, hfull, rfl⟩))
      · next hfree => exact .inr (.inr (.inr ⟨rfl, Nat.le_of_not_lt hfree, rfl⟩))

lemma Registered.join (h : Registered service s) (c : ℕ) (jobId : String) (wait : Bool) :
    Registered service (s.join c jobId wait) :=
  h.setCall fun cursor hcall ↦ absurd hcall (joined_ne jobId wait cursor)

variable [DecidableEq F]

lemma Registered.step (h : Registered service s) (heffect : Effect service s a s') :
    Registered service s' := by
  cases heffect with
  | called c call hcall => exact h.setCall hcall
  | @arrived c asked references randbelow hpending hclosing =>
      have hlogged := h.logged c asked.jobId (asked.request references)
      rcases arrive_cases service c asked references randbelow hclosing with
        ⟨job, -, -, heq⟩ | ⟨job, -, -, heq⟩ | ⟨-, -, heq⟩ | ⟨hnone, hfree, heq⟩ <;> rw [heq]
      · exact hlogged.join _ _ _
      · exact hlogged.setCall nofun
      · exact hlogged.setCall nofun
      · exact (hlogged.create (h.values_ne_nil hpending) hnone hfree references
          randbelow).join _ _ _
  | registered images => exact ⟨h.1, h.2, h.3, h.4, h.5⟩
  | @task jobId job job' hjob hmove =>
      refine h.kept (keptAll_replace h.nodup_jobs hjob hmove.kept) (fun hclosing entry hentry ↦ ?_)
        rfl rfl rfl
      obtain ⟨old, hold, rfl⟩ := List.mem_map.mp hentry
      split
      · exact hmove.uncancelled (h.uncancelled hclosing _ (mem_of_lookup_eq hjob))
      · exact h.uncancelled hclosing _ hold
  | stopped => exact ⟨h.1, h.2, h.3, nofun, h.5⟩
  | close ha => exact h.kept keptAll_close nofun rfl rfl rfl
  | closed hids hdone => exact ⟨h.1, h.2, h.3, h.4, h.5⟩

lemma registered_of_reachable (hs : (system service).Reachable s) : Registered service s := by
  refine hs.invariant (I := Registered service) ?_ ?_
  · rintro _ rfl
    exact ⟨.nil, List.nodup_nil, Nat.zero_le _, fun _ ↦ List.forall_mem_nil _, nofun⟩
  · intro s a s' _ h _ hstep
    exact h.step (step_effect hstep)

/-- The last entry of the history was added by an arrival. -/
lemma arrived_of_arrivals {arrival : Arrival} (heffect : Effect service s a s')
    (harrivals : s'.arrivals = arrival :: s.arrivals) :
    ∃ asked references randbelow, Pending s arrival.call asked ∧ s.closing = false ∧
      arrival.jobId = asked.jobId ∧ arrival.request = asked.request references ∧
      s' = s.arrive service arrival.call asked references randbelow := by
  have hsame (h : s'.arrivals = s.arrivals) : False := by
    have hlength := congrArg List.length (harrivals.symm.trans h)
    simp at hlength
  cases heffect with
  | @arrived c asked references randbelow hpending hclosing =>
      have hlogged : (s.arrive service c asked references randbelow).arrivals =
          ⟨c, asked.jobId, asked.request references⟩ :: s.arrivals := by
        rcases arrive_cases service c asked references randbelow hclosing with
          ⟨job, -, -, heq⟩ | ⟨job, -, -, heq⟩ | ⟨-, -, heq⟩ | ⟨-, -, heq⟩ <;> rw [heq] <;> rfl
      obtain rfl : arrival = ⟨c, asked.jobId, asked.request references⟩ :=
        (List.cons.inj (harrivals.symm.trans hlogged)).1
      exact ⟨asked, references, randbelow, hpending, hclosing, rfl, rfl, rfl⟩
  | _ => exact (hsame rfl).elim

/-- Each identifier has at most one job task.  A call with the request of that job joins
it, and one with another request is refused; neither changes anything else.  The jobs
whose tasks are unfinished stay within the limit. -/
theorem job_identity (hinj : Function.Injective service.fingerprint)
    (hs : (system service).Reachable s) :
    (s.created.map Prod.fst).Nodup ∧
    activeItems s.jobs ≤ service.limits.cfg.maxQueuedImages ∧
    ∀ a s' c jobId request, step service s a = some s' →
      s'.arrivals = ⟨c, jobId, request⟩ :: s.arrivals →
      ((jobId, request) ∈ s.created → ∃ job, s.jobs.lookup jobId = some job ∧
        s' = (s.logged c jobId request).setCall c
          (if job.isDone then .returned (job.result jobId) else .waiting jobId)) ∧
      (∀ other ≠ request, (jobId, other) ∈ s.created →
        s' = (s.logged c jobId request).setCall c (.raised conflict)) ∧
      (jobId ∉ s.created.map Prod.fst →
        if activeItems s.jobs + request.values.length ≤ service.limits.cfg.maxQueuedImages
        then s'.created = s.created ++ [(jobId, request)]
        else s' = (s.logged c jobId request).setCall c (.raised capacityExhausted)) := by
  have h := registered_of_reachable hs
  refine ⟨h.nodup, h.capacity, fun a s' c jobId request hstep harrivals ↦ ?_⟩
  obtain ⟨asked, references, randbelow, -, hclosing, rfl, rfl, rfl⟩ :=
    arrived_of_arrivals (step_effect hstep) harrivals
  have hcases := arrive_cases service c asked references randbelow hclosing
  refine ⟨fun hmem ↦ ?_, fun other hne hmem ↦ ?_, fun hmem ↦ ?_⟩
  · obtain ⟨job, hjob, hprint⟩ := h.exists_job hmem
    refine ⟨job, hjob, ?_⟩
    have hcalled : State.outcomeOf s.closing asked.jobId job =
        .returned (job.result asked.jobId) := by
      have huncancelled := h.uncancelled hclosing _ (mem_of_lookup_eq hjob)
      rw [State.outcomeOf, huncancelled.isCancelled]
      rfl
    rcases hcases with ⟨job', -, -, heq⟩ | ⟨job', hjob', hprint', -⟩ | ⟨hnone, -⟩ | ⟨hnone, -⟩
    · rw [heq, State.join, joined_eq (s := s.logged c _ _) hjob, ← hcalled]
      rfl
    · obtain rfl : job = job' := Option.some.inj (hjob.symm.trans hjob')
      exact absurd hprint hprint'
    · cases hjob.symm.trans hnone
    · cases hjob.symm.trans hnone
  · obtain ⟨job, hjob, hprint⟩ := h.exists_job hmem
    rcases hcases with ⟨job', hjob', hprint', -⟩ | ⟨job', -, -, heq⟩ | ⟨hnone, -⟩ | ⟨hnone, -⟩
    · obtain rfl : job = job' := Option.some.inj (hjob.symm.trans hjob')
      exact absurd (hinj (hprint.symm.trans hprint')) hne
    · exact heq
    · cases hjob.symm.trans hnone
    · cases hjob.symm.trans hnone
  · have hlookup := h.lookup_none hmem
    rcases hcases with ⟨job, hjob, -⟩ | ⟨job, hjob, -⟩ | ⟨-, hfull, heq⟩ | ⟨-, hfree, heq⟩
    · cases hlookup.symm.trans hjob
    · cases hlookup.symm.trans hjob
    · exact (if_neg (Nat.not_le_of_lt hfull)).mpr heq
    · refine (if_pos hfree).mpr ?_
      rw [heq]
      rfl

end System

/-! ## A request that is made twice -/

/-- A workflow with one prompt and no references. -/
def lake : Workflow where
  id := "lake"
  declared :=
    [("prompt", ⟨[("type", .str "string"), ("required", .bool true)], some ⟨"1", "text"⟩⟩)]
  nsfwLoras := none
  outputs := [⟨"1", .comfyImages⟩]
  references := none
  graph := [("1", .obj [("inputs", .obj [("text", .str "")])])]
  sourceRoots := []
  promptGuidance := none
  modes := none

/-- Two images at most, and requests that are their own fingerprints. -/
def lakeService : Service Request where
  limits := ⟨⟨.koboldcpp, false, 100, 2, 200, fun _ ↦ rfl, by decide, by decide, by decide⟩,
    fun _ ↦ some 10⟩
  catalog := [("lake", lake)]
  fingerprint := id

def lakeCall (c : ℕ) : Action :=
  .generate c "job" "lake" (.obj [("prompt", .str "a hill")]) .null fun _ _ ↦ 0

def lakeRequest : Request := ⟨false, "lake", [[("prompt", .str "a hill")]], [[]]⟩

def lakeAsked : State Request := ((system lakeService).exec {} [lakeCall 0]).get rfl

/-- The retry waits for the same job. -/
theorem job_identity_retry :
    ∃ s', step lakeService lakeAsked (lakeCall 1) = some s' ∧
      s' = (lakeAsked.logged 1 "job" lakeRequest).setCall 1 (.waiting "job") := by
  have hreached : (system lakeService).Reachable lakeAsked :=
    TransitionSystem.exec_get_reachable rfl rfl
  obtain ⟨job, hjob, heq⟩ := ((job_identity Function.injective_id hreached).2.2 (lakeCall 1) _ 1
    "job" lakeRequest rfl rfl).1 (List.mem_singleton_self _)
  refine ⟨_, rfl, heq.trans ?_⟩
  obtain rfl := Option.some.inj (hjob.symm.trans (rfl : _ = some _))
  rfl

end StProxy.Media
