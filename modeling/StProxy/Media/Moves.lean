import StProxy.Media.System

/-!
# What a step of a job does

Inversion of the tasks: each step is one of a few moves.
-/

namespace StProxy.Media

open Json Checked Workflows

/-- A step of `_run`. -/
inductive Item.Moves (closing : Bool) (item : Item) : Item → Prop
  | dropped (h : item.run = some ⟨.created, true⟩) :
      Moves closing item ⟨item.result, some ⟨.done true, false⟩⟩
  | goes {run : Run} {status : Status} {point : RunPoint} (h : item.run = some run)
      (hrun : run.isDone = false) (hcancel : run.cancelling = false)
      (hstatus : status.isFinal = false) (hpoint : ∀ cancelled, point ≠ .done cancelled) :
      Moves closing item (item.goto status point)
  | fails {run : Run} {stage : String} {e : Raised} (h : item.run = some run)
      (hrun : run.isDone = false) : Moves closing item (item.fail closing stage e)
  | succeeds {run : Run} {images : List Image} (h : item.run = some run)
      (hrun : run.isDone = false) (hcancel : run.cancelling = false) :
      Moves closing item
        ⟨{ item.result with status := .succeeded, images }, some ⟨.done false, false⟩⟩

/-- A step of `_run_batch` or of a task that it created. -/
inductive Batch.Moves (closing : Bool) (batch : Batch) : Batch → Prop
  | item {index : ℕ} {item item' : Item} (hitem : batch.items[index]? = some item)
      (h : item.Moves closing item') :
      Moves closing batch { batch with items := batch.items.set index item' }
  | dropped (hpoint : batch.point = .created) (hcancel : batch.cancelling = true) :
      Moves closing batch { batch with point := .done true, cancelling := false }
  | queued (hpoint : batch.point = .created) (hcancel : batch.cancelling = false) :
      Moves closing batch { batch with status := .queued, point := .entering }
  | abandoned {e : Raised} (hpoint : batch.point = .created ∨ batch.point = .entering) :
      Moves closing batch (batch.abandon closing e)
  | entered (hpoint : batch.point = .entering) (hcancel : batch.cancelling = false) :
      Moves closing batch
        { batch with
          items := batch.items.map fun item ↦ { item with run := some {} }
          point := .submitting }
  | interrupted (hpoint : batch.point = .submitting) (hcancel : batch.cancelling = true) :
      Moves closing batch { batch with point := .leaving true, cancelling := false }
  | submitted (hpoint : batch.point = .submitting) (hcancel : batch.cancelling = false) :
      Moves closing batch { batch with status := .generating, point := .gathering }
  | gathered {cancelled : Bool} (hpoint : batch.point = .gathering)
      (h : batch.gathered = some cancelled) :
      Moves closing batch { batch with point := .leaving cancelled, cancelling := false }
  | raised {cancelled : Bool} {e : Raised} (hpoint : batch.point = .leaving cancelled) :
      Moves closing batch (batch.fail closing e).finish
  | published (hpoint : batch.point = .leaving false) (hcancel : batch.cancelling = false) :
      Moves closing batch batch.publish.finish
  | stopped (hpoint : batch.point = .finishing) (hdone : batch.items.all Item.isDone = true)
      (hcancel : batch.cancelling = true) :
      Moves closing batch { batch with point := .done true, cancelling := false }
  | finished (hpoint : batch.point = .finishing) (hdone : batch.items.all Item.isDone = true)
      (hcancel : batch.cancelling = false) :
      Moves closing batch { batch.finalize with point := .done false }

section Steps

variable {closing : Bool} {body : Except Raised Unit}

lemma not_cancelling {α : Type} {cancelling : Bool} {a : α}
    (h : Delivers cancelling (.ok a) = true) : cancelling = false := by simpa [Delivers] using h

lemma Item.step_moves {item item' : Item} {a : RunAction}
    (h : item.step closing body a = some item') : item.Moves closing item' := by
  unfold Item.step at h
  cases hrun : item.run with
  | none =>
      rw [hrun] at h
      cases h
  | some run =>
      obtain ⟨point, cancelling⟩ := run
      rw [hrun] at h
      dsimp only at h
      split at h
      · split at h
        · next hcancel =>
            cases h
            exact .dropped (hcancel ▸ hrun)
        · next hcancel =>
            split at h <;> cases h
            · exact .goes hrun rfl (Bool.eq_false_iff.mpr hcancel) rfl nofun
            · exact .fails hrun rfl
      · split at h
        · next hdelivers =>
            split at h <;> cases h
            · exact .fails hrun rfl
            · exact .fails hrun rfl
            · exact .goes hrun rfl (not_cancelling hdelivers) rfl nofun
        · cases h
      · split at h
        · next hdelivers =>
            split at h <;> cases h
            · exact .fails hrun rfl
            · exact .fails hrun rfl
            · exact .goes hrun rfl (not_cancelling hdelivers) rfl nofun
        · cases h
      · split at h
        · next hdelivers =>
            split at h <;> cases h
            · exact .fails hrun rfl
            · exact .succeeds hrun rfl (not_cancelling hdelivers)
        · cases h
      · cases h

lemma Batch.step_moves {batch batch' : Batch} {a : BatchAction}
    (h : batch.step closing body a = some batch') : batch.Moves closing batch' := by
  unfold Batch.step at h
  split at h
  · split at h
    · next item hitem =>
        obtain ⟨item', hstep, rfl⟩ := Option.map_eq_some_iff.mp h
        exact .item hitem (Item.step_moves hstep)
    · cases h
  · next hpoint =>
      split at h
      · next hcancel =>
          cases h
          exact .dropped hpoint hcancel
      · next hcancel =>
          split at h <;> cases h
          · exact .queued hpoint (Bool.eq_false_iff.mpr hcancel)
          · exact .abandoned (.inl hpoint)
  · next hpoint =>
      split at h
      · next hdelivers =>
          split at h <;> cases h
          · exact .abandoned (.inr hpoint)
          · exact .entered hpoint (not_cancelling hdelivers)
      · cases h
  · next hpoint =>
      split at h <;> cases h
      · next hcancel => exact .interrupted hpoint hcancel
      · next hcancel => exact .submitted hpoint (Bool.eq_false_iff.mpr hcancel)
  · next hpoint =>
      obtain ⟨cancelled, hgathered, rfl⟩ := Option.map_eq_some_iff.mp h
      exact .gathered hpoint hgathered
  · next cancelled hpoint =>
      split at h
      · cases h
        exact .raised hpoint
      · next hnone =>
          obtain ⟨hcancel, hcancelled⟩ : batch.cancelling = false ∧ cancelled = false := by
            simpa using hnone
          split at h <;> cases h
          · exact .raised hpoint
          · exact .published (hcancelled ▸ hpoint) hcancel
  · next hpoint =>
      split at h
      · next hdone =>
          split at h <;> cases h
          · next hcancel => exact .stopped hpoint hdone hcancel
          · next hcancel => exact .finished hpoint hdone (Bool.eq_false_iff.mpr hcancel)
      · cases h
  · cases h

end Steps

/-! ## What every move keeps -/

section Keeps

variable {closing : Bool}

@[simp] lemma Batch.length_finalize (batch : Batch) :
    batch.finalize.items.length = batch.items.length := List.length_map _

@[simp] lemma Batch.length_finish (batch : Batch) :
    batch.finish.items.length = batch.items.length := List.length_map _

@[simp] lemma Batch.items_publish (batch : Batch) : batch.publish.items = batch.items := by
  unfold Batch.publish
  dsimp only
  split <;> rfl

@[simp] lemma Batch.items_fail (batch : Batch) (e : Raised) :
    (batch.fail closing e).items = batch.items := rfl

/-- The items of a batch stay, and a task that is done stays done. -/
lemma Batch.Moves.frame {batch batch' : Batch} (h : batch.Moves closing batch') :
    batch'.items.length = batch.items.length ∧ (batch.isDone = true → batch'.isDone = true) := by
  have hpoint (hne : ∀ cancelled, batch.point ≠ .done cancelled) : batch.isDone = true → False := by
    intro hdone
    unfold Batch.isDone at hdone
    split at hdone
    · next cancelled hp => exact hne cancelled hp
    · cases hdone
  cases h with
  | item hitem h => exact ⟨List.length_set, id⟩
  | dropped hp | stopped hp => exact ⟨rfl, fun _ ↦ rfl⟩
  | queued hp => exact ⟨rfl, fun hd ↦ (hpoint (by simp [hp]) hd).elim⟩
  | abandoned hp => exact ⟨Batch.length_finalize _, fun _ ↦ rfl⟩
  | entered hp => exact ⟨List.length_map _, fun hd ↦ (hpoint (by simp [hp]) hd).elim⟩
  | interrupted hp | submitted hp | gathered hp =>
      exact ⟨rfl, fun hd ↦ (hpoint (by simp [hp]) hd).elim⟩
  | raised hp =>
      exact ⟨Batch.length_finish _, fun hd ↦ (hpoint (by simp [hp]) hd).elim⟩
  | published hp =>
      exact ⟨by rw [Batch.length_finish, Batch.items_publish],
        fun hd ↦ (hpoint (by simp [hp]) hd).elim⟩
  | finished hp => exact ⟨Batch.length_finalize _, fun _ ↦ rfl⟩

end Keeps

/-- The task was not cancelled. -/
def Item.Calm (item : Item) : Prop :=
  ∀ run ∈ item.run, run.cancelling = false ∧ run.point ≠ .done true

section Calm

variable {closing : Bool} {item item' : Item}

lemma Item.Moves.calm (h : item.Moves closing item') (hcalm : item.Calm) : item'.Calm := by
  cases h with
  | dropped h => exact absurd (hcalm _ h).1 (by decide)
  | goes h hrun hcancel hstatus hpoint =>
      rintro _ ⟨⟩
      exact ⟨rfl, hpoint true⟩
  | fails h hrun | succeeds h hrun hcancel =>
      rintro _ ⟨⟩
      exact ⟨rfl, by decide⟩

lemma Item.Calm.not_cancelled (h : item.Calm) : item.isCancelled = false := by
  unfold Item.isCancelled
  split
  · next hrun => exact absurd rfl (h _ hrun).2
  · rfl

end Calm

/-! ## Jobs -/

section Job

variable {F : Type} {limits : Limits} {closing : Bool} {job job' : Job F}

/-- What neither its task nor `close` changes of a job. -/
structure Job.Kept (job job' : Job F) : Prop where
  fingerprint : job'.fingerprint = job.fingerprint
  size : job'.size = job.size
  isDone : job.isDone = true → job'.isDone = true

lemma Job.Kept.refl (job : Job F) : job.Kept job := ⟨rfl, rfl, id⟩

/-- The move of the work of a job. -/
inductive Job.Moves (closing : Bool) (job : Job F) : Job F → Prop
  | image {item item' : Item} (hwork : job.work = .image item) (h : item.Moves closing item') :
      Moves closing job { job with work := .image item' }
  | batch {batch batch' : Batch} (hwork : job.work = .batch batch)
      (h : batch.Moves closing batch') : Moves closing job { job with work := .batch batch' }

lemma Job.step_moves {a : TaskAction} (h : job.step limits closing a = some job') :
    job.Moves closing job' := by
  unfold Job.step at h
  split at h
  · next hwork =>
      obtain ⟨item', hstep, rfl⟩ := Option.map_eq_some_iff.mp h
      exact .image hwork (Item.step_moves hstep)
  · next hwork =>
      obtain ⟨batch', hstep, rfl⟩ := Option.map_eq_some_iff.mp h
      exact .batch hwork (Batch.step_moves hstep)
  · cases h

lemma Item.Moves.not_done {item item' : Item} (h : item.Moves closing item') :
    item.isDone = false := by
  cases h with
  | dropped h => simp [Item.isDone, h, Run.isDone]
  | goes h hrun | fails h hrun | succeeds h hrun => simp [Item.isDone, h, hrun]

lemma Job.Moves.kept (h : job.Moves closing job') : job.Kept job' := by
  cases h with
  | image hwork h =>
      refine ⟨rfl, by simp [Job.size, hwork], fun hdone ↦ ?_⟩
      have hnot := h.not_done
      rw [Job.isDone, hwork] at hdone
      exact absurd (hnot.symm.trans hdone) Bool.false_ne_true
  | batch hwork h =>
      obtain ⟨hlength, hdone⟩ := h.frame
      refine ⟨rfl, by simp [Job.size, hwork, hlength], ?_⟩
      simpa [Job.isDone, hwork] using hdone

lemma Batch.length_cancel (batch : Batch) : batch.cancel.items.length = batch.items.length := by
  unfold Batch.cancel
  split <;> simp

lemma Job.close_kept (job : Job F) : job.Kept job.close := by
  unfold Job.close
  split
  · exact .refl job
  · next hdone =>
      cases hwork : job.work with
      | image item => exact ⟨rfl, by simp [Job.size, hwork], fun h ↦ absurd h hdone⟩
      | batch batch =>
          exact ⟨rfl, by simp [Job.size, hwork, Batch.length_cancel], fun h ↦ absurd h hdone⟩

end Job

/-! ## The system -/

section System

variable {F : Type} {service : Service F} {s s' : State F} {a : Action}

/-- The parameters of a call: they were just normalized, or the call resolves references. -/
def Pending (s : State F) (c : ℕ) (asked : Asked) : Prop :=
  asked.values ≠ [] ∨ ∃ cursor, s.calls c = .resolving cursor ∧ cursor.asked = asked

/-- What one step can do. -/
inductive Effect [DecidableEq F] (service : Service F) (s : State F) (a : Action) :
    State F → Prop
  | called (c : ℕ) (call : Call)
      (h : ∀ cursor, call = .resolving cursor → Pending s c cursor.asked) :
      Effect service s a (s.setCall c call)
  | arrived (c : ℕ) {asked : Asked} (references : List (List ReferenceImage))
      (randbelow : ℕ → ℤ → ℤ) (h : Pending s c asked) (hclosing : s.closing = false) :
      Effect service s a (s.arrive service c asked references randbelow)
  | registered (images : List (String × ReferenceImage)) :
      Effect service s a { s with images }
  | task {jobId : String} {job job' : Job F} (hjob : s.jobs.lookup jobId = some job)
      (h : job.Moves s.closing job') :
      Effect service s a
        { s with jobs := s.jobs.map fun entry ↦
            if entry.1 = jobId then (jobId, job') else entry }
  | stopped : Effect service s a { s with closing := true }
  | close (h : a = .close) : Effect service s a
      { s with
        closing := true
        jobs := s.jobs.map fun entry ↦ (entry.1, entry.2.close)
        closers := s.closers ++ [s.jobs.map Prod.fst] }
  | closed {n : ℕ} {ids : List String} (hids : s.closers[n]? = some ids)
      (h : ∀ entry ∈ s.jobs, entry.1 ∈ ids → entry.2.isDone = true) :
      Effect service s a { s with closed := true }

lemma resolveFrom_asked {images : List (String × ReferenceImage)} {asked : Asked}
    {resolved : List (List ReferenceImage)} {rest : List Json} {cursor : Cursor}
    (h : resolveFrom images asked resolved rest = .ok (.inr cursor)) : cursor.asked = asked := by
  induction rest generalizing resolved with
  | nil => cases h
  | cons ids rest ih =>
      unfold resolveFrom at h
      split at h
      · cases h
      · exact ih h
      · obtain ⟨image, -, hcursor⟩ := map_eq_ok.mp h
        cases hcursor
        rfl

lemma Cursor.next_asked {images : List (String × ReferenceImage)} {cursor cursor' : Cursor}
    (h : cursor.next images = .ok (.inr cursor')) : cursor'.asked = cursor.asked := by
  unfold Cursor.next at h
  dsimp only at h
  split at h
  · exact resolveFrom_asked h
  · obtain ⟨image, -, hcursor⟩ := map_eq_ok.mp h
    cases hcursor
    rfl

lemma ask_values {closing : Bool} {jobId workflowId : String} {batch : Bool} {items : List Json}
    {asked : Asked} (h : ask service closing jobId workflowId batch items = .ok asked) :
    asked.values.length = items.length := by
  unfold ask at h
  obtain ⟨-, h⟩ := of_bind_unit h
  obtain ⟨-, h⟩ := of_bind_unit h
  split at h
  · split at h
    · next values hvalues =>
        obtain rfl := pure_eq_ok.mp h
        exact (mapM_eq_ok hvalues).length_eq.symm
    · cases h
  · cases h

lemma batchItems_ne_nil {limit : ℕ} {items : Json} {result : List (Json × Json)}
    (h : batchItems limit items = .ok result) : result ≠ [] := by
  unfold batchItems at h
  split at h
  · split at h
    · next l hlength =>
        have hresult := (mapM_eq_ok h).length_eq
        rintro rfl
        rw [List.length_nil] at hresult
        omega
    · cases h
  · cases h

lemma outcomeOf_ne (closing : Bool) (jobId : String) (job : Job F) (cursor : Cursor) :
    State.outcomeOf closing jobId job ≠ .resolving cursor := by
  unfold State.outcomeOf
  split <;> nofun

lemma joined_ne (jobId : String) (wait : Bool) (cursor : Cursor) :
    s.joined jobId wait ≠ .resolving cursor := by
  unfold State.joined
  split
  · nofun
  · split
    · split
      · exact outcomeOf_ne _ _ _ _
      · nofun
    · nofun

variable [DecidableEq F]

lemma called (c : ℕ) {call : Call} (h : ∀ cursor, call ≠ .resolving cursor) :
    Effect service s a (s.setCall c call) :=
  .called c call fun cursor hcall ↦ absurd hcall (h cursor)

lemma proceed_effect {c : ℕ} {asked : Asked} (h : Pending s c asked)
    {found : Except CallError (List (List ReferenceImage) ⊕ Cursor)}
    (hfound : ∀ cursor, found = .ok (.inr cursor) → cursor.asked = asked)
    (randbelow : ℕ → ℤ → ℤ) : Effect service s a (s.proceed service c asked found randbelow) := by
  unfold State.proceed
  split
  · exact called c nofun
  · next cursor =>
      refine .called c _ fun cursor' hcursor ↦ ?_
      cases hcursor
      exact hfound cursor rfl ▸ h
  · next references =>
      cases hclosing : s.closing with
      | true =>
          rw [State.arrive, if_pos hclosing]
          exact called c nofun
      | false => exact .arrived c references randbelow h hclosing

lemma generate_effect {c : ℕ} {jobId workflowId : String} {batch : Bool}
    {items : List (Json × Json)} (h : items ≠ []) (randbelow : ℕ → ℤ → ℤ) :
    Effect service s a (s.generate service c jobId workflowId batch items randbelow) := by
  unfold State.generate
  split
  · exact called c nofun
  · next asked hasked =>
      refine proceed_effect (.inl fun hnil ↦ h ?_) (fun cursor ↦ resolveFrom_asked) randbelow
      have hlength := ask_values hasked
      rw [hnil, List.length_map] at hlength
      exact List.eq_nil_of_length_eq_zero hlength.symm

theorem step_effect (h : step service s a = some s') : Effect service s a s' := by
  cases a with
  | generate c jobId workflowId parameters references randbelow =>
      dsimp only [step] at h
      split at h
      · cases h
        exact generate_effect (List.cons_ne_nil _ _) randbelow
      · cases h
  | generateBatch c jobId workflowId items randbelow =>
      dsimp only [step] at h
      split at h
      · split at h
        · cases h
          exact called c nofun
        · next hitems =>
            cases h
            exact generate_effect (batchItems_ne_nil hitems) randbelow
      · cases h
  | verified c failure randbelow =>
      dsimp only [step] at h
      split at h
      · next cursor hcursor =>
          split at h
          · cases h
            exact called c nofun
          · cases h
            exact proceed_effect (.inr ⟨cursor, hcursor, rfl⟩) (fun cursor' ↦ Cursor.next_asked)
              randbelow
      · cases h
  | getJob c jobId wait =>
      dsimp only [step] at h
      split at h
      · cases h
        exact called c (joined_ne jobId wait)
      · cases h
  | wake c =>
      dsimp only [step] at h
      split at h
      · split at h
        · split at h
          · cases h
            exact called c (outcomeOf_ne _ _ _)
          · cases h
        · cases h
      · cases h
  | cancelCall c =>
      dsimp only [step] at h
      split at h
      · cases h
        exact called c nofun
      · split at h
        · split at h <;> cases h <;> exact called c nofun
        · cases h
      · cases h
  | registered id image =>
      dsimp only [step] at h
      split at h
      · cases h
        exact .registered _
      · cases h
  | task jobId a =>
      dsimp only [step, State.stepJob] at h
      cases hjob : s.jobs.lookup jobId with
      | none =>
          rw [hjob] at h
          cases h
      | some job =>
          rw [hjob] at h
          obtain ⟨job', hstep, rfl⟩ := Option.map_eq_some_iff.mp h
          exact .task hjob (Job.step_moves hstep)
  | stopAccepting =>
      cases h
      exact .stopped
  | close =>
      cases h
      exact .close rfl
  | closeReturns n =>
      dsimp only [step] at h
      split at h
      · next hids =>
          split at h
          · next hdone =>
              cases h
              exact .closed hids hdone
          · cases h
      · cases h

end System

end StProxy.Media
