import StProxy.Lib.Lists
import StProxy.Media.Idempotent

/-!
# Results of jobs are final

A status that is published is never changed, and that of a batch agrees with its items,
as long as `close` finds no batch in the middle of its work.
-/

namespace StProxy.Media

def Item.isFinal (item : Item) : Bool := item.result.status.isFinal

/-- A settled status is that of `b` as well. -/
def Status.Kept (a b : Status) : Prop := a.isFinal = true → b = a

/-- What the status of a batch says of its items. -/
structure Batch.Consistent (batch : Batch) : Prop where
  items : batch.status.isFinal = true → ∀ item ∈ batch.items,
    item.result.status = .succeeded ∨ item.result.status = .failed
  succeeded : batch.status = .succeeded → ∀ item ∈ batch.items, item.result.status = .succeeded
  partialSuccess : batch.status = .partialSuccess →
    (∃ item ∈ batch.items, item.result.status = .succeeded) ∧
      ∃ item ∈ batch.items, item.result.status ≠ .succeeded

/-! ## Items -/

/-- A settled status belongs to a task that is done, or was cancelled by `close`. -/
structure Item.Sound (item : Item) : Prop where
  status : item.isFinal = true → item.result.status = .succeeded ∨ item.result.status = .failed
  done : ∀ run ∈ item.run, run.isDone = true → item.isFinal = true
  cancelling : ∀ run ∈ item.run, run.isDone = false → run.cancelling = true →
    item.result.status = .failed
  running : ∀ run ∈ item.run, run.isDone = false → run.cancelling = false → item.isFinal = false

section Items

variable {closing : Bool} {item item' : Item}

lemma Item.Moves.sound (h : item.Moves closing item') (hsound : item.Sound) : item'.Sound := by
  cases h with
  | dropped h =>
      have hfailed := hsound.cancelling _ h rfl rfl
      refine ⟨hsound.status, ?_, ?_, ?_⟩ <;> rintro _ ⟨⟩ hdone
      · simp [Item.isFinal, hfailed, Status.isFinal]
      · cases hdone
      · cases hdone
  | @goes run status point h hrun hcancel hstatus hpoint =>
      have hnot : (item.goto status point).isFinal = false := hstatus
      have hrunning : Run.isDone ⟨point, false⟩ = false := by
        unfold Run.isDone
        split
        · next cancelled hp => exact absurd hp (hpoint cancelled)
        · rfl
      refine ⟨fun hfinal ↦ absurd (hnot.symm.trans hfinal) Bool.false_ne_true, ?_, ?_, ?_⟩ <;>
        rintro _ ⟨⟩ hdone
      · exact absurd (hrunning.symm.trans hdone) Bool.false_ne_true
      · exact nofun
      · exact fun _ ↦ hnot
  | fails h hrun =>
      refine ⟨fun _ ↦ .inr rfl, ?_, ?_, ?_⟩ <;> rintro _ ⟨⟩ hdone
      · rfl
      · cases hdone
      · cases hdone
  | succeeds h hrun hcancel =>
      refine ⟨fun _ ↦ .inl rfl, ?_, ?_, ?_⟩ <;> rintro _ ⟨⟩ hdone
      · rfl
      · cases hdone
      · cases hdone

/-- A step keeps a settled status. -/
lemma Item.Moves.kept (h : item.Moves closing item') (hsound : item.Sound) :
    item.result.status.Kept item'.result.status := by
  have hrunning {run : Run} (hrun : item.run = some run) (hdone : run.isDone = false)
      (hcancel : run.cancelling = false) : item.result.status.Kept item'.result.status := fun hf ↦
    absurd ((hsound.running run hrun hdone hcancel).symm.trans hf) Bool.false_ne_true
  cases h with
  | dropped h => exact fun _ ↦ rfl
  | goes h hrun hcancel | succeeds h hrun hcancel => exact hrunning h hrun hcancel
  | @fails run stage e h hrun =>
      cases hcancel : run.cancelling with
      | false => exact hrunning h hrun hcancel
      | true => exact fun _ ↦ (hsound.cancelling run h hrun hcancel).symm

/-- Without a cancellation, a task is done when its status is settled. -/
lemma Item.Sound.isDone (h : item.Sound) (hcalm : item.Calm) (hfinal : item.isFinal = true) :
    item.isDone = true := by
  unfold Item.isDone
  cases hrun : item.run with
  | none => rfl
  | some run =>
      cases hdone : run.isDone with
      | true => exact hdone
      | false =>
          have hnot := h.running run hrun hdone (hcalm run hrun).1
          exact absurd (hnot.symm.trans hfinal) Bool.false_ne_true

lemma Item.cancel_eq (h : item.isDone = true) : item.cancel = item := by
  unfold Item.cancel
  obtain ⟨result, run⟩ := item
  cases run with
  | none => rfl
  | some run =>
      have hdone : run.isDone = true := h
      simp [hdone]

end Items

/-! ## Batches -/

/-- The batch publishes its status, or fails next. -/
def BatchPoint.isOver : BatchPoint → Bool
  | .leaving true | .finishing | .done _ => true
  | _ => false

/-- The batch has not created tasks yet. -/
def BatchPoint.isEarly : BatchPoint → Bool
  | .created | .entering => true
  | _ => false

/-- The batch reaches a settled status only when its items have. -/
structure Batch.Sound (batch : Batch) : Prop where
  items : ∀ item ∈ batch.items, item.Sound ∧ item.Calm
  consistent : batch.Consistent
  cancelling : batch.cancelling = true → batch.status = .failed
  running : batch.point.isOver = false → batch.cancelling = false → batch.status.isFinal = false
  early : batch.point.isEarly = true →
    ∀ item ∈ batch.items, item.run = none ∧ item.result.status = .preparing
  started : batch.point.isEarly = false → batch.isDone = false →
    ∀ item ∈ batch.items, item.run.isSome = true
  leaving : ∀ cancelled, batch.point = .leaving cancelled →
    (∀ item ∈ batch.items, item.isFinal = true) ∧ (cancelled = true → batch.status = .failed)
  finished : batch.point = .finishing ∨ batch.isDone = true → batch.status.isFinal = true

section Batches

variable {closing : Bool} {batch batch' : Batch}

lemma Batch.Consistent.of_running (h : batch.status.isFinal = false) : batch.Consistent := by
  refine ⟨fun hfinal ↦ absurd (h.symm.trans hfinal) Bool.false_ne_true, fun hs ↦ ?_, fun hs ↦ ?_⟩
  all_goals
    rw [hs] at h
    cases h

lemma Batch.Consistent.congr (h : batch.Consistent) (hitems : batch'.items = batch.items)
    (hstatus : batch'.status = batch.status) : batch'.Consistent := by
  refine ⟨?_, ?_, ?_⟩ <;> rw [hitems, hstatus]
  exacts [h.items, h.succeeded, h.partialSuccess]

lemma isFinal_of_or {item : Item}
    (h : item.result.status = .succeeded ∨ item.result.status = .failed) : item.isFinal = true := by
  unfold Item.isFinal
  rcases h with h | h <;> rw [h] <;> rfl

/-- A batch that failed when its items were settled. -/
lemma Batch.Sound.consistent_failed (h : ∀ item ∈ batch.items, item.Sound)
    (hfinal : ∀ item ∈ batch.items, item.isFinal = true) (hstatus : batch.status = .failed) :
    batch.Consistent := by
  refine ⟨fun _ item hitem ↦ (h item hitem).status (hfinal item hitem), fun hs ↦ ?_, fun hs ↦ ?_⟩
  all_goals
    rw [hstatus] at hs
    cases hs

/-- Where tasks were not cancelled and all statuses are settled, cancelling is in vain. -/
lemma map_cancel_eq {items : List Item} (h : ∀ item ∈ items, item.Sound ∧ item.Calm)
    (hfinal : ∀ item ∈ items, item.isFinal = true) : items.map Item.cancel = items := by
  refine (List.map_congr_left fun item hitem ↦ ?_).trans (List.map_id items)
  exact Item.cancel_eq ((h item hitem).1.isDone (h item hitem).2 (hfinal item hitem))

/-- Where all statuses are settled, there is nothing to finalize. -/
lemma Batch.finalize_eq (h : ∀ item ∈ batch.items,
    item.result.status = .succeeded ∨ item.result.status = .failed) : batch.finalize = batch := by
  have hitems : batch.finalize.items = batch.items :=
    (List.map_congr_left fun item hitem ↦ if_pos (h item hitem)).trans (List.map_id _)
  calc batch.finalize = { batch with items := batch.finalize.items } := rfl
    _ = batch := by rw [hitems]

lemma Batch.Sound.of_done {cancelled : Bool} (hpoint : batch.point = .done cancelled)
    (items : ∀ item ∈ batch.items, item.Sound ∧ item.Calm) (consistent : batch.Consistent)
    (hcancel : batch.cancelling = false) (hfinal : batch.status.isFinal = true) : batch.Sound where
  items := items
  consistent := consistent
  cancelling hc := absurd (hcancel.symm.trans hc) Bool.false_ne_true
  running hover := by
    rw [hpoint] at hover
    cases hover
  early hearly := by
    rw [hpoint] at hearly
    cases hearly
  started _ hdone := by
    rw [Batch.isDone, hpoint] at hdone
    cases hdone
  leaving cancelled hleaving := by cases hpoint.symm.trans hleaving
  finished _ := hfinal

/-- At the last `gather` with settled items. -/
lemma Batch.Sound.finishing (h : batch.Sound) {cancelled : Bool}
    (hpoint : batch.point = .leaving cancelled) {status : Status} {error : Option JobError}
    (hfinal : status.isFinal = true)
    (hconsistent : Batch.Consistent { batch with status, error }) :
    ({ batch with status, error } : Batch).finish.Sound := by
  have hitems := (h.leaving cancelled hpoint).1
  have heq : ({ batch with status, error } : Batch).finish =
      { batch with status, error, point := .finishing, cancelling := false } := by
    unfold Batch.finish
    rw [map_cancel_eq h.items hitems]
  rw [heq]
  have hnotDone : batch.isDone = false := by rw [Batch.isDone, hpoint]
  exact {
    items := h.items
    consistent := ⟨hconsistent.items, hconsistent.succeeded, hconsistent.partialSuccess⟩
    cancelling := nofun
    running := nofun
    early := nofun
    started := fun _ _ ↦ h.started (by rw [hpoint]; rfl) hnotDone
    leaving := nofun
    finished := fun _ ↦ hfinal }

/-- The status that is published agrees with the items. -/
lemma Batch.publish_eq (h : ∀ item ∈ batch.items, item.Sound)
    (hfinal : ∀ item ∈ batch.items, item.isFinal = true) : ∃ status error,
      batch.publish = { batch with status, error } ∧ status.isFinal = true ∧
        Batch.Consistent { batch with status, error } := by
  have hsettled : ∀ item ∈ batch.items,
      item.result.status = .succeeded ∨ item.result.status = .failed := fun item hitem ↦
    (h item hitem).status (hfinal item hitem)
  unfold Batch.publish
  dsimp only
  split
  · next hall =>
      refine ⟨.succeeded, batch.error, rfl, rfl, fun _ ↦ hsettled, fun _ item hitem ↦ ?_, nofun⟩
      simpa using List.countP_eq_length.mp hall item hitem
  · next hnot =>
      refine ⟨_, _, rfl, by split <;> rfl, fun _ ↦ hsettled, ?_, fun hs ↦ ⟨?_, ?_⟩⟩
      · intro hs
        dsimp only at hs
        split at hs <;> cases hs
      · have hpos : 0 < batch.items.countP fun item ↦ item.result.status = .succeeded := by
          by_contra hzero
          rw [if_neg hzero] at hs
          cases hs
        simpa using List.countP_pos_iff.mp hpos
      · by_contra hnone
        refine hnot (List.countP_eq_length.mpr fun item hitem ↦ ?_)
        by_contra hne
        exact hnone ⟨item, hitem, by simpa using hne⟩

/-- While an item moves, the batch has no settled status. -/
lemma Batch.Sound.running_of_moves (h : batch.Sound) {item item' : Item}
    (hitem : item ∈ batch.items) (hmove : item.Moves closing item') :
    item.isFinal = false ∧ batch.status.isFinal = false := by
  obtain ⟨hsound, hcalm⟩ := h.items item hitem
  have hnot : item.isFinal = false := by
    by_contra hfinal
    have hdone := hsound.isDone hcalm (Bool.of_not_eq_false hfinal)
    exact absurd (hmove.not_done.symm.trans hdone) Bool.false_ne_true
  refine ⟨hnot, ?_⟩
  by_contra hfinal
  have hitems := h.consistent.items (Bool.of_not_eq_false hfinal) item hitem
  exact absurd (hnot.symm.trans (isFinal_of_or hitems)) Bool.false_ne_true

lemma Item.Moves.isSome {item item' : Item} (h : item.Moves closing item') :
    item.run.isSome = true ∧ item'.run.isSome = true := by
  cases h with
  | dropped h | goes h | fails h | succeeds h => exact ⟨by rw [h]; rfl, rfl⟩

lemma Batch.Sound.setItem (h : batch.Sound) {index : ℕ} {item item' : Item}
    (hitem : batch.items[index]? = some item) (hmove : item.Moves closing item') :
    ({ batch with items := batch.items.set index item' } : Batch).Sound := by
  have hmem := List.mem_of_getElem? hitem
  obtain ⟨hsound, hcalm⟩ := h.items item hmem
  obtain ⟨hnot, hstatus⟩ := h.running_of_moves hmem hmove
  have hset {P : Item → Prop} (hP : ∀ other ∈ batch.items, P other) (hP' : P item') :
      ∀ other ∈ batch.items.set index item', P other := by
    intro other hother
    rcases List.mem_or_eq_of_mem_set hother with hother | rfl
    · exact hP other hother
    · exact hP'
  refine {
    items := hset h.items ⟨hmove.sound hsound, hmove.calm hcalm⟩
    consistent := .of_running hstatus
    cancelling := h.cancelling
    running := h.running
    early := fun hearly ↦ ?_
    started := fun hearly hdone ↦ hset (h.started hearly hdone) hmove.isSome.2
    leaving := fun cancelled hpoint ↦ ?_
    finished := h.finished }
  · have hnone := (h.early hearly item hmem).1
    have hsome := hmove.isSome.1
    rw [hnone] at hsome
    cases hsome
  · have hfinal := (h.leaving cancelled hpoint).1 item hmem
    exact absurd (hnot.symm.trans hfinal) Bool.false_ne_true

lemma Batch.Sound.moves (h : batch.Sound) (hmove : batch.Moves closing batch') :
    batch'.Sound := by
  cases hmove with
  | item hitem hmove => exact h.setItem hitem hmove
  | dropped hpoint hcancel =>
      have hfailed := h.cancelling hcancel
      refine .of_done rfl h.items (h.consistent.congr rfl rfl) rfl ?_
      rw [hfailed]
      rfl
  | queued hpoint hcancel =>
      exact {
        items := h.items
        consistent := .of_running rfl
        cancelling := fun hc ↦ absurd (hcancel.symm.trans hc) Bool.false_ne_true
        running := fun _ _ ↦ rfl
        early := fun _ ↦ h.early (by rw [hpoint]; rfl)
        started := nofun
        leaving := nofun
        finished := fun hf ↦ hf.elim nofun nofun }
  | @abandoned e hpoint =>
      have hearly := h.early (by rcases hpoint with hp | hp <;> rw [hp] <;> rfl)
      have hfailed : ∀ item ∈ (batch.abandon closing e).items,
          item.run = none ∧ item.result.status = .failed := by
        intro item hitem
        obtain ⟨old, hold, rfl⟩ := List.mem_map.mp hitem
        obtain ⟨hrun, hstatus⟩ := hearly old hold
        rw [if_neg (by rw [hstatus]; decide)]
        exact ⟨hrun, rfl⟩
      refine .of_done rfl (fun item hitem ↦ ?_)
        ⟨fun _ item hitem ↦ .inr (hfailed item hitem).2, nofun, nofun⟩ rfl rfl
      obtain ⟨hrun, hstatus⟩ := hfailed item hitem
      refine ⟨⟨fun _ ↦ .inr hstatus, ?_, ?_, ?_⟩, fun run hsome ↦ ?_⟩
      · exact fun run hsome ↦ by cases hrun.symm.trans hsome
      · exact fun run hsome ↦ by cases hrun.symm.trans hsome
      · exact fun run hsome ↦ by cases hrun.symm.trans hsome
      · cases hrun.symm.trans hsome
  | entered hpoint hcancel =>
      have hstatus := h.running (by rw [hpoint]; rfl) hcancel
      have hearly := h.early (by rw [hpoint]; rfl)
      refine {
        items := fun item hitem ↦ ?_
        consistent := .of_running hstatus
        cancelling := h.cancelling
        running := fun _ _ ↦ hstatus
        early := nofun
        started := fun _ _ item hitem ↦ ?_
        leaving := nofun
        finished := fun hf ↦ hf.elim nofun nofun }
      · obtain ⟨old, hold, rfl⟩ := List.mem_map.mp hitem
        have hpreparing := (hearly old hold).2
        have hnot : old.isFinal = false := by rw [Item.isFinal, hpreparing]; rfl
        refine ⟨⟨fun hf ↦ absurd (hnot.symm.trans hf) Bool.false_ne_true, ?_, ?_, ?_⟩, ?_⟩ <;>
          rintro _ ⟨⟩
        · exact nofun
        · exact nofun
        · exact fun _ _ ↦ hnot
        · exact ⟨rfl, nofun⟩
      · obtain ⟨old, hold, rfl⟩ := List.mem_map.mp hitem
        rfl
  | interrupted hpoint hcancel =>
      have hfailed := h.cancelling hcancel
      exact {
        items := h.items
        consistent := h.consistent.congr rfl rfl
        cancelling := nofun
        running := nofun
        early := nofun
        started := fun _ _ ↦ h.started (by rw [hpoint]; rfl) (by rw [Batch.isDone, hpoint])
        leaving := fun _ _ ↦ ⟨fun item hitem ↦
          isFinal_of_or (h.consistent.items (by rw [hfailed]; rfl) item hitem), fun _ ↦ hfailed⟩
        finished := fun hf ↦ hf.elim nofun nofun }
  | submitted hpoint hcancel =>
      exact {
        items := h.items
        consistent := .of_running rfl
        cancelling := fun hc ↦ absurd (hcancel.symm.trans hc) Bool.false_ne_true
        running := fun _ _ ↦ rfl
        early := nofun
        started := fun _ _ ↦ h.started (by rw [hpoint]; rfl) (by rw [Batch.isDone, hpoint])
        leaving := nofun
        finished := fun hf ↦ hf.elim nofun nofun }
  | @gathered cancelled hpoint hgathered =>
      have hstarted := h.started (by rw [hpoint]; rfl) (by rw [Batch.isDone, hpoint])
      -- No task of an item was cancelled, so all of them are done.
      have hnone : batch.items.any Item.isCancelled = false := by
        rw [List.any_eq_false]
        intro item hitem
        rw [(h.items item hitem).2.not_cancelled]
        exact Bool.false_ne_true
      unfold Batch.gathered at hgathered
      rw [hnone, if_neg Bool.false_ne_true] at hgathered
      split at hgathered
      · next hdone =>
          obtain rfl := Option.some.inj hgathered
          refine {
            items := h.items
            consistent := h.consistent.congr rfl rfl
            cancelling := nofun
            running := fun hover _ ↦ h.running (by rw [hpoint]; rfl) ?_
            early := nofun
            started := fun _ _ ↦ hstarted
            leaving := ?_
            finished := fun hf ↦ hf.elim nofun nofun }
          · by_contra hcancel
            rw [Bool.of_not_eq_false hcancel] at hover
            cases hover
          · rintro _ ⟨⟩
            refine ⟨fun item hitem ↦ ?_, h.cancelling⟩
            obtain ⟨run, hrun⟩ := Option.isSome_iff_exists.mp (hstarted item hitem)
            have hitemDone := List.all_eq_true.mp hdone item hitem
            rw [Item.isDone, hrun] at hitemDone
            exact (h.items item hitem).1.done run hrun hitemDone
      · cases hgathered
  | @raised cancelled e hpoint =>
      refine h.finishing hpoint rfl ?_
      exact Batch.Sound.consistent_failed (fun item hitem ↦ (h.items item hitem).1)
        (h.leaving cancelled hpoint).1 rfl
  | published hpoint hcancel =>
      obtain ⟨status, error, heq, hfinal, hconsistent⟩ := Batch.publish_eq
        (fun item hitem ↦ (h.items item hitem).1) (h.leaving false hpoint).1
      rw [heq]
      exact h.finishing hpoint hfinal hconsistent
  | stopped hpoint hdone hcancel =>
      exact .of_done rfl h.items (h.consistent.congr rfl rfl) rfl (h.finished (.inl hpoint))
  | finished hpoint hdone hcancel =>
      have hfinal := h.finished (.inl hpoint)
      rw [Batch.finalize_eq (h.consistent.items hfinal)]
      exact .of_done rfl h.items (h.consistent.congr rfl rfl) hcancel hfinal

end Batches

/-! ## Settled statuses are kept -/

/-- The settled statuses of a batch and its items are those of `b`. -/
structure Batch.Kept (a b : Batch) : Prop where
  status : a.status.Kept b.status
  items : List.Forall₂ (fun x y : Item ↦ x.result.status.Kept y.result.status) a.items b.items

section Kept

variable {closing : Bool} {batch batch' : Batch}

lemma Status.Kept.refl (a : Status) : a.Kept a := fun _ ↦ rfl

lemma Status.Kept.trans {a b c : Status} (h : a.Kept b) (h' : b.Kept c) : a.Kept c := fun hfinal ↦
  have heq := h hfinal
  (h' (heq ▸ hfinal)).trans heq

lemma Status.kept_of_running {a b : Status} (h : a.isFinal = false) : a.Kept b := fun hfinal ↦
  absurd (h.symm.trans hfinal) Bool.false_ne_true

lemma Batch.Kept.of_items (hstatus : batch.status.Kept batch'.status)
    (hitems : batch'.items = batch.items) : batch.Kept batch' :=
  ⟨hstatus, hitems ▸ List.forall₂_same.mpr fun _ _ ↦ .refl _⟩

lemma Batch.Kept.trans {batch'' : Batch} (h : batch.Kept batch') (h' : batch'.Kept batch'') :
    batch.Kept batch'' := by
  refine ⟨h.status.trans h'.status, ?_⟩
  exact Lists.forall₂_trans (R := fun x y : Item ↦ x.result.status.Kept y.result.status)
    (fun _ _ _ hab hbc ↦ hab.trans hbc) h.items h'.items

lemma forall₂_set {items : List Item} {index : ℕ} {item item' : Item}
    (hitem : items[index]? = some item) (h : item.result.status.Kept item'.result.status) :
    List.Forall₂ (fun x y : Item ↦ x.result.status.Kept y.result.status) items
      (items.set index item') := by
  induction items generalizing index with
  | nil => exact .nil
  | cons first items ih =>
      cases index with
      | zero =>
          obtain rfl : first = item := by simpa using hitem
          exact .cons h (List.forall₂_same.mpr fun _ _ ↦ .refl _)
      | succ index => exact .cons (.refl _) (ih (by simpa using hitem))

/-- Before the end, a settled status is the one that `close` set. -/
lemma Batch.Sound.failed_of_final (h : batch.Sound) (hpoint : batch.point ≠ .finishing)
    (hdone : batch.isDone = false) (hfinal : batch.status.isFinal = true) :
    batch.status = .failed := by
  cases hcancel : batch.cancelling with
  | true => exact h.cancelling hcancel
  | false =>
      cases hover : batch.point.isOver with
      | false => exact absurd ((h.running hover hcancel).symm.trans hfinal) Bool.false_ne_true
      | true =>
          unfold BatchPoint.isOver at hover
          split at hover
          · next hp => exact (h.leaving true hp).2 rfl
          · next hp => exact absurd hp hpoint
          · next hp => simp [Batch.isDone, hp] at hdone
          · cases hover

lemma Batch.Sound.kept (h : batch.Sound) (hmove : batch.Moves closing batch') :
    batch.Kept batch' := by
  cases hmove with
  | @item index item item' hitem hmove =>
      exact ⟨.refl _, forall₂_set hitem (hmove.kept (h.items _ (List.mem_of_getElem? hitem)).1)⟩
  | dropped | interrupted | gathered | stopped => exact .of_items (.refl _) rfl
  | queued hpoint hcancel | submitted hpoint hcancel =>
      exact .of_items (Status.kept_of_running (h.running (by rw [hpoint]; rfl) hcancel)) rfl
  | @abandoned e hpoint =>
      have hearly := h.early (by rcases hpoint with hp | hp <;> rw [hp] <;> rfl)
      refine ⟨fun hfinal ↦ ?_, ?_⟩
      · refine (h.failed_of_final ?_ ?_ hfinal).symm
        · rcases hpoint with hp | hp <;> rw [hp] <;> nofun
        · rcases hpoint with hp | hp <;> rw [Batch.isDone, hp]
      · refine List.forall₂_map_right_iff.mpr (List.forall₂_same.mpr fun item hitem ↦ ?_)
        have hpreparing := (hearly item hitem).2
        exact Status.kept_of_running (by rw [hpreparing]; rfl)
  | entered hpoint hcancel =>
      exact ⟨.refl _, List.forall₂_map_right_iff.mpr (List.forall₂_same.mpr fun _ _ ↦ .refl _)⟩
  | @raised cancelled e hpoint =>
      refine .of_items (fun hfinal ↦ ?_) (map_cancel_eq h.items (h.leaving cancelled hpoint).1)
      exact (h.failed_of_final (by rw [hpoint]; nofun) (by rw [Batch.isDone, hpoint]) hfinal).symm
  | published hpoint hcancel =>
      refine .of_items (Status.kept_of_running (h.running (by rw [hpoint]; rfl) hcancel)) ?_
      unfold Batch.finish
      rw [Batch.items_publish]
      exact map_cancel_eq h.items (h.leaving false hpoint).1
  | finished hpoint hdone hcancel =>
      have hfinal := h.finished (.inl hpoint)
      rw [Batch.finalize_eq (h.consistent.items hfinal)]
      exact .of_items (.refl _) rfl

end Kept

/-! ## Jobs -/

section Jobs

variable {F : Type} {closing : Bool} {job job' : Job F} {batch : Batch}

def Job.Sound (job : Job F) : Prop :=
  match job.work with
  | .image item => item.Sound ∧ item.run.isSome = true
  | .batch batch => batch.Sound

/-- The status of a batch agrees with its items. -/
def Job.Consistent (job : Job F) : Prop :=
  match job.work with
  | .image _ => True
  | .batch batch => batch.Consistent

/-- The statuses of the job and of its items are settled. -/
def Job.IsFinal (job : Job F) : Prop :=
  match job.work with
  | .image item => item.isFinal = true
  | .batch batch => batch.status.isFinal = true ∧ ∀ item ∈ batch.items, item.isFinal = true

/-- The settled statuses of a job are those of `job'`. -/
def Job.Settles (job job' : Job F) : Prop :=
  match job.work, job'.work with
  | .image item, .image item' => item.result.status.Kept item'.result.status
  | .batch batch, .batch batch' => batch.Kept batch'
  | _, _ => False

/-- `close` finds the job done, a single image, or a batch that has settled items and has
not published a success. -/
def Job.Closable (job : Job F) : Prop :=
  match job.work with
  | .image _ => True
  | .batch batch => batch.isDone = false → (∀ item ∈ batch.items, item.isFinal = true) ∧
      batch.status ≠ .succeeded ∧ batch.status ≠ .partialSuccess

lemma Job.Settles.refl (job : Job F) : job.Settles job := by
  unfold Job.Settles
  cases job.work with
  | image item => exact .refl _
  | batch batch => exact .of_items (.refl _) rfl

lemma Job.Settles.trans {job'' : Job F} (h : job.Settles job') (h' : job'.Settles job'') :
    job.Settles job'' := by
  unfold Job.Settles at h h' ⊢
  cases hw : job.work <;> cases hw' : job'.work <;> cases hw'' : job''.work <;>
    simp only [hw, hw', hw''] at h h' ⊢
  · exact Status.Kept.trans h h'
  · exact Batch.Kept.trans h h'

lemma Job.Sound.moves (h : job.Sound) (hmove : job.Moves closing job') :
    job'.Sound ∧ job.Settles job' := by
  unfold Job.Sound at h ⊢
  unfold Job.Settles
  cases hmove with
  | image hwork hmove =>
      rw [hwork] at h ⊢
      exact ⟨⟨hmove.sound h.1, hmove.isSome.2⟩, hmove.kept h.1⟩
  | batch hwork hmove =>
      rw [hwork] at h ⊢
      exact ⟨h.moves hmove, h.kept hmove⟩

lemma Item.Sound.close {item : Item} (h : item.Sound) (hdone : item.isDone = false) :
    ({ item.cancel with
      result := { item.result with status := .failed, error := some shutdown } } : Item).Sound ∧
      item.result.status.Kept .failed := by
  cases hrun : item.run with
  | none =>
      rw [Item.isDone, hrun] at hdone
      cases hdone
  | some run =>
      have hrunDone : run.isDone = false := by
        rw [Item.isDone, hrun] at hdone
        exact hdone
      have hcancel : item.cancel.run = some ⟨run.point, true⟩ := by
        simp [Item.cancel, hrun, hrunDone]
      refine ⟨⟨fun _ ↦ .inr rfl, fun _ _ _ ↦ rfl, fun _ _ _ _ ↦ rfl, ?_⟩, fun hfinal ↦ ?_⟩
      · rintro run' hrun' - hnot
        obtain rfl := Option.some.inj (hcancel.symm.trans hrun')
        cases hnot
      · cases hc : run.cancelling with
        | true => exact (h.cancelling run hrun hrunDone hc).symm
        | false =>
            exact absurd ((h.running run hrun hrunDone hc).symm.trans hfinal) Bool.false_ne_true

/-- `close` leaves the results of the items as they are. -/
lemma Batch.exists_mem_cancel (batch : Batch) {item : Item} (hitem : item ∈ batch.items) :
    ∃ item' ∈ batch.cancel.items, item'.result = item.result := by
  unfold Batch.cancel
  split
  · exact ⟨item, hitem, rfl⟩
  · exact ⟨item.cancel, List.mem_map_of_mem hitem, rfl⟩
  · exact ⟨item.cancel, List.mem_map_of_mem hitem, rfl⟩
  · exact ⟨item, hitem, rfl⟩

lemma Batch.Sound.close (h : batch.Sound) (hdone : batch.isDone = false)
    (hfinal : ∀ item ∈ batch.items, item.isFinal = true) (hne : batch.status ≠ .succeeded)
    (hne' : batch.status ≠ .partialSuccess) :
    ({ batch.cancel with status := .failed, error := some shutdown } : Batch).Sound ∧
      batch.Kept { batch.cancel with status := .failed, error := some shutdown } := by
  have hcancel : batch.cancel = { batch with cancelling := true } := by
    unfold Batch.cancel
    split
    · next hpoint => simp [Batch.isDone, hpoint] at hdone
    · rw [map_cancel_eq h.items hfinal]
    · rw [map_cancel_eq h.items hfinal]
    · rfl
  rw [hcancel]
  refine ⟨{
    items := h.items
    consistent := Batch.Sound.consistent_failed (fun item hitem ↦ (h.items item hitem).1) hfinal rfl
    cancelling := fun _ ↦ rfl
    running := fun _ ↦ nofun
    early := h.early
    started := h.started
    leaving := fun _ _ ↦ ⟨hfinal, fun _ ↦ rfl⟩
    finished := fun _ ↦ rfl }, .of_items (fun hstatus ↦ ?_) rfl⟩
  revert hstatus hne hne'
  cases batch.status <;> simp [Status.isFinal]

lemma Job.Sound.close (h : job.Sound) (hclosable : job.Closable) :
    job.close.Sound ∧ job.Settles job.close := by
  unfold Job.close
  split
  · exact ⟨h, .refl job⟩
  · next hdone =>
      rw [Bool.not_eq_true] at hdone
      unfold Job.Sound at h
      unfold Job.Closable at hclosable
      unfold Job.isDone at hdone
      cases hwork : job.work with
      | image item =>
          rw [hwork] at h hdone
          obtain ⟨hsound, hkept⟩ := h.1.close hdone
          refine ⟨⟨hsound, ?_⟩, ?_⟩
          · rw [← h.2]
            simp [Item.cancel]
          · rw [Job.Settles, hwork]
            exact hkept
      | batch batch =>
          rw [hwork] at h hdone hclosable
          obtain ⟨hfinal, hne, hne'⟩ := hclosable hdone
          obtain ⟨hsound, hkept⟩ := Batch.Sound.close h hdone hfinal hne hne'
          refine ⟨hsound, ?_⟩
          rw [Job.Settles, hwork]
          exact hkept

/-- `close` keeps the status of a batch and its agreement with the items only if the batch
has settled items and has not published a success. -/
lemma Job.Closable.of_close (hconsistent : job.close.Consistent)
    (hsettles : job.Settles job.close) : job.Closable := by
  unfold Job.Closable
  cases hwork : job.work with
  | image item => trivial
  | batch batch =>
      intro hdone
      have hclose : job.close.work =
          .batch { batch.cancel with status := .failed, error := some shutdown } := by
        have hjob : job.isDone = false := by rwa [Job.isDone, hwork]
        rw [Job.close, hjob, hwork]
        rfl
      unfold Job.Consistent at hconsistent
      unfold Job.Settles at hsettles
      rw [hclose] at hconsistent
      rw [hwork, hclose] at hsettles
      refine ⟨fun item hitem ↦ ?_, fun hstatus ↦ ?_, fun hstatus ↦ ?_⟩
      · obtain ⟨item', hitem', hresult⟩ := batch.exists_mem_cancel hitem
        have hfinal := hconsistent.items rfl item' hitem'
        rw [hresult] at hfinal
        exact isFinal_of_or hfinal
      · exact absurd (hsettles.status (by rw [hstatus]; rfl)) (by simp [hstatus])
      · exact absurd (hsettles.status (by rw [hstatus]; rfl)) (by simp [hstatus])

lemma Job.Sound.consistent (h : job.Sound) : job.Consistent := by
  unfold Job.Sound at h
  unfold Job.Consistent
  cases hwork : job.work with
  | image item => trivial
  | batch batch =>
      rw [hwork] at h
      exact Batch.Sound.consistent h

/-- A job is settled when its task is done. -/
lemma Job.Sound.isFinal (h : job.Sound) (hdone : job.isDone = true) : job.IsFinal := by
  unfold Job.Sound at h
  unfold Job.isDone at hdone
  unfold Job.IsFinal
  cases hwork : job.work with
  | image item =>
      rw [hwork] at h hdone
      obtain ⟨run, hrun⟩ := Option.isSome_iff_exists.mp h.2
      refine h.1.done run hrun ?_
      have hitem : item.isDone = true := hdone
      rwa [Item.isDone, hrun] at hitem
  | batch batch =>
      rw [hwork] at h hdone
      have hfinal := Batch.Sound.finished h (.inr hdone)
      exact ⟨hfinal, fun item hitem ↦
        isFinal_of_or ((Batch.Sound.consistent h).items hfinal item hitem)⟩

lemma Item.Sound.of_preparing {item : Item} (hstatus : item.result.status = .preparing)
    (hrun : ∀ run ∈ item.run, run.isDone = false ∧ run.cancelling = false) : item.Sound := by
  have hnot : item.isFinal = false := by
    rw [Item.isFinal, hstatus]
    rfl
  refine ⟨fun hfinal ↦ ?_, fun run hmem hdone ↦ ?_, fun run hmem _ hcancel ↦ ?_,
    fun _ _ _ _ ↦ hnot⟩
  · exact absurd (hnot.symm.trans hfinal) Bool.false_ne_true
  · exact absurd ((hrun run hmem).1.symm.trans hdone) Bool.false_ne_true
  · exact absurd ((hrun run hmem).2.symm.trans hcancel) Bool.false_ne_true

lemma newJob_sound (asked : Asked) (values : List Json.Fields)
    (references : List (List ReferenceImage)) (fingerprint : F) :
    (newJob asked values references fingerprint).Sound := by
  unfold newJob Job.Sound
  cases asked.batch with
  | true =>
      have hitem : ∀ item ∈ (values.map fun v ↦
          (⟨isPublic asked.workflow v, .preparing, [], none⟩ : ImageResult)).map
            fun result ↦ (⟨result, none⟩ : Item),
          item.run = none ∧ item.result.status = .preparing := by
        intro item hitem
        obtain ⟨result, hresult, rfl⟩ := List.mem_map.mp hitem
        obtain ⟨v, -, rfl⟩ := List.mem_map.mp hresult
        exact ⟨rfl, rfl⟩
      exact {
        items := fun item hmem ↦ by
          obtain ⟨hrun, hstatus⟩ := hitem item hmem
          refine ⟨.of_preparing hstatus fun run hr ↦ ?_, fun run hr ↦ ?_⟩
          · cases hrun.symm.trans hr
          · cases hrun.symm.trans hr
        consistent := .of_running rfl
        cancelling := nofun
        running := fun _ _ ↦ rfl
        early := fun _ ↦ hitem
        started := nofun
        leaving := nofun
        finished := fun hf ↦ hf.elim nofun nofun }
  | false =>
      refine ⟨.of_preparing ?_ ?_, rfl⟩
      · cases values <;> rfl
      · rintro _ ⟨⟩
        exact ⟨rfl, rfl⟩

end Jobs

/-! ## Runs -/

section Runs

variable {F : Type} {service : Service F} {s s' : State F} {a : Action}

/-- A call of `close` finds every job so that it can be closed. -/
def Orderly (s : State F) (a : Action) : Prop :=
  a = .close → ∀ entry ∈ s.jobs, entry.2.Closable

/-- Known jobs stay known, with their settled statuses. -/
def State.Settles (s s' : State F) : Prop :=
  ∀ jobId job, s.jobs.lookup jobId = some job →
    ∃ job', s'.jobs.lookup jobId = some job' ∧ job.Settles job'

/-- What an orderly run preserves. -/
structure Finality (s : State F) : Prop where
  sound : ∀ entry ∈ s.jobs, entry.2.Sound
  closers : ∀ ids ∈ s.closers, s.closing = true ∧ ∀ entry ∈ s.jobs, entry.1 ∈ ids
  closed : s.closed = true → s.closing = true ∧ ∀ entry ∈ s.jobs, entry.2.isDone = true

lemma State.Settles.refl (s : State F) : s.Settles s := fun _ job hjob ↦ ⟨job, hjob, .refl job⟩

lemma State.Settles.trans {s'' : State F} (h : s.Settles s') (h' : s'.Settles s'') :
    s.Settles s'' := by
  intro jobId job hjob
  obtain ⟨job', hjob', hsettles⟩ := h jobId job hjob
  obtain ⟨job'', hjob'', hsettles'⟩ := h' jobId job' hjob'
  exact ⟨job'', hjob'', hsettles.trans hsettles'⟩

lemma lookup_map {f : String × Job F → String × Job F} (hfst : ∀ entry, (f entry).1 = entry.1)
    {jobs : List (String × Job F)} {jobId : String} {job : Job F}
    (hjob : jobs.lookup jobId = some job) :
    (jobs.map f).lookup jobId = some (f (jobId, job)).2 := by
  induction jobs with
  | nil => cases hjob
  | cons entry jobs ih =>
      obtain ⟨key, first⟩ := entry
      obtain ⟨value, hvalue⟩ : ∃ value, f (key, first) = (key, value) :=
        ⟨(f (key, first)).2, Prod.ext (hfst _) rfl⟩
      rw [List.map_cons, hvalue]
      by_cases hkey : jobId = key
      · subst hkey
        rw [List.lookup_cons_self] at hjob ⊢
        rw [← Option.some.inj hjob, hvalue]
      · have hne : (jobId == key) = false := beq_false_of_ne hkey
        rw [List.lookup_cons, hne] at hjob
        rw [List.lookup_cons, hne]
        exact ih hjob

/-- A step that replaces jobs by later ones. -/
lemma State.Settles.of_map {f : String × Job F → String × Job F}
    (hfst : ∀ entry, (f entry).1 = entry.1) (hjobs : s'.jobs = s.jobs.map f)
    (h : ∀ entry ∈ s.jobs, entry.2.Settles (f entry).2) : s.Settles s' := by
  intro jobId job hjob
  refine ⟨(f (jobId, job)).2, ?_, h _ (Workflows.mem_of_lookup_eq hjob)⟩
  rw [hjobs]
  exact lookup_map hfst hjob

lemma State.Settles.of_append {entry : String × Job F} (hjobs : s'.jobs = s.jobs ++ [entry]) :
    s.Settles s' := by
  intro jobId job hjob
  refine ⟨job, ?_, .refl job⟩
  rw [hjobs, List.lookup_append, hjob]
  rfl

lemma State.Settles.of_eq (hjobs : s'.jobs = s.jobs) : s.Settles s' := by
  intro jobId job hjob
  exact ⟨job, hjobs ▸ hjob, .refl job⟩

variable [DecidableEq F]

/-- An arrival leaves the jobs as they are, or adds one while the broker is open. -/
lemma arrive_jobs (service : Service F) (c : ℕ) (asked : Asked)
    (references : List (List ReferenceImage))
    (randbelow : ℕ → ℤ → ℤ) (hclosing : s.closing = false) :
    let s' := s.arrive service c asked references randbelow
    s'.closing = s.closing ∧ s'.closers = s.closers ∧ s'.closed = s.closed ∧
      (s'.jobs = s.jobs ∨ ∃ values fingerprint,
        s'.jobs = s.jobs ++ [(asked.jobId, newJob asked values references fingerprint)]) := by
  dsimp only
  rcases arrive_cases service c asked references randbelow hclosing with
    ⟨job, -, -, heq⟩ | ⟨job, -, -, heq⟩ | ⟨-, -, heq⟩ | ⟨-, -, heq⟩ <;> rw [heq]
  · exact ⟨rfl, rfl, rfl, .inl rfl⟩
  · exact ⟨rfl, rfl, rfl, .inl rfl⟩
  · exact ⟨rfl, rfl, rfl, .inl rfl⟩
  · exact ⟨rfl, rfl, rfl, .inr ⟨_, _, rfl⟩⟩

/-- An orderly step preserves finality, and keeps settled statuses. -/
lemma Finality.step (h : Finality s) (hregistered : Registered service s) (hok : Orderly s a)
    (heffect : Effect service s a s') : Finality s' ∧ s.Settles s' := by
  cases heffect with
  | called c call hcall => exact ⟨⟨h.sound, h.closers, h.closed⟩, .of_eq rfl⟩
  | registered images => exact ⟨⟨h.sound, h.closers, h.closed⟩, .of_eq rfl⟩
  | @arrived c asked references randbelow hpending hclosing =>
      obtain ⟨hclosing', hclosers, hclosed, hjobs⟩ :=
        arrive_jobs service c asked references randbelow hclosing
      have hopen {P : Prop} (ht : s.closing = true) : P :=
        absurd (hclosing.symm.trans ht) Bool.false_ne_true
      have hclosers' : ∀ ids ∈ (s.arrive service c asked references randbelow).closers,
          s.closing = true := fun ids hids ↦ (h.closers ids (hclosers ▸ hids)).1
      have hclosed' : (s.arrive service c asked references randbelow).closed = true →
          s.closing = true := fun hc ↦ (h.closed (hclosed ▸ hc)).1
      refine ⟨⟨?_, fun ids hids ↦ hopen (hclosers' ids hids), fun hc ↦ hopen (hclosed' hc)⟩, ?_⟩
      · rcases hjobs with hjobs | ⟨values, fingerprint, hjobs⟩ <;> rw [hjobs]
        · exact h.sound
        · intro entry hentry
          rcases List.mem_append.mp hentry with hentry | hentry
          · exact h.sound entry hentry
          · obtain rfl := List.mem_singleton.mp hentry
            exact newJob_sound _ _ _ _
      · rcases hjobs with hjobs | ⟨values, fingerprint, hjobs⟩
        · exact .of_eq hjobs
        · exact .of_append hjobs
  | @task jobId job job' hjob hmove =>
      have hkept := keptAll_replace hregistered.nodup_jobs hjob hmove.kept
      obtain ⟨hsound, hsettles⟩ := (h.sound _ (Workflows.mem_of_lookup_eq hjob)).moves hmove
      have hold : ∀ entry ∈ s.jobs, entry.1 = jobId → entry.2 = job := by
        rintro entry hentry rfl
        simpa using (Json.lookup_of_mem hregistered.nodup_jobs hentry).symm.trans hjob
      refine ⟨⟨fun entry hentry ↦ ?_, fun ids hids ↦ ?_, fun hc ↦ ?_⟩, ?_⟩
      · obtain ⟨old, hmem, rfl⟩ := List.mem_map.mp hentry
        split
        · exact hsound
        · exact h.sound old hmem
      · refine ⟨(h.closers ids hids).1, fun entry hentry ↦ ?_⟩
        obtain ⟨old, hmem, rfl⟩ := List.mem_map.mp hentry
        split
        · next hid => exact hid ▸ (h.closers ids hids).2 old hmem
        · exact (h.closers ids hids).2 old hmem
      · refine ⟨(h.closed hc).1, fun entry hentry ↦ ?_⟩
        obtain ⟨old, hmem, rfl⟩ := List.mem_map.mp hentry
        split
        · next hid => exact hmove.kept.isDone (hold old hmem hid ▸ (h.closed hc).2 old hmem)
        · exact (h.closed hc).2 old hmem
      · refine .of_map (f := fun entry ↦ if entry.1 = jobId then (jobId, job') else entry)
          (fun entry ↦ ?_) rfl fun entry hentry ↦ ?_
        · split
          · next hid => exact hid.symm
          · rfl
        · split
          · next hid => exact hold entry hentry hid ▸ hsettles
          · exact .refl _
  | stopped =>
      refine ⟨⟨h.sound, fun ids hids ↦ ⟨rfl, (h.closers ids hids).2⟩, fun hc ↦
        ⟨rfl, (h.closed hc).2⟩⟩, .of_eq rfl⟩
  | close ha =>
      have hclosable := hok ha
      refine ⟨⟨fun entry hentry ↦ ?_, fun ids hids ↦ ⟨rfl, fun entry hentry ↦ ?_⟩, fun hc ↦
        ⟨rfl, fun entry hentry ↦ ?_⟩⟩, ?_⟩
      · obtain ⟨old, hmem, rfl⟩ := List.mem_map.mp hentry
        exact ((h.sound old hmem).close (hclosable old hmem)).1
      · obtain ⟨old, hmem, rfl⟩ := List.mem_map.mp hentry
        rcases List.mem_append.mp hids with hids | hids
        · exact (h.closers ids hids).2 old hmem
        · obtain rfl := List.mem_singleton.mp hids
          exact List.mem_map.mpr ⟨old, hmem, rfl⟩
      · obtain ⟨old, hmem, rfl⟩ := List.mem_map.mp hentry
        exact old.2.close_kept.isDone ((h.closed hc).2 old hmem)
      · exact .of_map (f := fun entry ↦ (entry.1, entry.2.close)) (fun _ ↦ rfl) rfl
          fun entry hentry ↦ ((h.sound entry hentry).close (hclosable entry hentry)).2
  | closed hids hdone =>
      obtain ⟨hclosing, hall⟩ := h.closers _ (List.mem_of_getElem? hids)
      exact ⟨⟨h.sound, h.closers, fun _ ↦ ⟨hclosing, fun entry hentry ↦
        hdone entry hentry (hall entry hentry)⟩⟩, .of_eq rfl⟩

lemma finality_of_reachable (hs : (system service).ReachableVia Orderly s) : Finality s := by
  refine hs.invariant (I := Finality) ?_ ?_
  · rintro _ rfl
    exact ⟨List.forall_mem_nil _, List.forall_mem_nil _, nofun⟩
  · intro s a s' hs h hok hstep
    exact (h.step (registered_of_reachable hs.reachable) hok (step_effect hstep)).1

/-- Any other call of `close` breaks one of the two. -/
lemma closable_of_close (hregistered : Registered service s)
    (hstep : step service s .close = some s')
    (hconsistent : ∀ entry ∈ s'.jobs, entry.2.Consistent) (hsettles : s.Settles s') :
    ∀ entry ∈ s.jobs, entry.2.Closable := by
  obtain rfl := Option.some.inj hstep
  rintro ⟨jobId, job⟩ hentry
  obtain ⟨job', hjob', hkept⟩ :=
    hsettles jobId job (Json.lookup_of_mem hregistered.nodup_jobs hentry)
  obtain rfl : job.close = job' := by
    have hclose := lookup_map (f := fun entry : String × Job F ↦ (entry.1, entry.2.close))
      (fun _ ↦ rfl) (Json.lookup_of_mem hregistered.nodup_jobs hentry)
    exact Option.some.inj (hclose.symm.trans hjob')
  exact .of_close (hconsistent _ (List.mem_map.mpr ⟨_, hentry, rfl⟩)) hkept

/-- In every run in which `close` finds no batch with unsettled items or a published
success, statuses are final, those of batches agree with their items, and all jobs are
settled once `close` has returned.  A `close` that finds such a batch breaks this. -/
theorem results_final (hs : (system service).ReachableVia Orderly s) :
    (∀ entry ∈ s.jobs, entry.2.Consistent) ∧
    (s.closed = true → ∀ entry ∈ s.jobs, entry.2.IsFinal) ∧
    (∀ s', ((system service).startingAt s).ReachableVia Orderly s' → s.Settles s') ∧
    ∀ s', step service s .close = some s' →
      (∀ entry ∈ s'.jobs, entry.2.Consistent) → s.Settles s' → Orderly s .close := by
  have h := finality_of_reachable hs
  refine ⟨fun entry hentry ↦ (h.sound entry hentry).consistent, fun hclosed entry hentry ↦
    (h.sound entry hentry).isFinal ((h.closed hclosed).2 entry hentry), fun s' hs' ↦ ?_,
    fun s' hstep hconsistent hsettles _ ↦
      closable_of_close (registered_of_reachable hs.reachable) hstep hconsistent hsettles⟩
  refine hs'.invariant (I := fun t ↦ s.Settles t) ?_ ?_
  · rintro _ rfl
    exact .refl _
  · intro t a t' ht hsettles hok hstep
    have hreached := hs.of_startingAt ht
    exact hsettles.trans ((finality_of_reachable hreached).step
      (registered_of_reachable hreached.reachable) hok (step_effect hstep)).2

/-- One of two images is saved and the submission of the other fails, and the batch ends. -/
def lakeHalf : List Action :=
  [.generateBatch 0 "job" "lake" (.arr [.obj [("prompt", .str "a hill")],
      .obj [("prompt", .str "a shore")]]) fun _ _ ↦ 0] ++
    [.start, .entered (.ok ()), .submitted, .item 0 .start, .item 1 .start,
      .item 0 (.submitted (.ok true)), .item 1 (.submitted (.error .other)),
      .item 0 (.completed (.ok false)), .item 0 (.saved (.ok [⟨"hill.png", "image/png"⟩])),
      .gathered, .left, .finished].map fun a ↦ .task "job" (.batch a)

def lakePublished : State Request := ((system lakeService).exec {} lakeHalf).get rfl

def lakeClosed : State Request :=
  ((system lakeService).exec lakePublished [.close, .closeReturns 0]).get rfl

/-- The batch is closed as a partial success. -/
theorem results_final_closed :
    (∃ job, lakeClosed.jobs.lookup "job" = some job ∧ ∃ batch, job.work = .batch batch ∧
      batch.status = .partialSuccess) ∧
    lakeClosed.closed = true ∧ ∀ entry ∈ lakeClosed.jobs, entry.2.IsFinal := by
  have hpublished : (system lakeService).ReachableVia Orderly lakePublished := by
    refine TransitionSystem.exec_reachableVia (.start rfl) (l := lakeHalf)
      (TransitionSystem.execOk_of_forall (fun a ha s hclose ↦ ?_) _) (Option.some_get _).symm
    simp [lakeHalf, hclose] at ha
  have hclosable : Orderly lakePublished .close := by
    intro _ entry hentry
    obtain rfl := List.mem_singleton.mp hentry
    exact fun hrunning ↦ absurd hrunning (by decide)
  have hreached : (system lakeService).ReachableVia Orderly lakeClosed :=
    .next (a := .closeReturns 0) (.next (a := .close) hpublished hclosable rfl) nofun rfl
  exact ⟨⟨_, rfl, _, rfl, rfl⟩, rfl, (results_final hreached).2.1 rfl⟩

/-- A batch is closed before its task has taken a step. -/
def lakeDropped : State Request :=
  ((system lakeService).exec {}
    [.generateBatch 0 "job" "lake"
        (.arr [.obj [("parameters", .obj [("prompt", .str "a hill")])]]) fun _ _ ↦ 0,
      .close, .task "job" (.batch .start), .closeReturns 0]).get rfl

/-- The image is still being prepared when `close` has returned. -/
theorem not_results_final :
    ¬ ∀ s : State Request, (system lakeService).Reachable s →
      (∀ entry ∈ s.jobs, entry.2.Consistent) ∧
      (s.closed = true → ∀ entry ∈ s.jobs, entry.2.IsFinal) ∧
      ∀ s', ((system lakeService).startingAt s).Reachable s' → s.Settles s' := by
  intro h
  have hreached : (system lakeService).Reachable lakeDropped :=
    TransitionSystem.exec_get_reachable rfl rfl
  obtain ⟨-, hclosed, -⟩ := h lakeDropped hreached
  have hfinal := (hclosed rfl _ (List.mem_singleton_self _)).2 _ (List.mem_singleton_self _)
  exact absurd hfinal (by decide)

end Runs

end StProxy.Media
