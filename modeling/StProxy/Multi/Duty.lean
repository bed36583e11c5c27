import StProxy.Lib.History
import StProxy.Multi.Backend

/-!
# The unload after a failed request in mode `all`

The attributes `_router_failed`, `_kobold_released` and `_pending` remember that an unload of
KoboldCpp is owed, and the methods return only when it was paid.
-/

namespace StProxy.Multi

open Async History

variable {P : Type}

/-- What is recorded of the calls of `release_gpu` of KoboldCpp. -/
inductive UnloadEvent
  | started | confirmed | failed
  deriving DecidableEq, Repr

def UnloadEvent.duty : UnloadEvent → DutyEvent
  | started => .starts
  | confirmed => .pays
  | failed => .fails

/-- What is recorded at the start of a call. -/
def Call.starting : Call P → Option UnloadEvent
  | .releaseGpu .koboldcpp _ => some .started
  | _ => none

/-- What is recorded at its end. -/
def Call.ending : (c : Call P) → Answer c → Option UnloadEvent
  | .releaseGpu .koboldcpp _, (_, .ok _) => some .confirmed
  | .releaseGpu .koboldcpp _, (_, .error _) => some .failed
  | _, _ => none

/-- Where the duty stands after something was recorded, or nothing. -/
def nextDuty (e : Option UnloadEvent) (w : Duty) : Duty := Duty.next (e.map UnloadEvent.duty) w

theorem nextDuty_clear (e : Option UnloadEvent) : nextDuty e .clear = .clear := by
  cases e with
  | none => rfl
  | some e => cases e <;> rfl

/-- The duty while the adapters are called: no request fails meanwhile. -/
def unloading (P : Type) : Contract Duty (Call P) Answer where
  start c w := nextDuty c.starting w
  drift w w' := w' = w
  ends c w r w' := w' = nextDuty (c.ending r) w
  drift_refl _ := rfl
  drift_trans h h' := h'.trans h

/-- What the attributes remember of the duty. -/
structure Owes (s : MultiBackend P) (w : Duty) : Prop where
  released : s.koboldReleased = true → w = .clear
  failed : s.routerFailed = false → w = .clear
  pending : w ≠ .clear → OfEngine .koboldcpp s.pending
  active : ∀ t ∈ s.active, s.pending = some t

namespace Owes

variable {s s' : MultiBackend P} {w w' : Duty} {e : Engine}

theorem initial : Owes (.initial : MultiBackend P) .clear :=
  ⟨fun _ ↦ rfl, fun _ ↦ rfl, fun h ↦ absurd rfl h, nofun⟩

theorem mono (h : Owes s w) (hw : w = .clear → w' = .clear) : Owes s w' :=
  ⟨fun hs ↦ hw (h.released hs), fun hs ↦ hw (h.failed hs), fun hne ↦ h.pending (mt hw hne),
    h.active⟩

theorem saveActive (h : Owes s w) (e : Engine) (restore : RestorePoint P) :
    Owes (saveActive e restore s) w := by
  unfold Multi.saveActive
  split
  · split
    · exact { h with }
    · exact h
  · exact h

theorem forget (h : Owes s w) (hw : e = .koboldcpp → w = .clear) : Owes (forget e s) w where
  released := h.released
  failed := h.failed
  pending hne := by
    obtain ⟨t, ht, hkobold⟩ := h.pending hne
    have hother : ¬OfEngine e s.pending := by
      rintro ⟨t', ht', he⟩
      cases Option.mem_unique ht ht'
      exact hne (hw (Option.some.inj (he.symm.trans hkobold)))
    refine ⟨t, ?_, hkobold⟩
    rwa [Multi.forget, if_neg hother]
  active t ht := by
    have hother : ¬OfEngine e s.active := fun hof ↦ by
      rw [Multi.forget, if_pos hof] at ht
      cases ht
    rw [Multi.forget, if_neg hother] at ht
    have hpending := h.active t ht
    have hother' : ¬OfEngine e s.pending := by
      rwa [hpending, ← Option.mem_def.mp ht]
    rwa [Multi.forget, if_neg hother']

theorem requestFailed (h : Owes s w) (target : MultiTarget) : Owes (requestFailed target s) w := by
  unfold Multi.requestFailed
  split
  · exact ⟨nofun, nofun, h.pending, h.active⟩
  · exact h

/-- A request of the active target failed, which was sent to KoboldCpp. -/
theorem incurs {target : MultiTarget} (h : Owes s w) (hactive : s.active = some target)
    (he : target.engine = some .koboldcpp) : Owes (Multi.requestFailed target s) w' := by
  rw [Multi.requestFailed, if_pos he]
  exact ⟨nofun, nofun, fun _ ↦ ⟨target, h.active target hactive, he⟩, h.active⟩

theorem begin (target : MultiTarget) (h : Owes s w) (hw : w = .clear) :
    Owes (begin target e s) w :=
  ⟨fun _ ↦ hw, h.failed, fun hne ↦ absurd hw hne, nofun⟩

end Owes

/-! ## The methods -/

section
variable {s : MultiBackend P} {w : Duty} {e : Engine}
  {D : Call P → MultiBackend P → Duty → Prop}

/-- The rule of calls. -/
theorem wp_adapter {c : Call P} {Q : Except Exn (Answer c) → MultiBackend P → Duty → Prop}
    (hd : D c s (nextDuty c.starting w))
    (hr : ∀ r, Q (.ok r) s (nextDuty (c.ending r) (nextDuty c.starting w))) :
    (await c).wp (unloading P) D Q s w := by
  apply wp_await
  · rintro w' rfl
    exact hd
  · rintro w' r w'' rfl rfl
    exact hr r

theorem wp_observeEngine {Q : Except Exn (Option (RestorePoint P)) → MultiBackend P → Duty → Prop}
    (hd : D (.observeReady e) s w) (hr : ∀ r, Q r s w) :
    (observeEngine e).wp (unloading P) D Q s w :=
  wp_bind (wp_adapter hd fun r ↦ wp_result (hr r))

theorem wp_validateControl (hd : ∀ c, D c s w) :
    validateControl.wp (unloading P) D (fun _ s' w' ↦ s' = s ∧ w' = w) s w := by
  refine wp_forM (fun _ s' w' ↦ s' = s ∧ w' = w) ?_ (fun _ _ ↦ id) backends ⟨rfl, rfl⟩
  rintro engine rest s' w' ⟨rfl, rfl⟩
  refine wp_bind (wp_adapter (hd _) fun (r : Except Exn Unit) ↦ wp_result ?_)
  cases r <;> exact ⟨rfl, rfl⟩

/-- `observe_ready` changes nothing, and finds what is pending. -/
theorem wp_observeReady (hd : ∀ c, D c s w) :
    observeReady.wp (unloading P) D (fun r s' w' ↦ s' = s ∧ w' = w ∧ ∀ o, r = .ok o →
      (o = none → s.pending = none) ∧ ∀ t ∈ o, t = s.active.getD ⟨none, ""⟩) s w := by
  refine wp_bind_self (wp_bind ?_)
  refine wp_foldlM (fun _ occupied s' w' ↦ s' = s ∧ w' = w ∧
    (occupied = false → s.pending = none)) ?_ ?_ backends ⟨rfl, rfl, by simp⟩
  · rintro engine rest occupied s' w' ⟨rfl, rfl, hpending⟩
    refine wp_bind (wp_observeEngine (hd _) fun r ↦ ?_)
    cases r with
    | error exn => exact ⟨rfl, rfl, nofun⟩
    | ok observed =>
        exact wp_pure ⟨rfl, rfl, fun hfree ↦ hpending (Bool.or_eq_false_iff.mp hfree).1⟩
  · rintro occupied s' w' ⟨rfl, rfl, hpending⟩
    refine wp_bind_self (wp_pure ⟨rfl, rfl, ?_⟩)
    rintro _ ⟨⟩
    cases occupied with
    | true => exact ⟨nofun, fun t ht ↦ (Option.some.inj ht).symm⟩
    | false => exact ⟨fun _ ↦ hpending rfl, nofun⟩

/-- `snapshot_ready` changes nothing, and returns the active target. -/
theorem wp_snapshotReady (hd : ∀ c, D c s w) :
    snapshotReady.wp (unloading P) D (fun r s' w' ↦ s' = s ∧ w' = w ∧
      ∀ t, r = .ok t → t = s.active.getD ⟨none, ""⟩) s w := by
  refine wp_bind (wp_mono (wp_observeReady hd) ?_)
  rintro (exn | observed) s' w' ⟨rfl, rfl, hobserved⟩
  · exact ⟨rfl, rfl, nofun⟩
  · cases observed with
    | none => exact ⟨rfl, rfl, nofun⟩
    | some t =>
        refine wp_pure ⟨rfl, rfl, ?_⟩
        rintro _ ⟨⟩
        exact (hobserved _ rfl).2 t rfl

variable (hD : ∀ c s w, Owes s w → D c s w)
include hD

/-- Released: the duty of KoboldCpp is paid. -/
def Cleared (e : Engine) (w : Duty) (r : Except Exn PUnit) (s' : MultiBackend P) (w' : Duty) :
    Prop :=
  Owes s' w' ∧ (w = .clear → w' = .clear) ∧ (r = .ok ⟨⟩ → e = .koboldcpp → w' = .clear)

theorem wp_releaseKobold (h : Owes s w) :
    releaseKobold.wp (unloading P) D (Cleared .koboldcpp w) s w := by
  have hconfirm : confirmKobold.wp (unloading P) D (Cleared .koboldcpp w) s w := by
    refine wp_bind_self ?_
    split
    · next hreleased => exact wp_pure ⟨h, id, fun _ _ ↦ h.released hreleased⟩
    · have hstart : w = .clear → nextDuty (some .started) w = .clear := by
        rintro rfl
        rfl
      refine wp_bind (wp_adapter (hD _ _ _ (h.mono hstart)) ?_)
      rintro ⟨restore, exn | u⟩
      · have hfail : w = .clear →
            nextDuty (some .failed) (nextDuty (some .started) w) = .clear := by
          rintro rfl
          rfl
        exact wp_bind (wp_result ⟨h.mono hfail, hfail, nofun⟩)
      · have hpaid : nextDuty (some .confirmed) (nextDuty (some .started) w) = .clear := by
          cases w <;> rfl
        refine wp_bind (wp_result (wp_modify ⟨?_, fun _ ↦ hpaid, fun _ _ ↦ hpaid⟩))
        exact { h.mono fun _ ↦ hpaid with released := fun _ ↦ hpaid }
  refine wp_then hconfirm (fun _ s' w' h' ↦ wp_modify ?_) fun exn s' w' h' ↦ ⟨h'.1, h'.2.1, nofun⟩
  have hw' := h'.2.2 rfl rfl
  exact ⟨{ h'.1 with failed := fun _ ↦ hw' }, fun _ ↦ hw', fun _ _ ↦ hw'⟩

theorem wp_releaseNative (h : Owes s w) (hne : e ≠ .koboldcpp) :
    (releaseNative e).wp (unloading P) D (Cleared e w) s w := by
  have hkeep {s' : MultiBackend P} {r : Except Exn PUnit} (h' : Owes s' w) : Cleared e w r s' w :=
    ⟨h', id, fun _ he ↦ absurd he hne⟩
  refine wp_bind (wp_observeEngine (hD _ _ _ h) fun r ↦ ?_)
  match r with
  | .error exn => exact hkeep h
  | .ok none => exact wp_pure (hkeep h)
  | .ok (some observed) =>
      have hstart : (Call.releaseGpu e observed).starting = none := by
        cases e <;> first | rfl | exact absurd rfl hne
      have hending (r) : (Call.releaseGpu e observed).ending r = none := by
        cases e <;> first | rfl | exact absurd rfl hne
      refine wp_bind_modify (wp_bind (wp_adapter ?_ ?_))
      · rw [hstart]
        exact hD _ _ _ (h.saveActive e observed)
      · intro answer
        rw [hstart, hending answer]
        obtain ⟨restore, r⟩ := answer
        exact wp_bind_modify (wp_result (hkeep ((h.saveActive e observed).saveActive e restore)))

/-- `_release` returns only when the duty of the engine is paid. -/
theorem wp_release (h : Owes s w) : (release e).wp (unloading P) D (Cleared e w) s w := by
  have hbackend : (releaseBackend e).wp (unloading P) D (Cleared e w) s w := by
    unfold releaseBackend
    split
    · next heq =>
        subst heq
        exact wp_releaseKobold hD h
    · next hne => exact wp_releaseNative hD h hne
  refine wp_then hbackend (fun _ s' w' h' ↦ wp_modify ?_) fun exn s' w' h' ↦ ⟨h'.1, h'.2.1, nofun⟩
  exact ⟨h'.1.forget (h'.2.2 rfl), h'.2.1, fun _ ↦ h'.2.2 rfl⟩

theorem wp_releaseEach (h : Owes s w) (engines : List Engine) :
    (engines.forM release).wp (unloading P) D (fun r s' w' ↦ Owes s' w' ∧
      (r = .ok ⟨⟩ → .koboldcpp ∈ engines → w' = .clear)) s w := by
  refine wp_forM (fun rest s' w' ↦ Owes s' w' ∧
      (.koboldcpp ∈ engines → .koboldcpp ∈ rest ∨ w' = .clear))
    (fun f rest s' w' h' ↦ wp_mono (wp_release hD h'.1) fun r s'' w'' hr ↦ ?_)
    (fun s' w' h' ↦ ⟨h'.1, fun _ hmem ↦ (h'.2 hmem).resolve_left List.not_mem_nil⟩) engines
    ⟨h, .inl⟩
  obtain ⟨howes, hclear, hpaid⟩ := hr
  cases r with
  | error exn => exact ⟨howes, nofun⟩
  | ok u =>
      refine ⟨howes, fun hmem ↦ ?_⟩
      rcases h'.2 hmem with hmem | hw
      · rcases List.mem_cons.mp hmem with heq | hmem
        · exact .inr (hpaid rfl heq.symm)
        · exact .inl hmem
      · exact .inr (hclear hw)

theorem wp_releaseSame {target : MultiTarget} (h : Owes s w)
    (hw : e ≠ .koboldcpp → w = .clear) :
    (releaseSame target e).wp (unloading P) D
      (fun r s' w' ↦ Owes s' w' ∧ (r = .ok ⟨⟩ → w' = .clear)) s w := by
  refine wp_bind_self ?_
  split
  · next hsame =>
      exact wp_mono (wp_release hD h) fun _ _ _ hr ↦ ⟨hr.1, fun hok ↦ hr.2.2 hok hsame.1⟩
  · next hsame =>
      refine wp_pure ⟨h, fun _ ↦ ?_⟩
      by_cases he : e = .koboldcpp
      · exact h.failed (Bool.eq_false_iff.mpr fun hf ↦ hsame ⟨he, .inl hf⟩)
      · exact hw he

theorem wp_saveOther {target : MultiTarget} (h : Owes s w) :
    (saveOther target e).wp (unloading P) D (fun _ s' w' ↦ Owes s' w' ∧ w' = w) s w := by
  refine wp_bind_self ?_
  split
  · refine wp_bind (wp_observeEngine (hD _ _ _ h) fun r ↦ ?_)
    match r with
    | .error exn => exact ⟨h, rfl⟩
    | .ok none => exact wp_pure ⟨h, rfl⟩
    | .ok (some observed) => exact wp_modify ⟨h.saveActive e observed, rfl⟩
  · exact wp_pure ⟨h, rfl⟩

theorem wp_savedTarget [EmptyCollection P] {target : MultiTarget} (h : Owes s w) :
    (savedTarget target e).wp (unloading P) D (fun _ s' w' ↦ Owes s' w' ∧ w' = w) s w := by
  refine wp_bind_self ?_
  split
  · exact wp_pure ⟨h, rfl⟩
  · unfold nativeTarget
    split
    · exact wp_pure ⟨h, rfl⟩
    · exact wp_pure ⟨h, rfl⟩
    · exact wp_pure ⟨h, rfl⟩
    · exact wp_bind (wp_adapter (hD _ _ _ h) fun _ ↦ wp_result ⟨h, rfl⟩)

/-- `acquire_gpu` asks the engine when no unload is owed. -/
theorem wp_acquireEngine [EmptyCollection P] {target : MultiTarget} (h : Owes s w) :
    (acquireEngine target e).wp (unloading P) D (fun r s' w' ↦ Owes s' w' ∧
      ∀ t, r = .ok t → t = target ∧ s'.active = some t ∧ w' = .clear) s w := by
  refine wp_then (wp_releaseEach hD h _) (fun _ s₁ w₁ h₁ ↦ ?_) fun _ s₁ w₁ h₁ ↦ ⟨h₁.1, nofun⟩
  have hother (hne : e ≠ .koboldcpp) : w₁ = .clear :=
    h₁.2 rfl (List.mem_filter.mpr ⟨mem_backends _, by simpa using hne.symm⟩)
  refine wp_then (wp_releaseSame hD h₁.1 hother) (fun _ s₂ w₂ h₂ ↦ ?_)
    fun _ s₂ w₂ h₂ ↦ ⟨h₂.1, nofun⟩
  have hw₂ := h₂.2 rfl
  refine wp_then (wp_saveOther hD h₂.1) (fun _ s₃ w₃ h₃ ↦ ?_) fun _ s₃ w₃ h₃ ↦ ⟨h₃.1, nofun⟩
  refine wp_then (wp_savedTarget hD h₃.1) (fun native s₄ w₄ h₄ ↦ ?_)
    fun _ s₄ w₄ h₄ ↦ ⟨h₄.1, nofun⟩
  have hw₄ : w₄ = .clear := h₄.2.trans (h₃.2.trans hw₂)
  have hbegin : Owes (begin target e s₄) w₄ := h₄.1.begin target hw₄
  refine wp_bind_modify (wp_bind (wp_adapter (hD _ _ _ hbegin)
    fun (r : Except Exn (RestorePoint P)) ↦ wp_bind (wp_result ?_)))
  cases r with
  | error exn => exact ⟨hbegin, nofun⟩
  | ok restored =>
      refine wp_bind_modify (wp_pure ⟨⟨hbegin.released, hbegin.failed, hbegin.pending, ?_⟩, ?_⟩)
      · rintro t ⟨⟩
        rfl
      · rintro _ ⟨⟩
        exact ⟨rfl, rfl, hw₄⟩

end

/-! ## What the coordinator learns -/

/-- The methods that only read. -/
def Op.reads : Op → Bool
  | .validateControl | .observeReady | .snapshotReady => true
  | _ => false

/-- What a method promises when it returns: to whom the GPU belongs, and that nothing is owed. -/
def Promised : (op : Op) → Except Exn op.Ret → MultiBackend P → Duty → Prop
  | .acquireGpu target, .ok t, s, w => target = some t ∧ s.active = some t ∧ w = .clear
  | .releaseGpu _, .ok _, _, w => w = .clear
  | .observeReady, .ok none, _, w => w = .clear
  | .observeReady, .ok (some t), s, _ | .snapshotReady, .ok t, s, _ => t = s.active.getD ⟨none, ""⟩
  | _, _, _, _ => True

/-- What holds while a call of the method is in flight; `active` is the target that was active
when the method was called. -/
def Unfinished (op : Op) (active : Option MultiTarget) (_ : Call P) (s : MultiBackend P)
    (w : Duty) : Prop :=
  Owes s w ∧ (op.reads = true → s.active = active)

/-- What holds at the end of the method. -/
def Finished (op : Op) (active : Option MultiTarget) (r : Except Exn op.Ret) (s : MultiBackend P)
    (w : Duty) : Prop :=
  Owes s w ∧ (op.reads = true → s.active = active) ∧ Promised op r s w

theorem wp_method [EmptyCollection P] (op : Op) {s : MultiBackend P} {w : Duty} (h : Owes s w) :
    ((object P).run op).wp (unloading P) (Unfinished op s.active) (Finished op s.active) s w := by
  have hreads : ∀ c, Unfinished (P := P) op s.active c s w := fun _ ↦ ⟨h, fun _ ↦ rfl⟩
  cases op with
  | validateControl =>
      refine wp_mono (wp_validateControl hreads) ?_
      rintro r s' w' ⟨rfl, rfl⟩
      exact ⟨h, fun _ ↦ rfl, by cases r <;> trivial⟩
  | observeReady =>
      refine wp_mono (wp_observeReady hreads) ?_
      rintro r s' w' ⟨rfl, rfl, hobserved⟩
      refine ⟨h, fun _ ↦ rfl, ?_⟩
      match r, hobserved with
      | .error exn, _ => trivial
      | .ok none, hobserved =>
          by_contra hne
          obtain ⟨t, ht, -⟩ := h.pending hne
          rw [(hobserved _ rfl).1 rfl] at ht
          cases ht
      | .ok (some t), hobserved => exact (hobserved _ rfl).2 t rfl
  | snapshotReady =>
      refine wp_mono (wp_snapshotReady hreads) ?_
      rintro r s' w' ⟨rfl, rfl, hobserved⟩
      refine ⟨h, fun _ ↦ rfl, ?_⟩
      cases r with
      | error exn => trivial
      | ok t => exact hobserved t rfl
  | releaseGpu target =>
      refine wp_mono (wp_releaseEach (fun _ _ _ h ↦ ⟨h, nofun⟩) h backends) fun r s' w' hr ↦ ?_
      refine ⟨hr.1, nofun, ?_⟩
      cases r with
      | error exn => trivial
      | ok u => exact hr.2 rfl (mem_backends _)
  | requestFailed target => exact wp_modify ⟨h.requestFailed target, nofun, trivial⟩
  | acquireGpu target =>
      change (acquireGpu target).wp _ _ _ _ _
      unfold acquireGpu
      split
      · exact wp_raise ⟨h, nofun, trivial⟩
      · split
        · exact wp_raise ⟨h, nofun, trivial⟩
        · refine wp_mono (wp_acquireEngine (fun _ _ _ h ↦ ⟨h, nofun⟩) h) fun r s' w' hr ↦ ?_
          refine ⟨hr.1, nofun, ?_⟩
          cases r with
          | error exn => trivial
          | ok t =>
              obtain ⟨rfl, hactive, hw'⟩ := hr.2 t rfl
              exact ⟨rfl, hactive, hw'⟩

end StProxy.Multi
