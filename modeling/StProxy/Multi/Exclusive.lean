import Mathlib.Data.Finset.Basic
import StProxy.Multi.Backend

/-!
# One engine on the GPU

The adapters of the engines are assumed to meet their contract: an engine is
empty once its release returned, or once it was observed empty, and is loaded
only after an acquisition that was not undone since.  A KoboldCpp reservation
may load a model until the next confirmed release, whatever is observed.
-/

namespace StProxy.Multi

open Async

variable {P : Type}

/-- The engines that hold a model, and those acquired since they were last
confirmed to be empty, which may load one at any time. -/
structure Gpu where
  loaded : Finset Engine
  acquired : Finset Engine
  deriving DecidableEq

namespace Gpu

/-- The engine holds no model and will not load one. -/
def Empty (e : Engine) (w : Gpu) : Prop := e ∉ w.loaded ∧ e ∉ w.acquired

/-- Models were unloaded, and loaded by acquired engines only. -/
structure Settles (w w' : Gpu) : Prop where
  loaded : w'.loaded ⊆ w.loaded ∪ w.acquired
  acquired : w'.acquired ⊆ w.acquired

variable {u v w : Gpu} {e : Engine}

theorem Settles.refl (w : Gpu) : Settles w w :=
  ⟨Finset.subset_union_left, subset_rfl⟩

theorem Settles.trans (h : Settles u v) (h' : Settles v w) : Settles u w where
  loaded := h'.loaded.trans (Finset.union_subset h.loaded
    (h.acquired.trans Finset.subset_union_right))
  acquired := h'.acquired.trans h.acquired

theorem Settles.empty (h : Settles v w) (he : v.Empty e) : w.Empty e :=
  ⟨fun hl ↦ (Finset.mem_union.mp (h.loaded hl)).elim he.1 he.2, fun ha ↦ he.2 (h.acquired ha)⟩

/-- The start of a call. -/
def start : Call P → Gpu → Gpu
  | .acquireGpu e _, w => { w with acquired := insert e w.acquired }
  | _, w => w

/-- The end of a call. -/
def Ends : (c : Call P) → Gpu → Answer c → Gpu → Prop
  | .observeReady e, w, .ok none, w' =>
      w.Settles w' ∧ e ∉ w'.loaded ∧ (e ≠ .koboldcpp → e ∉ w'.acquired)
  | .releaseGpu e _, w, (_, .ok _), w' => w.Settles w' ∧ w'.Empty e
  | _, w, _, w' => w.Settles w'

theorem Ends.settles {c : Call P} {r : Answer c} (h : Ends c v r w) : v.Settles w := by
  unfold Ends at h
  split at h
  · exact h.1
  · exact h.1
  · exact h

/-- The contract of the adapters. -/
def contract (P : Type) : Contract Gpu (Call P) Answer where
  start := start
  drift := Settles
  ends := Ends
  drift_refl := .refl
  drift_trans := .trans

/-- An engine is acquired only while all others are empty. -/
def Alone : Call P → Gpu → Prop
  | .acquireGpu e _, w => ∀ f ≠ e, w.Empty f
  | _, _ => True

end Gpu

/-- What the attributes say about the GPU. -/
structure Tracks (s : MultiBackend P) (w : Gpu) : Prop where
  pending : ∀ e ∈ w.acquired, OfEngine e s.pending
  released : s.koboldReleased = true → w.Empty .koboldcpp

namespace Tracks

variable {s s' : MultiBackend P} {w w' : Gpu}

theorem settles (h : Tracks s w) (hw : w.Settles w') : Tracks s w' where
  pending e he := h.pending e (hw.acquired he)
  released hs := hw.empty (h.released hs)

theorem congr (h : Tracks s w) (hpending : s'.pending = s.pending)
    (hreleased : s'.koboldReleased = true → s.koboldReleased = true) : Tracks s' w where
  pending := by
    rw [hpending]
    exact h.pending
  released hs := h.released (hreleased hs)

theorem saveActive (h : Tracks s w) (e : Engine) (restore : RestorePoint P) :
    Tracks (saveActive e restore s) w := by
  unfold Multi.saveActive
  split
  · split
    · exact h.congr rfl id
    · exact h
  · exact h

theorem forget {e : Engine} (h : Tracks s w) (he : w.Empty e) : Tracks (forget e s) w where
  pending f hf := by
    obtain ⟨t, ht, htf⟩ := h.pending f hf
    have hne : ¬OfEngine e s.pending := by
      rintro ⟨t', ht', hte⟩
      cases Option.mem_unique ht ht'
      cases htf.symm.trans hte
      exact he.2 hf
    refine ⟨t, ?_, htf⟩
    rw [Multi.forget, if_neg hne]
    exact ht
  released hs := h.released hs

theorem requestFailed (h : Tracks s w) (target : MultiTarget) :
    Tracks (requestFailed target s) w := by
  unfold Multi.requestFailed
  split
  · exact h.congr rfl nofun
  · exact h

theorem acquired_eq_empty (h : Tracks s w) (hp : s.pending = none) : w.acquired = ∅ := by
  refine Finset.eq_empty_of_forall_notMem fun e he ↦ ?_
  obtain ⟨t, ht, -⟩ := h.pending e he
  rw [hp] at ht
  cases ht

end Tracks

/-! ## The methods -/

/-- What holds while a call is in flight. -/
def During (c : Call P) (s : MultiBackend P) (w : Gpu) : Prop := Tracks s w ∧ Gpu.Alone c w

/-- The code runs under the contract, and acquires only a lone engine. -/
abbrev Runs {α : Type} (p : Method P α) (s : MultiBackend P) (w : Gpu)
    (Q : Except Exn α → MultiBackend P → Gpu → Prop) : Prop :=
  p.wp (Gpu.contract P) During Q s w

section
variable {s : MultiBackend P} {w : Gpu} {e : Engine}

/-- A call other than `acquire_gpu` of an engine. -/
theorem runs_call {c : Call P} {Q : Except Exn (Answer c) → MultiBackend P → Gpu → Prop}
    (htracks : Tracks s w) (hc : ∀ w, Gpu.Alone c w) (hstart : Gpu.start c w = w)
    (h : ∀ r w₁ w', w.Settles w' → Gpu.Ends c w₁ r w' → Q (.ok r) s w') :
    Runs (await c) s w Q := by
  refine wp_await (fun w' hw ↦ ⟨htracks.settles (hstart ▸ hw), hc w'⟩) fun w₁ r w₂ hw hends ↦ ?_
  have hw' : w.Settles w₁ := hstart ▸ hw
  exact h r w₁ w₂ (hw'.trans (Gpu.Ends.settles (c := c) (r := r) hends)) hends

theorem runs_observeEngine {Q : Except Exn (Option (RestorePoint P)) → MultiBackend P → Gpu → Prop}
    (htracks : Tracks s w) (h : ∀ r w', w.Settles w' →
      (r = .ok none → e ∉ w'.loaded ∧ (e ≠ .koboldcpp → e ∉ w'.acquired)) → Q r s w') :
    Runs (observeEngine e) s w Q := by
  refine wp_bind (runs_call htracks (fun _ ↦ trivial) rfl fun r w₁ w₂ hw hends ↦ wp_result ?_)
  refine h r w₂ hw ?_
  rintro rfl
  exact hends.2

theorem runs_releaseCall {target : RestorePoint P}
    {Q : Except Exn (RestorePoint P × Except Exn Unit) → MultiBackend P → Gpu → Prop}
    (htracks : Tracks s w)
    (h : ∀ restore r w', w.Settles w' → (r = .ok () → w'.Empty e) → Q (.ok (restore, r)) s w') :
    Runs (await (Call.releaseGpu e target)) s w Q := by
  refine runs_call htracks (fun _ ↦ trivial) rfl fun r w₁ w₂ hw hends ↦ ?_
  obtain ⟨restore, r⟩ := r
  refine h restore r w₂ hw ?_
  rintro rfl
  exact hends.2

/-- Released, with the attributes in step, and nothing else loaded. -/
def Released (e : Engine) (w : Gpu) (r : Except Exn PUnit) (s' : MultiBackend P) (w' : Gpu) :
    Prop :=
  Tracks s' w' ∧ w.Settles w' ∧ (r = .ok ⟨⟩ → w'.Empty e)

theorem runs_releaseKobold (h : Tracks s w) : Runs releaseKobold s w (Released .koboldcpp w) := by
  have hconfirm : Runs confirmKobold s w (Released .koboldcpp w) := by
    refine wp_bind_self ?_
    split
    · next hreleased => exact wp_pure ⟨h, .refl w, fun _ ↦ h.released hreleased⟩
    · refine wp_bind (runs_releaseCall h fun restore r w' hw hr ↦ wp_bind (wp_result ?_))
      cases r with
      | error exn => exact ⟨h.settles hw, hw, nofun⟩
      | ok u => exact wp_modify ⟨⟨(h.settles hw).pending, fun _ ↦ hr rfl⟩, hw, fun _ ↦ hr rfl⟩
  refine wp_then hconfirm (fun _ s' w' h' ↦ wp_modify ?_) fun exn s' w' h' ↦ h'
  exact ⟨h'.1.congr rfl id, h'.2.1, fun _ ↦ h'.2.2 rfl⟩

theorem runs_releaseNative (h : Tracks s w) (hne : e ≠ .koboldcpp) :
    Runs (releaseNative e) s w (Released e w) := by
  refine wp_bind (runs_observeEngine h fun r w₁ hw₁ hr ↦ ?_)
  match r, hr with
  | .error exn, _ => exact ⟨h.settles hw₁, hw₁, nofun⟩
  | .ok none, hr =>
      obtain ⟨hloaded, hacquired⟩ := hr rfl
      exact wp_pure ⟨h.settles hw₁, hw₁, fun _ ↦ ⟨hloaded, hacquired hne⟩⟩
  | .ok (some observed), _ =>
      have h₁ := (h.settles hw₁).saveActive e observed
      refine wp_bind_modify (wp_bind (runs_releaseCall h₁ fun restore r w₂ hw₂ hr ↦
        wp_bind_modify (wp_result ?_)))
      exact ⟨(h₁.settles hw₂).saveActive e restore, hw₁.trans hw₂, fun hok ↦ hr hok⟩

/-- `_release` leaves the engine empty if it returns. -/
theorem runs_release (h : Tracks s w) : Runs (release e) s w (Released e w) := by
  have hbackend : Runs (releaseBackend e) s w (Released e w) := by
    unfold releaseBackend
    split
    · next heq =>
        subst heq
        exact runs_releaseKobold h
    · next hne => exact runs_releaseNative h hne
  refine wp_then hbackend (fun _ s' w' h' ↦ wp_modify ?_) fun exn s' w' h' ↦ h'
  exact ⟨h'.1.forget (h'.2.2 rfl), h'.2.1, fun _ ↦ h'.2.2 rfl⟩

/-- The loop over engines leaves all of them empty if it ends. -/
theorem runs_releaseEach (h : Tracks s w) (engines : List Engine) :
    Runs (engines.forM release) s w fun r s' w' ↦
      Tracks s' w' ∧ (r = .ok ⟨⟩ → ∀ f ∈ engines, w'.Empty f) := by
  refine wp_forM (fun rest s' w' ↦ Tracks s' w' ∧ ∀ f ∈ engines, f ∈ rest ∨ w'.Empty f)
    (fun f rest s' w' h' ↦ wp_mono (runs_release h'.1) fun r s'' w'' hr ↦ ?_)
    (fun s' w' h' ↦ ⟨h'.1, fun _ f hf ↦ (h'.2 f hf).resolve_left List.not_mem_nil⟩) engines
    ⟨h, fun f hf ↦ .inl hf⟩
  obtain ⟨htracks, hsettles, hempty⟩ := hr
  cases r with
  | error exn => exact ⟨htracks, nofun⟩
  | ok u =>
      refine ⟨htracks, fun g hg ↦ ?_⟩
      rcases h'.2 g hg with hmem | hg
      · rcases List.mem_cons.mp hmem with rfl | hmem
        · exact .inr (hempty rfl)
        · exact .inl hmem
      · exact .inr (hsettles.empty hg)

/-- Nothing is pending or loaded if nothing was found. -/
theorem runs_observeReady (h : Tracks s w) :
    Runs observeReady s w fun r s' w' ↦
      Tracks s' w' ∧ (r = .ok none → ∀ e, w'.Empty e) := by
  refine wp_bind_self (wp_bind ?_)
  refine wp_foldlM (fun rest occupied s' w' ↦ Tracks s' w' ∧
      (occupied = false → w'.acquired = ∅ ∧ ∀ e, e ∈ rest ∨ e ∉ w'.loaded))
    (fun e rest occupied s' w' h' ↦ ?_) (fun occupied s' w' h' ↦ wp_bind_self ?_) backends
    ⟨h, fun hnone ↦ ⟨h.acquired_eq_empty (by simpa using hnone), fun e ↦ .inl (mem_backends e)⟩⟩
  · refine wp_bind (runs_observeEngine h'.1 fun r w'' hw hr ↦ ?_)
    cases r with
    | error exn => exact ⟨h'.1.settles hw, nofun⟩
    | ok observed =>
        refine wp_pure ⟨h'.1.settles hw, fun hfalse ↦ ?_⟩
        obtain ⟨rfl, hobserved⟩ := Bool.or_eq_false_iff.mp hfalse
        obtain ⟨hacquired, hrest⟩ := h'.2 rfl
        obtain rfl : observed = none := by simpa using hobserved
        refine ⟨Finset.subset_empty.mp (hacquired ▸ hw.acquired), fun f ↦ ?_⟩
        rcases hrest f with hmem | hf
        · rcases List.mem_cons.mp hmem with rfl | hmem
          · exact .inr (hr rfl).1
          · exact .inl hmem
        · refine .inr fun hl ↦ ?_
          have hmem := hw.loaded hl
          rw [hacquired] at hmem
          exact hf (by simpa using hmem)
  · refine wp_pure ⟨h'.1, fun hnone e ↦ ?_⟩
    cases occupied with
    | true => cases hnone
    | false =>
        obtain ⟨hacquired, hloaded⟩ := h'.2 rfl
        exact ⟨(hloaded e).resolve_left List.not_mem_nil, by simp [hacquired]⟩

theorem runs_snapshotReady (h : Tracks s w) :
    Runs snapshotReady s w fun _ s' w' ↦ Tracks s' w' := by
  refine wp_bind (wp_mono (runs_observeReady h) fun r s' w' hr ↦ ?_)
  match r with
  | .error exn => exact hr.1
  | .ok none => exact hr.1
  | .ok (some observed) => exact hr.1

theorem runs_validateControl (h : Tracks s w) :
    Runs validateControl s w fun _ s' w' ↦ Tracks s' w' := by
  refine wp_forM (fun _ ↦ Tracks) (fun e rest s' w' h' ↦ ?_) (fun _ _ ↦ id) backends h
  refine wp_bind (runs_call h' (fun _ ↦ trivial) rfl
    fun (r : Except Exn Unit) w₁ w'' hw _ ↦ wp_result ?_)
  cases r <;> exact h'.settles hw

/-! ## `acquire_gpu` -/

/-- The engines other than `e` are empty. -/
def Prepared (e : Engine) (s : MultiBackend P) (w : Gpu) : Prop :=
  Tracks s w ∧ ∀ f ≠ e, w.Empty f

theorem Prepared.settles {w' : Gpu} (h : Prepared e s w) (hw : w.Settles w') :
    Prepared e s w' :=
  ⟨h.1.settles hw, fun f hf ↦ hw.empty (h.2 f hf)⟩

theorem runs_releaseSame {target : MultiTarget} (h : Prepared e s w) :
    Runs (releaseSame target e) s w fun _ s' w' ↦ Prepared e s' w' := by
  refine wp_bind_self ?_
  split
  · exact wp_mono (runs_release h.1) fun _ _ _ hr ↦
      ⟨hr.1, fun f hf ↦ hr.2.1.empty (h.2 f hf)⟩
  · exact wp_pure h

theorem runs_saveOther {target : MultiTarget} (h : Prepared e s w) :
    Runs (saveOther target e) s w fun _ s' w' ↦ Prepared e s' w' := by
  refine wp_bind_self ?_
  split
  · refine wp_bind (runs_observeEngine h.1 fun r w' hw _ ↦ ?_)
    match r with
    | .error exn => exact h.settles hw
    | .ok none => exact wp_pure (h.settles hw)
    | .ok (some observed) =>
        exact wp_modify ⟨(h.settles hw).1.saveActive e observed, (h.settles hw).2⟩
  · exact wp_pure h

theorem runs_savedTarget [EmptyCollection P] {target : MultiTarget} (h : Prepared e s w) :
    Runs (savedTarget target e) s w fun _ s' w' ↦ Prepared e s' w' := by
  refine wp_bind_self ?_
  split
  · exact wp_pure h
  · unfold nativeTarget
    split
    · exact wp_pure h
    · exact wp_pure h
    · exact wp_pure h
    · exact wp_bind (runs_call h.1 (fun _ ↦ trivial) rfl fun r w₁ w' hw _ ↦
        wp_result (h.settles hw))

theorem Prepared.begin {target : MultiTarget} {w' : Gpu} (h : Prepared e s w)
    (htarget : target.engine = some e)
    (hw : Gpu.Settles { w with acquired := insert e w.acquired } w') :
    Prepared e (begin target e s) w' := by
  have hempty {f : Engine} (hf : f ≠ e) : w'.Empty f := by
    obtain ⟨hloaded, hacquired⟩ := h.2 f hf
    exact hw.empty ⟨hloaded, by simp [hf, hacquired]⟩
  refine ⟨⟨fun f hf ↦ ⟨target, rfl, ?_⟩, fun hs ↦ ?_⟩, fun f hf ↦ hempty hf⟩
  · obtain rfl : f = e := by
      by_contra hne
      exact (hempty hne).2 hf
    exact htarget
  · have hne : e ≠ .koboldcpp := by
      rintro rfl
      cases hs
    exact hempty hne.symm

/-- `acquire_gpu` asks the engine when all others are empty. -/
theorem runs_acquireEngine [EmptyCollection P] {target : MultiTarget}
    (htarget : target.engine = some e) (h : Tracks s w) :
    Runs (acquireEngine target e) s w fun r s' w' ↦ Tracks s' w' ∧
      ∀ t, r = .ok t → t = target ∧ s'.active = some t ∧ ∀ f ≠ e, w'.Empty f := by
  refine wp_then (runs_releaseEach h _) (fun _ s₁ w₁ hr ↦ ?_) fun exn s₁ w₁ hr ↦ ⟨hr.1, nofun⟩
  have h₁ : Prepared e s₁ w₁ := ⟨hr.1, fun f hf ↦ hr.2 rfl f (by simp [mem_backends, hf])⟩
  refine wp_then (runs_releaseSame h₁) (fun _ s₂ w₂ h₂ ↦ ?_) fun exn s₂ w₂ h₂ ↦ ⟨h₂.1, nofun⟩
  refine wp_then (runs_saveOther h₂) (fun _ s₃ w₃ h₃ ↦ ?_) fun exn s₃ w₃ h₃ ↦ ⟨h₃.1, nofun⟩
  refine wp_then (runs_savedTarget h₃) (fun native s₄ w₄ h₄ ↦ ?_)
    fun exn s₄ w₄ h₄ ↦ ⟨h₄.1, nofun⟩
  refine wp_bind_modify (wp_bind (wp_await (fun w' hw ↦ h₄.begin htarget hw)
    fun w₅ (r : Except Exn (RestorePoint P)) w₆ hw hends ↦ wp_bind (wp_result ?_)))
  have h₆ := (h₄.begin htarget hw).settles
    (Gpu.Ends.settles (c := .acquireGpu e native) (r := r) hends)
  cases r with
  | error exn => exact ⟨h₆.1, nofun⟩
  | ok restored =>
      refine wp_bind_modify (wp_pure ⟨h₆.1.congr rfl id, ?_⟩)
      rintro _ ⟨⟩
      exact ⟨rfl, rfl, h₆.2⟩

end

/-! ## All runs -/

/-- What the methods promise when they return. -/
def Outcome : (op : Op) → Except Exn op.Ret → MultiBackend P → Gpu → Prop
  | .acquireGpu target, .ok t, s, w =>
      target = some t ∧ s.active = some t ∧ ∃ e, t.engine = some e ∧ ∀ f ≠ e, w.Empty f
  | .releaseGpu _, .ok _, _, w => ∀ e, w.Empty e
  | .observeReady, .ok none, _, w => ∀ e, w.Empty e
  | _, _, _, _ => True

theorem Outcome.settles {op : Op} {r : Except Exn op.Ret} {s : MultiBackend P} {w w' : Gpu}
    (h : Outcome op r s w) (hw : w.Settles w') : Outcome op r s w' := by
  unfold Outcome at h ⊢
  split at h
  · obtain ⟨htarget, hactive, e, he, hempty⟩ := h
    exact ⟨htarget, hactive, e, he, fun f hf ↦ hw.empty (hempty f hf)⟩
  · exact fun e ↦ hw.empty (h e)
  · exact fun e ↦ hw.empty (h e)
  · trivial

def exclusiveSpec (P : Type) [EmptyCollection P] : (object P).Spec (Gpu.contract P) where
  pre _ := True
  inv := Tracks
  during := During
  post := Outcome
  inv_drift := Tracks.settles
  post_drift _ := Outcome.settles
  run op s w _ h := by
    cases op with
    | validateControl =>
        exact wp_mono (runs_validateControl h) fun r _ _ hr ↦ ⟨hr, by cases r <;> trivial⟩
    | observeReady =>
        refine wp_mono (runs_observeReady h) fun r s' w' hr ↦ ⟨hr.1, ?_⟩
        match r, hr.2 with
        | .ok none, hempty => exact hempty rfl
        | .ok (some t), _ => trivial
        | .error exn, _ => trivial
    | snapshotReady =>
        exact wp_mono (runs_snapshotReady h) fun r _ _ hr ↦ ⟨hr, by cases r <;> trivial⟩
    | releaseGpu target =>
        refine wp_mono (runs_releaseEach h backends) fun r s' w' hr ↦ ⟨hr.1, ?_⟩
        cases r with
        | error exn => trivial
        | ok u => exact fun e ↦ hr.2 rfl e (mem_backends e)
    | requestFailed target => exact wp_modify ⟨h.requestFailed target, trivial⟩
    | acquireGpu target =>
        change (acquireGpu target).wp _ _ _ _ _
        unfold acquireGpu
        split
        · exact wp_raise ⟨h, trivial⟩
        · next t =>
            split
            · exact wp_raise ⟨h, trivial⟩
            · next e he =>
                refine wp_mono (runs_acquireEngine he h) fun r s' w' hr ↦ ⟨hr.1, ?_⟩
                cases r with
                | error exn => trivial
                | ok t' =>
                    obtain ⟨rfl, hactive, hempty⟩ := hr.2 t' rfl
                    exact ⟨rfl, hactive, e, he, hempty⟩

/-- `MultiBackend` before its first call, whatever is loaded. -/
def Fresh (s : MultiBackend P) (w : Gpu) : Prop := s = .initial ∧ w.acquired = ∅

theorem tracks_of_fresh {s : MultiBackend P} {w : Gpu} (h : Fresh s w) : Tracks s w := by
  obtain ⟨rfl, hw⟩ := h
  exact ⟨by simp [hw], nofun⟩

/-- At most one engine is on the GPU: it is acquired when all others are empty,
and they stay empty while it is active; a release and an empty observation leave
nothing loaded; and the unload of KoboldCpp is skipped only when it is empty. -/
theorem engines_exclusive [EmptyCollection P] {s : AsyncObject.State (object P) Gpu}
    (hs : ((object P).serial (Gpu.contract P) Fresh).ReachableVia
      (AsyncObject.Meets (Gpu.contract P)) s) :
    (∀ target t, s.last = some ⟨.acquireGpu target, .ok t⟩ → target = some t ∧
      s.obj.active = some t ∧ ∃ e, t.engine = some e ∧ ∀ f ≠ e, s.world.Empty f) ∧
    (∀ op e native k, s.task = some ⟨op, .acquireGpu e native, k⟩ → ∀ f ≠ e, s.world.Empty f) ∧
    (∀ target, s.last = some ⟨.releaseGpu target, .ok ⟨⟩⟩ → ∀ e, s.world.Empty e) ∧
    (s.last = some ⟨.observeReady, .ok none⟩ → ∀ e, s.world.Empty e) ∧
    (s.obj.koboldReleased = true → s.world.Empty .koboldcpp) := by
  have h := (exclusiveSpec P).holds (fun _ _ ↦ tracks_of_fresh)
    (hs.mono fun _ _ hmeets ↦ ⟨hmeets, fun _ _ ↦ trivial⟩)
  refine ⟨fun target t hlast ↦ (h.post _ _ hlast).2, fun op e native k htask ↦
    (h.during htask).2, fun target hlast ↦ (h.post _ _ hlast).2, fun hlast ↦
    (h.post _ _ hlast).2, fun hreleased ↦ ?_⟩
  cases htask : s.task with
  | none => exact (h.idle htask).released hreleased
  | some task => exact (h.during htask).1.released hreleased

/-- Adapters that do what they are asked. -/
def willing (w : Gpu) : (c : Call (List ℕ)) → Answer c
  | .validateControl _ => .ok ()
  | .observeReady e => .ok (if e ∈ w.loaded then some (.prism "loaded") else none)
  | .releaseGpu _ target => (target, .ok ())
  | .requestTarget e model => .ok (.strata model e)
  | .acquireGpu _ target => .ok target

/-- The GPU after a call to them. -/
def willingGpu (w : Gpu) : Call (List ℕ) → Gpu
  | .releaseGpu e _ => ⟨w.loaded.erase e, w.acquired.erase e⟩
  | .acquireGpu _ _ => ⟨w.loaded ∪ w.acquired, w.acquired⟩
  | .observeReady e => if e ∈ w.loaded then w else ⟨w.loaded, w.acquired.erase e⟩
  | _ => w

/-- The call in flight is answered. -/
def serve (s : AsyncObject.State (object (List ℕ)) Gpu) :
    AsyncObject.State (object (List ℕ)) Gpu :=
  match s.task with
  | none => s
  | some ⟨op, c, k⟩ => AsyncObject.stop (Gpu.contract (List ℕ)) op (willingGpu s.world c)
      ((k (willing s.world c)).resume s.obj)

def tabbyTarget : MultiTarget := ⟨some .tabbyapi, "exl3"⟩

/-- TabbyAPI is acquired while Prism is loaded. -/
def tabbyStart : AsyncObject.State (object (List ℕ)) Gpu :=
  AsyncObject.stop (Gpu.contract (List ℕ)) (.acquireGpu (some tabbyTarget)) ⟨{.prism}, ∅⟩
    ((acquireGpu (some tabbyTarget)).resume .initial)

theorem willing_ends (w : Gpu) (c : Call (List ℕ)) :
    Gpu.Ends c w (willing w c) (willingGpu w c) := by
  cases c with
  | observeReady e =>
      by_cases he : e ∈ w.loaded
      · simp only [willing, willingGpu, if_pos he]
        exact .refl w
      · simp only [willing, willingGpu, if_neg he]
        exact ⟨⟨Finset.subset_union_left, Finset.erase_subset _ _⟩, he, fun _ ↦ by simp⟩
  | releaseGpu e target =>
      exact ⟨⟨(Finset.erase_subset _ _).trans Finset.subset_union_left, Finset.erase_subset _ _⟩,
        by simp [willingGpu], by simp [willingGpu]⟩
  | acquireGpu e target => exact ⟨subset_rfl, subset_rfl⟩
  | _ => exact .refl w

theorem serve_reachable {init : MultiBackend (List ℕ) → Gpu → Prop}
    {s : AsyncObject.State (object (List ℕ)) Gpu}
    (hs : ((object (List ℕ)).serial (Gpu.contract (List ℕ)) init).ReachableVia
      (AsyncObject.Meets (Gpu.contract (List ℕ))) s) (n : ℕ) :
    ((object (List ℕ)).serial (Gpu.contract (List ℕ)) init).ReachableVia
      (AsyncObject.Meets (Gpu.contract (List ℕ))) (serve^[n] s) := by
  induction n generalizing s with
  | zero => exact hs
  | succ n ih =>
      refine ih ?_
      unfold serve
      split
      · exact hs
      · next op c k htask =>
          refine .next (a := .answer (willing s.world) (willingGpu s.world c)) hs ?_
            (by simp [AsyncObject.serial, AsyncObject.step, htask])
          intro op' c' k' htask'
          cases htask.symm.trans htask'
          exact willing_ends s.world c

theorem engines_exclusive_tabby :
    (serve^[9] tabbyStart).obj.active = some tabbyTarget ∧
      (serve^[9] tabbyStart).world.Empty .prism := by
  have hstart : ((object (List ℕ)).serial (Gpu.contract (List ℕ)) Fresh).ReachableVia
      (AsyncObject.Meets (Gpu.contract (List ℕ))) tabbyStart :=
    .next (a := .invoke (.acquireGpu (some tabbyTarget)))
      (.start (s := ⟨.initial, ⟨{.prism}, ∅⟩, none, none⟩) ⟨⟨rfl, rfl⟩, rfl, rfl⟩) trivial rfl
  obtain ⟨-, hactive, e, he, hempty⟩ :=
    (engines_exclusive (serve_reachable hstart 9)).1 (some tabbyTarget) tabbyTarget rfl
  cases he
  exact ⟨hactive, hempty .prism (by decide)⟩

end StProxy.Multi
