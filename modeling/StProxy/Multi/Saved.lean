import Mathlib.Logic.Function.Iterate
import StProxy.Lib.Guarded
import StProxy.Multi.Backend
import StProxy.Prism.Backend
import StProxy.Tabby.Backend

/-!
# The models of the saved restore points

TabbyAPI and Prism let their users select another model between two leases.  As
long as they report the model that is active, what is saved under a model is a
restore point of that model, and the adapter is asked for the model that was
requested.
-/

namespace StProxy.Multi

open Async

variable {P : Type}

def RestorePoint.model : RestorePoint P → String
  | .koboldcpp model | .tabbyapi model _ | .strata model _ | .prism model => model

/-- The engines on which another model may be selected natively. -/
def Native (e : Engine) : Prop := e = .tabbyapi ∨ e = .prism

instance (e : Engine) : Decidable (Native e) :=
  inferInstanceAs (Decidable (e = .tabbyapi ∨ e = .prism))

/-- What the adapters were last asked to load. -/
abbrev Asked (P : Type) : Type := Option (Engine × RestorePoint P)

def Asked.start : Call P → Asked P → Asked P
  | .acquireGpu e native, _ => some (e, native)
  | _, w => w

/-- An acquisition that returns is one of the model that was asked for, as
`tabby_loads` and `prism_loads` show. -/
def Loads : (c : Call P) → Answer c → Prop
  | .acquireGpu e native, .ok restored => Native e → restored.model = native.model
  | _, _ => True

/-- TabbyAPI returns the card of the model it was asked for. -/
theorem tabby_loads (cfg : Tabby.Settings) (restore : Tabby.TabbyApiRestorePoint) :
    (Tabby.acquireGpu cfg (some (.tabbyapi restore))).Returns (·.model = restore.model) := by
  have hmatches (current expected : Tabby.TabbyApiRestorePoint)
      (h : current.matches expected = true) : current.model = expected.model := by
    simp only [Tabby.TabbyApiRestorePoint.matches, Bool.and_eq_true, beq_iff_eq] at h
    exact h.1
  have hawait (parameters : Json.Fields) (n : ℕ) :
      (Tabby.awaitLoaded ⟨restore.model, parameters⟩ n).Returns (·.model = restore.model) := by
    induction n with
    | zero => trivial
    | succ n ih =>
        refine returns_bind fun observed ↦ ?_
        cases observed with
        | none => exact returns_bind fun _ ↦ returns_bind fun _ ↦ ih
        | some current =>
            dsimp only
            split
            · next h =>
                have hmodel : current.model = restore.model :=
                  hmatches current ⟨restore.model, parameters⟩ h
                exact returns_bind fun _ ↦ hmodel
            · trivial
  have hload : (Tabby.loadConfirmed cfg restore restore.parameters).Returns
      (·.model = restore.model) :=
    returns_bind fun _ ↦ returns_bind fun _ ↦ returns_bind fun n ↦ hawait _ n
  refine returns_handle (returns_handle (returns_bind fun current ↦ ?_))
  cases current with
  | none => exact hload
  | some current =>
      change (Tabby.replaceLoaded cfg restore current).Returns _
      unfold Tabby.replaceLoaded
      split
      · next h => exact hmatches current restore h
      · exact returns_bind fun _ ↦ hload

/-- Prism returns the restore point it was given. -/
theorem prism_loads (default : String) (restore : Prism.PrismRestorePoint) :
    (Prism.acquireGpu default (some (.prism restore))).Returns (·.model = restore.model) := by
  have hobserved (states : Prism.States) :
      (Prism.acquireObserved default restore states).Returns (·.model = restore.model) := by
    unfold Prism.acquireObserved
    split
    · trivial
    · split
      · exact returns_bind fun _ ↦ rfl
      · split
        · trivial
        · split
          · exact rfl
          · exact returns_bind fun _ ↦ returns_bind fun _ ↦ rfl
  unfold Prism.acquireGpu Prism.targetOf
  dsimp only
  split
  · trivial
  · change (Prism.requireCertain >>= fun _ ↦ Prism.states default >>=
      Prism.acquireObserved default restore).Returns _
    exact returns_bind fun _ ↦ returns_bind hobserved

/-- Adapters of which nothing else is assumed. -/
def asking (P : Type) : Contract (Asked P) (Call P) Answer where
  start := Asked.start
  drift w w' := w' = w
  ends c w r w' := w' = w ∧ Loads c r
  drift_refl _ := rfl
  drift_trans h h' := h'.trans h

/-- The restore point is of the active model, if the engine is the active one. -/
def OfActive (e : Engine) (restore : RestorePoint P) (active : Option MultiTarget) : Prop :=
  ∀ t ∈ active, t.engine = some e → restore.model = t.model

instance (e : Engine) (restore : RestorePoint P) (active : Option MultiTarget) :
    Decidable (OfActive e restore active) :=
  inferInstanceAs (Decidable (∀ t ∈ active, t.engine = some e → restore.model = t.model))

/-- The methods that save what they observe. -/
def Op.Saves : Op → Prop
  | .releaseGpu _ | .acquireGpu _ => True
  | _ => False

instance : DecidablePred Op.Saves := fun op ↦ by
  cases op <;> unfold Op.Saves <;> infer_instance

/-- The models reported to these methods are the active one. -/
def Steady (op : Op) : Guard (MultiBackend P) (Call P) Answer
  | .observeReady e, s, .ok (some observed) => op.Saves → Native e → OfActive e observed s.active
  | .releaseGpu e _, s, (restore, _) => Native e → OfActive e restore s.active
  | _, _, _ => True

instance (op : Op) (c : Call P) (s : MultiBackend P) (r : Answer c) :
    Decidable (Steady op c s r) := by
  unfold Steady
  split <;> infer_instance

/-- What is saved and what is active name the models that were asked for. -/
structure Named (s : MultiBackend P) (w : Asked P) : Prop where
  saved : ∀ e model restore, Native e → s.saved (e, model) = some restore → restore.model = model
  active : ∀ t e, s.active = some t → t.engine = some e → Native e →
    ∃ native, w = some (e, native) ∧ native.model = t.model

theorem named_update {saved : Engine × String → Option (RestorePoint P)} {e : Engine}
    {model : String} {restore : RestorePoint P}
    (h : ∀ f name r, Native f → saved (f, name) = some r → r.model = name)
    (hrestore : Native e → restore.model = model) {f : Engine} {name : String}
    {r : RestorePoint P} (hf : Native f)
    (hr : Function.update saved (e, model) (some restore) (f, name) = some r) :
    r.model = name := by
  by_cases hkey : (f, name) = (e, model)
  · cases hkey
    rw [Function.update_self] at hr
    obtain rfl := Option.some.inj hr
    exact hrestore hf
  · rw [Function.update_of_ne hkey] at hr
    exact h f name r hf hr

namespace Named

variable {s : MultiBackend P} {w : Asked P} {e : Engine}

theorem saveActive (h : Named s w) {restore : RestorePoint P}
    (hrestore : Native e → OfActive e restore s.active) : Named (saveActive e restore s) w := by
  unfold Multi.saveActive
  split
  · next t ht =>
      split
      · next hengine =>
          refine ⟨fun _ _ _ hf hsaved ↦ ?_, h.active⟩
          exact named_update h.saved (fun he ↦ hrestore he t ht hengine) hf hsaved
      · exact h
  · exact h

theorem forget (h : Named s w) (e : Engine) : Named (forget e s) w where
  saved := h.saved
  active t f ht := by
    have hactive : s.active = some t := by
      simp only [Multi.forget] at ht
      split at ht
      · cases ht
      · exact ht
    exact h.active t f hactive

theorem begin (h : Named s w) (target : MultiTarget) (e : Engine) (w' : Asked P) :
    Named (begin target e s) w' where
  saved := h.saved
  active _ _ ht := nomatch ht

theorem finish {target : MultiTarget} {restored native : RestorePoint P}
    (h : Named s (some (e, native))) (htarget : target.engine = some e)
    (hrestored : Native e → restored.model = native.model)
    (hnative : Native e → native.model = target.model) :
    Named (finish target e restored s) (some (e, native)) where
  saved _ _ _ hf hsaved :=
    named_update h.saved (fun he ↦ (hrestored he).trans (hnative he)) hf hsaved
  active t f ht hf hnat := by
    obtain rfl := Option.some.inj ht
    obtain rfl := Option.some.inj (htarget.symm.trans hf)
    exact ⟨native, rfl, hnative hnat⟩

end Named

/-! ## The methods -/

/-- What holds while a call is in flight: an engine is asked for the model that was
requested. -/
def Asks (op : Op) (c : Call P) (s : MultiBackend P) (w : Asked P) : Prop :=
  Named s w ∧ ∀ e native target, c = .acquireGpu e native → op = .acquireGpu (some target) →
    Native e → native.model = target.model

abbrev KeepsIf {α : Type} (op : Op) (p : Method P α) (s : MultiBackend P) (w : Asked P)
    (Q : Except Exn α → MultiBackend P → Asked P → Prop) : Prop :=
  p.wpIf (asking P) (Steady op) (Asks op) Q s w

section
variable {op : Op} {s : MultiBackend P} {w : Asked P} {e : Engine} {α : Type}

/-- A call other than `acquire_gpu`. -/
theorem keepsIf_call {c : Call P} {f : Answer c → Method P α}
    {Q : Except Exn α → MultiBackend P → Asked P → Prop} (h : Named s w)
    (hstart : ∀ w, Asked.start c w = w) (hc : ∀ e native, c ≠ .acquireGpu e native)
    (hr : ∀ r, Steady op c s r → KeepsIf op (f r) s w Q) : KeepsIf op (await c >>= f) s w Q := by
  refine wpIf_bind_await (fun w' hw' ↦ ?_) fun w' r w'' hw' hsteady hends ↦ ?_
  · obtain rfl : w' = w := hw'.trans (hstart w)
    exact ⟨h, fun e native target hacquire ↦ absurd hacquire (hc e native)⟩
  · obtain rfl : w' = w := hw'.trans (hstart w)
    obtain ⟨rfl, -⟩ := hends
    exact hr r hsteady

theorem keepsIf_observe {f : Option (RestorePoint P) → Method P α}
    {Q : Except Exn α → MultiBackend P → Asked P → Prop} (h : Named s w)
    (herror : ∀ exn, Q (.error exn) s w)
    (hok : ∀ observed, (∀ restore, observed = some restore → op.Saves → Native e →
      OfActive e restore s.active) → KeepsIf op (f observed) s w Q) :
    KeepsIf op (observeEngine e >>= f) s w Q := by
  refine wpIf_then (M := fun r s' w' ↦ s' = s ∧ w' = w ∧ ∀ restore, r = .ok (some restore) →
    op.Saves → Native e → OfActive e restore s.active) ?_ ?_ ?_
  · refine keepsIf_call h (fun _ ↦ rfl) (by simp) fun (r : Except Exn _) hsteady ↦ ?_
    cases r with
    | error exn => exact ⟨rfl, rfl, by simp⟩
    | ok observed =>
        refine ⟨rfl, rfl, ?_⟩
        rintro restore ⟨⟩
        exact hsteady
  · rintro observed s' w' ⟨rfl, rfl, hobserved⟩
    exact hok observed fun restore hrestore ↦ hobserved restore (hrestore ▸ rfl)
  · rintro exn s' w' ⟨rfl, rfl, -⟩
    exact herror exn

theorem keepsIf_releaseKobold (h : Named s w) :
    KeepsIf op releaseKobold s w fun _ ↦ Named := by
  have hconfirm : KeepsIf op confirmKobold s w fun _ ↦ Named := by
    refine wpIf_bind_self ?_
    split
    · exact h
    · refine keepsIf_call h (fun _ ↦ rfl) (by simp) fun r _ ↦ ?_
      refine wpIf_bind_result (fun _ _ ↦ ?_) fun _ _ ↦ h
      exact ⟨h.saved, h.active⟩
  exact wpIf_then hconfirm (fun _ s' w' h' ↦ ⟨h'.saved, h'.active⟩) fun _ _ _ ↦ id

theorem keepsIf_releaseNative (h : Named s w) (hop : op.Saves) :
    KeepsIf op (releaseNative e) s w fun _ ↦ Named := by
  refine keepsIf_observe h (fun _ ↦ h) fun observed hobserved ↦ ?_
  cases observed with
  | none => exact h
  | some observed =>
      have h₁ := h.saveActive (hobserved observed rfl hop)
      have hactive : (saveActive e observed s).active = s.active := by
        unfold saveActive
        split
        · split <;> rfl
        · rfl
      refine wpIf_bind_modify (keepsIf_call h₁ (fun _ ↦ rfl) (by simp) ?_)
      rintro ⟨restore, r⟩ hsteady
      have h₂ : Named (saveActive e restore (saveActive e observed s)) w := h₁.saveActive hsteady
      refine wpIf_bind_modify ?_
      cases r with
      | ok u => exact h₂
      | error exn => exact h₂

theorem keepsIf_release (h : Named s w) (hop : op.Saves) :
    KeepsIf op (release e) s w fun _ ↦ Named := by
  have hbackend : KeepsIf op (releaseBackend e) s w fun _ ↦ Named := by
    unfold releaseBackend
    split
    · exact keepsIf_releaseKobold h
    · exact keepsIf_releaseNative h hop
  exact wpIf_then hbackend (fun _ s' w' h' ↦ h'.forget e) fun _ _ _ ↦ id

theorem keepsIf_releaseEach (h : Named s w) (hop : op.Saves) (engines : List Engine) :
    KeepsIf op (engines.forM release) s w fun _ ↦ Named := by
  refine wpIf_forM (fun _ ↦ Named) (fun e rest s' w' h' ↦ ?_) (fun _ _ ↦ id) engines h
  exact wpIf_mono (keepsIf_release h' hop) fun r s w hr ↦ by cases r <;> exact hr

/-- Methods that only read keep the names. -/
theorem keepsIf_observeReady (h : Named s w) :
    KeepsIf op observeReady s w fun _ ↦ Named := by
  refine wpIf_bind_self (wpIf_then (M := fun _ ↦ Named) ?_ (fun _ _ _ h' ↦ ?_) fun _ _ _ ↦ id)
  · refine wpIf_foldlM Named (fun e occupied s' w' h' ↦ ?_) (fun _ _ _ ↦ id) backends h
    exact keepsIf_observe h' (fun _ ↦ h') fun _ _ ↦ h'
  · exact wpIf_bind_self h'

theorem keepsIf_snapshotReady (h : Named s w) :
    KeepsIf op snapshotReady s w fun _ ↦ Named := by
  refine wpIf_then (keepsIf_observeReady h) (fun observed s' w' h' ↦ ?_) fun _ _ _ ↦ id
  cases observed with
  | none => exact h'
  | some target => exact h'

theorem keepsIf_validateControl (h : Named s w) :
    KeepsIf op validateControl s w fun _ ↦ Named := by
  refine wpIf_forM (fun _ ↦ Named) (fun e rest s' w' h' ↦ ?_) (fun _ _ ↦ id) backends h
  refine keepsIf_call h' (fun _ ↦ rfl) (by simp) fun r _ ↦ ?_
  cases r <;> exact h'

/-! ## `acquire_gpu` -/

theorem keepsIf_releaseSame {target : MultiTarget} (h : Named s w) (hop : op.Saves) :
    KeepsIf op (releaseSame target e) s w fun _ ↦ Named := by
  refine wpIf_bind_self ?_
  split
  · exact keepsIf_release h hop
  · exact h

theorem keepsIf_saveOther {target : MultiTarget} (h : Named s w) (hop : op.Saves) :
    KeepsIf op (saveOther target e) s w fun _ ↦ Named := by
  refine wpIf_bind_self ?_
  split
  · refine keepsIf_observe h (fun _ ↦ h) fun observed hobserved ↦ ?_
    cases observed with
    | none => exact h
    | some observed => exact h.saveActive (hobserved observed rfl hop)
  · exact h

/-- The restore point that an engine will be asked for is one of the requested model. -/
theorem keepsIf_savedTarget [EmptyCollection P] {target : MultiTarget} (h : Named s w) :
    KeepsIf op (savedTarget target e) s w fun r s' w' ↦ Named s' w' ∧
      ∀ native, r = .ok native → Native e → native.model = target.model := by
  refine wpIf_bind_self ?_
  split
  · next native hsaved =>
      refine ⟨h, ?_⟩
      rintro _ ⟨⟩ he
      exact h.saved e target.model native he hsaved
  · unfold nativeTarget
    split
    · exact ⟨h, by rintro _ ⟨⟩ _; rfl⟩
    · exact ⟨h, by rintro _ ⟨⟩ _; rfl⟩
    · exact ⟨h, by rintro _ ⟨⟩ _; rfl⟩
    · next hnot hprism _ =>
        refine keepsIf_call h (fun _ ↦ rfl) (by simp) fun (r : Except Exn _) _ ↦ ?_
        have hnative : ¬Native e := by
          rintro (rfl | rfl)
          · exact hnot rfl
          · exact hprism rfl
        cases r with
        | ok native => exact ⟨h, fun _ _ he ↦ absurd he hnative⟩
        | error exn => exact ⟨h, nofun⟩

theorem keepsIf_acquireEngine [EmptyCollection P] {target : MultiTarget}
    (hop : op = .acquireGpu (some target)) (htarget : target.engine = some e) (h : Named s w) :
    KeepsIf op (acquireEngine target e) s w fun _ ↦ Named := by
  have hsaves : op.Saves := hop ▸ trivial
  refine wpIf_then (keepsIf_releaseEach h hsaves _) (fun _ s₁ w₁ h₁ ↦ ?_) fun _ _ _ ↦ id
  refine wpIf_then (keepsIf_releaseSame h₁ hsaves) (fun _ s₂ w₂ h₂ ↦ ?_) fun _ _ _ ↦ id
  refine wpIf_then (keepsIf_saveOther h₂ hsaves) (fun _ s₃ w₃ h₃ ↦ ?_) fun _ _ _ ↦ id
  refine wpIf_then (keepsIf_savedTarget h₃) (fun native s₄ w₄ h₄ ↦ ?_) fun _ _ _ ↦ And.left
  obtain ⟨h₄, hnative⟩ := h₄
  refine wpIf_bind_modify (wpIf_bind_await (fun w' hw' ↦ ?_) fun w' r w'' hw' _ hends ↦ ?_)
  · refine ⟨h₄.begin target e w', ?_⟩
    rintro f native' target' ⟨⟩ hop' he
    cases hop.symm.trans hop'
    exact hnative native rfl he
  · obtain rfl : w' = some (e, native) := hw'
    obtain ⟨rfl, hloads⟩ := hends
    have h₅ := h₄.begin target e (some (e, native))
    refine wpIf_bind_result (fun restored hr ↦ ?_) fun _ _ ↦ h₅
    subst hr
    exact h₅.finish htarget hloads (hnative native rfl)

end

/-! ## All runs -/

def savedKept (P : Type) [EmptyCollection P] : (object P).Kept (asking P) Steady where
  inv := Named
  during := Asks
  inv_drift h hw := hw ▸ h
  run op s w h := by
    cases op with
    | validateControl => exact keepsIf_validateControl h
    | observeReady => exact keepsIf_observeReady h
    | snapshotReady => exact keepsIf_snapshotReady h
    | releaseGpu target =>
        have hsaves : Op.Saves (.releaseGpu target) := trivial
        exact keepsIf_releaseEach h hsaves backends
    | requestFailed target =>
        change Named (requestFailed target s) w
        unfold requestFailed
        split
        · exact ⟨h.saved, h.active⟩
        · exact h
    | acquireGpu target =>
        change (acquireGpu target).wpIf _ _ _ _ _ _
        unfold acquireGpu
        split
        · exact h
        · split
          · exact h
          · next he => exact keepsIf_acquireEngine rfl he h

/-- The object before its first call. -/
abbrev Unused (s : MultiBackend P) (w : Asked P) : Prop := s = .initial ∧ w = none

/-- In a run whose reports are all of the active model, what is saved under a model of
TabbyAPI or Prism is a restore point of that model, the adapter is asked for the
requested model, and the active target names what it was asked for. -/
theorem saved_named [EmptyCollection P] {s : AsyncObject.State (object P) (Asked P)}
    (hs : ((object P).serial (asking P) Unused).ReachableVia
      (fun s a ↦ AsyncObject.Meets (asking P) s a ∧ AsyncObject.Admits Steady s a) s) :
    (∀ e model restore, Native e → s.obj.saved (e, model) = some restore →
      restore.model = model) ∧
    (∀ target e native k, s.task = some ⟨.acquireGpu (some target), .acquireGpu e native, k⟩ →
      Native e → native.model = target.model) ∧
    ∀ t e, s.obj.active = some t → t.engine = some e → Native e →
      ∃ native, s.world = some (e, native) ∧ native.model = t.model := by
  have h : (savedKept P).Holds s := by
    refine AsyncObject.Kept.holds (fun s w hinit ↦ ?_) hs
    obtain ⟨rfl, rfl⟩ := hinit
    exact ⟨fun _ _ _ _ hsaved ↦ (nomatch hsaved), fun _ _ hactive ↦ (nomatch hactive)⟩
  have hnamed : Named s.obj s.world := by
    cases htask : s.task with
    | none => exact h.idle htask
    | some task => exact (h.during htask).1
  exact ⟨hnamed.saved, fun target e native k htask he ↦
    (h.during htask).2 e native target rfl rfl he, hnamed.active⟩

/-- Adapters that do what they are asked; TabbyAPI reports the model `seen`. -/
def reply (seen : String) : (c : Call (List ℕ)) → Answer c
  | .validateControl _ => .ok ()
  | .observeReady e => .ok (if e = .tabbyapi then some (.tabbyapi seen []) else none)
  | .releaseGpu _ target => (target, .ok ())
  | .requestTarget e model => .ok (.strata model e)
  | .acquireGpu _ target => .ok target

section Runs

abbrev MultiState : Type := AsyncObject.State (object (List ℕ)) (Asked (List ℕ))

variable {ok : Op → Guard (MultiBackend (List ℕ)) (Call (List ℕ)) Answer}

/-- The call in flight is answered, if the guard admits the answer. -/
def answered (ok : Op → Guard (MultiBackend (List ℕ)) (Call (List ℕ)) Answer) (seen : String)
    [∀ op c s r, Decidable (ok op c s r)] (s : MultiState) : MultiState :=
  match s.task with
  | none => s
  | some ⟨op, c, k⟩ =>
      if ok op c s.obj (reply seen c) then
        AsyncObject.stop (asking (List ℕ)) op s.world ((k (reply seen c)).resume s.obj)
      else s

/-- The method is called. -/
def called (op : Op) (s : MultiState) : MultiState :=
  AsyncObject.stop (asking (List ℕ)) op s.world (((object (List ℕ)).run op).resume s.obj)

/-- The states that are reached by answers that the guard admits. -/
abbrev Reached (ok : Op → Guard (MultiBackend (List ℕ)) (Call (List ℕ)) Answer)
    (s : MultiState) : Prop :=
  ((object (List ℕ)).serial (asking (List ℕ)) Unused).ReachableVia
    (fun s a ↦ AsyncObject.Meets (asking (List ℕ)) s a ∧ AsyncObject.Admits ok s a) s

theorem called_reached {s : MultiState} (hs : Reached ok s) (htask : s.task = none) (op : Op) :
    Reached ok (called op s) := by
  refine .next (a := .invoke op) hs ⟨trivial, trivial⟩ ?_
  simp only [AsyncObject.serial, AsyncObject.step, htask]
  rfl

theorem answered_reached [∀ op c s r, Decidable (ok op c s r)] {s : MultiState}
    (hs : Reached ok s) (seen : String) (n : ℕ) :
    Reached ok ((answered ok seen)^[n] s) := by
  induction n generalizing s with
  | zero => exact hs
  | succ n ih =>
      refine ih ?_
      unfold answered
      split
      · exact hs
      · next op c k htask =>
          split
          · next hok =>
              refine .next (a := .answer (reply seen) s.world) hs ⟨?_, ?_⟩
                (by simp [AsyncObject.serial, AsyncObject.step, htask])
              · rintro op' c' k' htask'
                cases htask.symm.trans htask'
                refine ⟨rfl, ?_⟩
                cases c <;> first | exact trivial | exact fun _ ↦ rfl
              · rintro op' c' k' htask'
                cases htask.symm.trans htask'
                exact hok
          · exact hs

end Runs

/-- TabbyAPI is acquired with the model `a`, and then KoboldCpp. -/
def switched (ok : Op → Guard (MultiBackend (List ℕ)) (Call (List ℕ)) Answer) (seen : String)
    [∀ op c s r, Decidable (ok op c s r)] (n : ℕ) : MultiState :=
  (answered ok seen)^[n] (called (.acquireGpu (some ⟨some .koboldcpp, "x"⟩))
    ((answered ok seen)^[7] (called (.acquireGpu (some ⟨some .tabbyapi, "a"⟩))
      ⟨.initial, none, none, none⟩)))

theorem unused_reached {ok : Op → Guard (MultiBackend (List ℕ)) (Call (List ℕ)) Answer} :
    Reached ok ⟨.initial, none, none, none⟩ := .start ⟨⟨rfl, rfl⟩, rfl, rfl⟩

theorem saved_named_switched :
    ((switched Steady "a" 2).obj.saved (.tabbyapi, "a")).map RestorePoint.model = some "a" := by
  have hs : Reached Steady (switched Steady "a" 2) :=
    answered_reached (called_reached (answered_reached (called_reached unused_reached rfl _) "a" 7)
      rfl _) "a" 2
  have hsaved : (switched Steady "a" 2).obj.saved (.tabbyapi, "a") = some (.tabbyapi "a" []) := rfl
  rw [hsaved, Option.map_some, (saved_named hs).1 .tabbyapi "a" _ (by decide) hsaved]

/-- No answer is excluded. -/
abbrev anything : Op → Guard (MultiBackend (List ℕ)) (Call (List ℕ)) Answer := fun _ _ _ _ ↦ True

/-- Another model was selected natively: it is saved under the name of the first one,
and loaded when that one is requested. -/
theorem not_saved_named :
    ∃ s : MultiState, ((object (List ℕ)).serial (asking (List ℕ)) Unused).ReachableVia
        (AsyncObject.Meets (asking (List ℕ))) s ∧
      s.obj.saved (.tabbyapi, "a") = some (.tabbyapi "b" []) ∧
      s.obj.active = some ⟨some .tabbyapi, "a"⟩ ∧
      s.world = some (.tabbyapi, .tabbyapi "b" []) := by
  have hs : Reached anything (switched anything "b" 8) :=
    answered_reached (called_reached (answered_reached (called_reached unused_reached rfl _) "b" 7)
      rfl _) "b" 8
  have hlast : Reached anything ((answered anything "b")^[7]
      (called (.acquireGpu (some ⟨some .tabbyapi, "a"⟩)) (switched anything "b" 8))) :=
    answered_reached (called_reached hs rfl _) "b" 7
  exact ⟨_, hlast.mono fun _ _ ↦ And.left, rfl, rfl, rfl⟩

end StProxy.Multi
