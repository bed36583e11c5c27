import StProxy.Lib.Async

/-!
# Conditions on answers that depend on the attributes

The contract of an environment cannot mention the attributes of the object that
calls it.  Here answers are restricted by a condition on the attributes at the
call, and the rules of weakest preconditions are those without it.
-/

namespace Async

variable {σ C W E α β : Type} {R : C → Type}

/-- A condition on the answer to a call that is made with given attributes. -/
abbrev Guard (σ C : Type) (R : C → Type) : Type := (c : C) → σ → R c → Prop

variable {K : Contract W C R} {G : Guard σ C R} {D : C → σ → W → Prop}

/-- Every way to run the code under the guard ends in `Q`, and `D` holds as long as
a call is in flight. -/
def wpIf (K : Contract W C R) (G : Guard σ C R) (D : C → σ → W → Prop) :
    Async σ C R E α → (Except E α → σ → W → Prop) → σ → W → Prop
  | ret a, Q, s, w => Q (.ok a) s w
  | raise e, Q, s, w => Q (.error e) s w
  | read k, Q, s, w => (k s).wpIf K G D Q s w
  | write s k, Q, _, w => k.wpIf K G D Q s w
  | call c k, Q, s, w => ∀ w', K.drift (K.start c w) w' →
      D c s w' ∧ ∀ r w'', G c s r → K.ends c w' r w'' → (k r).wpIf K G D Q s w''

variable {s : σ} {w : W}

theorem wpIf_mono {p : Async σ C R E α} {Q Q' : Except E α → σ → W → Prop}
    (h : p.wpIf K G D Q s w) (hq : ∀ r s w, Q r s w → Q' r s w) : p.wpIf K G D Q' s w := by
  induction p generalizing s w with
  | ret a => exact hq _ _ _ h
  | raise e => exact hq _ _ _ h
  | read k ih => exact ih s h
  | write s k ih => exact ih h
  | call c k ih =>
      intro w' hw'
      obtain ⟨hd, hk⟩ := h w' hw'
      exact ⟨hd, fun r w'' hg hw'' ↦ ih r (hk r w'' hg hw'')⟩

/-- The rule of sequence, with a condition between the parts. -/
theorem wpIf_then {p : Async σ C R E α} {f : α → Async σ C R E β}
    {Q : Except E β → σ → W → Prop} {M : Except E α → σ → W → Prop}
    (h : p.wpIf K G D M s w) (hok : ∀ a s w, M (.ok a) s w → (f a).wpIf K G D Q s w)
    (herror : ∀ e s w, M (.error e) s w → Q (.error e) s w) : (p >>= f).wpIf K G D Q s w := by
  change (p.bind f).wpIf K G D Q s w
  induction p generalizing s w with
  | ret a => exact hok a s w h
  | raise e => exact herror e s w h
  | read k ih => exact ih s h
  | write s k ih => exact ih h
  | call c k ih =>
      intro w' hw'
      obtain ⟨hd, hk⟩ := h w' hw'
      exact ⟨hd, fun r w'' hg hw'' ↦ ih r (hk r w'' hg hw'')⟩

/-- The rule of calls. -/
theorem wpIf_bind_await {c : C} {f : R c → Async σ C R E β} {Q : Except E β → σ → W → Prop}
    (hd : ∀ w', K.drift (K.start c w) w' → D c s w')
    (hr : ∀ w' r w'', K.drift (K.start c w) w' → G c s r → K.ends c w' r w'' →
      (f r).wpIf K G D Q s w'') : (await c >>= f).wpIf K G D Q s w :=
  fun w' hw' ↦ ⟨hd w' hw', fun r w'' hg hw'' ↦ hr w' r w'' hw' hg hw''⟩

theorem wpIf_bind_result {r : Except E α} {f : α → Async σ C R E β}
    {Q : Except E β → σ → W → Prop} (hok : ∀ a, r = .ok a → (f a).wpIf K G D Q s w)
    (herror : ∀ e, r = .error e → Q (.error e) s w) : (result r >>= f).wpIf K G D Q s w := by
  cases r with
  | ok a => exact hok a rfl
  | error e => exact herror e rfl

theorem wpIf_bind_self {f : σ → Async σ C R E α} {Q : Except E α → σ → W → Prop}
    (h : (f s).wpIf K G D Q s w) : (self >>= f).wpIf K G D Q s w := h

theorem wpIf_bind_modify {g : σ → σ} {f : Unit → Async σ C R E α}
    {Q : Except E α → σ → W → Prop} (h : (f ()).wpIf K G D Q (g s) w) :
    (modify g >>= f).wpIf K G D Q s w := h

/-- The rule of `for`: the invariant is indexed by the part of the list that is left. -/
theorem wpIf_forM {ι : Type} {f : ι → Async σ C R E PUnit} {Q : Except E PUnit → σ → W → Prop}
    (I : List ι → σ → W → Prop) (hstep : ∀ a l s w, I (a :: l) s w →
      (f a).wpIf K G D (fun r s w ↦ match r with
        | .ok _ => I l s w
        | .error e => Q (.error e) s w) s w)
    (hdone : ∀ s w, I [] s w → Q (.ok ⟨⟩) s w) (l : List ι) {s : σ} {w : W} (h : I l s w) :
    (l.forM f).wpIf K G D Q s w := by
  induction l generalizing s w with
  | nil => exact hdone s w h
  | cons a l ih => exact wpIf_then (hstep a l s w h) (fun _ _ _ ↦ ih) fun _ _ _ ↦ id

/-- The rule of a `for` that updates a variable. -/
theorem wpIf_foldlM {ι : Type} {f : β → ι → Async σ C R E β} {Q : Except E β → σ → W → Prop}
    (I : σ → W → Prop) (hstep : ∀ a b s w, I s w →
      (f b a).wpIf K G D (fun r s w ↦ match r with
        | .ok _ => I s w
        | .error e => Q (.error e) s w) s w)
    (hdone : ∀ b s w, I s w → Q (.ok b) s w) (l : List ι) {b : β} {s : σ} {w : W}
    (h : I s w) : (l.foldlM f b).wpIf K G D Q s w := by
  induction l generalizing b s w with
  | nil => exact hdone b s w h
  | cons a l ih => exact wpIf_then (hstep a b s w h) (fun _ _ _ ↦ ih) fun _ _ _ ↦ id

/-- What is left to show of code that is suspended at a call. -/
def AwaitsIf (K : Contract W C R) (G : Guard σ C R) (D : C → σ → W → Prop)
    (Q : Except E α → σ → W → Prop) (c : C) (k : R c → Async σ C R E α) (s : σ) (w : W) : Prop :=
  ∀ w', K.drift w w' →
    D c s w' ∧ ∀ r w'', G c s r → K.ends c w' r w'' → (k r).wpIf K G D Q s w''

theorem wpIf_resume {p : Async σ C R E α} {Q : Except E α → σ → W → Prop}
    (h : p.wpIf K G D Q s w) :
    match p.resume s with
    | (s', .inl r) => Q r s' w
    | (s', .inr ⟨c, k⟩) => AwaitsIf K G D Q c k s' (K.start c w) := by
  induction p generalizing s w with
  | ret a => exact h
  | raise e => exact h
  | read k ih => exact ih s h
  | write s k ih => exact ih h
  | call c k ih => exact h

end Async

namespace AsyncObject

variable {σ C W E Op : Type} {R : C → Type} {O : AsyncObject σ C R E Op}
  {K : Async.Contract W C R} {G : Op → Async.Guard σ C R}

/-- An invariant that every method keeps under the guard. -/
structure Kept (O : AsyncObject σ C R E Op) (K : Async.Contract W C R)
    (G : Op → Async.Guard σ C R) where
  inv : σ → W → Prop
  during : Op → C → σ → W → Prop
  inv_drift : ∀ {s w w'}, inv s w → K.drift w w' → inv s w'
  run : ∀ op s w, inv s w → (O.run op).wpIf K (G op) (during op) (fun _ ↦ inv) s w

/-- The answers that the guard admits. -/
def Admits (G : Op → Async.Guard σ C R) (s : State O W) : Action W Op C R → Prop
  | .answer r _ => ∀ op c k, s.task = some ⟨op, c, k⟩ → G op c s.obj (r c)
  | _ => True

/-- What a kept invariant says of a state. -/
structure Kept.Holds (S : Kept O K G) (s : State O W) : Prop where
  idle : s.task = none → S.inv s.obj s.world
  busy : ∀ op c k, s.task = some ⟨op, c, k⟩ →
    Async.AwaitsIf K (G op) (S.during op) (fun _ ↦ S.inv) c k s.obj s.world

variable {S : Kept O K G}

theorem Kept.stop {op : Op} {p : Async σ C R E (O.Ret op)} {s : σ} {w : W}
    (h : p.wpIf K (G op) (S.during op) (fun _ ↦ S.inv) s w) :
    S.Holds (AsyncObject.stop K op w (p.resume s)) := by
  have hresume := Async.wpIf_resume h
  generalize p.resume s = x at hresume
  obtain ⟨s', r | ⟨c, k⟩⟩ := x
  · exact ⟨fun _ ↦ hresume, nofun⟩
  · refine ⟨nofun, ?_⟩
    rintro _ _ _ ⟨⟩
    exact hresume

theorem Kept.step {s s' : State O W} {a : Action W Op C R} (h : S.Holds s) (hmeets : Meets K s a)
    (hadmits : Admits G s a) (hs : AsyncObject.step K s a = some s') : S.Holds s' := by
  cases a with
  | invoke op =>
      simp only [AsyncObject.step] at hs
      split at hs
      · next htask =>
          cases hs
          exact Kept.stop (S.run op _ _ (h.idle htask))
      · cases hs
  | answer r w =>
      simp only [AsyncObject.step] at hs
      split at hs
      · cases hs
      · next op c k htask =>
          cases hs
          exact Kept.stop ((h.busy op c k htask _ (K.drift_refl _)).2 _ _ (hadmits op c k htask)
            (hmeets op c k htask))
  | drift w =>
      cases hs
      exact ⟨fun htask ↦ S.inv_drift (h.idle htask) hmeets, fun op c k htask w' hw' ↦
        h.busy op c k htask w' (K.drift_trans hmeets hw')⟩

/-- The run rule: the invariant holds between the calls of every run under the
guard, and what holds in flight while one is in flight. -/
theorem Kept.holds {init : σ → W → Prop} (hinit : ∀ s w, init s w → S.inv s w) {s : State O W}
    (hs : (O.serial K init).ReachableVia (fun s a ↦ Meets K s a ∧ Admits G s a) s) :
    S.Holds s := by
  refine hs.invariant (I := S.Holds) ?_ fun _ _ _ _ h hok hstep ↦ Kept.step h hok.1 hok.2 hstep
  rintro s ⟨h, htask, -⟩
  exact ⟨fun _ ↦ hinit _ _ h, by simp [htask]⟩

theorem Kept.Holds.during {s : State O W} (h : S.Holds s) {op : Op} {c : C}
    {k : R c → Async σ C R E (O.Ret op)} (htask : s.task = some ⟨op, c, k⟩) :
    S.during op c s.obj s.world :=
  (h.busy op c k htask _ (K.drift_refl _)).1

end AsyncObject
