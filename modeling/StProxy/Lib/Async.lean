import StProxy.Lib.TransitionSystem

/-!
# Coroutines of one object

The code of a method that reads and writes the attributes of its object and
suspends at calls to its environment, a calculus of weakest preconditions for
such code, and the system of an object whose methods are called one at a time.
-/

/-- The code of a coroutine on attributes `σ`.  A call `c` suspends until the
environment answers with an element of `R c`; exceptions are of type `E`. -/
inductive Async (σ C : Type) (R : C → Type) (E α : Type) : Type
  | ret (a : α)
  | raise (e : E)
  | read (k : σ → Async σ C R E α)
  | write (s : σ) (k : Async σ C R E α)
  | call (c : C) (k : R c → Async σ C R E α)

namespace Async

variable {σ C E α β : Type} {R : C → Type}

def bind : Async σ C R E α → (α → Async σ C R E β) → Async σ C R E β
  | ret a, f => f a
  | raise e, _ => raise e
  | read k, f => read fun s ↦ (k s).bind f
  | write s k, f => write s (k.bind f)
  | call c k, f => call c fun r ↦ (k r).bind f

/-- The handler of a `try` statement. -/
def handle (f : E → Async σ C R E α) : Async σ C R E α → Async σ C R E α
  | ret a => ret a
  | raise e => f e
  | read k => read fun s ↦ handle f (k s)
  | write s k => write s (handle f k)
  | call c k => call c fun r ↦ handle f (k r)

instance : Monad (Async σ C R E) where
  pure := ret
  bind := bind

/-- `try` with `finally`.  An exception of the cleanup replaces that of the code. -/
def andFinally (cleanup : Async σ C R E Unit) (p : Async σ C R E α) : Async σ C R E α := do
  let a ← handle (fun e ↦ do
    cleanup
    raise e) p
  cleanup
  pure a

/-- The attributes of the object. -/
def self : Async σ C R E σ := read ret

def modify (f : σ → σ) : Async σ C R E Unit := read fun s ↦ write (f s) (ret ())

/-- Suspend at a call. -/
def await (c : C) : Async σ C R E (R c) := call c ret

/-- Return or raise. -/
def result : Except E α → Async σ C R E α
  | .ok a => ret a
  | .error e => raise e

theorem result_bind_result (r : Except E α) (f : α → Except E β) :
    (result r >>= fun a ↦ result (f a) : Async σ C R E β) = result (r.bind f) := by
  cases r <;> rfl

theorem handle_reraise_result (r : Except E α) (f : E → E) :
    handle (fun e ↦ raise (f e)) (result r : Async σ C R E α) = result (r.mapError f) := by
  cases r <;> rfl

/-- Where an atomic segment ends: with a result, or suspended at a call. -/
abbrev Stop (σ C : Type) (R : C → Type) (E α : Type) : Type :=
  Except E α ⊕ (c : C) × (R c → Async σ C R E α)

/-- Run the code to the next suspension. -/
def resume : Async σ C R E α → σ → σ × Stop σ C R E α
  | ret a, s => (s, .inl (.ok a))
  | raise e, s => (s, .inl (.error e))
  | read k, s => (k s).resume s
  | write s k, _ => k.resume s
  | call c k, s => (s, .inr ⟨c, k⟩)

/-! ## Weakest preconditions -/

/-- What is assumed of the environment, whose state is `W`: what the start of a
call does to it, how it may change while other code is suspended, and how it
may be when a call is answered. -/
structure Contract (W C : Type) (R : C → Type) where
  start : C → W → W
  drift : W → W → Prop
  ends : (c : C) → W → R c → W → Prop
  drift_refl : ∀ w, drift w w
  drift_trans : ∀ {u v w}, drift u v → drift v w → drift u w

variable {W : Type} {K : Contract W C R} {D : C → σ → W → Prop}

/-- Every way to run the code from `s` and `w` ends in `Q`, and `D` holds as long
as a call is in flight. -/
def wp (K : Contract W C R) (D : C → σ → W → Prop) :
    Async σ C R E α → (Except E α → σ → W → Prop) → σ → W → Prop
  | ret a, Q, s, w => Q (.ok a) s w
  | raise e, Q, s, w => Q (.error e) s w
  | read k, Q, s, w => (k s).wp K D Q s w
  | write s k, Q, _, w => k.wp K D Q s w
  | call c k, Q, s, w => ∀ w', K.drift (K.start c w) w' →
      D c s w' ∧ ∀ r w'', K.ends c w' r w'' → (k r).wp K D Q s w''

variable {Q Q' : Except E α → σ → W → Prop} {s : σ} {w : W}

theorem wp_mono {p : Async σ C R E α} (h : p.wp K D Q s w)
    (hq : ∀ r s w, Q r s w → Q' r s w) : p.wp K D Q' s w := by
  induction p generalizing s w with
  | ret a => exact hq _ _ _ h
  | raise e => exact hq _ _ _ h
  | read k ih => exact ih s h
  | write s k ih => exact ih h
  | call c k ih =>
      intro w' hw'
      obtain ⟨hd, hk⟩ := h w' hw'
      exact ⟨hd, fun r w'' hw'' ↦ ih r (hk r w'' hw'')⟩

theorem wp_pure {a : α} (h : Q (.ok a) s w) : (pure a : Async σ C R E α).wp K D Q s w := h

theorem wp_raise {e : E} (h : Q (.error e) s w) : (raise e : Async σ C R E α).wp K D Q s w := h

/-- The rule of sequence.  An exception ends the sequence. -/
theorem wp_bind {p : Async σ C R E α} {f : α → Async σ C R E β}
    {Q : Except E β → σ → W → Prop}
    (h : p.wp K D (fun r s w ↦ match r with
      | .ok a => (f a).wp K D Q s w
      | .error e => Q (.error e) s w) s w) : (p >>= f).wp K D Q s w := by
  change (p.bind f).wp K D Q s w
  induction p generalizing s w with
  | ret a => exact h
  | raise e => exact h
  | read k ih => exact ih s h
  | write s k ih => exact ih h
  | call c k ih =>
      intro w' hw'
      obtain ⟨hd, hk⟩ := h w' hw'
      exact ⟨hd, fun r w'' hw'' ↦ ih r (hk r w'' hw'')⟩

/-- The rule of sequence with a condition between the parts. -/
theorem wp_then {p : Async σ C R E α} {f : α → Async σ C R E β}
    {Q : Except E β → σ → W → Prop} {M : Except E α → σ → W → Prop} (h : p.wp K D M s w)
    (hok : ∀ a s w, M (.ok a) s w → (f a).wp K D Q s w)
    (herror : ∀ e s w, M (.error e) s w → Q (.error e) s w) : (p >>= f).wp K D Q s w := by
  refine wp_bind (wp_mono h fun r s w hr ↦ ?_)
  cases r with
  | ok a => exact hok a s w hr
  | error e => exact herror e s w hr

/-- The rule of `try`. -/
theorem wp_handle {p : Async σ C R E α} {f : E → Async σ C R E α}
    (h : p.wp K D (fun r s w ↦ match r with
      | .ok a => Q (.ok a) s w
      | .error e => (f e).wp K D Q s w) s w) : (handle f p).wp K D Q s w := by
  induction p generalizing s w with
  | ret a => exact h
  | raise e => exact h
  | read k ih => exact ih s h
  | write s k ih => exact ih h
  | call c k ih =>
      intro w' hw'
      obtain ⟨hd, hk⟩ := h w' hw'
      exact ⟨hd, fun r w'' hw'' ↦ ih r (hk r w'' hw'')⟩

/-- The rule of `finally`. -/
theorem wp_andFinally {cleanup : Async σ C R E Unit} {p : Async σ C R E α}
    (h : p.wp K D (fun r s w ↦ cleanup.wp K D (fun r' s w ↦ Q (r'.bind fun _ ↦ r) s w) s w) s w) :
    (andFinally cleanup p).wp K D Q s w := by
  refine wp_bind (wp_handle (wp_mono h fun r s w hr ↦ ?_))
  cases r with
  | ok a =>
      refine wp_bind (wp_mono hr fun r' s w hr' ↦ ?_)
      cases r' with
      | ok u => exact hr'
      | error e => exact hr'
  | error e =>
      refine wp_bind (wp_mono hr fun r' s w hr' ↦ ?_)
      cases r' with
      | ok u => exact hr'
      | error e => exact hr'

theorem wp_self {Q : Except E σ → σ → W → Prop} (h : Q (.ok s) s w) :
    (self : Async σ C R E σ).wp K D Q s w := h

theorem wp_bind_self {f : σ → Async σ C R E α} (h : (f s).wp K D Q s w) :
    (self >>= f).wp K D Q s w := h

theorem wp_modify {f : σ → σ} {Q : Except E Unit → σ → W → Prop} (h : Q (.ok ()) (f s) w) :
    (modify f : Async σ C R E Unit).wp K D Q s w := h

theorem wp_bind_modify {g : σ → σ} {f : Unit → Async σ C R E α}
    (h : (f ()).wp K D Q (g s) w) : (modify g >>= f).wp K D Q s w := h

/-- The rule of calls: `D` holds in flight, and the answer leads on. -/
theorem wp_await {c : C} {Q : Except E (R c) → σ → W → Prop}
    (hd : ∀ w', K.drift (K.start c w) w' → D c s w')
    (hr : ∀ w' r w'', K.drift (K.start c w) w' → K.ends c w' r w'' → Q (.ok r) s w'') :
    (await c : Async σ C R E (R c)).wp K D Q s w :=
  fun w' hw' ↦ ⟨hd w' hw', fun r w'' hw'' ↦ hr w' r w'' hw' hw''⟩

theorem wp_result {r : Except E α} (h : Q r s w) :
    (result r : Async σ C R E α).wp K D Q s w := by
  cases r <;> exact h

/-- The rule of `for`: the invariant is indexed by the part of the list that is left. -/
theorem wp_forM {ι : Type} {f : ι → Async σ C R E PUnit} {Q : Except E PUnit → σ → W → Prop}
    (I : List ι → σ → W → Prop) (hstep : ∀ a l s w, I (a :: l) s w →
      (f a).wp K D (fun r s w ↦ match r with
        | .ok _ => I l s w
        | .error e => Q (.error e) s w) s w)
    (hdone : ∀ s w, I [] s w → Q (.ok ⟨⟩) s w) (l : List ι) {s : σ} {w : W} (h : I l s w) :
    (l.forM f).wp K D Q s w := by
  induction l generalizing s w with
  | nil => exact hdone s w h
  | cons a l ih =>
      refine wp_bind (wp_mono (hstep a l s w h) fun r s w hr ↦ ?_)
      cases r with
      | ok u => exact ih hr
      | error e => exact hr

/-- The rule of a `for` that updates a variable. -/
theorem wp_foldlM {ι : Type} {f : β → ι → Async σ C R E β} {Q : Except E β → σ → W → Prop}
    (I : List ι → β → σ → W → Prop) (hstep : ∀ a l b s w, I (a :: l) b s w →
      (f b a).wp K D (fun r s w ↦ match r with
        | .ok b => I l b s w
        | .error e => Q (.error e) s w) s w)
    (hdone : ∀ b s w, I [] b s w → Q (.ok b) s w) (l : List ι) {b : β} {s : σ} {w : W}
    (h : I l b s w) : (l.foldlM f b).wp K D Q s w := by
  induction l generalizing b s w with
  | nil => exact hdone b s w h
  | cons a l ih =>
      refine wp_bind (wp_mono (hstep a l b s w h) fun r s w hr ↦ ?_)
      cases r with
      | ok b => exact ih hr
      | error e => exact hr

/-- What is left to show of code that is suspended at a call. -/
def Awaits (K : Contract W C R) (D : C → σ → W → Prop) (Q : Except E α → σ → W → Prop)
    (c : C) (k : R c → Async σ C R E α) (s : σ) (w : W) : Prop :=
  ∀ w', K.drift w w' → D c s w' ∧ ∀ r w'', K.ends c w' r w'' → (k r).wp K D Q s w''

theorem Awaits.drift {c : C} {k : R c → Async σ C R E α} {w' : W}
    (h : Awaits K D Q c k s w) (hw : K.drift w w') : Awaits K D Q c k s w' :=
  fun w'' hw' ↦ h w'' (K.drift_trans hw hw')

/-- What a weakest precondition says of the next suspension. -/
theorem wp_resume {p : Async σ C R E α} (h : p.wp K D Q s w) :
    match p.resume s with
    | (s', .inl r) => Q r s' w
    | (s', .inr ⟨c, k⟩) => Awaits K D Q c k s' (K.start c w) := by
  induction p generalizing s w with
  | ret a => exact h
  | raise e => exact h
  | read k ih => exact ih s h
  | write s k ih => exact ih h
  | call c k ih => exact h

/-! ## What is returned -/

/-- Whatever the attributes and the answers are, the code returns only elements of
`P`. -/
def Returns (P : α → Prop) : Async σ C R E α → Prop
  | ret a => P a
  | raise _ => True
  | read k => ∀ s, (k s).Returns P
  | write _ k => k.Returns P
  | call _ k => ∀ r, (k r).Returns P

theorem returns_bind {P : β → Prop} {p : Async σ C R E α} {f : α → Async σ C R E β}
    (h : ∀ a, (f a).Returns P) : (p >>= f).Returns P := by
  change (p.bind f).Returns P
  induction p with
  | ret a => exact h a
  | raise e => trivial
  | read k ih => exact ih
  | write s k ih => exact ih
  | call c k ih => exact ih

theorem returns_then {M : α → Prop} {P : β → Prop} {p : Async σ C R E α}
    {f : α → Async σ C R E β} (h : p.Returns M) (hf : ∀ a, M a → (f a).Returns P) :
    (p >>= f).Returns P := by
  change (p.bind f).Returns P
  induction p with
  | ret a => exact hf a h
  | raise e => trivial
  | read k ih => exact fun s ↦ ih s (h s)
  | write s k ih => exact ih h
  | call c k ih => exact fun r ↦ ih r (h r)

/-- For some attributes and answers, the code returns `a`. -/
def Yields : Async σ C R E α → α → Prop
  | ret b, a => b = a
  | raise _, _ => False
  | read k, a => ∃ s, (k s).Yields a
  | write _ k, a => k.Yields a
  | call _ k, a => ∃ r, (k r).Yields a

theorem Returns.of_yields {P : α → Prop} {p : Async σ C R E α} {a : α} (h : p.Returns P)
    (ha : p.Yields a) : P a := by
  induction p with
  | ret b => exact ha ▸ h
  | raise e => cases ha
  | read k ih =>
      obtain ⟨s, hs⟩ := ha
      exact ih s (h s) hs
  | write s k ih => exact ih h ha
  | call c k ih =>
      obtain ⟨r, hr⟩ := ha
      exact ih r (h r) hr

/-- A handler that only raises returns nothing. -/
theorem returns_handle {P : α → Prop} {p : Async σ C R E α} {f : E → E} (h : p.Returns P) :
    (handle (fun e ↦ raise (f e)) p).Returns P := by
  induction p with
  | ret a => exact h
  | raise e => trivial
  | read k ih => exact fun s ↦ ih s (h s)
  | write s k ih => exact ih h
  | call c k ih => exact fun r ↦ ih r (h r)

/-! ## Recorded calls -/

/-- The calls that were answered with their answers, newest first. -/
abbrev Exchanges (C : Type) (R : C → Type) : Type := List ((c : C) × R c)

/-- An environment that records its answers; `ok` restricts them. -/
def recording (ok : (c : C) → R c → Exchanges C R → Prop) : Contract (Exchanges C R) C R where
  start _ w := w
  drift w w' := w' = w
  ends c w r w' := w' = ⟨c, r⟩ :: w ∧ ok c r w
  drift_refl _ := rfl
  drift_trans h h' := h'.trans h

/-- The rule of recorded calls. -/
theorem wp_record {ok : (c : C) → R c → Exchanges C R → Prop} {D : C → σ → Exchanges C R → Prop}
    {c : C} {Q : Except E (R c) → σ → Exchanges C R → Prop} {s : σ} {w : Exchanges C R}
    (hd : D c s w) (hr : ∀ r, ok c r w → Q (.ok r) s (⟨c, r⟩ :: w)) :
    (await c : Async σ C R E (R c)).wp (recording ok) D Q s w := by
  apply wp_await
  · rintro w' rfl
    exact hd
  · rintro w' r w'' rfl ⟨rfl, hok⟩
    exact hr r hok

/-- The code with its environment: each call is answered from the exchanges so far. -/
def play (answers : Exchanges C R → (c : C) → R c) :
    Async σ C R E α → σ → Exchanges C R → Except E α × σ × Exchanges C R
  | ret a, s, log => (.ok a, s, log)
  | raise e, s, log => (.error e, s, log)
  | read k, s, log => (k s).play answers s log
  | write s k, _, log => k.play answers s log
  | call c k, s, log => (k (answers log c)).play answers s (⟨c, answers log c⟩ :: log)

section Play

variable {answers : Exchanges C R → (c : C) → R c} {s : σ} {log : Exchanges C R}

theorem play_await (c : C) : (await c : Async σ C R E (R c)).play answers s log =
    (.ok (answers log c), s, ⟨c, answers log c⟩ :: log) := rfl

theorem play_result (r : Except E α) :
    (result r : Async σ C R E α).play answers s log = (r, s, log) := by
  cases r <;> rfl

theorem play_bind (p : Async σ C R E α) (f : α → Async σ C R E β) :
    (p >>= f).play answers s log = match p.play answers s log with
      | (.ok a, s, log) => (f a).play answers s log
      | (.error e, s, log) => (.error e, s, log) := by
  change (p.bind f).play answers s log = _
  induction p generalizing s log with
  | ret a => rfl
  | raise e => rfl
  | read k ih => exact ih s
  | write s k ih => exact ih
  | call c k ih => exact ih _

variable (answers) in
/-- What holds of every run holds of the run with given answers. -/
theorem wp_play {ok : (c : C) → R c → Exchanges C R → Prop} {D : C → σ → Exchanges C R → Prop}
    {p : Async σ C R E α} {Q : Except E α → σ → Exchanges C R → Prop}
    (h : p.wp (recording ok) D Q s log) (hanswers : ∀ log c, ok c (answers log c) log) :
    Q (p.play answers s log).1 (p.play answers s log).2.1 (p.play answers s log).2.2 := by
  induction p generalizing s log with
  | ret a => exact h
  | raise e => exact h
  | read k ih => exact ih s h
  | write s k ih => exact ih h
  | call c k ih => exact ih _ ((h log rfl).2 _ _ ⟨rfl, hanswers log c⟩)

end Play

end Async

/-! ## Objects -/

/-- A class: its methods `Op` with their results and their code. -/
structure AsyncObject (σ C : Type) (R : C → Type) (E Op : Type) where
  Ret : Op → Type
  run : (op : Op) → Async σ C R E (Ret op)

namespace AsyncObject

variable {σ C W E Op : Type} {R : C → Type}

/-- An object in its environment.  `task` is the method in flight, suspended at a
call, and `last` the result of the method that ended last. -/
structure State (O : AsyncObject σ C R E Op) (W : Type) where
  obj : σ
  world : W
  task : Option ((op : Op) × (c : C) × (R c → Async σ C R E (O.Ret op)))
  last : Option ((op : Op) × Except E (O.Ret op))

inductive Action (W Op C : Type) (R : C → Type)
  /-- A method is called. -/
  | invoke (op : Op)
  /-- The call in flight is answered. -/
  | answer (r : (c : C) → R c) (w : W)
  /-- The environment moves by itself. -/
  | drift (w : W)

variable {O : AsyncObject σ C R E Op} {K : Async.Contract W C R}

/-- The method `op` has run to its next suspension. -/
def stop (K : Async.Contract W C R) (op : Op) (w : W) :
    σ × Async.Stop σ C R E (O.Ret op) → State O W
  | (s, .inl r) => ⟨s, w, none, some ⟨op, r⟩⟩
  | (s, .inr ⟨c, k⟩) => ⟨s, K.start c w, some ⟨op, c, k⟩, none⟩

/-- A method may be called when no other is in flight. -/
def step (K : Async.Contract W C R) (s : State O W) : Action W Op C R → Option (State O W)
  | .invoke op =>
      match s.task with
      | none => some (stop K op s.world ((O.run op).resume s.obj))
      | some _ => none
  | .answer r w =>
      match s.task with
      | none => none
      | some ⟨op, c, k⟩ => some (stop K op w ((k (r c)).resume s.obj))
  | .drift w => some { s with world := w }

/-- The steps of an environment that meets its contract. -/
def Meets (K : Async.Contract W C R) (s : State O W) : Action W Op C R → Prop
  | .invoke _ => True
  | .answer r w => ∀ op c k, s.task = some ⟨op, c, k⟩ → K.ends c s.world (r c) w
  | .drift w => K.drift s.world w

/-- The object with its methods called one at a time. -/
def serial (O : AsyncObject σ C R E Op) (K : Async.Contract W C R) (init : σ → W → Prop) :
    TransitionSystem (State O W) (Action W Op C R) where
  init s := init s.obj s.world ∧ s.task = none ∧ s.last = none
  step := step K

/-- An invariant of the object between calls, with what each method requires and
establishes and what holds while a call is in flight. -/
structure Spec (O : AsyncObject σ C R E Op) (K : Async.Contract W C R) where
  pre : Op → Prop
  inv : σ → W → Prop
  during : C → σ → W → Prop
  post : (op : Op) → Except E (O.Ret op) → σ → W → Prop
  inv_drift : ∀ {s w w'}, inv s w → K.drift w w' → inv s w'
  post_drift : ∀ {op r s w w'}, inv s w → post op r s w → K.drift w w' → post op r s w'
  run : ∀ op s w, pre op → inv s w →
    (O.run op).wp K during (fun r s w ↦ inv s w ∧ post op r s w) s w

/-- The steps that a specification is about. -/
def Spec.Permits (S : Spec O K) (s : State O W) (a : Action W Op C R) : Prop :=
  Meets K s a ∧ ∀ op, a = .invoke op → S.pre op

/-- What a specification says of a state. -/
structure Spec.Holds (S : Spec O K) (s : State O W) : Prop where
  idle : s.task = none → S.inv s.obj s.world
  post : ∀ op r, s.last = some ⟨op, r⟩ → S.inv s.obj s.world ∧ S.post op r s.obj s.world
  busy : ∀ op c k, s.task = some ⟨op, c, k⟩ →
    Async.Awaits K S.during (fun r s w ↦ S.inv s w ∧ S.post op r s w) c k s.obj s.world

theorem Spec.stop (S : Spec O K) {op : Op} {p : Async σ C R E (O.Ret op)} {s : σ} {w : W}
    (h : p.wp K S.during (fun r s w ↦ S.inv s w ∧ S.post op r s w) s w) :
    S.Holds (AsyncObject.stop K op w (p.resume s)) := by
  have hresume := Async.wp_resume h
  generalize p.resume s = x at hresume
  obtain ⟨s', r | ⟨c, k⟩⟩ := x
  · refine ⟨fun _ ↦ hresume.1, ?_, nofun⟩
    rintro _ _ ⟨⟩
    exact hresume
  · refine ⟨nofun, nofun, ?_⟩
    rintro _ _ _ ⟨⟩
    exact hresume

theorem Spec.step (S : Spec O K) {s s' : State O W} {a : Action W Op C R} (h : S.Holds s)
    (hok : S.Permits s a) (hs : AsyncObject.step K s a = some s') : S.Holds s' := by
  obtain ⟨hmeets, hpre⟩ := hok
  cases a with
  | invoke op =>
      simp only [AsyncObject.step] at hs
      split at hs
      · next htask =>
          cases hs
          exact S.stop (S.run op _ _ (hpre op rfl) (h.idle htask))
      · cases hs
  | answer r w =>
      simp only [AsyncObject.step] at hs
      split at hs
      · cases hs
      · next op c k htask =>
          cases hs
          exact S.stop ((h.busy op c k htask _ (K.drift_refl _)).2 _ _ (hmeets op c k htask))
  | drift w =>
      cases hs
      refine ⟨fun htask ↦ S.inv_drift (h.idle htask) hmeets, fun op r hlast ↦ ?_,
        fun op c k htask ↦ (h.busy op c k htask).drift hmeets⟩
      obtain ⟨hinv, hpost⟩ := h.post op r hlast
      exact ⟨S.inv_drift hinv hmeets, S.post_drift hinv hpost hmeets⟩

/-- The run rule: what a specification says holds in every run. -/
theorem Spec.holds (S : Spec O K) {init : σ → W → Prop} (hinit : ∀ s w, init s w → S.inv s w)
    {s : State O W} (hs : (O.serial K init).ReachableVia S.Permits s) : S.Holds s := by
  refine hs.invariant ?_ fun _ _ _ _ h hok hstep ↦ S.step h hok hstep
  rintro s ⟨h, htask, hlast⟩
  exact ⟨fun _ ↦ hinit _ _ h, by simp [hlast], by simp [htask]⟩

/-- What a specification says of a state holds in every later one. -/
theorem Spec.Holds.later {S : Spec O K} {init : σ → W → Prop} {s s' : State O W}
    (h : S.Holds s)
    (hs : ((O.serial K init).startingAt s).ReachableVia S.Permits s') : S.Holds s' := by
  refine hs.invariant ?_ fun _ _ _ _ h hok hstep ↦ S.step h hok hstep
  rintro _ rfl
  exact h

/-- While a call is in flight, `during` holds. -/
theorem Spec.Holds.during {S : Spec O K} {s : State O W} (h : S.Holds s) {op : Op} {c : C}
    {k : R c → Async σ C R E (O.Ret op)} (htask : s.task = some ⟨op, c, k⟩) :
    S.during c s.obj s.world :=
  (h.busy op c k htask _ (K.drift_refl _)).1

/-! ## Recorded runs -/

/-- The call in flight is answered, and the answer recorded. -/
def respond (r : (c : C) → R c) (s : State O (Async.Exchanges C R)) :
    State O (Async.Exchanges C R) :=
  match s.task with
  | none => s
  | some ⟨op, c, k⟩ =>
      stop (Async.recording fun _ _ _ ↦ True) op (⟨c, r c⟩ :: s.world) ((k (r c)).resume s.obj)

theorem respond_reachable {ok : (c : C) → R c → Async.Exchanges C R → Prop}
    {init : σ → Async.Exchanges C R → Prop}
    {P : State O (Async.Exchanges C R) → Action (Async.Exchanges C R) Op C R → Prop}
    {s : State O (Async.Exchanges C R)}
    (hs : (O.serial (Async.recording ok) init).ReachableVia P s) {r : (c : C) → R c}
    (hr : ∀ op c k, s.task = some ⟨op, c, k⟩ → P s (.answer r (⟨c, r c⟩ :: s.world))) :
    (O.serial (Async.recording ok) init).ReachableVia P (respond r s) := by
  unfold respond
  split
  · exact hs
  · next op c k htask =>
      refine .next hs (hr op c k htask) ?_
      simp only [serial, step, htask]
      rfl

/-- An answer that is admitted. -/
theorem meets_answer {ok : (c : C) → R c → Async.Exchanges C R → Prop}
    {s : State O (Async.Exchanges C R)} {r : (c : C) → R c} (h : ∀ c, ok c (r c) s.world)
    {op : Op} {c : C} {k : R c → Async σ C R E (O.Ret op)} (htask : s.task = some ⟨op, c, k⟩) :
    Meets (Async.recording ok) s (.answer r (⟨c, r c⟩ :: s.world)) := by
  intro op' c' k' htask'
  cases htask.symm.trans htask'
  exact ⟨rfl, h c⟩

end AsyncObject
