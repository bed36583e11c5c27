import Mathlib.Data.List.Basic
import Mathlib.Logic.Relation

/-!
# Executable transition systems and their runs

A system is a set of initial states and a partial step function, so that a run
can be evaluated as well as reasoned about.  Runs may be restricted to steps
that satisfy a side condition; the unrestricted case is the condition that
always holds.
-/

/-- Initial states and a step function.  `step s a = none` says that the
action `a` is not enabled in `s`. -/
structure TransitionSystem (S A : Type*) where
  init : S → Prop
  step : S → A → Option S

namespace TransitionSystem

variable {S A : Type*}

/-- States reached by runs all of whose steps satisfy `ok`. -/
inductive ReachableVia (M : TransitionSystem S A) (ok : S → A → Prop) : S → Prop
  | start {s : S} (h : M.init s) : ReachableVia M ok s
  | next {s s' : S} {a : A} (h : ReachableVia M ok s) (hok : ok s a)
      (hstep : M.step s a = some s') : ReachableVia M ok s'

/-- States reached by any run. -/
abbrev Reachable (M : TransitionSystem S A) : S → Prop :=
  M.ReachableVia fun _ _ ↦ True

namespace ReachableVia

variable {M : TransitionSystem S A} {ok : S → A → Prop}

/-- The invariant rule.  The step may use that its source is reachable, so
that invariants can be proved one on top of the other. -/
theorem invariant {I : S → Prop} (hinit : ∀ s, M.init s → I s)
    (hnext : ∀ s a s', M.ReachableVia ok s → I s → ok s a →
      M.step s a = some s' → I s') {s : S} (h : M.ReachableVia ok s) : I s := by
  induction h with
  | start h => exact hinit _ h
  | next h hok hstep ih => exact hnext _ _ _ h ih hok hstep

theorem mono {ok' : S → A → Prop} (hle : ∀ s a, ok s a → ok' s a) {s : S}
    (h : M.ReachableVia ok s) : M.ReachableVia ok' s := by
  induction h with
  | start h => exact .start h
  | next _ hok hstep ih => exact .next ih (hle _ _ hok) hstep

theorem reachable {s : S} (h : M.ReachableVia ok s) : M.Reachable s :=
  h.mono fun _ _ _ ↦ trivial

end ReachableVia

/-- The system that starts in `s`, so that its runs are the later parts of runs. -/
def startingAt (M : TransitionSystem S A) (s : S) : TransitionSystem S A :=
  { M with init := (· = s) }

/-- The later part of a run ends where the run ends. -/
theorem ReachableVia.of_startingAt {M : TransitionSystem S A} {ok : S → A → Prop} {s t : S}
    (hs : M.ReachableVia ok s) (ht : (M.startingAt s).ReachableVia ok t) : M.ReachableVia ok t := by
  induction ht with
  | start h => exact h ▸ hs
  | next _ hok hstep ih => exact .next ih hok hstep

/-- Execute a list of actions. -/
def exec (M : TransitionSystem S A) : S → List A → Option S
  | s, [] => some s
  | s, a :: as => (M.step s a).bind fun s' ↦ M.exec s' as

theorem exec_cons {M : TransitionSystem S A} {s t : S} {a : A} {as : List A}
    (h : M.exec s (a :: as) = some t) :
    ∃ s', M.step s a = some s' ∧ M.exec s' as = some t :=
  Option.bind_eq_some_iff.mp h

/-- Every step of the executed run from `s` satisfies `ok`. -/
def ExecOk (M : TransitionSystem S A) (ok : S → A → Prop) : S → List A → Prop
  | _, [] => True
  | s, a :: as => ok s a ∧ ∀ s', M.step s a = some s' → M.ExecOk ok s' as

/-- The condition on a run is checked along its execution. -/
instance decidableExecOk (M : TransitionSystem S A) (ok : S → A → Prop)
    [∀ s a, Decidable (ok s a)] : ∀ s as, Decidable (M.ExecOk ok s as)
  | _, [] => isTrue trivial
  | s, a :: as =>
      match h : M.step s a with
      | none => decidable_of_iff (ok s a) ⟨fun hok ↦ ⟨hok, by simp [h]⟩, And.left⟩
      | some s' =>
          have := decidableExecOk M ok s' as
          decidable_of_iff (ok s a ∧ M.ExecOk ok s' as) (by simp [ExecOk, h])

theorem exec_reachableVia {M : TransitionSystem S A} {ok : S → A → Prop} {s t : S}
    {l : List A} (hs : M.ReachableVia ok s) (hok : M.ExecOk ok s l)
    (h : M.exec s l = some t) : M.ReachableVia ok t := by
  induction l generalizing s with
  | nil => exact Option.some.inj h ▸ hs
  | cons a l ih =>
      obtain ⟨s', hstep, hrest⟩ := exec_cons h
      exact ih (.next hs hok.1 hstep) (hok.2 s' hstep) hrest

/-- A condition on the actions alone holds along every run. -/
theorem execOk_of_forall {M : TransitionSystem S A} {ok : S → A → Prop} {l : List A}
    (h : ∀ a ∈ l, ∀ s, ok s a) (s : S) : M.ExecOk ok s l := by
  induction l generalizing s with
  | nil => trivial
  | cons a l ih => exact ⟨h a (by simp) s, fun s' _ ↦ ih (fun b hb ↦ h b (by simp [hb])) s'⟩

theorem exec_reachable {M : TransitionSystem S A} {s t : S} {as : List A}
    (hs : M.init s) (h : M.exec s as = some t) : M.Reachable t :=
  exec_reachableVia (.start hs) (execOk_of_forall (fun _ _ _ ↦ trivial) s) h

/-- The state at the end of an executed run. -/
theorem exec_get_reachable {M : TransitionSystem S A} {s : S} {as : List A} (hs : M.init s)
    (h : (M.exec s as).isSome = true) : M.Reachable ((M.exec s as).get h) :=
  exec_reachable hs (Option.some_get h).symm

end TransitionSystem
