import Mathlib.Data.List.Infix
import Mathlib.Algebra.Order.Group.Nat

/-!
# Giving up after a run of failures

A watch that looks at one observation after another until one is final, and gives up
when `limit` observations in a row have failed.
-/

namespace Retry

variable {F R : Type}

/-- What one observation shows. -/
inductive Seen (F R : Type)
  | failed (failure : F)
  | pending
  | final (r : R)

/-- How a watch ends. -/
inductive Outcome (F R : Type)
  | final (r : R)
  | gaveUp (failure : F) (failures : ℕ)
  | exhausted

def Seen.isFailed : Seen F R → Bool
  | .failed _ => true
  | _ => false

def Seen.isFinal : Seen F R → Bool
  | .final _ => true
  | _ => false

/-- The watch after `failures` failures in a row. -/
def watch (limit : ℕ) : ℕ → List (Seen F R) → Outcome F R
  | _, [] => .exhausted
  | _, .final r :: _ => .final r
  | _, .pending :: l => watch limit 0 l
  | failures, .failed failure :: l =>
      if limit ≤ failures + 1 then .gaveUp failure (failures + 1)
      else watch limit (failures + 1) l

/-- Some `limit` observations in a row failed. -/
def HasRun (limit : ℕ) (l : List (Seen F R)) : Prop :=
  ∃ run, run <:+: l ∧ run.length = limit ∧ ∀ seen ∈ run, seen.isFailed = true

/-- The counter of the watch reaches `limit`. -/
def reaches (limit : ℕ) : ℕ → List (Seen F R) → Bool
  | _, [] => false
  | failures, .failed _ :: l => limit ≤ failures + 1 || reaches limit (failures + 1) l
  | _, _ :: l => reaches limit 0 l

variable {limit k : ℕ} {l before : List (Seen F R)}

/-- The list begins with the failures that the counter still misses. -/
def Completes (limit k : ℕ) (l : List (Seen F R)) : Prop :=
  ∃ run, run <+: l ∧ k + run.length = limit ∧ ∀ seen ∈ run, seen.isFailed = true

lemma hasRun_cons {seen : Seen F R} :
    HasRun limit (seen :: l) ↔ Completes limit 0 (seen :: l) ∨ HasRun limit l := by
  simp only [HasRun, Completes, List.infix_cons_iff, or_and_right, exists_or, zero_add]

lemma Completes.hasRun (h : Completes limit 0 l) : HasRun limit l := by
  obtain ⟨run, hrun, hlength, hfailed⟩ := h
  exact ⟨run, hrun.isInfix, by omega, hfailed⟩

lemma completes_cons_failed (hk : k < limit) {failure : F} :
    Completes limit k (.failed failure :: l) ↔ Completes limit (k + 1) l := by
  constructor
  · rintro ⟨run, hrun, hlength, hfailed⟩
    cases run with
    | nil => simp at hlength; omega
    | cons seen run =>
        have hrun := (List.cons_prefix_cons.mp hrun).2
        exact ⟨run, hrun, by simp at hlength; omega, fun s hs ↦ hfailed s (by simp [hs])⟩
  · rintro ⟨run, hrun, hlength, hfailed⟩
    refine ⟨.failed failure :: run, List.cons_prefix_cons.mpr ⟨rfl, hrun⟩, by simp; omega, ?_⟩
    rintro s (_ | ⟨_, hs⟩)
    · rfl
    · exact hfailed s hs

lemma not_completes_cons (hk : k < limit) {seen : Seen F R} (hseen : seen.isFailed = false) :
    ¬Completes limit k (seen :: l) := by
  rintro ⟨run, hrun, hlength, hfailed⟩
  cases run with
  | nil => simp at hlength; omega
  | cons s run =>
      obtain ⟨rfl, -⟩ := List.cons_prefix_cons.mp hrun
      simp [hfailed s (by simp)] at hseen

/-- Fewer failures complete a run that is longer already. -/
lemma Completes.mono {k' : ℕ} (h : Completes limit k l) (hk : k ≤ k') (hk' : k' ≤ limit) :
    Completes limit k' l := by
  obtain ⟨run, hrun, hlength, hfailed⟩ := h
  refine ⟨run.take (limit - k'), (List.take_prefix _ _).trans hrun, ?_, fun s hs ↦
    hfailed s (List.mem_of_mem_take hs)⟩
  rw [List.length_take]
  omega

theorem reaches_iff (hk : k < limit) :
    reaches limit k l = true ↔ Completes limit k l ∨ HasRun limit l := by
  induction l generalizing k with
  | nil =>
      refine ⟨nofun, ?_⟩
      rintro (⟨run, hrun, hlength, -⟩ | ⟨run, hrun, hlength, -⟩)
      · rw [List.prefix_nil.mp hrun] at hlength
        exact absurd hlength (by simp; omega)
      · rw [List.infix_nil.mp hrun] at hlength
        exact absurd hlength (by simp; omega)
  | cons seen l ih =>
      rw [hasRun_cons]
      cases hseen : seen.isFailed with
      | false =>
          have hreaches : reaches limit k (seen :: l) = reaches limit 0 l := by
            cases seen with
            | failed failure => cases hseen
            | _ => rfl
          have hzero := not_completes_cons (l := l) (Nat.zero_lt_of_lt hk) hseen
          rw [hreaches, ih (Nat.zero_lt_of_lt hk),
            or_iff_right_of_imp (@Completes.hasRun _ _ limit _)]
          simp only [not_completes_cons hk hseen, hzero, false_or]
      | true =>
          obtain ⟨failure, rfl⟩ : ∃ failure, seen = .failed failure := by
            cases seen with
            | failed failure => exact ⟨failure, rfl⟩
            | _ => cases hseen
          -- What completes a run from zero completes a longer one.
          rw [← or_assoc, or_iff_left_of_imp fun h : Completes limit 0 _ ↦ h.mono (by omega) hk.le,
            completes_cons_failed hk]
          rcases Nat.lt_or_ge (k + 1) limit with hlt | hge
          · rw [← ih hlt, reaches, decide_eq_false (by omega), Bool.false_or]
          · have hdone : Completes limit (k + 1) l := ⟨[], List.nil_prefix, by simp; omega, nofun⟩
            simp [reaches, hge, hdone]

/-! ## The outcome -/

/-- A run of failures before the first final observation ends the watch. -/
theorem watch_of_reaches (rest : List (Seen F R)) (hk : k < limit)
    (h : reaches limit k before = true)
    (hfinal : ∀ seen ∈ before, seen.isFinal = false) :
    ∃ failure, watch limit k (before ++ rest) = .gaveUp failure limit := by
  induction before generalizing k with
  | nil => cases h
  | cons seen before ih =>
      obtain ⟨hseen, hbefore⟩ := List.forall_mem_cons.mp hfinal
      cases seen with
      | final r => cases hseen
      | pending => exact ih (Nat.zero_lt_of_lt hk) h hbefore
      | failed failure =>
          rw [List.cons_append, watch]
          split_ifs with hlimit
          · exact ⟨failure, by rw [show k + 1 = limit by omega]⟩
          · refine ih (by omega) ?_ hbefore
            simpa [reaches, hlimit] using h

/-- Without such a run the watch goes on. -/
theorem watch_of_not_reaches (rest : List (Seen F R)) (h : reaches limit k before = false)
    (hfinal : ∀ seen ∈ before, seen.isFinal = false) :
    ∃ k', watch limit k (before ++ rest) = watch limit k' rest := by
  induction before generalizing k with
  | nil => exact ⟨k, rfl⟩
  | cons seen before ih =>
      obtain ⟨hseen, hbefore⟩ := List.forall_mem_cons.mp hfinal
      cases seen with
      | final r => cases hseen
      | pending => exact ih h hbefore
      | failed failure =>
          rw [reaches, Bool.or_eq_false_iff, decide_eq_false_iff_not] at h
          rw [List.cons_append, watch, if_neg h.1]
          exact ih h.2 hbefore

theorem watch_gaveUp (rest : List (Seen F R)) (hlimit : 0 < limit) (h : HasRun limit before)
    (hfinal : ∀ seen ∈ before, seen.isFinal = false) :
    ∃ failure, watch limit 0 (before ++ rest) = .gaveUp failure limit :=
  watch_of_reaches rest hlimit ((reaches_iff hlimit).mpr (.inr h)) hfinal

theorem not_reaches_of_not_hasRun (hlimit : 0 < limit) (h : ¬HasRun limit before) :
    reaches limit 0 before = false := by
  rw [Bool.eq_false_iff, Ne, reaches_iff hlimit, or_iff_right_of_imp Completes.hasRun]
  exact h

theorem watch_final (rest : List (Seen F R)) (hlimit : 0 < limit) (h : ¬HasRun limit before)
    (hfinal : ∀ seen ∈ before, seen.isFinal = false) (r : R) :
    watch limit 0 (before ++ .final r :: rest) = .final r := by
  obtain ⟨k, hk⟩ := watch_of_not_reaches (.final r :: rest)
    (not_reaches_of_not_hasRun hlimit h) hfinal
  rw [hk]
  cases k <;> rfl

theorem watch_exhausted (hlimit : 0 < limit) (h : ¬HasRun limit before)
    (hfinal : ∀ seen ∈ before, seen.isFinal = false) :
    watch limit 0 before = .exhausted := by
  obtain ⟨k, hk⟩ := watch_of_not_reaches [] (not_reaches_of_not_hasRun hlimit h) hfinal
  rw [List.append_nil] at hk
  rw [hk]
  cases k <;> rfl

end Retry
