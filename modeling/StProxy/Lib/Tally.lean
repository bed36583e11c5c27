import Mathlib.Algebra.BigOperators.Group.List.Basic
import Mathlib.Algebra.GroupWithZero.Nat

/-!
# Counters kept beside a list

A program that maintains a number while entries come and go wants the number
to be the total weight of the entries.
-/

/-- `k` is the sum of the weights of the entries of `l`. -/
def Tallies {α : Type*} (f : α → ℕ) (l : List α) (k : ℕ) : Prop :=
  (l.map f).sum = k

namespace Tallies

variable {α : Type*} {f g : α → ℕ} {l : List α} {a : α} {k : ℕ}

theorem nil (f : α → ℕ) : Tallies f [] 0 := rfl

theorem congr (h : Tallies f l k) (hfg : ∀ a ∈ l, g a = f a) : Tallies g l k := by
  unfold Tallies
  rw [List.map_congr_left hfg]
  exact h

theorem append (h : Tallies f l k) (a : α) : Tallies f (l ++ [a]) (k + f a) := by
  unfold Tallies at *
  rw [List.map_append, List.sum_append, h]
  rfl

theorem tail (h : Tallies f (a :: l) k) : Tallies f l (k - f a) := by
  unfold Tallies at *
  rw [List.map_cons, List.sum_cons] at h
  omega

theorem erase [DecidableEq α] (h : Tallies f l k) (ha : a ∈ l) :
    Tallies f (l.erase a) (k - f a) := by
  have hsum := List.sum_map_erase f ha
  unfold Tallies at *
  omega

/-- Counting is tallying with weights zero and one. -/
theorem eq_countP {p : α → Bool} (h : Tallies (fun a ↦ (p a).toNat) l k) : k = l.countP p := by
  induction l generalizing k with
  | nil => exact h.symm
  | cons a l ih =>
      have htail := ih h.tail
      unfold Tallies at h
      rw [List.map_cons, List.sum_cons] at h
      cases ha : p a with
      | false => simp_all
      | true =>
          rw [List.countP_cons_of_pos ha]
          simp only [ha, Bool.toNat_true] at h htail
          omega

end Tallies
