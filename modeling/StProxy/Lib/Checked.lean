import Mathlib.Data.List.Basic

/-!
# Validators

Code that checks its input and stops at the first check that fails, and what is
known of an input that passed.
-/

namespace Checked

variable {ε ε' α β γ : Type}

/-- `if not condition: raise error`. -/
def check (condition : Prop) [Decidable condition] (error : ε) : Except ε Unit :=
  if condition then .ok () else .error error

@[simp] theorem check_eq_ok {condition : Prop} [Decidable condition] {error : ε} {u : Unit} :
    check condition error = .ok u ↔ condition := by
  unfold check
  split <;> simp_all

theorem bind_eq_ok {x : Except ε α} {f : α → Except ε β} {b : β} :
    (x >>= f) = .ok b ↔ ∃ a, x = .ok a ∧ f a = .ok b := by
  cases x with
  | ok a => simp [bind, Except.bind]
  | error e => simp [bind, Except.bind]

theorem map_eq_ok {x : Except ε α} {f : α → β} {b : β} :
    x.map f = .ok b ↔ ∃ a, x = .ok a ∧ f a = b := by
  cases x with
  | ok a => simp [Except.map]
  | error e => simp [Except.map]

theorem mapError_eq_ok {x : Except ε α} {f : ε → ε'} {a : α} :
    x.mapError f = .ok a ↔ x = .ok a := by
  cases x <;> simp [Except.mapError]

/-- An input that passed two validators in a row passed both. -/
theorem of_bind_unit {x : Except ε Unit} {y : Except ε β} {b : β}
    (h : (x >>= fun _ ↦ y) = .ok b) : x = .ok () ∧ y = .ok b := by
  obtain ⟨_, hx, hy⟩ := bind_eq_ok.mp h
  exact ⟨hx, hy⟩

theorem pure_eq_ok {a b : α} : (pure a : Except ε α) = .ok b ↔ a = b := by
  simp [pure, Except.pure]

/-- Every element of a list passed the validator that the loop applies. -/
theorem forM_eq_ok {l : List α} {f : α → Except ε Unit} (h : l.forM f = .ok ()) :
    ∀ a ∈ l, f a = .ok () := by
  induction l with
  | nil => exact fun _ ha ↦ absurd ha List.not_mem_nil
  | cons a l ih =>
      obtain ⟨_, hfirst, hrest⟩ := bind_eq_ok.mp h
      intro b hb
      rcases List.mem_cons.mp hb with rfl | hb
      · exact hfirst
      · exact ih hrest b hb

/-- The results of a loop, one for each element. -/
theorem mapM_eq_ok {l : List α} {f : α → Except ε β} {l' : List β} (h : l.mapM f = .ok l') :
    List.Forall₂ (fun a b ↦ f a = .ok b) l l' := by
  induction l generalizing l' with
  | nil =>
      obtain rfl := pure_eq_ok.mp h
      exact .nil
  | cons a l ih =>
      rw [List.mapM_cons] at h
      obtain ⟨b, hb, htail⟩ := bind_eq_ok.mp h
      obtain ⟨rest, hrest, hl'⟩ := bind_eq_ok.mp htail
      obtain rfl := pure_eq_ok.mp hl'
      exact .cons hb (ih hrest)

/-- A loop that returns changes a part of its state as its steps do. -/
theorem foldlM_hom {f : β → α → Except ε β} {g : β → γ} {step : γ → α → γ}
    (hf : ∀ b a b', f b a = .ok b' → g b' = step (g b) a) {l : List α} {b b' : β}
    (h : l.foldlM f b = .ok b') : g b' = l.foldl step (g b) := by
  induction l generalizing b with
  | nil =>
      obtain rfl := pure_eq_ok.mp h
      rfl
  | cons a l ih =>
      rw [List.foldlM_cons] at h
      obtain ⟨next, hnext, hrest⟩ := bind_eq_ok.mp h
      rw [ih hrest, hf b a next hnext, List.foldl_cons]

/-- A loop returns if all its steps do. -/
theorem exists_foldlM_eq_ok {f : β → α → Except ε β} {l : List α}
    (hf : ∀ a ∈ l, ∀ b, ∃ b', f b a = .ok b') (b : β) : ∃ b', l.foldlM f b = .ok b' := by
  induction l generalizing b with
  | nil => exact ⟨b, rfl⟩
  | cons a l ih =>
      obtain ⟨hfirst, hrest⟩ := List.forall_mem_cons.mp hf
      obtain ⟨next, hnext⟩ := hfirst b
      obtain ⟨b', hb'⟩ := ih hrest next
      refine ⟨b', ?_⟩
      rw [List.foldlM_cons]
      exact bind_eq_ok.mpr ⟨next, hnext, hb'⟩

end Checked
