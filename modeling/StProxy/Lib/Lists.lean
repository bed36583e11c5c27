import Mathlib.Data.List.Basic
import Mathlib.Data.List.Forall2

/-!
# Lists

The first element with a property, lookups in association lists, and lists that are
related element by element.
-/

namespace Lists

variable {α β : Type} {l l' l'' : List α}

/-- The first element with a property, and what precedes it. -/
theorem exists_first {p : α → Prop} (h : ∃ a ∈ l, p a) :
    ∃ before a rest, l = before ++ a :: rest ∧ p a ∧ ∀ b ∈ before, ¬p b := by
  induction l with
  | nil =>
      obtain ⟨a, ha, -⟩ := h
      cases ha
  | cons a l ih =>
      by_cases ha : p a
      · exact ⟨[], a, l, rfl, ha, List.forall_mem_nil _⟩
      · have hrest : ∃ a ∈ l, p a := by simpa [ha] using h
        obtain ⟨before, b, rest, rfl, hb, hbefore⟩ := ih hrest
        exact ⟨a :: before, b, rest, rfl, hb, List.forall_mem_cons.mpr ⟨ha, hbefore⟩⟩

theorem lookup_of_notMem [BEq α] [LawfulBEq α] {key : α} {fields : List (α × β)}
    (h : key ∉ fields.map Prod.fst) : fields.lookup key = none := by
  rw [List.lookup_eq_none_iff]
  rintro field hfield
  simpa using fun e : key = field.1 ↦ h (e ▸ List.mem_map_of_mem hfield)

theorem forall₂_trans {R : α → α → Prop} (htrans : ∀ a b c, R a b → R b c → R a c)
    (h : List.Forall₂ R l l') (h' : List.Forall₂ R l' l'') : List.Forall₂ R l l'' := by
  induction h generalizing l'' with
  | nil => exact h'
  | cons hab _ ih =>
      cases h' with
      | cons hbc hrest => exact .cons (htrans _ _ _ hab hbc) (ih hrest)

end Lists
