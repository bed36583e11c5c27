import Mathlib.Data.List.Basic

/-!
# Histories

A history is a list of events, newest first.  A temporal property is stated of
each event and the history before it, or of the latest event of some kind.
-/

namespace History

variable {E : Type*}

/-- Every event stands in the relation `P` to the history before it. -/
def Always (P : E → List E → Prop) (log : List E) : Prop :=
  ∀ e rest, e :: rest <:+ log → P e rest

@[simp] theorem always_nil (P : E → List E → Prop) : Always P [] := by
  intro e rest h
  simp at h

@[simp] theorem always_cons {P : E → List E → Prop} {e : E} {log : List E} :
    Always P (e :: log) ↔ P e log ∧ Always P log := by
  constructor
  · exact fun h ↦ ⟨h e log (List.suffix_refl _), fun f rest hf ↦ h f rest (hf.trans
      (List.suffix_cons e log))⟩
  · rintro ⟨he, hlog⟩ f rest hf
    rcases List.suffix_cons_iff.mp hf with heq | hsuffix
    · cases heq
      exact he
    · exact hlog f rest hsuffix

/-- Events that satisfy `P` after any history may be added. -/
theorem Always.append {P : E → List E → Prop} {log : List E} (h : Always P log) {l : List E}
    (hes : ∀ e ∈ l, ∀ rest, P e rest) : Always P (l ++ log) := by
  induction l with
  | nil => exact h
  | cons e l ih =>
      rw [List.cons_append, always_cons]
      exact ⟨hes e (by simp) _, ih fun f hf ↦ hes f (by simp [hf])⟩

/-- Events that satisfy `P` after any history with `Q`, and keep `Q`, may be added. -/
theorem Always.append_while {P : E → List E → Prop} {Q : List E → Prop} {log : List E}
    (h : Always P log) (hq : Q log) {l : List E}
    (hes : ∀ e ∈ l, ∀ rest, Q rest → P e rest ∧ Q (e :: rest)) :
    Always P (l ++ log) ∧ Q (l ++ log) := by
  induction l with
  | nil => exact ⟨h, hq⟩
  | cons e l ih =>
      obtain ⟨halways, hrest⟩ := ih fun f hf ↦ hes f (by simp [hf])
      obtain ⟨he, hq'⟩ := hes e (by simp) _ hrest
      rw [List.cons_append, always_cons]
      exact ⟨⟨he, halways⟩, hq'⟩

/-- The latest event that `p` selects satisfies `q`. -/
def Latest (p q : E → Bool) (log : List E) : Prop :=
  (log.find? p).any q = true

theorem not_latest_nil {p q : E → Bool} : ¬Latest p q [] := by
  simp [Latest]

theorem latest_cons_of_pos {p q : E → Bool} {e : E} {log : List E} (he : p e = true) :
    Latest p q (e :: log) ↔ q e = true := by
  simp [Latest, he]

theorem latest_cons_of_neg {p q : E → Bool} {e : E} {log : List E} (he : p e = false) :
    Latest p q (e :: log) ↔ Latest p q log := by
  simp [Latest, he]

/-- Events that `p` does not select change nothing. -/
theorem latest_append {p q : E → Bool} {l log : List E} (hes : ∀ e ∈ l, p e = false) :
    Latest p q (l ++ log) ↔ Latest p q log := by
  induction l with
  | nil => rfl
  | cons e l ih =>
      rw [List.cons_append, latest_cons_of_neg (hes e (by simp))]
      exact ih fun f hf ↦ hes f (by simp [hf])

/-- The latest event was added, or it is the latest that was there. -/
theorem latest_of_append {p q : E → Bool} {l log : List E} (h : Latest p q (l ++ log)) :
    (∃ e ∈ l, p e = true ∧ q e = true) ∨ Latest p q log := by
  induction l with
  | nil => exact .inr h
  | cons e l ih =>
      rw [List.cons_append] at h
      cases he : p e with
      | true => exact .inl ⟨e, by simp, he, (latest_cons_of_pos he).mp h⟩
      | false =>
          refine (ih ((latest_cons_of_neg he).mp h)).imp_left ?_
          rintro ⟨e', he', hpq⟩
          exact ⟨e', by simp [he'], hpq⟩

/-! ## Duties -/

/-- What an event means for a duty: it is incurred, and an attempt to fulfil it starts,
succeeds or fails. -/
inductive DutyEvent
  | incurs | starts | pays | fails
  deriving DecidableEq, Repr

inductive Duty
  | clear | owed | paying
  deriving DecidableEq, Repr

/-- Where a duty stands after an event. -/
def Duty.next : Option DutyEvent → Duty → Duty
  | some .incurs, _ => .owed
  | some .starts, .owed => .paying
  | some .pays, .paying => .clear
  | some .fails, .paying => .owed
  | _, d => d

/-- Where a duty stands at the end of a history. -/
def duty (kind : E → Option DutyEvent) : List E → Duty
  | [] => .clear
  | e :: log => Duty.next (kind e) (duty kind log)

/-- After `rest`, an attempt started and succeeded. -/
def Paid (kind : E → Option DutyEvent) (log rest : List E) : Prop :=
  ∃ later paid during started before,
    log = later ++ paid :: (during ++ started :: (before ++ rest)) ∧
      kind paid = some .pays ∧ kind started = some .starts ∧
      ∀ e ∈ during, kind e = none ∨ kind e = some .starts

/-- After `rest`, an attempt started that has not ended. -/
def Paying (kind : E → Option DutyEvent) (log rest : List E) : Prop :=
  ∃ during started before, log = during ++ started :: (before ++ rest) ∧
    kind started = some .starts ∧ ∀ e ∈ during, kind e = none ∨ kind e = some .starts

section Duty

variable {kind : E → Option DutyEvent} {e : E} {log rest l : List E}

theorem duty_cons_of_none (he : kind e = none) : duty kind (e :: log) = duty kind log := by
  rw [duty, he]
  rfl

theorem duty_append (hes : ∀ e ∈ l, kind e = none) : duty kind (l ++ log) = duty kind log := by
  induction l with
  | nil => rfl
  | cons e l ih =>
      rw [List.cons_append, duty_cons_of_none (hes e (by simp))]
      exact ih fun f hf ↦ hes f (by simp [hf])

/-- Only what incurs a duty ends its absence. -/
theorem duty_cons_of_clear (he : kind e ≠ some .incurs) (h : duty kind log = .clear) :
    duty kind (e :: log) = .clear := by
  rw [duty, h]
  cases hkind : kind e with
  | none => rfl
  | some step => cases step <;> first | rfl | exact absurd hkind he

theorem Paid.cons (h : Paid kind log rest) : Paid kind (e :: log) rest := by
  obtain ⟨later, paid, during, started, before, rfl, h⟩ := h
  exact ⟨e :: later, paid, during, started, before, rfl, h⟩

theorem Paying.cons (h : Paying kind log rest) (he : kind e = none ∨ kind e = some .starts) :
    Paying kind (e :: log) rest := by
  obtain ⟨during, started, before, rfl, hstarted, hduring⟩ := h
  refine ⟨e :: during, started, before, rfl, hstarted, fun f hf ↦ ?_⟩
  rcases List.mem_cons.mp hf with rfl | hf
  · exact he
  · exact hduring f hf

theorem Paying.pay (h : Paying kind log rest) (he : kind e = some .pays) :
    Paid kind (e :: log) rest := by
  obtain ⟨during, started, before, rfl, hstarted, hduring⟩ := h
  exact ⟨[], e, during, started, before, rfl, he, hstarted, hduring⟩

/-- What is known after a duty was incurred. -/
theorem paid_or_paying (he : kind e = some .incurs) (l rest : List E) :
    (duty kind (l ++ e :: rest) = .clear → Paid kind (l ++ e :: rest) (e :: rest)) ∧
      (duty kind (l ++ e :: rest) = .paying → Paying kind (l ++ e :: rest) (e :: rest)) := by
  induction l with
  | nil =>
      have howed : duty kind (e :: rest) = .owed := by
        rw [duty, he]
        rfl
      simp [howed]
  | cons f l ih =>
      obtain ⟨hpaid, hpaying⟩ := ih
      rw [List.cons_append, duty]
      cases hf : kind f with
      | none => exact ⟨fun h ↦ (hpaid h).cons, fun h ↦ (hpaying h).cons (.inl hf)⟩
      | some step =>
          cases hduty : duty kind (l ++ e :: rest) with
          | clear =>
              refine ⟨fun _ ↦ (hpaid hduty).cons, fun h ↦ ?_⟩
              cases step <;> cases h
          | owed =>
              refine ⟨fun h ↦ ?_, fun h ↦ ?_⟩ <;> cases step <;> cases h
              exact ⟨[], f, l, rfl, hf, List.forall_mem_nil _⟩
          | paying =>
              refine ⟨fun h ↦ ?_, fun h ↦ ?_⟩ <;> cases step <;> cases h
              · exact (hpaying hduty).pay hf
              · exact (hpaying hduty).cons (.inr hf)

/-- A duty is clear only when an attempt started after it was incurred and succeeded. -/
theorem paid_of_clear (h : duty kind log = .clear) (he : kind e = some .incurs)
    (hlog : e :: rest <:+ log) : Paid kind log (e :: rest) := by
  obtain ⟨l, rfl⟩ := hlog
  exact (paid_or_paying he l rest).1 h

end Duty

end History
