import StProxy.Profiles.ModelProfiles
import StProxy.Tabby.Adapt

/-!
# The mode of a request and its translation agree

`_mode` requires that all thinking controls of a request ask for one mode, the
translation for TabbyAPI takes the first of them in an order of precedence.
Both look at the same six places.
-/

namespace StProxy.Profiles

open Json Tabby

variable (text : Text)

/-- The fields of a value that should be an object. -/
def fieldsOf : Json → Fields
  | .obj fields => fields
  | _ => []

/-- `template_vars` if it is present, else `chat_template_kwargs`. -/
def chosenTemplate (payload : Fields) : Fields :=
  fieldsOf ((payload.lookup "template_vars").getD (Json.get payload "chat_template_kwargs"))

/-- The value of `enable_thinking` that is in force. -/
def effective (payload : Fields) : Json :=
  match (chosenTemplate payload).lookup "enable_thinking", Json.get payload "enable_thinking" with
  | some value, _ => value
  | none, .null => Json.get (fieldsOf (Json.get payload "reasoning")) "enabled"
  | none, value => value

/-- What a mode promises of the translated request. -/
def Agrees (payload : Fields) : Option Mode → Prop
  | none => True
  | some .nonThinking =>
      effective (adaptChatRequest text payload) = .bool false ∧
        ∀ objects, nested payload = some objects → effortBudget text payload objects = none
  | some .thinking =>
      (adaptChatRequest text payload).lookup "enable_thinking" = payload.lookup "enable_thinking" ∧
        effective (adaptChatRequest text payload) ≠ .bool false

section Readings

/-- What one object contributes to the readings. -/
def fieldReadings (key : String) (fields : Fields) : List Control :=
  ((fields.lookup (effortKey key)).map Control.effort).toList ++
    ((fields.lookup (enabledKey key)).map Control.enabled).toList

/-- The six places where a thinking control is read. -/
def readings (payload : Fields) (objects : Nested) : List Control :=
  ((payload.lookup "reasoning_effort").map Control.effort).toList ++
    ((payload.lookup "enable_thinking").map Control.enabled).toList ++
    fieldReadings "reasoning" objects.reasoning ++
    fieldReadings "chat_template_kwargs" objects.template

/-- Every reading is among the controls, and there are no controls without one. -/
structure Covers (read found : List Control) : Prop where
  mem : ∀ c ∈ read, c ∈ found
  nonempty : read = [] → found = []

lemma Covers.refl (l : List Control) : Covers l l := ⟨fun _ h ↦ h, id⟩

lemma Covers.append {l₁ l₂ m₁ m₂ : List Control} (h₁ : Covers l₁ m₁) (h₂ : Covers l₂ m₂) :
    Covers (l₁ ++ l₂) (m₁ ++ m₂) where
  mem c hc := by
    rcases List.mem_append.mp hc with hc | hc
    · exact List.mem_append_left _ (h₁.mem c hc)
    · exact List.mem_append_right _ (h₂.mem c hc)
  nonempty h := by
    obtain ⟨hl, hm⟩ := List.append_eq_nil_iff.mp h
    rw [h₁.nonempty hl, h₂.nonempty hm, List.nil_append]

lemma mem_fieldReadings {key : String} {fields : Fields} {c : Control} :
    c ∈ fieldReadings key fields ↔
      (∃ v, fields.lookup (effortKey key) = some v ∧ c = .effort v) ∨
        ∃ v, fields.lookup (enabledKey key) = some v ∧ c = .enabled v := by
  simp only [fieldReadings, List.mem_append, Option.mem_toList,
    Option.map_eq_some_iff, eq_comm (b := c)]

lemma fieldReadings_eq_nil {key : String} {fields : Fields} :
    fieldReadings key fields = [] ↔
      fields.lookup (effortKey key) = none ∧ fields.lookup (enabledKey key) = none := by
  simp [fieldReadings]

lemma effortKey_ne_enabledKey (key : String) : effortKey key ≠ enabledKey key := by
  unfold effortKey enabledKey
  split <;> decide

lemma itemControls_tabby (key name : String) (v : Json) (fields : Fields) :
    itemControls "tabbyapi" key ((name, v) :: fields) =
      if name = effortKey key then
        (itemControls "tabbyapi" key fields).map (.effort v :: ·)
      else if name = enabledKey key then
        (itemControls "tabbyapi" key fields).map (.enabled v :: ·)
      else itemControls "tabbyapi" key fields := by
  have hprism : ¬"tabbyapi" = "prism" := by decide
  have hstrata : strataEngines.contains "tabbyapi" = false := by decide
  simp only [itemControls, hprism, and_false, false_and, if_false, ne_eq, not_true_eq_false,
    hstrata]

/-- The items of one object, by induction on the object. -/
lemma itemControls_covers {key : String} {fields : Fields} {found : List Control}
    (h : itemControls "tabbyapi" key fields = some found) :
    Covers (fieldReadings key fields) found := by
  induction fields generalizing found with
  | nil =>
      obtain rfl := Option.some.inj h
      exact .refl []
  | cons field fields ih =>
      obtain ⟨name, v⟩ := field
      rw [itemControls_tabby] at h
      by_cases heffort : name = effortKey key
      · rw [if_pos heffort] at h
        obtain ⟨rest, hrest, rfl⟩ := Option.map_eq_some_iff.mp h
        refine ⟨fun c hc ↦ ?_, fun hnil ↦ ?_⟩
        · rcases mem_fieldReadings.mp hc with ⟨w, hw, rfl⟩ | ⟨w, hw, rfl⟩
          · rw [lookup_cons, if_pos heffort] at hw
            obtain rfl := Option.some.inj hw
            exact List.mem_cons_self
          · rw [lookup_cons, if_neg (heffort ▸ effortKey_ne_enabledKey key)] at hw
            exact List.mem_cons_of_mem _
              ((ih hrest).mem _ (mem_fieldReadings.mpr (.inr ⟨w, hw, rfl⟩)))
        · rw [fieldReadings_eq_nil, lookup_cons, if_pos heffort] at hnil
          cases hnil.1
      rw [if_neg heffort] at h
      by_cases henabled : name = enabledKey key
      · rw [if_pos henabled] at h
        obtain ⟨rest, hrest, rfl⟩ := Option.map_eq_some_iff.mp h
        refine ⟨fun c hc ↦ ?_, fun hnil ↦ ?_⟩
        · rcases mem_fieldReadings.mp hc with ⟨w, hw, rfl⟩ | ⟨w, hw, rfl⟩
          · rw [lookup_cons, if_neg heffort] at hw
            exact List.mem_cons_of_mem _
              ((ih hrest).mem _ (mem_fieldReadings.mpr (.inl ⟨w, hw, rfl⟩)))
          · rw [lookup_cons, if_pos henabled] at hw
            obtain rfl := Option.some.inj hw
            exact List.mem_cons_self
        · rw [fieldReadings_eq_nil, lookup_cons, lookup_cons, if_pos henabled] at hnil
          cases hnil.2
      · rw [if_neg henabled] at h
        have hsame : fieldReadings key ((name, v) :: fields) = fieldReadings key fields := by
          simp only [fieldReadings, lookup_cons, if_neg heffort, if_neg henabled]
        rw [hsame]
        exact ih h

/-- The controls under a key of which only objects are read. -/
lemma objectControls_covers {payload : Fields} {key : String} {found : List Control}
    (hkey : key = "reasoning" ∨ key = "template_vars" ∨
      key = "chat_template_kwargs" ∧ Json.has payload "template_vars" = false)
    (h : objectControls payload "tabbyapi" key = some found) :
    (payload.lookup key = none ∧ found = []) ∨
      ∃ fields, payload.lookup key = some (.obj fields) ∧
        Covers (fieldReadings key fields) found := by
  have hread : ¬("tabbyapi" = "tabbyapi" ∧ key = "chat_template_kwargs" ∧
      Json.has payload "template_vars" = true) := by
    rintro ⟨-, rfl, hhas⟩
    rcases hkey with hkey | hkey | ⟨-, hnot⟩
    · exact absurd hkey (by decide)
    · exact absurd hkey (by decide)
    · rw [hhas] at hnot
      cases hnot
  have hthinking : ¬(key = "thinking" ∨ key = "template_vars" ∧ "tabbyapi" ≠ "tabbyapi") := by
    rintro (rfl | ⟨-, hne⟩)
    · rcases hkey with hkey | hkey | ⟨hkey, -⟩
      all_goals exact absurd hkey (by decide)
    · exact hne rfl
  unfold objectControls at h
  cases hlookup : payload.lookup key with
  | none =>
      rw [hlookup] at h
      exact .inl ⟨rfl, (Option.some.inj h).symm⟩
  | some value =>
      rw [hlookup] at h
      dsimp only at h
      rw [if_neg hread] at h
      cases value with
      | obj fields =>
          dsimp only at h
          rw [if_neg hthinking] at h
          exact .inr ⟨fields, rfl, itemControls_covers h⟩
      | _ => cases h

/-- A request whose controls were all collected: its two objects are objects, and
the translation finds in them what the mode was read from. -/
structure Understood (payload : Fields) (objects : Nested) (found : List Control) : Prop where
  nested : nested payload = some objects
  reasoning : fieldsOf (Json.get payload "reasoning") = objects.reasoning
  template : chosenTemplate payload = objects.template
  covers : Covers (readings payload objects) found

lemma topReadings_covers {payload : Fields} {enabled : List Control}
    (h : enabledControls payload "tabbyapi" = some enabled) :
    Covers (((payload.lookup "reasoning_effort").map Control.effort).toList ++
        ((payload.lookup "enable_thinking").map Control.enabled).toList)
      (effortControls payload ++ enabled) := by
  have heffort : effortControls payload =
      ((payload.lookup "reasoning_effort").map Control.effort).toList := by
    unfold effortControls
    cases payload.lookup "reasoning_effort" <;> rfl
  have henabled : enabled = ((payload.lookup "enable_thinking").map Control.enabled).toList := by
    unfold enabledControls at h
    cases hlookup : payload.lookup "enable_thinking" <;> rw [hlookup] at h <;>
      exact (Option.some.inj h).symm
  rw [heffort, ← henabled]
  exact .refl _

lemma thinkingControls {payload : Fields} {found : List Control}
    (h : objectControls payload "tabbyapi" "thinking" = some found) : found = [] := by
  unfold objectControls at h
  cases hlookup : payload.lookup "thinking" with
  | none =>
      rw [hlookup] at h
      exact (Option.some.inj h).symm
  | some value =>
      rw [hlookup] at h
      cases value <;> cases h

/-- The template that the translation chooses is the only one that is read. -/
lemma templateControls {payload : Fields} {kwargs vars : List Control}
    (hkwargs : objectControls payload "tabbyapi" "chat_template_kwargs" = some kwargs)
    (hvars : objectControls payload "tabbyapi" "template_vars" = some vars) :
    ∃ template, Covers (fieldReadings "chat_template_kwargs" template) (kwargs ++ vars) ∧
      chosenTemplate payload = template ∧
      ((firstPresent payload ["template_vars", "chat_template_kwargs"] = .null ∧ template = []) ∨
        firstPresent payload ["template_vars", "chat_template_kwargs"] = .obj template) := by
  rcases objectControls_covers (.inr (.inl rfl)) hvars with ⟨hnone, rfl⟩ | ⟨fields, hsome, hcov⟩
  · have hhas : Json.has payload "template_vars" = false := has_eq_false.mpr hnone
    rw [List.append_nil]
    rcases objectControls_covers (.inr (.inr ⟨rfl, hhas⟩)) hkwargs with
      ⟨hkw, rfl⟩ | ⟨fields, hsome, hcov⟩
    · exact ⟨[], .refl [], by simp [chosenTemplate, hnone, Json.get, hkw, fieldsOf],
        .inl ⟨by simp [firstPresent, hnone, hkw], rfl⟩⟩
    · exact ⟨fields, hcov, by simp [chosenTemplate, hnone, Json.get, hsome, fieldsOf],
        .inr (by simp [firstPresent, hnone, hsome])⟩
  · have hhas : Json.has payload "template_vars" = true := by simp [Json.has, hsome]
    have hempty : kwargs = [] := by
      unfold objectControls at hkwargs
      cases hlookup : payload.lookup "chat_template_kwargs" with
      | none =>
          rw [hlookup] at hkwargs
          exact (Option.some.inj hkwargs).symm
      | some value =>
          rw [hlookup] at hkwargs
          dsimp only at hkwargs
          rw [if_pos ⟨rfl, rfl, hhas⟩] at hkwargs
          exact (Option.some.inj hkwargs).symm
    subst hempty
    exact ⟨fields, hcov, by simp [chosenTemplate, hsome, fieldsOf],
      .inr (by simp [firstPresent, hsome])⟩

lemma understood {payload : Fields} {found : List Control}
    (h : controls payload "tabbyapi" = some found) :
    ∃ objects, Understood payload objects found := by
  simp only [controls, Option.bind_eq_bind, Option.bind_eq_some_iff] at h
  obtain ⟨enabled, henabled, reasoning, hreasoning, kwargs, hkwargs, vars, hvars, thinking,
    hthinking, hfound⟩ := h
  obtain rfl := thinkingControls hthinking
  obtain rfl := Option.some.inj hfound
  obtain ⟨template, htemplate, hchosen, hfirst⟩ := templateControls hkwargs hvars
  have hcovers {fields : Fields} (hcov : Covers (fieldReadings "reasoning" fields) reasoning) :
      Covers (readings payload ⟨fields, template⟩)
        (effortControls payload ++ enabled ++ reasoning ++ kwargs ++ vars ++ []) := by
    have := ((topReadings_covers henabled).append hcov).append htemplate
    simpa only [readings, List.append_nil, List.append_assoc] using this
  rcases objectControls_covers (.inl rfl) hreasoning with ⟨hnone, rfl⟩ | ⟨fields, hsome, hcov⟩
  · refine ⟨⟨[], template⟩, ?_, by simp [Json.get, hnone, fieldsOf], hchosen, hcovers (.refl [])⟩
    rcases hfirst with ⟨hfirst, rfl⟩ | hfirst <;> simp [nested, Json.get, hnone, hfirst]
  · refine ⟨⟨fields, template⟩, ?_, by simp [Json.get, hsome, fieldsOf], hchosen, hcovers hcov⟩
    rcases hfirst with ⟨hfirst, rfl⟩ | hfirst <;> simp [nested, Json.get, hsome, hfirst]

end Readings

section Precedence

/-- The value that wins has the property that all present values have. -/
lemma precedence_cases (P : Json → Prop) (hnull : ¬P .null) (inner top template : Option Json)
    (hinner : ∀ v, inner = some v → P v) (htop : ∀ v, top = some v → P v)
    (htemplate : ∀ v, template = some v → P v) :
    (inner = none ∧ top = none ∧ template = none ∧
        precedence (inner.getD .null) (top.getD .null) template = .null) ∨
      P (precedence (inner.getD .null) (top.getD .null) template) := by
  cases template with
  | some v => exact .inr (htemplate v rfl)
  | none =>
      cases top with
      | some v =>
          have hv := htop v rfl
          cases v with
          | null => exact absurd hv hnull
          | _ => exact .inr hv
      | none =>
          cases inner with
          | some v => exact .inr (hinner v rfl)
          | none => exact .inl ⟨rfl, rfl, rfl, rfl⟩

lemma effective_eq {payload : Fields} {objects : Nested} {found : List Control}
    (h : Understood payload objects found) : effective payload = enabled payload objects := by
  unfold effective enabled precedence
  rw [h.template, h.reasoning]
  cases objects.template.lookup "enable_thinking" with
  | some v => rfl
  | none => cases Json.get payload "enable_thinking" <;> rfl

end Precedence

section Modes

/-- The levels of effort of a mode. -/
def levels : Mode → List String
  | .thinking => ["low", "medium", "high", "xhigh"]
  | .nonThinking => ["none", "off"]

lemma unanimous_eq {m : Mode} {modes : List Mode} (h : unanimous modes = some m) :
    modes ≠ [] ∧ ∀ m' ∈ modes, m' = m := by
  cases modes with
  | nil => cases h
  | cons m' rest =>
      simp only [unanimous] at h
      split at h
      · rename_i hall
        obtain rfl := Option.some.inj h
        refine ⟨List.cons_ne_nil _ _, ?_⟩
        simpa using hall
      · cases h

lemma mode_of_mapM {engine : String} {found : List Control} {modes : List Mode}
    (h : found.mapM (Control.mode text engine) = some modes) :
    (found = [] → modes = []) ∧ ∀ c ∈ found, ∃ m ∈ modes, c.mode text engine = some m := by
  induction found generalizing modes with
  | nil =>
      obtain rfl := Option.some.inj h
      exact ⟨fun _ ↦ rfl, fun c hc ↦ absurd hc List.not_mem_nil⟩
  | cons c found ih =>
      simp only [List.mapM_cons, Option.bind_eq_bind, Option.bind_eq_some_iff] at h
      obtain ⟨m, hm, rest, hrest, hmodes⟩ := h
      obtain rfl := Option.some.inj hmodes
      refine ⟨fun hnil ↦ absurd hnil (List.cons_ne_nil _ _), fun c' hc' ↦ ?_⟩
      rcases List.mem_cons.mp hc' with rfl | hc'
      · exact ⟨m, List.mem_cons_self, hm⟩
      · obtain ⟨m', hm', hmode⟩ := (ih hrest).2 c' hc'
        exact ⟨m', List.mem_cons_of_mem _ hm', hmode⟩

/-- All readings ask for the mode, and there is one. -/
lemma mode_readings {payload : Fields} {m : Mode} (h : mode text payload "tabbyapi" = some m) :
    ∃ objects found, Understood payload objects found ∧ readings payload objects ≠ [] ∧
      ∀ c ∈ readings payload objects, c.mode text "tabbyapi" = some m := by
  simp only [mode, Option.bind_eq_bind, Option.bind_eq_some_iff] at h
  obtain ⟨found, hfound, modes, hmodes, hunanimous⟩ := h
  obtain ⟨hne, hall⟩ := unanimous_eq hunanimous
  obtain ⟨hempty, hmode⟩ := mode_of_mapM text hmodes
  obtain ⟨objects, hu⟩ := understood hfound
  refine ⟨objects, found, hu, fun hnil ↦ hne (hempty (hu.covers.nonempty hnil)), fun c hc ↦ ?_⟩
  obtain ⟨m', hm', hc'⟩ := hmode c (hu.covers.mem c hc)
  rw [hc', hall m' hm']

lemma effort_mode {v : Json} {m : Mode} (h : Control.mode text "tabbyapi" (.effort v) = some m) :
    ∃ s, v = .str s ∧ text.lower (text.strip s) ∈ levels m := by
  cases v with
  | str s =>
      have hprism : ¬"tabbyapi" = "prism" := by decide
      simp only [Control.mode, if_neg hprism, List.contains_iff_mem] at h
      refine ⟨s, rfl, ?_⟩
      split at h
      · rename_i hlevel
        obtain rfl := Option.some.inj h
        exact hlevel
      · split at h
        · rename_i hlevel
          obtain rfl := Option.some.inj h
          exact hlevel
        · cases h
  | _ => cases h

lemma enabled_mode {v : Json} {m : Mode} (h : Control.mode text "tabbyapi" (.enabled v) = some m) :
    v = .bool (m = .thinking) := by
  cases v with
  | bool b => cases b <;> cases m <;> first | rfl | cases h
  | _ => cases h

end Modes

section Translation

variable {payload : Fields} {objects : Nested} {m : Mode}

/-- The level of effort that wins is one of the mode. -/
lemma effort_cases (h : ∀ c ∈ readings payload objects, c.mode text "tabbyapi" = some m) :
    (effort text payload objects = none ∧
        objects.reasoning.lookup "effort" = none ∧ payload.lookup "reasoning_effort" = none ∧
        objects.template.lookup "reasoning_effort" = none) ∨
      ∃ level ∈ levels m, effort text payload objects = some level := by
  let P (v : Json) : Prop := ∃ s, v = .str s ∧ text.lower (text.strip s) ∈ levels m
  have hnull : ¬P .null := by
    rintro ⟨s, hs, -⟩
    cases hs
  have hread {v : Json} (hv : .effort v ∈ readings payload objects) :=
    effort_mode text (h (.effort v) hv)
  have hcases := precedence_cases P hnull (objects.reasoning.lookup "effort")
    (payload.lookup "reasoning_effort") (objects.template.lookup "reasoning_effort")
    (fun v hv ↦ hread (by simp [readings, fieldReadings, effortKey, hv]))
    (fun v hv ↦ hread (by simp [readings, fieldReadings, effortKey, hv]))
    (fun v hv ↦ hread (by simp [readings, fieldReadings, effortKey, hv]))
  rcases hcases with ⟨hr, hp, ht, hnull⟩ | ⟨s, hs, hlevel⟩
  · refine .inl ⟨?_, hr, hp, ht⟩
    simp only [effort, Json.get, hnull]
  · refine .inr ⟨_, hlevel, ?_⟩
    simp only [effort, Json.get, hs]

/-- The toggle that wins is that of the mode. -/
lemma enabled_cases (h : ∀ c ∈ readings payload objects, c.mode text "tabbyapi" = some m) :
    (enabled payload objects = .null ∧
        objects.reasoning.lookup "enabled" = none ∧ payload.lookup "enable_thinking" = none ∧
        objects.template.lookup "enable_thinking" = none) ∨
      enabled payload objects = .bool (m = .thinking) := by
  have hread {v : Json} (hv : .enabled v ∈ readings payload objects) :=
    enabled_mode text (h (.enabled v) hv)
  have hcases := precedence_cases (· = Json.bool (m = .thinking)) nofun
    (objects.reasoning.lookup "enabled") (payload.lookup "enable_thinking")
    (objects.template.lookup "enable_thinking")
    (fun v hv ↦ hread (by simp [readings, fieldReadings, enabledKey, hv]))
    (fun v hv ↦ hread (by simp [readings, fieldReadings, enabledKey, hv]))
    (fun v hv ↦ hread (by simp [readings, fieldReadings, enabledKey, hv]))
  rcases hcases with ⟨hr, hp, ht, hnull⟩ | henabled
  · exact .inl ⟨hnull, hr, hp, ht⟩
  · exact .inr henabled

/-- Only the two budget keys are touched after the switch. -/
lemma lookup_withBudget {asked : Fields} {key : String} (hbudget : "reasoning_budget_tokens" ≠ key)
    (hthinking : "thinking_budget_tokens" ≠ key) :
    (withBudget text objects asked payload).lookup key = payload.lookup key := by
  unfold withBudget
  split
  · rw [lookup_set_of_ne _ _ hbudget, lookup_erase_of_ne _ hthinking]
  · split
    · rw [lookup_set_of_ne _ _ hbudget]
    · rfl

lemma effective_congr {payload other : Fields}
    (h : ∀ key ∈ ["reasoning", "enable_thinking", "template_vars", "chat_template_kwargs"],
      other.lookup key = payload.lookup key) : effective other = effective payload := by
  simp only [List.forall_mem_cons] at h
  obtain ⟨hreasoning, henable, hvars, hkwargs, -⟩ := h
  simp only [effective, chosenTemplate, Json.get, hreasoning, henable, hvars, hkwargs]

/-- Without the switch, the translation keeps what is in force. -/
lemma effective_withBudget {asked : Fields} :
    effective (withBudget text objects asked payload) = effective payload := by
  refine effective_congr fun key hkey ↦ lookup_withBudget text ?_ ?_
  all_goals
    rintro rfl
    exact absurd hkey (by decide)

/-- The switch is in force where the template has none. -/
lemma effective_switched (htemplate : (chosenTemplate payload).lookup "enable_thinking" = none) :
    effective (Json.set "enable_thinking" (.bool false) payload) = .bool false := by
  have hvars : (Json.set "enable_thinking" (.bool false) payload).lookup "template_vars" =
      payload.lookup "template_vars" := lookup_set_of_ne _ _ (by decide)
  have hkwargs : (Json.set "enable_thinking" (.bool false) payload).lookup "chat_template_kwargs" =
      payload.lookup "chat_template_kwargs" := lookup_set_of_ne _ _ (by decide)
  have hchosen : chosenTemplate (Json.set "enable_thinking" (.bool false) payload) =
      chosenTemplate payload := by
    simp only [chosenTemplate, Json.get, hvars, hkwargs]
  have htop : Json.get (Json.set "enable_thinking" (.bool false) payload) "enable_thinking" =
      .bool false := by
    simp only [Json.get, lookup_set, if_pos, Option.getD_some]
  unfold effective
  rw [hchosen, htemplate, htop]

lemma effortBudget_nonThinking
    (h : ∀ c ∈ readings payload objects, c.mode text "tabbyapi" = some .nonThinking) :
    effortBudget text payload objects = none := by
  have hlevel : ((effort text payload objects).bind fun level ↦ effortDivisors.lookup level) =
      none := by
    rcases effort_cases text h with ⟨heffort, -⟩ | ⟨level, hlevel, heffort⟩
    · rw [heffort, Option.bind_none]
    · rw [heffort, Option.bind_some]
      simp only [levels, List.mem_cons, List.not_mem_nil, or_false] at hlevel
      rcases hlevel with rfl | rfl <;> decide
  unfold effortBudget
  rw [hlevel]
  simp only [ite_self]

/-- Levels of thinking do not switch it off. -/
lemma disables_thinking
    (h : ∀ c ∈ readings payload objects, c.mode text "tabbyapi" = some .thinking) :
    disables text payload objects = false := by
  have hlevel : (effort text payload objects == some "none" ||
      effort text payload objects == some "off") = false := by
    rcases effort_cases text h with ⟨heffort, -⟩ | ⟨level, hlevel, heffort⟩
    · rw [heffort]
      rfl
    · rw [heffort]
      simp only [levels, List.mem_cons, List.not_mem_nil, or_false] at hlevel
      rcases hlevel with rfl | rfl | rfl | rfl <;> decide
  rw [disables, hlevel, Bool.false_and, Bool.false_and]

/-- A request that asks for no thinking without a toggle does it by a level of
effort. -/
lemma disables_nonThinking (hne : readings payload objects ≠ [])
    (h : ∀ c ∈ readings payload objects, c.mode text "tabbyapi" = some .nonThinking)
    (henabled : enabled payload objects = .null)
    (hreasoning : objects.reasoning.lookup "enabled" = none)
    (htop : payload.lookup "enable_thinking" = none)
    (htemplate : objects.template.lookup "enable_thinking" = none) :
    disables text payload objects = true := by
  rcases effort_cases text h with ⟨-, hr, hp, ht⟩ | ⟨level, hlevel, heffort⟩
  · refine absurd ?_ hne
    simp [readings, fieldReadings, effortKey, enabledKey, hr, hp, ht, hreasoning, htop, htemplate]
  · have hhas : Json.has objects.template "enable_thinking" = false := has_eq_false.mpr htemplate
    simp only [levels, List.mem_cons, List.not_mem_nil, or_false] at hlevel
    rcases hlevel with rfl | rfl <;> simp [disables, heffort, henabled, hhas]

lemma agrees (payload : Fields) : Agrees text payload (mode text payload "tabbyapi") := by
  cases hmode : mode text payload "tabbyapi" with
  | none => trivial
  | some m =>
      obtain ⟨objects, found, hu, hne, hall⟩ := mode_readings text hmode
      have hadapt : adaptChatRequest text payload =
          withBudget text objects payload (withSwitch text payload objects) := by
        simp only [adaptChatRequest, hu.nested]
      cases m with
      | nonThinking =>
          refine ⟨?_, fun objects' hobjects ↦ ?_⟩
          · rw [hadapt, effective_withBudget]
            rcases enabled_cases text hall with ⟨hnull, hr, hp, ht⟩ | henabled
            · have hswitch := disables_nonThinking text hne hall hnull hr hp ht
              rw [withSwitch, if_pos hswitch]
              exact effective_switched (hu.template ▸ ht)
            · have hswitch : disables text payload objects = false := by
                simp [disables, henabled]
              rw [withSwitch, hswitch, if_neg Bool.false_ne_true, effective_eq hu, henabled]
              rfl
          · obtain rfl := Option.some.inj (hu.nested.symm.trans hobjects)
            exact effortBudget_nonThinking text hall
      | thinking =>
          have hswitch : withSwitch text payload objects = payload := by
            rw [withSwitch, disables_thinking text hall, if_neg Bool.false_ne_true]
          refine ⟨?_, ?_⟩
          · rw [hadapt, hswitch]
            exact lookup_withBudget text (by decide) (by decide)
          · rw [hadapt, effective_withBudget, hswitch, effective_eq hu]
            rcases enabled_cases text hall with ⟨hnull, -⟩ | henabled
            · rw [hnull]
              nofun
            · rw [henabled]
              simp

end Translation

section Defaults

/-- The keys that `_mode` looks at. -/
def controlKeys : List String :=
  ["reasoning_effort", "enable_thinking", "reasoning", "chat_template_kwargs", "template_vars",
    "thinking"]

lemma mode_congr {payload other : Fields} (engine : String)
    (h : ∀ key ∈ controlKeys, other.lookup key = payload.lookup key) :
    mode text other engine = mode text payload engine := by
  have hobject (key : String) (hkey : key ∈ controlKeys) :
      objectControls other engine key = objectControls payload engine key := by
    unfold objectControls Json.has
    rw [h key hkey, h "template_vars" (by decide)]
  have heffort : effortControls other = effortControls payload := by
    unfold effortControls
    rw [h "reasoning_effort" (by decide)]
  have henabled : enabledControls other engine = enabledControls payload engine := by
    unfold enabledControls
    rw [h "enable_thinking" (by decide)]
  have hcontrols : controls other engine = controls payload engine := by
    unfold controls
    rw [heffort, henabled, hobject "reasoning" (by decide),
      hobject "chat_template_kwargs" (by decide),
      hobject "template_vars" (by decide), hobject "thinking" (by decide)]
  unfold mode
  rw [hcontrols]

lemma mem_update {base others : Fields} {field : String × Json}
    (h : field ∈ Json.update others base) :
    field.1 ∈ others.map Prod.fst ∨ field ∈ base := by
  induction others generalizing base with
  | nil => exact .inr h
  | cons other others ih =>
      rcases ih h with h | h
      · exact .inl (List.mem_cons_of_mem _ h)
      · rcases mem_set h with rfl | h
        · exact .inl List.mem_cons_self
        · exact .inr h

/-- A validated profile adds parameters only. -/
lemma Profile.mem_parameters (profile : Profile) {group : String} (hgroup : group ∈ groups)
    {field : String × Json} (h : field ∈ profile.parameters group) :
    field.1 ∈ profileParameters := by
  have hsupported := profile.supported group hgroup
  unfold Profile.parameters at h
  revert h hsupported
  cases (profile.fields.lookup group).getD (.obj []) with
  | obj fields => exact fun h hsupported ↦ hsupported field h
  | _ => exact fun h ↦ absurd h List.not_mem_nil

lemma mem_defaultsFor {profile : Profile} {m : Option Mode} {field : String × Json}
    (h : field ∈ ModelProfiles.defaultsFor profile m) : field.1 ∈ profileParameters := by
  rcases mem_update h with hkey | hdefault
  · obtain ⟨field', hfield', heq⟩ := List.mem_map.mp hkey
    rw [← heq]
    cases m with
    | some m => exact profile.mem_parameters (by cases m <;> decide) hfield'
    | none => exact absurd hfield' List.not_mem_nil
  · exact profile.mem_parameters (by decide) hdefault

lemma wire_ne {engine key name : String} (hkey : key ∈ profileParameters)
    (hname : name ∈ controlKeys) :
    ModelProfiles.wire engine key ≠ name := by
  have hdisjoint : ∀ key ∈ profileParameters, key ∉ controlKeys := by decide
  unfold ModelProfiles.wire
  split
  · rintro rfl
    exact absurd hname (by decide)
  · rintro rfl
    exact hdisjoint key hkey hname

lemma lookup_addDefault {payload result : Fields} {engine name : String} {field : String × Json}
    (hfield : field.1 ∈ profileParameters) (hname : name ∈ controlKeys) :
    (ModelProfiles.addDefault payload engine result field).lookup name = result.lookup name := by
  dsimp only [ModelProfiles.addDefault]
  split
  · rfl
  · generalize (if field.1 = "repetition_penalty" then repetitionAliases
      else [ModelProfiles.wire engine field.1]) = aliases
    split
    · rfl
    · exact lookup_set_of_ne _ _ (wire_ne hfield hname)

lemma lookup_addDefaults {payload : Fields} {engine name : String} {defaults : Fields}
    (hdefaults : ∀ field ∈ defaults, field.1 ∈ profileParameters) (hname : name ∈ controlKeys) :
    ∀ result : Fields, (defaults.foldl (ModelProfiles.addDefault payload engine) result).lookup
      name = result.lookup name := by
  induction defaults with
  | nil => exact fun _ ↦ rfl
  | cons field defaults ih =>
      obtain ⟨hfield, hdefaults⟩ := List.forall_mem_cons.mp hdefaults
      intro result
      rw [List.foldl_cons, ih hdefaults, lookup_addDefault hfield hname]

lemma lookup_addAlias {payload result : Fields} {engine name : String}
    (hname : name ∈ controlKeys) :
    (ModelProfiles.addAlias payload engine result).lookup name = result.lookup name := by
  dsimp only [ModelProfiles.addAlias]
  split
  · rfl
  · split
    · exact lookup_set_of_ne _ _ (wire_ne (by decide) hname)
    · rfl

/-- Profiles leave the thinking controls of a request alone. -/
lemma lookup_apply (profiles : ModelProfiles) (payload : Fields) (engine : String) (model : Json)
    {name : String} (hname : name ∈ controlKeys) :
    (profiles.apply text payload engine model).lookup name = payload.lookup name := by
  unfold ModelProfiles.apply
  split
  · split
    · rfl
    · dsimp only
      split
      · rfl
      · rw [lookup_addAlias hname, lookup_addDefaults (fun _ ↦ mem_defaultsFor) hname]
  · rfl

end Defaults

/-- A recognised mode agrees with the translation for TabbyAPI, for the request and
for the request with the defaults of its profile, which has the same mode. -/
theorem mode_agrees (profiles : ModelProfiles) (model : Json) (payload : Fields) :
    Agrees text payload (mode text payload "tabbyapi") ∧
      mode text (profiles.apply text payload "tabbyapi" model) "tabbyapi" =
        mode text payload "tabbyapi" ∧
      Agrees text (profiles.apply text payload "tabbyapi" model)
        (mode text payload "tabbyapi") := by
  have hmode : mode text (profiles.apply text payload "tabbyapi" model) "tabbyapi" =
      mode text payload "tabbyapi" :=
    mode_congr text "tabbyapi" fun _ hkey ↦ lookup_apply text profiles payload _ model hkey
  refine ⟨agrees text payload, hmode, ?_⟩
  rw [← hmode]
  exact agrees text _

end StProxy.Profiles
