import StProxy.Tabby.Adapt

/-!
# The translation respects explicit controls

`adapt_chat_request` changes three fields at most, never a budget or a switch that
is in force, and nothing the second time.
-/

namespace StProxy.Tabby

open Json

variable (text : Text)

/-- `changed`, when the body is not returned early. -/
def changed (payload : Fields) : Bool :=
  match nested payload with
  | none => false
  | some objects => disables text payload objects ||
      (!nativeWins text payload objects && Json.has payload "thinking_budget_tokens") ||
      (effortBudget text payload objects).isSome

/-- `adapt_chat_request` on the body, with the decoder, `none` where it raises, and
the encoder. -/
def adaptBody {Body : Type} (loads : Body → Option Json) (dumps : Json → Body) (body : Body) :
    Body :=
  match loads body with
  | some (.obj payload) =>
      if changed text payload then dumps (.obj (adaptChatRequest text payload)) else body
  | _ => body

/-- The object under a key, `{}` where there is none. -/
def objectUnder (value : Json) : Fields :=
  match value with
  | .obj fields => fields
  | _ => []

def reasoningOf (payload : Fields) : Fields := objectUnder (Json.get payload "reasoning")

/-- The template that TabbyAPI chooses. -/
def templateOf (payload : Fields) : Fields :=
  objectUnder (firstPresent payload ["template_vars", "chat_template_kwargs"])

/-- The budget that TabbyAPI itself reads from a request, also an invalid one. -/
def resolution (payload : Fields) : Option Json :=
  if budgetFallsBack text (firstPresent payload budgetKeys) = false then
    some (firstPresent payload budgetKeys)
  else if budgetFallsBack text (Json.get (reasoningOf payload) "max_tokens") = false then
    some (Json.get (reasoningOf payload) "max_tokens")
  else none

/-- Every name of a budget at the top level. -/
def budgetNames : List String := budgetKeys ++ ["thinking_budget_tokens"]

def BudgetsKept (p q : Fields) : Prop := ∀ key ∈ budgetNames, q.lookup key = p.lookup key

/-- The alias that TabbyAPI does not know is sent under the native name. -/
def BudgetMoved (p q : Fields) : Prop :=
  ∃ value, p.lookup "thinking_budget_tokens" = some value ∧
    q.lookup "reasoning_budget_tokens" = some value ∧ q.lookup "thinking_budget_tokens" = none

/-- The budget was derived from the level of effort. -/
def BudgetDerived (p q : Fields) : Prop :=
  (∀ key ∈ budgetNames, p.lookup key = none) ∧
    (reasoningOf p).lookup "max_tokens" = none ∧
    ∃ budget limit, q.lookup "reasoning_budget_tokens" = some (.int budget) ∧
      q.lookup "thinking_budget_tokens" = none ∧
      integer text (firstPresent p outputKeys) = some limit ∧ 0 ≤ budget ∧ budget ≤ limit

/-- A control that says whether to think. -/
def HasSwitch (p : Fields) : Prop :=
  Json.get p "enable_thinking" ≠ .null ∨ Json.get (reasoningOf p) "enabled" ≠ .null ∨
    Json.has (templateOf p) "enable_thinking" = true

/-- What the translation `q` keeps of the request `p`. -/
structure Respects (p q : Fields) : Prop where
  fields : ∀ key, key ∉ ["reasoning_budget_tokens", "thinking_budget_tokens", "enable_thinking"] →
    q.lookup key = p.lookup key
  budget : ∀ value, resolution text p = some value →
    resolution text q = some value ∧ BudgetsKept p q
  switch : HasSwitch p → q.lookup "enable_thinking" = p.lookup "enable_thinking"
  derived : BudgetsKept p q ∨ BudgetMoved p q ∨ BudgetDerived text p q

section

variable {text} {p q : Fields} {objects : Nested}

/-- The translation reads both objects, if it reads any. -/
lemma nested_eq (h : nested p = some objects) :
    reasoningOf p = objects.reasoning ∧ templateOf p = objects.template := by
  unfold nested at h
  unfold reasoningOf templateOf
  generalize Json.get p "reasoning" = reasoning at h ⊢
  generalize firstPresent p ["template_vars", "chat_template_kwargs"] = template at h ⊢
  cases reasoning <;> cases template <;> cases h <;> exact ⟨rfl, rfl⟩

lemma firstPresent_congr {keys : List String} (h : ∀ key ∈ keys, q.lookup key = p.lookup key) :
    firstPresent q keys = firstPresent p keys := by
  unfold firstPresent
  induction keys with
  | nil => rfl
  | cons key keys ih =>
      have hkeys := ih fun key hkey ↦ h key (List.mem_cons_of_mem _ hkey)
      rw [List.findSome?_cons, List.findSome?_cons, h key List.mem_cons_self]
      cases p.lookup key with
      | some value => rfl
      | none => exact hkeys

lemma has_congr {key : String} (h : q.lookup key = p.lookup key) :
    Json.has q key = Json.has p key := by
  rw [Json.has, Json.has, h]

lemma get_congr {key : String} (h : q.lookup key = p.lookup key) :
    Json.get q key = Json.get p key := by
  rw [Json.get, Json.get, h]

/-- The three fields that the translation may change. -/
def touched : List String :=
  ["reasoning_budget_tokens", "thinking_budget_tokens", "enable_thinking"]

/-- Two requests that differ only in the touched fields. -/
def Frame (p q : Fields) : Prop := ∀ key, key ∉ touched → q.lookup key = p.lookup key

lemma Frame.nested (h : Frame p q) : nested q = nested p := by
  unfold Tabby.nested
  rw [get_congr (h _ (by decide)), firstPresent_congr fun key hkey ↦ h key ?_]
  rcases List.mem_cons.mp hkey with rfl | hkey
  · decide
  · rw [List.mem_singleton.mp hkey]
    decide

/-! ## The second application -/

lemma Frame.effort (h : Frame p q) : effort text q objects = effort text p objects := by
  unfold Tabby.effort
  rw [get_congr (h _ (by decide))]

lemma Frame.outputs (h : Frame p q) : firstPresent q outputKeys = firstPresent p outputKeys :=
  firstPresent_congr fun key hkey ↦
    h key ((by decide : ∀ key ∈ outputKeys, key ∉ touched) key hkey)

lemma BudgetsKept.nativeWins (h : BudgetsKept p q) :
    nativeWins text q objects = nativeWins text p objects := by
  unfold Tabby.nativeWins
  rw [firstPresent_congr fun key hkey ↦ h key (List.mem_append_left _ hkey)]

lemma any_has_eq_false {keys : List String} :
    keys.any (Json.has p) = false ↔ ∀ key ∈ keys, p.lookup key = none := by
  simp [has_eq_false]

/-- No budget is derived when the native field is there. -/
lemma effortBudget_of_native (h : Json.has p "reasoning_budget_tokens" = true) :
    effortBudget text p objects = none := by
  have hany : budgetKeys.any (Json.has p) = true :=
    List.any_eq_true.mpr ⟨_, List.mem_cons_self, h⟩
  simp [effortBudget, hany]

lemma effortBudget_some {budget : ℤ} (h : effortBudget text p objects = some budget) :
    nativeWins text p objects = false ∧ (∀ key ∈ budgetNames, p.lookup key = none) ∧
      objects.reasoning.lookup "max_tokens" = none ∧
      (∃ level divisor, effort text p objects = some level ∧
        effortDivisors.lookup level = some divisor) ∧
      ∃ limit, integer text (firstPresent p outputKeys) = some limit ∧ 0 ≤ budget ∧
        budget ≤ limit := by
  unfold effortBudget at h
  split_ifs at h with hguard
  simp only [Bool.and_eq_true, Bool.not_eq_true', any_has_eq_false, has_eq_false] at hguard
  obtain ⟨⟨⟨⟨hnative, hthinking⟩, hkeys⟩, hreasoning⟩, -⟩ := hguard
  split at h
  · next divisor limit hdivisor hlimit =>
      split_ifs at h with hpos
      obtain rfl := Option.some.inj h
      obtain ⟨level, hlevel, hlookup⟩ := Option.bind_eq_some_iff.mp hdivisor
      refine ⟨hnative, fun key hkey ↦ ?_, hreasoning, ⟨level, divisor, hlevel, hlookup⟩, limit,
        hlimit, ?_⟩
      · rcases List.mem_append.mp hkey with hkey | hkey
        · exact hkeys key hkey
        · rw [List.mem_singleton.mp hkey]
          exact hthinking
      · have hdivisors : ∀ entry ∈ effortDivisors, 1 ≤ entry.2 := by decide
        have hone : 1 ≤ divisor := by
          obtain ⟨first, last, heq, -⟩ := List.lookup_eq_some_iff.mp hlookup
          exact hdivisors (level, divisor) (heq ▸ List.mem_append_right _ List.mem_cons_self)
        exact ⟨Int.ediv_nonneg (by omega) (by omega), Int.ediv_le_self _ (by omega)⟩
  · cases h

/-- What `withBudget` writes. -/
inductive Budgeted (text : Text) (objects : Nested) (p r q : Fields) : Prop
  | kept (hmoved : nativeWins text p objects = false → Json.has p "thinking_budget_tokens" = false)
      (hderived : effortBudget text p objects = none) (heq : q = r)
  | moved (hnative : nativeWins text p objects = false)
      (hhas : Json.has p "thinking_budget_tokens" = true)
      (heq : q = Json.set "reasoning_budget_tokens" (Json.get r "thinking_budget_tokens")
        (Json.erase "thinking_budget_tokens" r))
  | derived (budget : ℤ) (hbudget : effortBudget text p objects = some budget)
      (heq : q = Json.set "reasoning_budget_tokens" (.int budget) r)

lemma withBudget_budgeted (objects : Nested) (p r : Fields) :
    Budgeted text objects p r (withBudget text objects p r) := by
  unfold withBudget
  split_ifs with h
  · rw [Bool.and_eq_true, Bool.not_eq_true'] at h
    exact .moved h.1 h.2 rfl
  · split
    · next budget hbudget => exact .derived budget hbudget rfl
    · next hnone =>
        refine .kept (fun hnative ↦ ?_) hnone rfl
        simpa [hnative] using h

/-- What `withSwitch` writes. -/
lemma withSwitch_lookup (p : Fields) (objects : Nested) {key : String}
    (h : key ≠ "enable_thinking") :
    (withSwitch text p objects).lookup key = p.lookup key := by
  unfold withSwitch
  split_ifs
  · exact lookup_set_of_ne _ _ h.symm
  · rfl

lemma Budgeted.lookup {r : Fields} (h : Budgeted text objects p r q) {key : String}
    (hnative : "reasoning_budget_tokens" ≠ key) (hthinking : "thinking_budget_tokens" ≠ key) :
    q.lookup key = r.lookup key := by
  cases h with
  | kept _ _ heq => rw [heq]
  | moved _ _ heq => rw [heq, lookup_set_of_ne _ _ hnative, lookup_erase_of_ne _ hthinking]
  | derived _ _ heq => rw [heq, lookup_set_of_ne _ _ hnative]

/-- A request with nested controls, and its translation. -/
structure Translated (text : Text) (p : Fields) (objects : Nested) (q : Fields) : Prop where
  nested : nested p = some objects
  frame : Frame p q
  switch : q.lookup "enable_thinking" =
    if disables text p objects then some (.bool false) else p.lookup "enable_thinking"
  budget : Budgeted text objects p (withSwitch text p objects) q

lemma translated (h : nested p = some objects) :
    Translated text p objects (adaptChatRequest text p) := by
  have heq : adaptChatRequest text p = withBudget text objects p (withSwitch text p objects) := by
    unfold adaptChatRequest
    rw [h]
  have hbudget := @withBudget_budgeted text objects p (withSwitch text p objects)
  rw [← heq] at hbudget
  refine ⟨h, fun key hkey ↦ ?_, ?_, hbudget⟩
  · have hne : key ≠ "enable_thinking" := fun e ↦ hkey (e ▸ by decide)
    have hnative : "reasoning_budget_tokens" ≠ key := fun e ↦ hkey (e ▸ by decide)
    have hthinking : "thinking_budget_tokens" ≠ key := fun e ↦ hkey (e ▸ by decide)
    exact (hbudget.lookup hnative hthinking).trans (withSwitch_lookup p objects hne)
  · rw [hbudget.lookup (by decide) (by decide), withSwitch]
    split_ifs
    · rw [lookup_set, if_pos rfl]
    · rfl

/-- A level that switches thinking off stands for no budget. -/
lemma effortBudget_of_off (h : effort text p objects = some "none" ∨
    effort text p objects = some "off") : effortBudget text p objects = none := by
  cases hbudget : effortBudget text p objects with
  | none => rfl
  | some budget =>
      obtain ⟨-, -, -, ⟨level, divisor, hlevel, hlookup⟩, -⟩ := effortBudget_some hbudget
      simp only [hlevel, Option.some.injEq] at h
      rcases h with rfl | rfl
      · cases hlookup
      · cases hlookup

lemma off_of_disables (h : disables text p objects = true) :
    effort text p objects = some "none" ∨ effort text p objects = some "off" := by
  simp only [disables, Bool.and_eq_true, Bool.or_eq_true, beq_iff_eq] at h
  exact h.1.1

lemma any_has_congr {keys : List String} (h : ∀ key ∈ keys, q.lookup key = p.lookup key) :
    keys.any (Json.has q) = keys.any (Json.has p) := by
  rw [Bool.eq_iff_iff, List.any_eq_true, List.any_eq_true]
  exact exists_congr fun key ↦ and_congr_right fun hkey ↦ by rw [has_congr (h key hkey)]

/-- The names of budgets are no switches. -/
lemma BudgetsKept.of_eq (heq : q = withSwitch text p objects) : BudgetsKept p q := by
  intro key hkey
  rw [heq]
  exact withSwitch_lookup p objects
    ((by decide : ∀ key ∈ budgetNames, key ≠ "enable_thinking") key hkey)

namespace Translated

variable (h : Translated text p objects q)
include h

lemma budgets : BudgetsKept p q ∨ BudgetMoved p q ∨ BudgetDerived text p q := by
  have hthinking : (withSwitch text p objects).lookup "thinking_budget_tokens" =
      p.lookup "thinking_budget_tokens" := withSwitch_lookup p objects (by decide)
  cases h.budget with
  | kept _ _ heq => exact .inl (.of_eq heq)
  | moved hnative hhas heq =>
      obtain ⟨value, hvalue⟩ := Option.isSome_iff_exists.mp hhas
      refine .inr (.inl ⟨value, hvalue, ?_, ?_⟩)
      · rw [heq, lookup_set, if_pos rfl, Json.get, hthinking, hvalue, Option.getD_some]
      · rw [heq, lookup_set_of_ne _ _ (by decide), lookup_erase, if_pos rfl]
  | derived budget hbudget heq =>
      obtain ⟨-, hkeys, hreasoning, -, limit, hlimit, hnonneg, hle⟩ := effortBudget_some hbudget
      refine .inr (.inr ⟨hkeys, ?_, budget, limit, ?_, ?_, hlimit, hnonneg, hle⟩)
      · rw [(nested_eq h.nested).1, hreasoning]
      · rw [heq, lookup_set, if_pos rfl]
      · rw [heq, lookup_set_of_ne _ _ (by decide), hthinking]
        exact hkeys _ (by decide)

/-- Where TabbyAPI reads a budget, native values win. -/
lemma nativeWins_of_resolution {value : Json} (hvalue : resolution text p = some value) :
    nativeWins text p objects = true := by
  unfold resolution at hvalue
  rw [(nested_eq h.nested).1] at hvalue
  unfold nativeWins
  split_ifs at hvalue with hnative hreasoning
  · simp [hnative]
  · simp [hreasoning]

lemma kept_of_nativeWins (hnative : nativeWins text p objects = true) : BudgetsKept p q := by
  cases h.budget with
  | kept _ _ heq => exact .of_eq heq
  | moved hnot _ _ => simp [hnative] at hnot
  | derived budget hbudget _ =>
      rw [(effortBudget_some hbudget).1] at hnative
      cases hnative

lemma reasoning : reasoningOf q = reasoningOf p := by
  unfold reasoningOf
  rw [get_congr (h.frame _ (by decide))]

lemma respects : Respects text p q where
  fields := h.frame
  budget value hvalue := by
    have hkept := h.kept_of_nativeWins (h.nativeWins_of_resolution hvalue)
    refine ⟨?_, hkept⟩
    rw [← hvalue]
    unfold resolution
    rw [firstPresent_congr fun key hkey ↦ hkept key (List.mem_append_left _ hkey), h.reasoning]
  switch hswitch := by
    rw [h.switch, if_neg]
    intro hdisables
    obtain ⟨hreasoning, htemplate⟩ := nested_eq h.nested
    simp only [disables, Bool.and_eq_true, Bool.not_eq_true'] at hdisables
    obtain ⟨⟨-, henabled⟩, hhas⟩ := hdisables
    have hlookup := has_eq_false.mp hhas
    unfold enabled precedence at henabled
    rw [hlookup, Option.getD_none] at henabled
    unfold HasSwitch at hswitch
    rw [hreasoning, htemplate, hhas] at hswitch
    cases htop : Json.get p "enable_thinking" with
    | null =>
        rw [htop] at henabled hswitch
        cases hinner : Json.get objects.reasoning "enabled" with
        | null => simp [hinner] at hswitch
        | _ => simp [hinner] at henabled
    | _ => simp [htop] at henabled
  derived := h.budgets

/-- Thinking is not switched off twice. -/
lemma not_disables : disables text q objects = false := by
  unfold disables
  rw [h.frame.effort]
  cases hdisables : disables text p objects with
  | false =>
      have hswitch := h.switch
      rw [hdisables, if_neg Bool.false_ne_true] at hswitch
      have henabled : enabled q objects = enabled p objects := by
        unfold enabled
        rw [get_congr hswitch]
      rw [henabled]
      exact hdisables
  | true =>
      have hswitch := h.switch
      rw [hdisables, if_pos rfl] at hswitch
      simp only [disables, Bool.and_eq_true, Bool.not_eq_true'] at hdisables
      have henabled : enabled q objects = .bool false := by
        unfold enabled precedence
        rw [has_eq_false.mp hdisables.2, Json.get, hswitch]
        rfl
      simp [henabled]

/-- The budgets of a translated request stay as they are. -/
lemma budget_settled : (nativeWins text q objects = false →
    Json.has q "thinking_budget_tokens" = false) ∧ effortBudget text q objects = none := by
  have hnone {name : String} (hlookup : q.lookup name = none) : Json.has q name = false :=
    has_eq_false.mpr hlookup
  have hnative {value : Json} {fields : Fields}
      (heq : q = Json.set "reasoning_budget_tokens" value fields) :
      effortBudget text q objects = none := by
    apply effortBudget_of_native
    rw [heq, Json.has, lookup_set, if_pos rfl, Option.isSome_some]
  cases h.budget with
  | moved _ _ heq =>
      refine ⟨fun _ ↦ hnone ?_, hnative heq⟩
      rw [heq, lookup_set_of_ne _ _ (by decide), lookup_erase, if_pos rfl]
  | derived budget hbudget heq =>
      refine ⟨fun _ ↦ hnone ?_, hnative heq⟩
      rw [heq, lookup_set_of_ne _ _ (by decide), withSwitch_lookup p objects (by decide)]
      exact (effortBudget_some hbudget).2.1 _ (by decide)
  | kept hmoved hderived heq =>
      have hkept : BudgetsKept p q := .of_eq heq
      have hthinking : Json.has q "thinking_budget_tokens" = Json.has p "thinking_budget_tokens" :=
        has_congr (hkept _ (by decide))
      rw [hkept.nativeWins, hthinking]
      refine ⟨hmoved, ?_⟩
      cases hdisables : disables text p objects with
      | true =>
          apply effortBudget_of_off
          rw [h.frame.effort]
          exact off_of_disables hdisables
      | false =>
          have hswitch := h.switch
          rw [hdisables, if_neg Bool.false_ne_true] at hswitch
          have henabled : enabled q objects = enabled p objects := by
            unfold enabled
            rw [get_congr hswitch]
          rw [← hderived]
          unfold effortBudget
          rw [hkept.nativeWins, hthinking, henabled, h.frame.effort, h.frame.outputs,
            any_has_congr fun key hkey ↦ hkept key (List.mem_append_left _ hkey)]

lemma settled : changed text q = false ∧ adaptChatRequest text q = q := by
  have hnested : Tabby.nested q = some objects := h.frame.nested.trans h.nested
  obtain ⟨hmoved, hderived⟩ := h.budget_settled
  have hmove : (!nativeWins text q objects && Json.has q "thinking_budget_tokens") = false := by
    cases hnative : nativeWins text q objects with
    | true => rfl
    | false => rw [hmoved hnative, Bool.and_false]
  refine ⟨?_, ?_⟩
  · unfold changed
    rw [hnested]
    dsimp only
    rw [h.not_disables, hmove, hderived]
    rfl
  · have hswitch : withSwitch text q objects = q := by
      rw [withSwitch, h.not_disables, if_neg Bool.false_ne_true]
    unfold adaptChatRequest
    rw [hnested]
    dsimp only
    rw [hswitch, withBudget, hmove, if_neg Bool.false_ne_true, hderived]

/-- `changed` is set exactly when a field was assigned another value. -/
lemma changed_iff : changed text p = true ↔ q ≠ p := by
  unfold changed
  rw [h.nested]
  dsimp only
  constructor
  · intro hchanged heq
    obtain ⟨hmoved, hderived⟩ := h.budget_settled
    have hdisables := h.not_disables
    rw [heq] at hmoved hderived hdisables
    cases hnative : nativeWins text p objects with
    | true => simp [hdisables, hderived, hnative] at hchanged
    | false => simp [hdisables, hderived, hmoved hnative] at hchanged
  · intro hne
    by_contra hchanged
    simp only [Bool.or_eq_true, not_or, Bool.not_eq_true, Option.isSome_eq_false_iff,
      Option.isNone_iff_eq_none] at hchanged
    obtain ⟨⟨hdisables, hmove⟩, hderived⟩ := hchanged
    cases h.budget with
    | moved hnative hhas _ => simp [hnative, hhas] at hmove
    | derived budget hbudget _ => simp [hderived] at hbudget
    | kept _ _ heq =>
        rw [withSwitch, hdisables, if_neg Bool.false_ne_true] at heq
        exact hne heq

end Translated

/-! ## Every request -/

lemma adapt_of_nested_none (h : nested p = none) : adaptChatRequest text p = p := by
  unfold adaptChatRequest
  rw [h]

lemma respects_refl : Respects text p p where
  fields _ _ := rfl
  budget _ hvalue := ⟨hvalue, fun _ _ ↦ rfl⟩
  switch _ := rfl
  derived := .inl fun _ _ ↦ rfl

lemma respects_adapt (text : Text) (p : Fields) : Respects text p (adaptChatRequest text p) := by
  cases h : nested p with
  | none =>
      rw [adapt_of_nested_none h]
      exact respects_refl
  | some objects => exact (translated h).respects

lemma changed_eq_true_iff : changed text p = true ↔ adaptChatRequest text p ≠ p := by
  cases h : nested p with
  | none => simp [changed, h, adapt_of_nested_none h]
  | some objects => exact (translated h).changed_iff

lemma adapt_settled (text : Text) (p : Fields) :
    changed text (adaptChatRequest text p) = false ∧
      adaptChatRequest text (adaptChatRequest text p) = adaptChatRequest text p := by
  cases h : nested p with
  | none =>
      rw [adapt_of_nested_none h, adapt_of_nested_none h]
      exact ⟨by simp [changed, h], rfl⟩
  | some objects => exact (translated h).settled

variable {Body : Type} {loads : Body → Option Json} {dumps : Json → Body} {body : Body}

/-- The body is decoded to the translation. -/
lemma loads_adaptBody (hbody : loads body = some (.obj p))
    (hround : loads (dumps (.obj (adaptChatRequest text p))) =
      some (.obj (adaptChatRequest text p))) :
    loads (adaptBody text loads dumps body) = some (.obj (adaptChatRequest text p)) := by
  unfold adaptBody
  rw [hbody]
  dsimp only
  split_ifs with hchanged
  · exact hround
  · rw [changed_eq_true_iff, not_not] at hchanged
    rw [hchanged]
    exact hbody

lemma adaptBody_of_unchanged (hbody : loads body = some (.obj p)) (h : changed text p = false) :
    adaptBody text loads dumps body = body := by
  unfold adaptBody
  rw [hbody]
  dsimp only
  rw [h, if_neg Bool.false_ne_true]

end

/-- The translation of a request object keeps every other field, the budget that is
in force and every explicit switch, leaves a body alone that it does not change, and
is idempotent. -/
theorem adapt_respects {Body : Type} (loads : Body → Option Json) (dumps : Json → Body)
    (body : Body) (p : Fields) (hbody : loads body = some (.obj p))
    (hround : loads (dumps (.obj (adaptChatRequest text p))) =
      some (.obj (adaptChatRequest text p))) :
    Respects text p (adaptChatRequest text p) ∧
      loads (adaptBody text loads dumps body) = some (.obj (adaptChatRequest text p)) ∧
      (adaptChatRequest text p = p → adaptBody text loads dumps body = body) ∧
      adaptChatRequest text (adaptChatRequest text p) = adaptChatRequest text p ∧
      adaptBody text loads dumps (adaptBody text loads dumps body) =
        adaptBody text loads dumps body := by
  have hloads := loads_adaptBody hbody hround
  obtain ⟨hchanged, hagain⟩ := adapt_settled text p
  refine ⟨respects_adapt text p, hloads, fun heq ↦ ?_, hagain,
    adaptBody_of_unchanged hloads hchanged⟩
  apply adaptBody_of_unchanged hbody
  rw [← heq]
  exact hchanged

/-- A budget is derived from the level of effort. -/
theorem adapt_respects_low :
    let text : Text := ⟨id, id, fun _ ↦ none, fun _ ↦ false⟩
    let p : Fields := [("max_tokens", .int 8), ("reasoning_effort", .str "low")]
    let q : Fields := Json.set "reasoning_budget_tokens" (.int 2) p
    let body := "\x7b\"max_tokens\":8,\"reasoning_effort\":\"low\"\x7d"
    let translation :=
      "\x7b\"max_tokens\":8,\"reasoning_effort\":\"low\",\"reasoning_budget_tokens\":2\x7d"
    let loads := fun s ↦ if s = body then some (.obj p) else
      if s = translation then some (.obj q) else none
    adaptBody text loads (fun _ ↦ translation) (adaptBody text loads (fun _ ↦ translation) body) =
        translation ∧ Respects text p q := by
  intro text p q body translation loads
  have h := adapt_respects text loads (fun _ ↦ translation) body p (by decide) (by decide)
  have hq : adaptChatRequest text p = q := by decide
  rw [hq] at h
  refine ⟨h.2.2.2.2.trans ?_, h.1⟩
  decide

end StProxy.Tabby
