import StProxy.Lib.Lists
import StProxy.Profiles.Agreement

/-!
# Defaults never override the caller

`ModelProfiles.apply` appends fields to a request.  Which ones, and that neither a
second application nor the order of the keys makes a difference.
-/

namespace StProxy.Profiles

open Json ModelProfiles

variable (text : Text)

section Additions

variable {payload result added : Fields} {engine key : String}

lemma set_append {value : Json} (h : Json.has payload key = false) (added : Fields) :
    Json.set key value (payload ++ added) = payload ++ Json.set key value added := by
  induction payload with
  | nil => rfl
  | cons field payload ih =>
      have hlookup := has_eq_false.mp h
      rw [lookup_cons] at hlookup
      split_ifs at hlookup with hkey
      rw [List.cons_append, Json.set, if_neg hkey, ih (has_eq_false.mpr hlookup), List.cons_append]

/-- The names under which the caller may have set a parameter. -/
def aliasesOf (engine key : String) : List String :=
  if key = "repetition_penalty" then repetitionAliases else [wire engine key]

/-- The caller's request leaves room for the default of a parameter. -/
def Open (payload : Fields) (engine key : String) : Prop :=
  ¬(key = "reasoning_budget_tokens" ∧ hasThinkingControl payload = true) ∧
    ∀ name ∈ aliasesOf engine key, payload.lookup name = none

instance : Decidable (Open payload engine key) :=
  inferInstanceAs (Decidable (¬(_ ∧ _) ∧
    ∀ name ∈ aliasesOf engine key, payload.lookup name = none))

lemma wire_mem_aliasesOf (engine key : String) : wire engine key ∈ aliasesOf engine key := by
  unfold aliasesOf
  split_ifs with h
  · unfold wire
    rw [h]
    split_ifs <;> decide
  · exact List.mem_singleton_self _

lemma open_iff : Open payload engine key ↔
    (key = "reasoning_budget_tokens" && hasThinkingControl payload) = false ∧
      (aliasesOf engine key).any (Json.has payload) = false := by
  simp [Open, has_eq_false]

lemma addDefault_eq (field : String × Json) : addDefault payload engine result field =
    if Open payload engine field.1 then Json.set (wire engine field.1) field.2 result
    else result := by
  have hdef : addDefault payload engine result field =
      if field.1 = "reasoning_budget_tokens" && hasThinkingControl payload then result
      else if (aliasesOf engine field.1).any (Json.has payload) then result
      else Json.set (wire engine field.1) field.2 result := rfl
  rw [hdef]
  by_cases h : Open payload engine field.1
  · obtain ⟨hcontrol, halias⟩ := open_iff.mp h
    rw [if_pos h, hcontrol, halias, if_neg Bool.false_ne_true, if_neg Bool.false_ne_true]
  · rw [if_neg h]
    split_ifs with hcontrol halias
    · rfl
    · rfl
    · exact absurd (open_iff.mpr ⟨Bool.eq_false_iff.mpr hcontrol, Bool.eq_false_iff.mpr halias⟩) h

lemma has_wire_of_open (h : Open payload engine key) : Json.has payload (wire engine key) = false :=
  has_eq_false.mpr (h.2 _ (wire_mem_aliasesOf engine key))

/-- The parameter that is sent under a name. -/
def unwire (engine name : String) : Option String :=
  if engine = "prism" then
    if name = "repeat_penalty" then some "repetition_penalty"
    else if name = "repetition_penalty" then none
    else some name
  else some name

lemma wire_eq_iff {name : String} (hkey : key ∈ profileParameters) :
    wire engine key = name ↔ unwire engine name = some key := by
  have hne : key ≠ "repeat_penalty" := fun e ↦ absurd (e ▸ hkey) (by decide)
  unfold wire unwire
  by_cases hprism : engine = "prism"
  · by_cases hrepetition : key = "repetition_penalty"
    · subst hrepetition
      by_cases hname : name = "repeat_penalty"
      · simp [hprism, hname]
      · have hsend : ¬"repeat_penalty" = name := fun e ↦ hname e.symm
        by_cases hrepetition : name = "repetition_penalty"
        · simp [hprism, hrepetition]
        · simp [hprism, hname, hsend, hrepetition]
    · simp only [hprism, hrepetition, false_and, if_false, if_true]
      split_ifs with hrepeat hname
      · simp [hrepeat, hne, Ne.symm hrepetition]
      · simp [hname, hrepetition]
      · simp [eq_comm]
  · simp [hprism, eq_comm]

/-- The default that is sent under a name. -/
def defaultAt (defaults payload : Fields) (engine name : String) : Option Json :=
  (unwire engine name).bind fun key ↦
    if Open payload engine key then defaults.lookup key else none

/-- The loop over the defaults, by induction on them. -/
lemma lookup_foldl_addDefault {defaults : Fields} (hnodup : (defaults.map Prod.fst).Nodup)
    (hkeys : ∀ field ∈ defaults, field.1 ∈ profileParameters) (name : String) (result : Fields) :
    (defaults.foldl (addDefault payload engine) result).lookup name =
      (defaultAt defaults payload engine name).or (result.lookup name) := by
  induction defaults generalizing result with
  | nil =>
      unfold defaultAt
      cases unwire engine name with
      | none => rfl
      | some key => simp
  | cons field defaults ih =>
      obtain ⟨hfirst, hrest⟩ := List.nodup_cons.mp hnodup
      obtain ⟨hfield, hkeys⟩ := List.forall_mem_cons.mp hkeys
      rw [List.foldl_cons, ih hrest hkeys, addDefault_eq]
      unfold defaultAt
      by_cases hwire : wire engine field.1 = name
      · rw [(wire_eq_iff hfield).mp hwire, Option.bind_some, Option.bind_some, lookup_cons,
          if_pos rfl, Lists.lookup_of_notMem hfirst, ite_self, Option.none_or]
        split_ifs
        · rw [lookup_set, if_pos hwire, Option.some_or]
        · rw [Option.none_or]
      · have hsame : (if Open payload engine field.1 then
            Json.set (wire engine field.1) field.2 result else result).lookup name =
            result.lookup name := by
          split_ifs
          · exact lookup_set_of_ne _ _ hwire
          · rfl
        rw [hsame]
        cases hunwire : unwire engine name with
        | none => rfl
        | some key =>
            have hne : field.1 ≠ key := fun e ↦ hwire ((wire_eq_iff hfield).mpr (e ▸ hunwire))
            rw [Option.bind_some, Option.bind_some, lookup_cons, if_neg hne]

/-- The aliases that are translated to the native field. -/
def foreignAliases (engine : String) : List String :=
  if engine = "tabbyapi" then ["rep_pen", "repeat_penalty"] else repetitionAliases

def native (engine : String) : String := wire engine "repetition_penalty"

/-- The value that the native field of the repetition penalty gets from an alias. -/
def aliasAt (payload : Fields) (engine name : String) : Option Json :=
  if name = native engine ∧ Json.has payload name = false then
    (foreignAliases engine).findSome? fun key ↦ payload.lookup key
  else none

lemma addAlias_eq : addAlias payload engine result =
    match aliasAt payload engine (native engine) with
    | some value => Json.set (native engine) value result
    | none => result := by
  have hdef : addAlias payload engine result =
      if Json.has payload (native engine) then result
      else match (foreignAliases engine).findSome? fun key ↦ payload.lookup key with
        | some value => Json.set (native engine) value result
        | none => result := rfl
  rw [hdef]
  unfold aliasAt
  cases Json.has payload (native engine) <;> simp

lemma lookup_addAlias_eq (name : String) : (addAlias payload engine result).lookup name =
    (aliasAt payload engine name).or (result.lookup name) := by
  rw [addAlias_eq]
  by_cases hname : name = native engine
  · subst hname
    cases aliasAt payload engine (native engine) with
    | none => rfl
    | some value => exact lookup_set _ _ _ _ |>.trans (if_pos rfl)
  · have hnone : aliasAt payload engine name = none := by
      unfold aliasAt
      rw [if_neg fun h ↦ hname h.1]
    rw [hnone, Option.none_or]
    cases aliasAt payload engine (native engine) with
    | none => rfl
    | some value => exact lookup_set_of_ne _ _ (Ne.symm hname)

/-- What a profile adds under a name. -/
def additionAt (defaults payload : Fields) (engine name : String) : Option Json :=
  (aliasAt payload engine name).or (defaultAt defaults payload engine name)

/-- The result of `apply` with a profile, before it is compared with the request. -/
def extended (defaults payload : Fields) (engine : String) : Fields :=
  addAlias payload engine (defaults.foldl (addDefault payload engine) payload)

lemma foldl_addDefault_append {defaults added : Fields} :
    ∃ more, defaults.foldl (addDefault payload engine) (payload ++ added) = payload ++ more := by
  induction defaults generalizing added with
  | nil => exact ⟨added, rfl⟩
  | cons field defaults ih =>
      rw [List.foldl_cons, addDefault_eq]
      split_ifs with hopen
      · rw [set_append (has_wire_of_open hopen)]
        exact ih
      · exact ih

lemma extended_append (defaults payload : Fields) (engine : String) :
    ∃ more, extended defaults payload engine = payload ++ more := by
  obtain ⟨more, hmore⟩ := @foldl_addDefault_append payload engine defaults []
  rw [List.append_nil] at hmore
  unfold extended
  rw [hmore, addAlias_eq]
  cases halias : aliasAt payload engine (native engine) with
  | none => exact ⟨more, rfl⟩
  | some value =>
      unfold aliasAt at halias
      split_ifs at halias with hnative
      exact ⟨_, set_append hnative.2 more⟩

end Additions

section Apply

variable {payload : Fields} {engine : String}

/-- Comparing with `==` first makes no difference: nothing was added if they are equal. -/
lemma apply_eq (profiles : ModelProfiles) (payload : Fields) (engine : String) (model : Json) :
    profiles.apply text payload engine model =
      match model with
      | .str name => match profiles.models.lookup s!"{engine}/{name}" with
        | none => payload
        | some profile => extended (defaultsFor profile (mode text payload engine)) payload engine
      | _ => payload := by
  have hcompare (profile : Profile) :
      (if (Json.obj (extended (defaultsFor profile (mode text payload engine)) payload engine)).eq
          (.obj payload) then payload
        else extended (defaultsFor profile (mode text payload engine)) payload engine) =
      extended (defaultsFor profile (mode text payload engine)) payload engine := by
    obtain ⟨more, hmore⟩ :=
      extended_append (defaultsFor profile (mode text payload engine)) payload engine
    rw [hmore]
    split_ifs with heq
    · simp only [Json.eq, Bool.and_eq_true, beq_iff_eq, List.length_append] at heq
      have hnil : more = [] := List.eq_nil_of_length_eq_zero (by omega)
      rw [hnil, List.append_nil]
    · rfl
  unfold ModelProfiles.apply
  cases model with
  | str name =>
      dsimp only
      cases profiles.models.lookup s!"{engine}/{name}" with
      | none => rfl
      | some profile => exact hcompare profile
  | _ => rfl

/-- A request that has at least the fields of another one. -/
def Extends (p q : Fields) : Prop := ∀ key v, p.lookup key = some v → q.lookup key = some v

lemma Extends.has {p q : Fields} (h : Extends p q) {key : String} (hkey : Json.has p key = true) :
    Json.has q key = true := by
  obtain ⟨v, hv⟩ := Option.isSome_iff_exists.mp hkey
  rw [Json.has, h key v hv, Option.isSome_some]

lemma extends_append (p more : Fields) : Extends p (p ++ more) := by
  intro key v hv
  rw [List.lookup_append, hv, Option.some_or]

/-- A control is not lost. -/
lemma Extends.hasThinkingControl {p q : Fields} (h : Extends p q)
    (hcontrol : hasThinkingControl p = true) : hasThinkingControl q = true := by
  unfold Profiles.hasThinkingControl at hcontrol ⊢
  rw [Bool.or_eq_true, List.any_eq_true, List.any_eq_true] at hcontrol ⊢
  refine hcontrol.imp (fun ⟨key, hkey, hhas⟩ ↦ ⟨key, hkey, h.has hhas⟩) ?_
  rintro ⟨key, hkey, hhas⟩
  refine ⟨key, hkey, ?_⟩
  cases hlookup : p.lookup key with
  | none => simp [hlookup] at hhas
  | some v =>
      rw [hlookup] at hhas
      rw [h key v hlookup]
      exact hhas

lemma Extends.not_open {p q : Fields} (h : Extends p q) {key : String}
    (hopen : ¬Open p engine key) : ¬Open q engine key := by
  intro hq
  rw [open_iff, not_and_or, Bool.not_eq_false, Bool.not_eq_false] at hopen
  obtain ⟨hcontrol, halias⟩ := open_iff.mp hq
  rcases hopen with hp | hp
  · rw [Bool.and_eq_true] at hp
    rw [h.hasThinkingControl hp.2, Bool.and_true] at hcontrol
    rw [hcontrol] at hp
    cases hp.1
  · obtain ⟨name, hname, hhas⟩ := List.any_eq_true.mp hp
    exact absurd (List.any_eq_true.mpr ⟨name, hname, h.has hhas⟩) (by simp [halias])

lemma has_set (key name : String) (value : Json) (fields : Fields) :
    Json.has (Json.set key value fields) name = true ↔
      key = name ∨ Json.has fields name = true := by
  unfold Json.has
  rw [lookup_set]
  split_ifs with h <;> simp [h]

/-- The loop keeps every field, and adds those that are open. -/
lemma has_foldl_addDefault (defaults result : Fields) {name : String}
    (h : Json.has result name = true ∨
      ∃ field ∈ defaults, Open payload engine field.1 ∧ wire engine field.1 = name) :
    Json.has (defaults.foldl (addDefault payload engine) result) name = true := by
  induction defaults generalizing result with
  | nil => simpa using h
  | cons field defaults ih =>
      rw [List.foldl_cons, addDefault_eq]
      apply ih _
      rcases h with h | ⟨other, hother, hopen, hname⟩
      · left
        split_ifs
        · exact (has_set _ _ _ _).mpr (.inr h)
        · exact h
      · rcases List.mem_cons.mp hother with rfl | hother
        · rw [if_pos hopen]
          exact .inl ((has_set _ _ _ _).mpr (.inl hname))
        · exact .inr ⟨other, hother, hopen, hname⟩

lemma lookup_foldl_of_ne {defaults : Fields} {name : String}
    (h : ∀ field ∈ defaults, wire engine field.1 ≠ name) (result : Fields) :
    (defaults.foldl (addDefault payload engine) result).lookup name = result.lookup name := by
  induction defaults generalizing result with
  | nil => rfl
  | cons field defaults ih =>
      obtain ⟨hfield, hrest⟩ := List.forall_mem_cons.mp h
      rw [List.foldl_cons, ih hrest, addDefault_eq]
      split_ifs
      · exact lookup_set_of_ne _ _ hfield
      · rfl

lemma foldl_of_blocked {defaults : Fields} (h : ∀ field ∈ defaults, ¬Open payload engine field.1) :
    defaults.foldl (addDefault payload engine) payload = payload := by
  induction defaults with
  | nil => rfl
  | cons field defaults ih =>
      obtain ⟨hfield, hrest⟩ := List.forall_mem_cons.mp h
      rw [List.foldl_cons, addDefault_eq, if_neg hfield, ih hrest]

/-- Of the names of the repetition penalty only the native one is sent. -/
lemma wire_ne_alias {key name : String} (hkey : key ∈ profileParameters)
    (hname : name ∈ repetitionAliases)
    (hne : name ≠ native engine) : wire engine key ≠ name := by
  have hmeet : ∀ key ∈ profileParameters, key ∈ repetitionAliases → key = "repetition_penalty" := by
    decide
  rintro rfl
  apply hne
  unfold native wire at *
  by_cases h : key = "repetition_penalty" ∧ engine = "prism"
  · simp [h]
  · rw [if_neg h] at hname ⊢
    obtain rfl := hmeet key hkey hname
    rw [if_neg h]

lemma foreignAliases_subset {name : String} (h : name ∈ foreignAliases engine) :
    name ∈ repetitionAliases := by
  unfold foreignAliases at h
  split_ifs at h
  · exact (by decide : ∀ name ∈ ["rep_pen", "repeat_penalty"], name ∈ repetitionAliases) name h
  · exact h

lemma aliasAt_native_eq_none : aliasAt payload engine (native engine) = none ↔
    Json.has payload (native engine) = true ∨
      ∀ name ∈ foreignAliases engine, payload.lookup name = none := by
  unfold aliasAt
  cases Json.has payload (native engine) with
  | true => simp
  | false => simp [List.findSome?_eq_none_iff]

/-- Every default was blocked or added, so nothing is added the second time. -/
lemma extended_settled {defaults : Fields}
    (hkeys : ∀ field ∈ defaults, field.1 ∈ profileParameters) :
    extended defaults (extended defaults payload engine) engine =
      extended defaults payload engine := by
  obtain ⟨more, hmore⟩ := extended_append defaults payload engine
  have hextends : Extends payload (extended defaults payload engine) :=
    hmore ▸ extends_append payload more
  have hlookup (name : String) : (extended defaults payload engine).lookup name =
      (aliasAt payload engine name).or
        ((defaults.foldl (addDefault payload engine) payload).lookup name) :=
    lookup_addAlias_eq name
  generalize extended defaults payload engine = q at hextends hlookup
  have hblocked : ∀ field ∈ defaults, ¬Open q engine field.1 := by
    intro field hfield
    by_cases hopen : Open payload engine field.1
    · intro hq
      have hadded := @has_foldl_addDefault _ engine defaults payload _
        (.inr ⟨field, hfield, hopen, rfl⟩)
      have hnone := has_eq_false.mp (has_wire_of_open hq)
      rw [hlookup, Option.or_eq_none_iff] at hnone
      rw [Json.has, hnone.2] at hadded
      cases hadded
    · exact hextends.not_open hopen
  have halias : aliasAt q engine (native engine) = none := by
    rw [aliasAt_native_eq_none]
    by_cases hnative : Json.has q (native engine) = true
    · exact .inl hnative
    · rw [Bool.not_eq_true, has_eq_false, hlookup, Option.or_eq_none_iff,
        aliasAt_native_eq_none] at hnative
      obtain ⟨hforeign, hfold⟩ := hnative
      have hnot : ¬Json.has payload (native engine) = true := fun hhas ↦ by
        have hkept := @has_foldl_addDefault payload engine defaults payload _
          (.inl hhas)
        rw [Json.has, hfold] at hkept
        cases hkept
      right
      intro name hname
      by_cases hne : name = native engine
      · rw [hne, hlookup, hfold, Option.or_none, aliasAt_native_eq_none]
        exact hforeign
      · have hunset : aliasAt payload engine name = none := by
          unfold aliasAt
          rw [if_neg fun h ↦ hne h.1]
        rw [hlookup, hunset, Option.none_or, lookup_foldl_of_ne fun field hfield ↦
          wire_ne_alias (hkeys field hfield) (foreignAliases_subset hname) hne]
        exact hforeign.resolve_left hnot name hname
  unfold extended
  rw [foldl_of_blocked hblocked, addAlias_eq, halias]

end Apply

end StProxy.Profiles
