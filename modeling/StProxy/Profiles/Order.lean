import StProxy.Profiles.Defaults

/-!
# The order of the keys

The mode of a request and the defaults that are added do not depend on the order of
the keys, in the request and in the profile.
-/

namespace StProxy.Profiles

open Json ModelProfiles

variable (text : Text)

section Modes

variable {engine key : String}

/-- Controls that ask for the same modes, in any order. -/
def SameModes (engine : String) : Option (List Control) → Option (List Control) → Prop
  | none, none => True
  | some l, some m => ∀ o, o ∈ l.map (Control.mode text engine) ↔
      o ∈ m.map (Control.mode text engine)
  | _, _ => False

variable {text}

lemma SameModes.bind {a b : Option (List Control)}
    {f g : List Control → Option (List Control)} (h : SameModes text engine a b)
    (hfg : ∀ l m, SameModes text engine (some l) (some m) → SameModes text engine (f l) (g m)) :
    SameModes text engine (a.bind f) (b.bind g) := by
  cases a <;> cases b
  · exact trivial
  · exact h.elim
  · exact h.elim
  · exact hfg _ _ h

lemma SameModes.append {l l' m m' : List Control} (h : SameModes text engine (some l) (some m))
    (h' : SameModes text engine (some l') (some m')) :
    SameModes text engine (some (l ++ l')) (some (m ++ m')) := by
  intro o
  rw [List.map_append, List.map_append, List.mem_append, List.mem_append, h o, h' o]

lemma SameModes.refl (a : Option (List Control)) : SameModes text engine a a := by
  cases a
  · exact trivial
  · exact fun _ ↦ Iff.rfl

lemma mapM_eq_replicate {found : List Control} {m : Mode}
    (h : ∀ c ∈ found, c.mode text engine = some m) :
    found.mapM (Control.mode text engine) = some (List.replicate found.length m) := by
  induction found with
  | nil => rfl
  | cons c found ih =>
      obtain ⟨hc, hfound⟩ := List.forall_mem_cons.mp h
      simp only [List.mapM_cons, hc, ih hfound, Option.bind_eq_bind, Option.bind_some]
      rfl

/-- The mode is the one that every control asks for. -/
lemma mode_eq_some_iff {payload : Fields} {m : Mode} : mode text payload engine = some m ↔
    ∃ found, controls payload engine = some found ∧ found ≠ [] ∧
      ∀ c ∈ found, c.mode text engine = some m := by
  unfold mode
  simp only [Option.bind_eq_bind, Option.bind_eq_some_iff]
  refine exists_congr fun found ↦ and_congr_right fun _ ↦ ⟨?_, ?_⟩
  · rintro ⟨modes, hmodes, hm⟩
    obtain ⟨hne, hall⟩ := unanimous_eq hm
    obtain ⟨hnil, hmem⟩ := mode_of_mapM text hmodes
    refine ⟨fun h ↦ hne (hnil h), fun c hc ↦ ?_⟩
    obtain ⟨m', hm', hmode⟩ := hmem c hc
    rw [hmode, hall m' hm']
  · rintro ⟨hne, hall⟩
    refine ⟨_, mapM_eq_replicate hall, ?_⟩
    obtain ⟨c, rest, rfl⟩ := List.exists_cons_of_ne_nil hne
    simp [List.replicate_succ, unanimous]

lemma mode_eq_of_sameModes {p q : Fields}
    (h : SameModes text engine (controls p engine) (controls q engine)) :
    mode text p engine = mode text q engine := by
  apply Option.ext
  intro m
  rw [mode_eq_some_iff, mode_eq_some_iff]
  have hread (l : List Control) : (l ≠ [] ∧ ∀ c ∈ l, c.mode text engine = some m) ↔
      (∃ o, o ∈ l.map (Control.mode text engine)) ∧
        ∀ o ∈ l.map (Control.mode text engine), o = some m := by
    rw [List.forall_mem_map, ← not_forall_not, ← List.eq_nil_iff_forall_not_mem,
      List.map_eq_nil_iff]
  cases hp : controls p engine with
  | none =>
      rw [hp] at h
      cases hq : controls q engine with
      | none => simp
      | some m => exact (hq ▸ h).elim
  | some l =>
      rw [hp] at h
      cases hq : controls q engine with
      | none => exact (hq ▸ h).elim
      | some l' =>
          rw [hq] at h
          simp only [Option.some.injEq, exists_eq_left', hread]
          simp only [SameModes] at h
          simp only [h]

/-- What one item of an object contributes. -/
def itemControl (engine key name : String) (value : Json) : Option (List Control) :=
  if name = effortKey key then
    if key = "reasoning" ∧ engine = "prism" then none
    else if engine = "prism" ∧ value.eq (.str "none") then none
    else some [.effort value]
  else if name = enabledKey key then
    if key = "reasoning" ∧ engine ≠ "tabbyapi" then none
    else if value = .bool true ∧ strataEngines.contains engine = true then some []
    else some [.enabled value]
  else some []

lemma itemControls_cons (name : String) (value : Json) (fields : Fields) :
    itemControls engine key ((name, value) :: fields) =
      (itemControl engine key name value).bind fun l ↦
        (itemControls engine key fields).map (l ++ ·) := by
  unfold itemControl
  by_cases heffort : name = effortKey key
  · simp only [itemControls, heffort, if_true]
    split_ifs <;> rfl
  · by_cases henabled : name = enabledKey key
    · subst henabled
      simp only [itemControls, if_neg heffort, if_true]
      generalize strataEngines.contains engine = strata
      by_cases hreasoning : key = "reasoning" ∧ engine ≠ "tabbyapi"
      · rw [if_pos hreasoning, if_pos hreasoning]
        rfl
      · rw [if_neg hreasoning, if_neg hreasoning]
        cases value with
        | bool b => cases b <;> cases strata <;> simp
        | _ => simp
    · simp [itemControls, heffort, henabled]

/-- The loop fails if an item does, and collects what the items contribute. -/
lemma itemControls_spec (fields : Fields) :
    (itemControls engine key fields = none ↔
      ∃ field ∈ fields, itemControl engine key field.1 field.2 = none) ∧
    ∀ found, itemControls engine key fields = some found → ∀ c, c ∈ found ↔
      ∃ field ∈ fields, ∃ l, itemControl engine key field.1 field.2 = some l ∧ c ∈ l := by
  induction fields with
  | nil => simp [itemControls]
  | cons field fields ih =>
      obtain ⟨name, value⟩ := field
      obtain ⟨hnone, hsome⟩ := ih
      rw [itemControls_cons]
      cases hitem : itemControl engine key name value with
      | none => simp [hitem]
      | some l =>
          simp only [Option.bind_some, Option.map_eq_none_iff, hnone, List.exists_mem_cons_iff,
            hitem, reduceCtorEq, false_or, Option.map_eq_some_iff, true_and]
          rintro _ ⟨rest, hrest, rfl⟩ c
          rw [List.mem_append, hsome rest hrest]
          simp

lemma effort_alike {v w : Json} (h : Alike v w) :
    (Control.effort v).mode text engine = (Control.effort w).mode text engine := by
  cases h <;> rfl

lemma enabled_alike {v w : Json} (h : Alike v w) :
    (Control.enabled v).mode text engine = (Control.enabled w).mode text engine := by
  cases h <;> rfl

lemma itemControl_alike {v w : Json} (h : Alike v w) (name : String) :
    SameModes text engine (itemControl engine key name v) (itemControl engine key name w) := by
  have hnone : v.eq (.str "none") = w.eq (.str "none") := by cases h <;> rfl
  have hbool : (v = .bool true) = (w = .bool true) := by cases h <;> simp
  unfold itemControl
  simp only [hnone, hbool]
  split_ifs
  · exact trivial
  · exact trivial
  · exact fun o ↦ by simp [effort_alike h]
  · exact trivial
  · exact .refl _
  · exact fun o ↦ by simp [enabled_alike h]
  · exact .refl _

lemma SameModes.symm {a b : Option (List Control)} (h : SameModes text engine a b) :
    SameModes text engine b a := by
  cases a <;> cases b
  · exact trivial
  · exact h.elim
  · exact h.elim
  · exact fun o ↦ (h o).symm

lemma itemControls_subset {fields others : Fields} (h : ∀ field ∈ fields, ∃ other ∈ others,
    SameModes text engine (itemControl engine key field.1 field.2)
      (itemControl engine key other.1 other.2)) :
    (itemControls engine key fields = none → itemControls engine key others = none) ∧
      ∀ l m, itemControls engine key fields = some l → itemControls engine key others = some m →
        ∀ o ∈ l.map (Control.mode text engine), o ∈ m.map (Control.mode text engine) := by
  refine ⟨fun hnone ↦ ?_, fun l m hl hm o ho ↦ ?_⟩
  · obtain ⟨field, hfield, hitem⟩ := (itemControls_spec fields).1.mp hnone
    obtain ⟨other, hother, hsame⟩ := h field hfield
    refine (itemControls_spec others).1.mpr ⟨other, hother, ?_⟩
    rw [hitem] at hsame
    cases hitem' : itemControl engine key other.1 other.2 with
    | none => rfl
    | some l => exact (hitem' ▸ hsame).elim
  · obtain ⟨c, hc, rfl⟩ := List.mem_map.mp ho
    obtain ⟨field, hfield, item, hitem, hmem⟩ := ((itemControls_spec fields).2 l hl c).mp hc
    obtain ⟨other, hother, hsame⟩ := h field hfield
    rw [hitem] at hsame
    cases hitem' : itemControl engine key other.1 other.2 with
    | none => exact (hitem' ▸ hsame).elim
    | some item' =>
        rw [hitem'] at hsame
        obtain ⟨c', hc', hmode⟩ := List.mem_map.mp ((hsame _).mp (List.mem_map_of_mem hmem))
        rw [← hmode]
        exact List.mem_map_of_mem
          (((itemControls_spec others).2 m hm c').mpr ⟨other, hother, item', hitem', hc'⟩)

/-- The items of alike objects, in whatever order. -/
lemma itemControls_alike {fields others : Fields} (h : Alike (.obj fields) (.obj others)) :
    SameModes text engine (itemControls engine key fields) (itemControls engine key others) := by
  obtain ⟨hfields, hothers⟩ := Alike.fields h
  obtain ⟨hnone, hsome⟩ := @itemControls_subset text engine key _ _
    fun field hfield ↦ by
      obtain ⟨w, hw, halike⟩ := hfields field hfield
      exact ⟨_, hw, itemControl_alike halike field.1⟩
  obtain ⟨hnone', hsome'⟩ := @itemControls_subset text engine key _ _
    fun other hother ↦ by
      obtain ⟨v, hv, halike⟩ := hothers other hother
      exact ⟨_, hv, (itemControl_alike halike other.1).symm⟩
  cases hl : itemControls engine key fields with
  | none =>
      rw [hnone hl]
      exact trivial
  | some l =>
      cases hm : itemControls engine key others with
      | none => exact absurd (hnone' hm) (by simp [hl])
      | some m => exact fun o ↦ ⟨hsome l m hl hm o, hsome' m l hm hl o⟩

lemma objectControls_alike {p q : Fields} (h : Alike (.obj p) (.obj q)) (key : String) :
    SameModes text engine (objectControls p engine key) (objectControls q engine key) := by
  have hlookup := h.lookup key
  unfold objectControls
  rw [h.has "template_vars"]
  generalize p.lookup key = a at hlookup ⊢
  generalize q.lookup key = b at hlookup ⊢
  cases hlookup with
  | none => exact .refl _
  | some halike =>
      dsimp only
      split_ifs
      · exact .refl _
      · cases halike <;> exact trivial
      · cases halike with
        | obj hfields hothers hkeys hvalues =>
            exact itemControls_alike (.obj hfields hothers hkeys hvalues)
        | _ => exact trivial

lemma topControls_alike {p q : Fields} (h : Alike (.obj p) (.obj q)) :
    SameModes text engine (some (effortControls p)) (some (effortControls q)) ∧
      SameModes text engine (enabledControls p engine) (enabledControls q engine) := by
  constructor
  · have hlookup := h.lookup "reasoning_effort"
    unfold effortControls
    generalize p.lookup "reasoning_effort" = a at hlookup ⊢
    generalize q.lookup "reasoning_effort" = b at hlookup ⊢
    cases hlookup with
    | none => exact .refl _
    | some halike => exact fun o ↦ by simp [effort_alike halike]
  · have hlookup := h.lookup "enable_thinking"
    unfold enabledControls
    generalize p.lookup "enable_thinking" = a at hlookup ⊢
    generalize q.lookup "enable_thinking" = b at hlookup ⊢
    cases hlookup with
    | none => exact .refl _
    | some halike =>
        dsimp only
        split_ifs
        · exact fun o ↦ by simp [enabled_alike halike]
        · exact trivial

lemma controls_alike {p q : Fields} (h : Alike (.obj p) (.obj q)) :
    SameModes text engine (controls p engine) (controls q engine) := by
  obtain ⟨heffort, henabled⟩ := @topControls_alike text engine _ _ h
  refine henabled.bind fun _ _ henabled ↦ ?_
  refine (objectControls_alike h "reasoning").bind fun _ _ hreasoning ↦ ?_
  refine (objectControls_alike h "chat_template_kwargs").bind fun _ _ hkwargs ↦ ?_
  refine (objectControls_alike h "template_vars").bind fun _ _ hvars ↦ ?_
  refine (objectControls_alike h "thinking").bind fun _ _ hthinking ↦ ?_
  exact ((((heffort.append henabled).append hreasoning).append hkwargs).append hvars).append
    hthinking

/-- The mode does not depend on the order of the keys. -/
lemma mode_alike {p q : Fields} (h : Alike (.obj p) (.obj q)) :
    mode text p engine = mode text q engine := mode_eq_of_sameModes (controls_alike h)

end Modes

section Defaults

variable {p q : Fields} {engine : String}

lemma hasThinkingControl_alike (h : Alike (.obj p) (.obj q)) :
    hasThinkingControl p = hasThinkingControl q := by
  unfold hasThinkingControl
  have htop : Json.has p = Json.has q := funext h.has
  rw [htop]
  congr 2
  funext key
  have hlookup := h.lookup key
  generalize p.lookup key = a at hlookup ⊢
  generalize q.lookup key = b at hlookup ⊢
  cases hlookup with
  | none => rfl
  | some halike =>
      cases halike with
      | obj hfields hothers hkeys hvalues =>
          have hinner := funext (Alike.obj hfields hothers hkeys hvalues).has
          dsimp only
          rw [hinner]
      | _ => rfl

lemma open_alike (h : Alike (.obj p) (.obj q)) (key : String) :
    Open p engine key ↔ Open q engine key := by
  rw [open_iff, open_iff, hasThinkingControl_alike h, funext h.has]

/-- Lists of fields with distinct keys under which alike values are stored. -/
lemma rel_findSome {keys : List String} (h : Alike (.obj p) (.obj q)) :
    Option.Rel Alike (keys.findSome? fun key ↦ p.lookup key)
      (keys.findSome? fun key ↦ q.lookup key) := by
  induction keys with
  | nil => exact .none
  | cons key keys ih =>
      rw [List.findSome?_cons, List.findSome?_cons]
      have hlookup := h.lookup key
      generalize p.lookup key = a at hlookup ⊢
      generalize q.lookup key = b at hlookup ⊢
      cases hlookup with
      | none => exact ih
      | some halike => exact .some halike

lemma aliasAt_alike (h : Alike (.obj p) (.obj q)) (name : String) :
    Option.Rel Alike (aliasAt p engine name) (aliasAt q engine name) := by
  unfold aliasAt
  rw [h.has]
  split_ifs
  · exact rel_findSome h
  · exact .none

lemma rel_or {a b c d : Option Json} (h : Option.Rel Alike a c) (h' : Option.Rel Alike b d) :
    Option.Rel Alike (a.or b) (c.or d) := by
  cases h with
  | none => exact h'
  | some halike => exact .some halike

/-- The fields that hold at the end, by name. -/
lemma lookup_extended {defaults : Fields} (hnodup : (defaults.map Prod.fst).Nodup)
    (hkeys : ∀ field ∈ defaults, field.1 ∈ profileParameters) (name : String) :
    (extended defaults p engine).lookup name =
      (additionAt defaults p engine name).or (p.lookup name) := by
  unfold extended additionAt
  rw [lookup_addAlias_eq, lookup_foldl_addDefault hnodup hkeys, Option.or_assoc]

lemma additionAt_alike {defaults others : Fields} (h : Alike (.obj p) (.obj q))
    (hdefaults : ∀ key, Option.Rel Alike (defaults.lookup key) (others.lookup key))
    (name : String) :
    Option.Rel Alike (additionAt defaults p engine name) (additionAt others q engine name) := by
  unfold additionAt
  refine rel_or (aliasAt_alike h name) ?_
  unfold defaultAt
  cases unwire engine name with
  | none => exact .none
  | some key =>
      rw [Option.bind_some, Option.bind_some]
      simp only [open_alike h key]
      split_ifs
      · exact hdefaults key
      · exact .none

lemma nodup_extended {defaults : Fields} (h : (p.map Prod.fst).Nodup) :
    ((extended defaults p engine).map Prod.fst).Nodup := by
  have hfold (defaults result : Fields) (h : (result.map Prod.fst).Nodup) :
      ((defaults.foldl (addDefault p engine) result).map Prod.fst).Nodup := by
    induction defaults generalizing result with
    | nil => exact h
    | cons field defaults ih =>
        rw [List.foldl_cons, addDefault_eq]
        split_ifs
        · exact ih _ (nodup_set h)
        · exact ih _ h
  unfold extended
  rw [addAlias_eq]
  split
  · exact nodup_set (hfold defaults p h)
  · exact hfold defaults p h

/-- Defaults with the same keys and alike values. -/
lemma extended_alike {defaults others : Fields} (h : Alike (.obj p) (.obj q))
    (hdefaults : Alike (.obj defaults) (.obj others))
    (hkeys : ∀ field ∈ defaults, field.1 ∈ profileParameters)
    (hothers : ∀ field ∈ others, field.1 ∈ profileParameters) :
    Alike (.obj (extended defaults p engine)) (.obj (extended others q engine)) := by
  have hlookup := hdefaults.lookup
  cases hdefaults with
  | obj hnodup hnodup' _ _ =>
  cases h with
  | obj hp hq hhas hvalues =>
      have h : Alike (.obj p) (.obj q) := .obj hp hq hhas hvalues
      refine Alike.of_lookup (nodup_extended hp) (nodup_extended hq) fun name ↦ ?_
      rw [lookup_extended hnodup hkeys, lookup_extended hnodup' hothers]
      exact rel_or (additionAt_alike h hlookup name) (h.lookup name)

lemma lookup_update_eq {others : Fields} (hnodup : (others.map Prod.fst).Nodup) (fields : Fields)
    (key : String) :
    (Json.update others fields).lookup key = (others.lookup key).or (fields.lookup key) := by
  cases hkey : others.lookup key with
  | none =>
      refine lookup_update_of_notMem (fun hmem ↦ ?_) fields
      obtain ⟨field, hfield, rfl⟩ := List.mem_map.mp hmem
      rw [lookup_of_mem hnodup hfield] at hkey
      cases hkey
  | some v => exact lookup_update hnodup (mem_of_lookup hkey) fields

lemma nodup_update {fields : Fields} (others : Fields) (h : (fields.map Prod.fst).Nodup) :
    ((Json.update others fields).map Prod.fst).Nodup := by
  induction others generalizing fields with
  | nil => exact h
  | cons other others ih => exact ih (nodup_set h)

lemma alike_nil : Alike (.obj []) (.obj []) :=
  .of_lookup List.nodup_nil List.nodup_nil fun _ ↦ .none

lemma parameters_alike {a b : Profile} (h : Alike (.obj a.fields) (.obj b.fields))
    (group : String) : Alike (.obj (a.parameters group)) (.obj (b.parameters group)) := by
  have hlookup := h.lookup group
  unfold Profile.parameters
  generalize a.fields.lookup group = v at hlookup ⊢
  generalize b.fields.lookup group = w at hlookup ⊢
  cases hlookup with
  | none => exact alike_nil
  | some halike =>
      cases halike with
      | obj hfields hothers hkeys hvalues => exact .obj hfields hothers hkeys hvalues
      | _ => exact alike_nil

lemma defaultsFor_alike {a b : Profile} (h : Alike (.obj a.fields) (.obj b.fields))
    (m : Option Mode) : Alike (.obj (defaultsFor a m)) (.obj (defaultsFor b m)) := by
  have hupdate {l l' r r' : Fields} (hl : Alike (.obj l) (.obj l'))
      (hr : Alike (.obj r) (.obj r')) :
      Alike (.obj (Json.update l r)) (.obj (Json.update l' r')) := by
    have hlookup := hl.lookup
    have hlookup' := hr.lookup
    cases hl with
    | obj hnodup hothers _ _ =>
    cases hr with
    | obj hbase hbase' _ _ =>
        refine .of_lookup (nodup_update l hbase) (nodup_update l' hbase') fun key ↦ ?_
        rw [lookup_update_eq hnodup, lookup_update_eq hothers]
        exact rel_or (hlookup key) (hlookup' key)
  unfold defaultsFor
  cases m with
  | none => exact hupdate alike_nil (parameters_alike h "defaults")
  | some m => exact hupdate (parameters_alike h m.key) (parameters_alike h "defaults")

end Defaults

/-- Profile sets that differ only in the order of the keys of their profiles. -/
def AlikeProfiles (profiles others : ModelProfiles) : Prop :=
  ∀ name, Option.Rel (fun a b : Profile ↦ Alike (.obj a.fields) (.obj b.fields))
    (profiles.models.lookup name) (others.models.lookup name)

/-- `q` is the request `p` with defaults of the profile that `p` leaves open, and with
the native field of the repetition penalty for an alias of it. -/
structure Completes (profile : Profile) (engine : String) (p q : Fields) : Prop where
  added : ∀ name v, p.lookup name = none → q.lookup name = some v →
    (∃ key, wire engine key = name ∧ (key, v) ∈ defaultsFor profile (mode text p engine) ∧
      Open p engine key) ∨
    name = native engine ∧ ∃ other ∈ repetitionAliases, p.lookup other = some v
  translated : p.lookup (native engine) = none → (∃ other ∈ repetitionAliases,
      Json.has p other = true) →
    ∃ other ∈ repetitionAliases, ∃ v, p.lookup other = some v ∧
      q.lookup (native engine) = some v

section Apply

variable {text} {p : Fields} {engine : String}

/-- What the loop added is a default that was left open. -/
lemma lookup_foldl_cases {defaults result : Fields} {name : String} {v : Json}
    (h : (defaults.foldl (addDefault p engine) result).lookup name = some v) :
    result.lookup name = some v ∨
      ∃ field ∈ defaults, wire engine field.1 = name ∧ field.2 = v ∧ Open p engine field.1 := by
  induction defaults generalizing result with
  | nil => exact .inl h
  | cons field defaults ih =>
      rw [List.foldl_cons, addDefault_eq] at h
      rcases ih h with h | ⟨other, hother, hadded⟩
      · split_ifs at h with hopen
        · rw [lookup_set] at h
          split_ifs at h with hname
          · exact .inr ⟨field, List.mem_cons_self, hname, Option.some.inj h, hopen⟩
          · exact .inl h
        · exact .inl h
      · exact .inr ⟨other, List.mem_cons_of_mem _ hother, hadded⟩

lemma aliasAt_some {name : String} {v : Json} (h : aliasAt p engine name = some v) :
    name = native engine ∧ ∃ other ∈ repetitionAliases, p.lookup other = some v := by
  unfold aliasAt at h
  split_ifs at h with hname
  obtain ⟨other, hother, hv⟩ := List.exists_of_findSome?_eq_some h
  exact ⟨hname.1, other, foreignAliases_subset hother, hv⟩

/-- Every alias but the native field is translated. -/
lemma mem_foreignAliases {name : String} (h : name ∈ repetitionAliases)
    (hne : name ≠ native engine) : name ∈ foreignAliases engine := by
  unfold foreignAliases
  split_ifs with htabby
  · subst htabby
    exact (by decide : ∀ name ∈ repetitionAliases, name ≠ native "tabbyapi" →
      name ∈ ["rep_pen", "repeat_penalty"]) name h hne
  · exact h

lemma completes (profile : Profile) (p : Fields) (engine : String) : Completes text profile engine
    p (extended (defaultsFor profile (mode text p engine)) p engine) where
  added name v hp hq := by
    unfold extended at hq
    rw [lookup_addAlias_eq, Option.or_eq_some_iff] at hq
    rcases hq with hq | ⟨-, hq⟩
    · exact .inr (aliasAt_some hq)
    · rcases lookup_foldl_cases hq with h | ⟨field, hfield, hwire, rfl, hopen⟩
      · rw [hp] at h
        cases h
      · exact .inl ⟨field.1, hwire, hfield, hopen⟩
  translated hp := by
    rintro ⟨other, hother, hhas⟩
    have hne : other ≠ native engine := by
      rintro rfl
      rw [Json.has, hp] at hhas
      cases hhas
    cases halias : aliasAt p engine (native engine) with
    | none =>
        rw [aliasAt_native_eq_none] at halias
        rcases halias with halias | halias
        · rw [Json.has, hp] at halias
          cases halias
        · rw [Json.has, halias other (mem_foreignAliases hother hne)] at hhas
          cases hhas
    | some v =>
        obtain ⟨-, name, hname, hv⟩ := aliasAt_some halias
        refine ⟨name, hname, v, hv, ?_⟩
        unfold extended
        rw [lookup_addAlias_eq, halias, Option.some_or]

end Apply

/-- The caller's fields keep their values, only what the caller leaves open is added,
a second application adds nothing, and neither does a model without a profile; the
order of the keys makes no difference. -/
theorem defaults_never_override (profiles : ModelProfiles) (engine : String) (model : Json)
    (p : Fields) :
    Extends p (profiles.apply text p engine model) ∧
      (∀ name profile, model = .str name →
        profiles.models.lookup s!"{engine}/{name}" = some profile →
        Completes text profile engine p (profiles.apply text p engine model)) ∧
      profiles.apply text (profiles.apply text p engine model) engine model =
        profiles.apply text p engine model ∧
      ((∀ name, model = .str name → profiles.models.lookup s!"{engine}/{name}" = none) →
        profiles.apply text p engine model = p) ∧
      ∀ others q, AlikeProfiles profiles others → Alike (.obj p) (.obj q) →
        Alike (.obj (profiles.apply text p engine model))
          (.obj (others.apply text q engine model)) := by
  have hsame : Extends p p := fun _ _ ↦ id
  simp only [apply_eq]
  cases model with
  | str name =>
      dsimp only
      refine ⟨?_, ?_, ?_, fun h ↦ ?_, fun others q hothers hq ↦ ?_⟩
      · cases profiles.models.lookup s!"{engine}/{name}" with
        | none => exact hsame
        | some profile =>
            obtain ⟨more, hmore⟩ :=
              extended_append (defaultsFor profile (mode text p engine)) p engine
            dsimp only
            rw [hmore]
            exact extends_append p more
      · rintro _ profile ⟨⟩ hprofile
        rw [hprofile]
        exact completes profile p engine
      · cases hprofile : profiles.models.lookup s!"{engine}/{name}" with
        | none => rfl
        | some profile =>
            have hmode := (mode_congr text engine fun _ hkey ↦
              lookup_apply text profiles p engine (.str name) hkey)
            rw [apply_eq] at hmode
            dsimp only at hmode ⊢
            rw [hprofile] at hmode
            dsimp only at hmode
            rw [hmode]
            exact extended_settled fun _ ↦ mem_defaultsFor
      · rw [h name rfl]
      · have hprofile := hothers s!"{engine}/{name}"
        rw [← mode_alike hq]
        generalize profiles.models.lookup s!"{engine}/{name}" = a at hprofile ⊢
        generalize others.models.lookup s!"{engine}/{name}" = b at hprofile ⊢
        cases hprofile with
        | none => exact hq
        | some halike =>
            exact extended_alike hq (defaultsFor_alike halike _) (fun _ ↦ mem_defaultsFor)
              fun _ ↦ mem_defaultsFor
  | _ => exact ⟨hsame, nofun, rfl, fun _ ↦ rfl, fun _ _ _ hq ↦ hq⟩

end StProxy.Profiles
