import StProxy.Workflows.Exact
import StProxy.Workflows.Schema

/-!
# Normalization and the published schema

`normalize` accepts just the objects that satisfy the schema of `describe`, unless the
default mode has a name that is too long for a value.
-/

namespace StProxy.Workflows

open Json Checked

/-- The parameters of a manifest are a dictionary. -/
def HasDistinctParameters (manifest : Json) : Prop :=
  ∀ fields parameters, manifest = .obj fields → Json.get fields "parameters" = .obj parameters →
    (parameters.map Prod.fst).Nodup

/-- `secrets.randbelow`. -/
def IsRandBelow (randbelow : ℤ → ℤ) : Prop :=
  ∀ n, 0 < n → 0 ≤ randbelow n ∧ randbelow n < n

/-- The values pass `normalize`, with a seed within its bounds. -/
structure Workflow.SeedResolved (w : Workflow) (values : Fields) : Prop where
  passes : ∃ result, w.normalize (.obj values) = .ok result
  seed : ∀ v, values.lookup "seed" = some v → Conforms (schemaOf w.seedSpec) v
  drawn : flag w.seedSpec "random_default" = true → ∃ seed low high,
    values.lookup "seed" = some (.int seed) ∧ Json.get w.seedSpec "minimum" = .int low ∧
      Json.get w.seedSpec "maximum" = .int high ∧ low ≤ seed ∧ seed ≤ high

/-- Normalization agrees with the published schema. -/
structure Workflow.SchemaAgrees (w : Workflow) : Prop where
  accepts : ∀ given, (∃ values, w.normalize (.obj given) = .ok values) ↔ Satisfies w.schema given
  /-- An optional parameter that is omitted does not cause a rejection. -/
  omitted : ∀ parameter ∈ w.parameters, parameter.1 ∉ w.required →
    ∀ given, given.lookup parameter.1 = none → ∃ value, normalizeValue given parameter = .ok value
  /-- Every parameter has a value, but for a seed that is left to chance. -/
  complete : ∀ given values, w.normalize (.obj given) = .ok values → ∀ parameter ∈ w.parameters,
    parameter.1 ∈ values.map Prod.fst ∨ parameter.1 = "seed" ∧
      flag parameter.2.fields "random_default" = true ∧ Json.has given "seed" = false
  idempotent : ∀ given values, w.normalize (.obj given) = .ok values →
    w.normalize (.obj values) = .ok values
  /-- A default may be supplied or omitted. -/
  default : ∀ parameter ∈ w.parameters, parameter.1 ∉ w.required →
    ∀ value, parameter.2.fields.lookup "default" = some value →
      ∀ given, given.lookup parameter.1 = none →
        w.normalize (.obj (Json.set parameter.1 value given)) = w.normalize (.obj given)
  resolved : ∀ given values randbelow, w.normalize (.obj given) = .ok values →
    IsRandBelow randbelow → w.SeedResolved (w.resolveSeed randbelow values)

/-! ## What `load` checks of a parameter -/

/-- What `load` checks of the default of a parameter. -/
structure Spec.Checked (name : String) (spec : Fields) : Prop where
  default : ∀ value, spec.lookup "default" = some value → checkValue spec value = .ok ()
  random : flag spec "random_default" = true → IsRandomSeed name spec
  optional : flag spec "required" = true ∨ Json.has spec "default" = true ∨
    flag spec "random_default" = true

section Load

variable {text : Text} {directory : Directory} {g : Graph} {w : Workflow}
  {controlled mapped : List (String × String)}

lemma checked_of_checkSpec {name : String} {spec : Fields} {target : Target}
    (h : checkSpec name spec = .ok target) : Spec.Checked name spec := by
  unfold checkSpec at h
  obtain ⟨-, h⟩ := of_bind_unit h
  obtain ⟨-, h⟩ := of_bind_unit h
  obtain ⟨-, h⟩ := of_bind_unit h
  obtain ⟨-, h⟩ := of_bind_unit h
  obtain ⟨hdefault, h⟩ := of_bind_unit h
  obtain ⟨hrandom, h⟩ := of_bind_unit h
  obtain ⟨hoptional, -⟩ := of_bind_unit h
  refine ⟨fun value hvalue ↦ ?_, check_eq_ok.mp hrandom, check_eq_ok.mp hoptional⟩
  unfold checkDefault at hdefault
  rw [hvalue] at hdefault
  exact (of_bind_unit hdefault).1

lemma checked_of_loadParameter {parameter : String × Json} {loaded : String × Spec}
    (h : loadParameter g controlled mapped parameter = .ok loaded) :
    Spec.Checked loaded.1 loaded.2.fields := by
  unfold loadParameter at h
  split at h
  · obtain ⟨-, h⟩ := of_bind_unit h
    obtain ⟨target, htarget, h⟩ := bind_eq_ok.mp h
    obtain ⟨inputs, -, h⟩ := bind_eq_ok.mp h
    obtain ⟨-, h⟩ := of_bind_unit h
    obtain ⟨-, h⟩ := of_bind_unit h
    obtain ⟨-, h⟩ := of_bind_unit h
    obtain rfl := pure_eq_ok.mp h
    exact checked_of_checkSpec htarget
  · cases h

lemma checked_of_loadParameters {parameters : Fields} {loaded result : List (String × Spec)}
    (h : loadParameters g controlled parameters loaded = .ok result)
    (hloaded : ∀ parameter ∈ loaded, Spec.Checked parameter.1 parameter.2.fields) :
    ∀ parameter ∈ result, Spec.Checked parameter.1 parameter.2.fields := by
  induction parameters generalizing loaded with
  | nil =>
      cases h
      exact hloaded
  | cons parameter rest ih =>
      unfold loadParameters at h
      obtain ⟨spec, hspec, h⟩ := bind_eq_ok.mp h
      refine ih h (List.forall_mem_append.mpr ⟨hloaded, ?_⟩)
      exact List.forall_mem_singleton.mpr (checked_of_loadParameter hspec)

/-- What normalization relies on. -/
structure Workflow.Wellformed (w : Workflow) : Prop where
  nodup : (w.parameters.map Prod.fst).Nodup
  checked : ∀ parameter ∈ w.declared, Spec.Checked parameter.1 parameter.2.fields
  modes : ∀ modes ∈ w.modes, modes.default ∈ modes.definitions.map Prod.fst

lemma parameters_of_loadHeader {fields : Fields} {header : Header}
    (h : loadHeader text directory fields = .ok header) :
    Json.get fields "parameters" = .obj header.parameters := by
  obtain ⟨-, h⟩ := of_bind_unit h
  split at h
  · obtain ⟨graph, -, h⟩ := bind_eq_ok.mp h
    split at h
    · split at h
      · next hparameters _ =>
          obtain rfl := pure_eq_ok.mp h
          exact hparameters
      · cases h
    · cases h
  · cases h

/-- The names of the parameters are those of the manifest, and the switches. -/
lemma names_of_load {manifest : Json} (h : Workflow.load text directory manifest = .ok w)
    (hdistinct : HasDistinctParameters manifest) : (w.declared.map Prod.fst).Nodup ∧
      ∀ parameter ∈ w.declared, Spec.Checked parameter.1 parameter.2.fields := by
  unfold Workflow.load at h
  split at h
  · next fields =>
      obtain ⟨header, hheader, h⟩ := bind_eq_ok.mp h
      obtain ⟨nsfwLoras, hnsfw, h⟩ := bind_eq_ok.mp h
      obtain ⟨declared, hdeclared, h⟩ := bind_eq_ok.mp h
      obtain ⟨⟨outputs, roots⟩, -, h⟩ := bind_eq_ok.mp h
      obtain ⟨references, -, h⟩ := bind_eq_ok.mp h
      obtain ⟨guidance, -, h⟩ := bind_eq_ok.mp h
      obtain ⟨modes, -, h⟩ := bind_eq_ok.mp h
      obtain rfl := pure_eq_ok.mp h
      have hnsfw := loadNsfwLoras_ok (handled_eq_ok.mp hnsfw)
      have hdeclared := handled_eq_ok.mp hdeclared
      have hnames := (loadParameters_ok hdeclared ⟨List.forall_mem_nil _,
        by simpa [targetsOf] using hnsfw.1, List.forall_mem_nil _⟩).2
      refine ⟨?_, checked_of_loadParameters hdeclared (List.forall_mem_nil _)⟩
      change (declared.map Prod.fst).Nodup
      rw [hnames, List.map_nil, List.nil_append]
      exact hdistinct fields header.parameters rfl (parameters_of_loadHeader hheader)
  · cases h

lemma nodup_append_singleton {l : List String} {a : String} (h : l.Nodup) (ha : a ∉ l) :
    (l ++ [a]).Nodup := by
  refine List.nodup_append.mpr ⟨h, List.nodup_singleton a, fun b hb c hc hbc ↦ ha ?_⟩
  rwa [hbc, List.mem_singleton.mp hc] at hb

lemma wellformed_of_load {manifest : Json} (h : Workflow.load text directory manifest = .ok w)
    (hdistinct : HasDistinctParameters manifest) : w.Wellformed := by
  have hw := load_ok h
  obtain ⟨hnodup, hchecked⟩ := names_of_load h hdistinct
  have hnsfw (loras : NsfwLoras) (hloras : w.nsfwLoras = some loras) :
      "nsfw" ∉ w.declared.map Prod.fst := (hw.nsfw loras hloras).2
  refine ⟨?_, hchecked, fun modes hmodes ↦ (hw.modes modes hmodes).2.default⟩
  unfold Workflow.parameters
  cases hmodes : w.modes with
  | none =>
      cases hloras : w.nsfwLoras with
      | none => simpa using hnodup
      | some loras => simpa using nodup_append_singleton hnodup (hnsfw loras hloras)
  | some modes =>
      have hmode := nodup_append_singleton hnodup (hw.modes modes hmodes).1
      cases hloras : w.nsfwLoras with
      | none => simpa using hmode
      | some loras =>
          have hne : "nsfw" ≠ "mode" := by decide
          have hmem : "nsfw" ∉ w.declared.map Prod.fst ++ ["mode"] := by
            simpa [hne] using hnsfw loras hloras
          simpa using nodup_append_singleton hmode hmem

end Load

/-! ## The loop of `normalize` -/

section Loop

variable {given given' values result : Fields} {parameter : String × Spec}
  {parameters : List (String × Spec)} {w : Workflow}

lemma normalizeAll_isOk :
    (∃ result, normalizeAll given parameters values = .ok result) ↔
      ∀ parameter ∈ parameters, ∃ value, normalizeValue given parameter = .ok value := by
  induction parameters generalizing values with
  | nil => exact ⟨fun _ ↦ List.forall_mem_nil _, fun _ ↦ ⟨values, rfl⟩⟩
  | cons parameter parameters ih =>
      rw [List.forall_mem_cons]
      unfold normalizeAll
      cases hvalue : normalizeValue given parameter with
      | error e =>
          constructor
          · rintro ⟨_, h⟩
            cases h
          · rintro ⟨⟨_, h⟩, -⟩
            cases h
      | ok value =>
          cases value with
          | none => exact ih.trans ⟨fun h ↦ ⟨⟨_, rfl⟩, h⟩, And.right⟩
          | some v => exact ih.trans ⟨fun h ↦ ⟨⟨_, rfl⟩, h⟩, And.right⟩

/-- The loop reads the values of its parameters only. -/
lemma normalizeAll_congr (h : ∀ parameter ∈ parameters,
    normalizeValue given parameter = normalizeValue given' parameter) :
    normalizeAll given parameters values = normalizeAll given' parameters values := by
  induction parameters generalizing values with
  | nil => rfl
  | cons parameter parameters ih =>
      obtain ⟨hparameter, hrest⟩ := List.forall_mem_cons.mp h
      unfold normalizeAll
      rw [hparameter]
      cases normalizeValue given' parameter with
      | error e => rfl
      | ok value => cases value <;> exact ih hrest

/-- Every parameter has the value that was computed for it. -/
lemma lookup_normalizeAll (h : normalizeAll given parameters values = .ok result)
    (hnodup : (parameters.map Prod.fst).Nodup)
    (hvalues : ∀ name ∈ parameters.map Prod.fst, values.lookup name = none) :
    (∀ parameter ∈ parameters,
      normalizeValue given parameter = .ok (result.lookup parameter.1)) ∧
      ∀ name ∉ parameters.map Prod.fst, result.lookup name = values.lookup name := by
  induction parameters generalizing values with
  | nil =>
      cases h
      exact ⟨List.forall_mem_nil _, fun _ _ ↦ rfl⟩
  | cons parameter parameters ih =>
      obtain ⟨hfresh, hnodup⟩ := List.nodup_cons.mp hnodup
      obtain ⟨hnone, hrest⟩ := List.forall_mem_cons.mp hvalues
      unfold normalizeAll at h
      obtain ⟨value, hvalue, h⟩ := bind_eq_ok.mp h
      cases value with
      | none =>
          obtain ⟨hall, hothers⟩ := ih h hnodup hrest
          refine ⟨List.forall_mem_cons.mpr ⟨?_, hall⟩, fun name hname ↦
            hothers name fun hmem ↦ hname (List.mem_cons_of_mem _ hmem)⟩
          rw [hvalue, hothers _ hfresh, hnone]
      | some v =>
          have hset : ∀ name ∈ parameters.map Prod.fst,
              (Json.set parameter.1 v values).lookup name = none := fun name hname ↦ by
            rw [lookup_set_of_ne _ _ fun e : parameter.1 = name ↦ hfresh (e ▸ hname)]
            exact hrest name hname
          obtain ⟨hall, hothers⟩ := ih h hnodup hset
          refine ⟨List.forall_mem_cons.mpr ⟨?_, hall⟩, fun name hname ↦ ?_⟩
          · rw [hvalue, hothers _ hfresh, lookup_set, if_pos rfl]
          · obtain ⟨hne, hname⟩ := not_or.mp fun h ↦ hname (List.mem_cons.mpr h)
            rw [hothers name hname, lookup_set_of_ne _ _ (Ne.symm hne)]

end Loop

/-! ## One parameter -/

section Value

variable {given : Fields} {parameter : String × Spec} {v : Json} {value : Option Json}

lemma normalizeValue_given (h : given.lookup parameter.1 = some v) :
    normalizeValue given parameter = .ok value ↔
      checkValue parameter.2.fields v = .ok () ∧ value = some v := by
  unfold normalizeValue
  rw [h]
  dsimp only
  cases checkValue parameter.2.fields v with
  | ok u => simp [eq_comm]
  | error e => simp

lemma normalizeValue_required (h : given.lookup parameter.1 = none)
    (hrequired : flag parameter.2.fields "required" = true) :
    normalizeValue given parameter ≠ .ok value := by
  simp [normalizeValue, h, hrequired]

lemma normalizeValue_random (h : given.lookup parameter.1 = none)
    (hrequired : flag parameter.2.fields "required" = false)
    (hrandom : flag parameter.2.fields "random_default" = true) :
    normalizeValue given parameter = .ok none := by
  simp [normalizeValue, h, hrequired, hrandom]

lemma normalizeValue_default (h : given.lookup parameter.1 = none)
    (hrequired : flag parameter.2.fields "required" = false)
    (hrandom : flag parameter.2.fields "random_default" = false) :
    normalizeValue given parameter = .ok value ↔
      checkValue parameter.2.fields (Json.get parameter.2.fields "default") = .ok () ∧
        value = some (Json.get parameter.2.fields "default") := by
  unfold normalizeValue
  rw [h, hrequired, hrandom]
  simp only [Bool.false_eq_true, if_false]
  cases checkValue parameter.2.fields (Json.get parameter.2.fields "default") with
  | ok u => simp [eq_comm]
  | error e => simp

/-- A value that was computed is accepted, and computed again. -/
lemma normalizeValue_again {values : Fields}
    (h : normalizeValue given parameter = .ok (values.lookup parameter.1)) :
    normalizeValue values parameter = .ok (values.lookup parameter.1) := by
  cases hvalue : values.lookup parameter.1 with
  | some v =>
      rw [hvalue] at h
      rcases normalizeValue_ok h with ⟨w, hw, hchecked⟩ | ⟨hnone, -⟩
      · obtain rfl := Option.some.inj hw
        exact (normalizeValue_given hvalue).mpr ⟨hchecked, rfl⟩
      · cases hnone
  | none =>
      rw [hvalue] at h
      cases hgiven : given.lookup parameter.1 with
      | some v => cases ((normalizeValue_given hgiven).mp h).2
      | none =>
          rcases normalizeValue_ok h with ⟨w, hw, -⟩ | ⟨-, hrandom⟩
          · cases hw
          · refine normalizeValue_random hvalue (Bool.eq_false_iff.mpr fun hrequired ↦ ?_) hrandom
            exact normalizeValue_required hgiven hrequired h

end Value

/-! ## The seed -/

section Seed

variable {name : String} {spec : Fields} {v : Json}

lemma OfType.exists_int (h : OfType (.str "integer") v) : ∃ n, v = .int n := by
  generalize htype : Json.str "integer" = type at h
  cases h with
  | integer n => exact ⟨n, rfl⟩
  | _ => simp at htype

/-- The limits of a seed that may be left to chance. -/
lemma IsRandomSeed.bounds (h : IsRandomSeed name spec) : ∃ low high,
    Json.get spec "minimum" = .int low ∧ Json.get spec "maximum" = .int high ∧ low ≤ high := by
  obtain ⟨-, -, -, -, -, -, -, h⟩ := h
  split at h
  · next low high hlow hhigh => exact ⟨low, high, hlow, hhigh, (of_decide_eq_true h).2.1⟩
  · cases h

lemma boundOf_of_get {key : String} {n : ℤ} (h : Json.get spec key = .int n) :
    boundOf spec key = n := by
  unfold Json.get at h
  unfold boundOf
  cases hlookup : spec.lookup key with
  | none =>
      rw [hlookup] at h
      cases h
  | some v =>
      rw [hlookup] at h
      obtain rfl : v = .int n := h
      rfl

lemma IsRandomSeed.conforms_iff (h : IsRandomSeed name spec) {low high : ℤ}
    (hlow : Json.get spec "minimum" = .int low) (hhigh : Json.get spec "maximum" = .int high) :
    checkValue spec v = .ok () ↔ ∃ seed, v = .int seed ∧ low ≤ seed ∧ seed ≤ high := by
  obtain ⟨-, htype, -, -, -, henum, hmultiple, -⟩ := h
  have htype := eq_str htype
  have henum := has_eq_false.mp henum
  have hmultiple : Json.get spec "multipleOf" = .null := by
    rw [Json.get, has_eq_false.mp hmultiple]
    rfl
  rw [checkValue_eq_ok, conforms_schemaOf, StProxy.Workflows.conforms_iff, htype, henum]
  unfold WithinLimits
  rw [hlow, hhigh, hmultiple]
  constructor
  · rintro ⟨hinteger, ⟨⟨hmin, hmax, -⟩, -⟩, -⟩
    obtain ⟨seed, rfl⟩ := hinteger.exists_int
    exact ⟨seed, rfl, Rat.intCast_le_intCast.mp (hmin seed low (.int seed) rfl),
      Rat.intCast_le_intCast.mp (hmax seed high (.int seed) rfl)⟩
  · rintro ⟨seed, rfl, hmin, hmax⟩
    refine ⟨.integer seed, ⟨⟨?_, ?_, by rintro _ _ _ ⟨⟩⟩, by rintro _ ⟨⟩⟩, by simp⟩
    · rintro _ _ ⟨⟩ ⟨⟩
      exact Rat.intCast_le_intCast.mpr hmin
    · rintro _ _ ⟨⟩ ⟨⟩
      exact Rat.intCast_le_intCast.mpr hmax

end Seed

/-! ## All parameters -/

/-- A default that `normalize` inserts passes its own check. -/
def Spec.Sound (spec : Fields) : Prop :=
  flag spec "required" = false → flag spec "random_default" = false →
    checkValue spec (Json.get spec "default") = .ok ()

section Agreement

variable {w : Workflow} {given values : Fields} {parameter : String × Spec}

lemma Workflow.Wellformed.lookup_properties (hw : w.Wellformed) (hmem : parameter ∈ w.parameters) :
    w.properties.lookup parameter.1 = some (.obj (schemaOf parameter.2.fields)) := by
  have hproperty : (parameter.1, Json.obj (schemaOf parameter.2.fields)) ∈ w.properties :=
    List.mem_map.mpr ⟨parameter, hmem, rfl⟩
  refine lookup_of_mem ?_ hproperty
  rw [Workflow.properties, List.map_map]
  exact hw.nodup

lemma Workflow.Wellformed.mem_required (hw : w.Wellformed) (hmem : parameter ∈ w.parameters) :
    parameter.1 ∈ w.required ↔ flag parameter.2.fields "required" = true := by
  constructor
  · intro h
    obtain ⟨other, hother, hname⟩ := List.mem_map.mp h
    obtain ⟨hother, hrequired⟩ := List.mem_filter.mp hother
    obtain rfl := List.inj_on_of_nodup_map hw.nodup hother hmem hname
    exact hrequired
  · exact fun h ↦ List.mem_map_of_mem (List.mem_filter.mpr ⟨hmem, h⟩)

lemma Workflow.Wellformed.optional (hw : w.Wellformed) (hmem : parameter ∈ w.parameters)
    (h : parameter.1 ∉ w.required) : flag parameter.2.fields "required" = false :=
  Bool.eq_false_iff.mpr fun hrequired ↦ h ((hw.mem_required hmem).mpr hrequired)

lemma Workflow.Wellformed.randomSeed (hw : w.Wellformed) (hmem : parameter ∈ w.parameters)
    (hrandom : flag parameter.2.fields "random_default" = true) :
    IsRandomSeed parameter.1 parameter.2.fields := by
  rcases mem_parameters.mp hmem with hmem | ⟨modes, -, rfl⟩ | ⟨-, rfl⟩
  · exact (hw.checked parameter hmem).random hrandom
  · cases hrandom
  · cases hrandom

/-- What the published schema says, parameter by parameter. -/
lemma Workflow.Wellformed.satisfies_iff (hw : w.Wellformed) : Satisfies w.schema given ↔
    (∀ field ∈ given, field.1 ∈ w.parameters.map Prod.fst) ∧ ∀ parameter ∈ w.parameters,
      (flag parameter.2.fields "required" = true → given.lookup parameter.1 ≠ none) ∧
      ∀ v, given.lookup parameter.1 = some v → checkValue parameter.2.fields v = .ok () := by
  have hnames : w.properties.map Prod.fst = w.parameters.map Prod.fst := by
    rw [Workflow.properties, List.map_map]
    rfl
  constructor
  · rintro ⟨fields, properties, required, ⟨⟩, ⟨⟩, ⟨⟩, hknown, hrequired, hvalues⟩
    refine ⟨hnames ▸ hknown, fun parameter hmem ↦ ⟨fun hflag hnone ↦ ?_, fun v hv ↦ ?_⟩⟩
    · have hhas := hrequired parameter.1 (List.mem_map_of_mem ((hw.mem_required hmem).mpr hflag))
      rw [Json.has, hnone] at hhas
      cases hhas
    · exact checkValue_eq_ok.mpr (hvalues _ v _ hv (hw.lookup_properties hmem))
  · rintro ⟨hknown, hvalues⟩
    refine ⟨_, _, _, rfl, rfl, rfl, hnames ▸ hknown, fun name hname ↦ ?_, ?_⟩
    · obtain ⟨other, hother, ⟨⟩⟩ := List.mem_map.mp hname
      obtain ⟨parameter, hparameter, rfl⟩ := List.mem_map.mp hother
      obtain ⟨hmem, hflag⟩ := List.mem_filter.mp hparameter
      exact Option.isSome_iff_ne_none.mpr ((hvalues parameter hmem).1 hflag)
    · intro name v property hv hproperty
      obtain ⟨parameter, hmem, heq⟩ := List.mem_map.mp (mem_of_lookup_eq hproperty)
      obtain ⟨rfl, hschema⟩ := Prod.mk.inj heq
      cases hschema
      exact checkValue_eq_ok.mp ((hvalues parameter hmem).2 v hv)

lemma normalize_eq (h : ∀ field ∈ given, field.1 ∈ w.parameters.map Prod.fst) :
    w.normalize (.obj given) = normalizeAll given w.parameters [] :=
  if_pos (List.all_eq_true.mpr fun field hfield ↦ List.contains_iff_mem.mpr (h field hfield))

lemma normalize_unknown (h : ¬∀ field ∈ given, field.1 ∈ w.parameters.map Prod.fst) :
    w.normalize (.obj given) = .error "unknown parameter or invalid parameter object" :=
  if_neg fun hall ↦ h fun field hfield ↦
    List.contains_iff_mem.mp (List.all_eq_true.mp hall field hfield)

lemma known_of_normalize (h : w.normalize (.obj given) = .ok values) :
    ∀ field ∈ given, field.1 ∈ w.parameters.map Prod.fst := by
  by_contra hunknown
  rw [normalize_unknown hunknown] at h
  cases h

/-- The value of each parameter after `normalize`. -/
lemma Workflow.Wellformed.normalized (hw : w.Wellformed)
    (h : w.normalize (.obj given) = .ok values) (hmem : parameter ∈ w.parameters) :
    normalizeValue given parameter = .ok (values.lookup parameter.1) := by
  rw [normalize_eq (known_of_normalize h)] at h
  exact (lookup_normalizeAll h hw.nodup fun _ _ ↦ rfl).1 parameter hmem

lemma known_of_normal (h : w.normalize (.obj given) = .ok values) :
    ∀ field ∈ values, field.1 ∈ w.parameters.map Prod.fst := fun field hfield ↦ by
  obtain ⟨parameter, hmem, hname, -⟩ := (normalize_ok h).1.checked field hfield
  exact hname ▸ List.mem_map_of_mem hmem

lemma Workflow.Wellformed.idempotent (hw : w.Wellformed)
    (h : w.normalize (.obj given) = .ok values) : w.normalize (.obj values) = .ok values := by
  rw [normalize_eq (known_of_normal h), ← h, normalize_eq (known_of_normalize h)]
  refine normalizeAll_congr fun parameter hmem ↦ ?_
  rw [normalizeValue_again (hw.normalized h hmem), hw.normalized h hmem]

lemma Workflow.Wellformed.accepts (hw : w.Wellformed)
    (hsound : ∀ parameter ∈ w.parameters, Spec.Sound parameter.2.fields) :
    (∃ values, w.normalize (.obj given) = .ok values) ↔ Satisfies w.schema given := by
  have hvalue (parameter : String × Spec) (hmem : parameter ∈ w.parameters) :
      (∃ value, normalizeValue given parameter = .ok value) ↔
        (flag parameter.2.fields "required" = true → given.lookup parameter.1 ≠ none) ∧
        ∀ v, given.lookup parameter.1 = some v → checkValue parameter.2.fields v = .ok () := by
    cases hgiven : given.lookup parameter.1 with
    | some v => simp [normalizeValue_given hgiven]
    | none =>
        cases hrequired : flag parameter.2.fields "required" with
        | true => simp [normalizeValue_required hgiven hrequired]
        | false =>
            cases hrandom : flag parameter.2.fields "random_default" with
            | true => simp [normalizeValue_random hgiven hrequired hrandom]
            | false =>
                simp [normalizeValue_default hgiven hrequired hrandom,
                  hsound parameter hmem hrequired hrandom]
  rw [hw.satisfies_iff]
  constructor
  · rintro ⟨values, h⟩
    have hknown := known_of_normalize h
    rw [normalize_eq hknown] at h
    exact ⟨hknown, fun parameter hmem ↦
      (hvalue parameter hmem).mp (normalizeAll_isOk.mp ⟨values, h⟩ parameter hmem)⟩
  · rintro ⟨hknown, hvalues⟩
    rw [normalize_eq hknown]
    exact normalizeAll_isOk.mpr fun parameter hmem ↦
      (hvalue parameter hmem).mpr (hvalues parameter hmem)

lemma Workflow.Wellformed.complete (hw : w.Wellformed)
    (h : w.normalize (.obj given) = .ok values) (hmem : parameter ∈ w.parameters) :
    parameter.1 ∈ values.map Prod.fst ∨ parameter.1 = "seed" ∧
      flag parameter.2.fields "random_default" = true ∧ Json.has given "seed" = false := by
  have hvalue := hw.normalized h hmem
  cases hlookup : values.lookup parameter.1 with
  | some v => exact .inl (List.mem_map_of_mem (mem_of_lookup_eq hlookup))
  | none =>
      rw [hlookup] at hvalue
      rcases normalizeValue_ok hvalue with ⟨v, hv, -⟩ | ⟨-, hrandom⟩
      · cases hv
      · have hname : parameter.1 = "seed" := (hw.randomSeed hmem hrandom).1
        refine .inr ⟨hname, hrandom, has_eq_false.mpr ?_⟩
        rw [← hname]
        cases hgiven : given.lookup parameter.1 with
        | none => rfl
        | some v => cases ((normalizeValue_given hgiven).mp hvalue).2

/-- Only the parameter that is set may have another value. -/
lemma Workflow.Wellformed.normalizeValue_set (hw : w.Wellformed) (hmem : parameter ∈ w.parameters)
    {other : String × Spec} (hother : other ∈ w.parameters) (hne : other ≠ parameter) (v : Json) :
    normalizeValue (Json.set parameter.1 v given) other = normalizeValue given other := by
  have hname : parameter.1 ≠ other.1 := fun h ↦
    hne (List.inj_on_of_nodup_map hw.nodup hother hmem h.symm)
  unfold normalizeValue
  rw [lookup_set_of_ne _ _ hname]

lemma known_set (hmem : parameter ∈ w.parameters) (v : Json) :
    (∀ field ∈ Json.set parameter.1 v given, field.1 ∈ w.parameters.map Prod.fst) ↔
      ∀ field ∈ given, field.1 ∈ w.parameters.map Prod.fst := by
  constructor
  · intro h field hfield
    obtain ⟨other, hother, hname⟩ := List.mem_map.mp
      (mem_keys_set.mpr (.inr (List.mem_map_of_mem hfield)))
    exact hname ▸ h other hother
  · intro h field hfield
    rcases mem_set hfield with rfl | hfield
    · exact List.mem_map_of_mem hmem
    · exact h field hfield

lemma Workflow.Wellformed.default_eq (hw : w.Wellformed) (hmem : parameter ∈ w.parameters)
    (hoptional : parameter.1 ∉ w.required) {v : Json}
    (hdefault : parameter.2.fields.lookup "default" = some v)
    (hnone : given.lookup parameter.1 = none) :
    w.normalize (.obj (Json.set parameter.1 v given)) = w.normalize (.obj given) := by
  have hrequired := hw.optional hmem hoptional
  have hrandom : flag parameter.2.fields "random_default" = false :=
    Bool.eq_false_iff.mpr fun hrandom ↦ by
      have hhas := (hw.randomSeed hmem hrandom).2.2.1
      rw [Json.has, hdefault] at hhas
      cases hhas
  have hset : (Json.set parameter.1 v given).lookup parameter.1 = some v := by
    rw [lookup_set, if_pos rfl]
  have hget : Json.get parameter.2.fields "default" = v := by
    rw [Json.get, hdefault]
    rfl
  have hsame : normalizeValue (Json.set parameter.1 v given) parameter =
      normalizeValue given parameter := by
    unfold normalizeValue
    rw [hset, hnone, hrequired, hrandom, hget]
    rfl
  by_cases hknown : ∀ field ∈ given, field.1 ∈ w.parameters.map Prod.fst
  · rw [normalize_eq hknown, normalize_eq ((known_set hmem v).mpr hknown)]
    refine normalizeAll_congr fun other hother ↦ ?_
    by_cases hne : other = parameter
    · rw [hne, hsame]
    · exact hw.normalizeValue_set hmem hother hne v
  · have hknown' := fun h ↦ hknown ((known_set hmem v).mp h)
    rw [normalize_unknown hknown, normalize_unknown hknown']

lemma Workflow.Wellformed.seedSpec (hw : w.Wellformed) (hmem : parameter ∈ w.parameters)
    (hname : parameter.1 = "seed") : w.seedSpec = parameter.2.fields := by
  rw [Workflow.seedSpec, ← hname, lookup_of_mem hw.nodup hmem]

/-- A seed that is left to chance is a parameter. -/
lemma exists_seed (h : flag w.seedSpec "random_default" = true) :
    ∃ spec, ("seed", spec) ∈ w.parameters := by
  cases hspec : w.parameters.lookup "seed" with
  | some spec => exact ⟨spec, mem_of_lookup_eq hspec⟩
  | none => simp [Workflow.seedSpec, hspec, flag] at h

/-- Values that pass `normalize` have a seed within its bounds, where they have one. -/
lemma Workflow.Wellformed.seedResolved (hw : w.Wellformed)
    (h : ∃ result, w.normalize (.obj values) = .ok result) (hdraws : w.drawsSeed values = false) :
    w.SeedResolved values := by
  have ⟨result, hresult⟩ := h
  have hknown := known_of_normalize hresult
  have hchecked (parameter : String × Spec) (hmem : parameter ∈ w.parameters) (v : Json)
      (hv : values.lookup parameter.1 = some v) : checkValue parameter.2.fields v = .ok () :=
    ((normalizeValue_given hv).mp (hw.normalized hresult hmem)).1
  refine ⟨h, fun v hv ↦ ?_, fun hrandom ↦ ?_⟩
  · obtain ⟨parameter, hmem, hname⟩ := List.mem_map.mp (hknown _ (mem_of_lookup_eq hv))
    rw [hw.seedSpec hmem hname]
    exact checkValue_eq_ok.mp (hchecked parameter hmem v (hname ▸ hv))
  · obtain ⟨spec, hmem⟩ := exists_seed hrandom
    have hspec : w.seedSpec = spec.fields := hw.seedSpec hmem rfl
    have hseed : IsRandomSeed "seed" spec.fields := hw.randomSeed hmem (hspec ▸ hrandom)
    obtain ⟨low, high, hlow, hhigh, -⟩ := hseed.bounds
    have hhas : Json.has values "seed" = true := by
      simpa [Workflow.drawsSeed, hrandom] using hdraws
    obtain ⟨v, hv⟩ := Option.isSome_iff_exists.mp hhas
    obtain ⟨seed, rfl, hbounds⟩ := (hseed.conforms_iff hlow hhigh).mp (hchecked _ hmem v hv)
    exact ⟨seed, low, high, hv, hspec ▸ hlow, hspec ▸ hhigh, hbounds⟩

/-- A drawn seed passes the checks of its parameter. -/
lemma Workflow.Wellformed.passes_set (hw : w.Wellformed)
    (h : w.normalize (.obj given) = .ok values) (hmem : parameter ∈ w.parameters) {v : Json}
    (hv : checkValue parameter.2.fields v = .ok ()) :
    ∃ result, w.normalize (.obj (Json.set parameter.1 v given)) = .ok result := by
  have hknown := known_of_normalize h
  rw [normalize_eq hknown] at h
  rw [normalize_eq ((known_set hmem v).mpr hknown)]
  refine normalizeAll_isOk.mpr fun other hother ↦ ?_
  by_cases hne : other = parameter
  · have hset : (Json.set parameter.1 v given).lookup parameter.1 = some v := by
      rw [lookup_set, if_pos rfl]
    exact ⟨some v, hne ▸ (normalizeValue_given hset).mpr ⟨hv, rfl⟩⟩
  · rw [hw.normalizeValue_set hmem hother hne v]
    exact normalizeAll_isOk.mp ⟨values, h⟩ other hother

lemma Workflow.Wellformed.resolved (hw : w.Wellformed)
    (h : w.normalize (.obj given) = .ok values) {randbelow : ℤ → ℤ}
    (hrandbelow : IsRandBelow randbelow) :
    w.SeedResolved (w.resolveSeed randbelow values) := by
  have hagain := hw.idempotent h
  cases hdraws : w.drawsSeed values with
  | false =>
      have heq : w.resolveSeed randbelow values = values := by
        simp [Workflow.resolveSeed, hdraws]
      rw [heq]
      exact hw.seedResolved ⟨values, hagain⟩ hdraws
  | true =>
      have hrandom := (Bool.and_eq_true_iff.mp hdraws).1
      obtain ⟨spec, hmem⟩ := exists_seed hrandom
      have hspec : w.seedSpec = spec.fields := hw.seedSpec hmem rfl
      have hseed : IsRandomSeed "seed" spec.fields := hw.randomSeed hmem (hspec ▸ hrandom)
      obtain ⟨low, high, hlow, hhigh, hle⟩ := hseed.bounds
      have heq : w.resolveSeed randbelow values =
          Json.set "seed" (.int (low + randbelow (high - low + 1))) values := by
        unfold Workflow.resolveSeed
        rw [if_pos hdraws, hspec, boundOf_of_get hlow, boundOf_of_get hhigh]
      obtain ⟨hpos, hlt⟩ := hrandbelow (high - low + 1) (by omega)
      rw [heq]
      refine hw.seedResolved (hw.passes_set hagain hmem ?_) ?_
      · exact (hseed.conforms_iff hlow hhigh).mpr ⟨_, rfl, by omega, by omega⟩
      · simp [Workflow.drawsSeed, Json.has, lookup_set]

/-- The checks of `load` make the defaults sound that are declared. -/
lemma Spec.Checked.sound {name : String} {spec : Fields} (h : Spec.Checked name spec) :
    Spec.Sound spec := by
  intro hrequired hrandom
  have hhas : Json.has spec "default" = true :=
    (h.optional.resolve_left (by simp [hrequired])).resolve_right (by simp [hrandom])
  obtain ⟨v, hv⟩ := Option.isSome_iff_exists.mp hhas
  rw [Json.get, hv]
  exact h.default v hv

/-- The default mode is in the choices, and only its length may be wrong. -/
lemma sound_mode_iff {modes : WorkflowModes} (h : modes.default ∈ modes.definitions.map Prod.fst) :
    Spec.Sound modes.parameter ↔ modes.default.length ≤ 65536 := by
  have hchoice : Json.str modes.default ∈
      modes.definitions.map fun definition ↦ Json.str definition.1 := by
    obtain ⟨definition, hdefinition, hname⟩ := List.mem_map.mp h
    exact List.mem_map.mpr ⟨definition, hdefinition, congrArg Json.str hname⟩
  have hcheck : checkValue modes.parameter (.str modes.default) = .ok () ↔
      modes.default.length ≤ 65536 := by
    rw [checkValue_eq_ok, conforms_schemaOf, conforms_iff]
    constructor
    · rintro ⟨-, ⟨-, hlengths⟩, -⟩
      exact (hlengths _ rfl).2.2 nofun
    · intro hlength
      refine ⟨.string _, ⟨⟨nofun, nofun, nofun⟩, ?_⟩, ?_⟩
      · rintro _ ⟨⟩
        exact ⟨nofun, nofun, fun _ ↦ hlength⟩
      · rintro _ ⟨⟩
        exact hchoice
  exact ⟨fun hsound ↦ hcheck.mp (hsound rfl rfl), fun hlength _ _ ↦ hcheck.mpr hlength⟩

lemma Workflow.Wellformed.agrees (hw : w.Wellformed)
    (hsound : ∀ parameter ∈ w.parameters, Spec.Sound parameter.2.fields) : w.SchemaAgrees where
  accepts _ := hw.accepts hsound
  omitted parameter hmem hoptional given hnone := by
    have hrequired := hw.optional hmem hoptional
    cases hrandom : flag parameter.2.fields "random_default" with
    | true => exact ⟨none, normalizeValue_random hnone hrequired hrandom⟩
    | false => exact ⟨_, (normalizeValue_default hnone hrequired hrandom).mpr
        ⟨hsound parameter hmem hrequired hrandom, rfl⟩⟩
  complete _ _ h _ := hw.complete h
  idempotent _ _ := hw.idempotent
  default _ hmem hoptional _ hdefault _ := hw.default_eq hmem hoptional hdefault
  resolved _ _ _ h hrandbelow := hw.resolved h hrandbelow

end Agreement

/-- `normalize` agrees with the schema of `describe` exactly if the name of the default mode,
which `load` does not check, is no longer than a value may be. -/
theorem schemaAgrees_iff {text : Text} {directory : Directory} {manifest : Json} {w : Workflow}
    (hload : Workflow.load text directory manifest = .ok w)
    (hdistinct : HasDistinctParameters manifest) :
    w.SchemaAgrees ↔ ∀ modes ∈ w.modes, modes.default.length ≤ 65536 := by
  have hw := wellformed_of_load hload hdistinct
  constructor
  · intro h modes hmodes
    have hmem : ("mode", ⟨modes.parameter, none⟩) ∈ w.parameters :=
      mem_parameters.mpr (.inr (.inl ⟨modes, hmodes, rfl⟩))
    have hoptional : "mode" ∉ w.required := fun hmode ↦
      Bool.false_ne_true ((hw.mem_required hmem).mp hmode)
    obtain ⟨value, hvalue⟩ := h.omitted _ hmem hoptional [] rfl
    refine (sound_mode_iff (hw.modes modes hmodes)).mp fun hrequired hrandom ↦ ?_
    exact ((normalizeValue_default rfl hrequired hrandom).mp hvalue).1
  · intro hlength
    refine hw.agrees fun parameter hmem ↦ ?_
    rcases mem_parameters.mp hmem with hmem | ⟨modes, hmodes, rfl⟩ | ⟨-, rfl⟩
    · exact (hw.checked parameter hmem).sound
    · exact (sound_mode_iff (hw.modes modes hmodes)).mpr (hlength modes hmodes)
    · exact fun _ _ ↦ rfl

/-! ## A sketch with one mode -/

def sketch : Graph := [("1", .obj [("class_type", .str "Sampler"), ("inputs", .obj
  [("text", .str "")])])]

/-- A modes file with one mode of that name. -/
def sketchModes (name : String) : Json :=
  .obj [("version", .int 1), ("default", .str name),
    ("modes", .obj [(name, .obj [("description", .str "Plain.")])])]

def sketchFiles (name : String) : Directory :=
  ⟨fun _ ↦ .ok (.obj sketch), fun _ ↦ .error (.handled "missing"),
    fun _ ↦ .ok (sketchModes name), .ok⟩

def promptFields : Fields :=
  [("type", .str "string"), ("default", .str "a lake"),
    ("target", .obj [("node", .str "1"), ("input", .str "text")])]

def sketchFields : Fields :=
  [("id", .str "sketch"), ("name", .str "Sketch"), ("description", .str "A sketch."),
    ("workflow", .str "sketch.json"), ("parameters", .obj [("prompt", .obj promptFields)]),
    ("outputs", .arr [.obj [("node", .str "1"), ("adapter", .str "comfy_images")]]),
    ("modes", .str "modes.yaml")]

def namedMode (name : String) : WorkflowModes := ⟨name, [(name, ⟨"Plain.", [], []⟩)]⟩

def sketchWorkflow (name : String) : Workflow where
  id := "sketch"
  declared := [("prompt", ⟨promptFields, some ⟨"1", "text"⟩⟩)]
  nsfwLoras := none
  outputs := [⟨"1", .comfyImages⟩]
  references := none
  graph := sketch
  sourceRoots := []
  promptGuidance := none
  modes := some (namedMode name)

lemma read_sketchModes {name : String} (hname : name ≠ "") :
    WorkflowModes.read plainText (sketchModes name) = .ok (namedMode name) := by
  have hkeys : uniqueKeys (sketchModes name) = true := by
    simp [sketchModes, uniqueKeys, uniqueKeysFields, hname]
  have hdefault : Json.has [(name, Json.obj [("description", .str "Plain.")])] name = true := by
    simp [Json.has]
  have hread : [(name, Json.obj [("description", .str "Plain.")])].mapM (readMode plainText) =
      .ok (namedMode name).definitions := rfl
  unfold WorkflowModes.read
  rw [(check_eq_ok (u := ())).mpr hkeys]
  change (check (_ ∧ Json.has _ name = true) _ >>= fun _ ↦
    [(name, Json.obj [("description", .str "Plain.")])].mapM (readMode plainText) >>= fun _ ↦ _) = _
  rw [(check_eq_ok (u := ())).mpr ⟨rfl, hdefault⟩, hread]
  rfl

/-- Every name of a mode is accepted that is not empty. -/
lemma load_sketch {name : String} (hname : name ≠ "") :
    Workflow.load plainText (sketchFiles name) (.obj sketchFields) = .ok (sketchWorkflow name) := by
  have hmodes : loadModes plainText (sketchFiles name) sketch sketchFields
      [("prompt", .obj promptFields)] [("1", "text")] [⟨"1", .comfyImages⟩] none =
        .ok (some (namedMode name)) := by
    change (handled (WorkflowModes.read plainText (sketchModes name)) >>= fun modes ↦ _) = _
    rw [read_sketchModes hname]
    rfl
  change (loadModes plainText (sketchFiles name) sketch sketchFields
      [("prompt", .obj promptFields)] [("1", "text")] [⟨"1", .comfyImages⟩] none >>=
    fun modes ↦ _) = _
  rw [hmodes]
  rfl

lemma hasDistinctParameters_sketch : HasDistinctParameters (.obj sketchFields) := by
  rintro _ _ ⟨⟩ ⟨⟩
  decide

/-- A short name for the mode. -/
theorem schemaAgrees_sketch : (sketchWorkflow "plain").SchemaAgrees := by
  refine (schemaAgrees_iff (load_sketch (by decide)) hasDistinctParameters_sketch).mpr ?_
  rintro _ ⟨⟩
  decide

/-- A name of any length. -/
def nameOf (n : ℕ) : String := String.ofList (List.replicate n 'a')

lemma length_nameOf (n : ℕ) : (nameOf n).length = n := by
  rw [nameOf, String.length_ofList, List.length_replicate]

/-- With a long name for its default mode, the workflow is accepted, and its schema does not
require the mode, but `normalize` rejects a request without it. -/
theorem not_schemaAgrees_sketch :
    Workflow.load plainText (sketchFiles (nameOf 65537)) (.obj sketchFields) =
        .ok (sketchWorkflow (nameOf 65537)) ∧
      HasDistinctParameters (.obj sketchFields) ∧
      Satisfies (sketchWorkflow (nameOf 65537)).schema [] ∧
      (¬∃ values, (sketchWorkflow (nameOf 65537)).normalize (.obj []) = .ok values) ∧
      ¬(sketchWorkflow (nameOf 65537)).SchemaAgrees := by
  have hlength : ¬(nameOf 65537).length ≤ 65536 := by
    rw [length_nameOf]
    omega
  have hname : nameOf 65537 ≠ "" := by
    intro hempty
    rw [hempty] at hlength
    exact hlength (Nat.zero_le _)
  have hload := load_sketch hname
  have hw := wellformed_of_load hload hasDistinctParameters_sketch
  have hmem : ("mode", ⟨(namedMode (nameOf 65537)).parameter, none⟩) ∈
      (sketchWorkflow (nameOf 65537)).parameters :=
    mem_parameters.mpr (.inr (.inl ⟨_, rfl, rfl⟩))
  have hsatisfies : Satisfies (sketchWorkflow (nameOf 65537)).schema [] := by
    refine hw.satisfies_iff.mpr ⟨List.forall_mem_nil _, fun parameter hparameter ↦ ⟨?_, nofun⟩⟩
    intro hrequired
    rcases mem_parameters.mp hparameter with hparameter | ⟨modes, -, rfl⟩ | ⟨-, rfl⟩
    · rw [List.mem_singleton.mp hparameter] at hrequired
      cases hrequired
    · cases hrequired
    · cases hrequired
  have hrejects : ¬∃ values, (sketchWorkflow (nameOf 65537)).normalize (.obj []) = .ok values := by
    rintro ⟨values, h⟩
    have hvalue := (normalizeValue_default rfl rfl rfl).mp (hw.normalized h hmem)
    exact hlength ((sound_mode_iff (hw.modes _ rfl)).mp fun _ _ ↦ hvalue.1)
  exact ⟨hload, hasDistinctParameters_sketch, hsatisfies, hrejects, fun hagrees ↦
    hrejects ((hagrees.accepts []).mpr hsatisfies)⟩

end StProxy.Workflows
