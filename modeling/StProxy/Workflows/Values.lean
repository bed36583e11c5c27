import StProxy.Workflows.Accepted
import StProxy.Workflows.Build

/-!
# The values of a request

After both calls every parameter has one value, and the values of the switches are
those that the patches of the graph expect.
-/

namespace StProxy.Workflows

open Json Checked

lemma lookup_isSome {α : Type} {l : List (String × α)} {name : String}
    (h : name ∈ l.map Prod.fst) : ∃ a, l.lookup name = some a := by
  cases hlookup : l.lookup name with
  | some a => exact ⟨a, rfl⟩
  | none =>
      obtain ⟨entry, hentry, rfl⟩ := List.mem_map.mp h
      rw [List.lookup_eq_none_iff] at hlookup
      exact absurd (hlookup entry hentry) (by simp)

lemma mem_of_lookup_eq {α : Type} {l : List (String × α)} {name : String} {a : α}
    (h : l.lookup name = some a) : (name, a) ∈ l := by
  obtain ⟨first, last, rfl, -⟩ := List.lookup_eq_some_iff.mp h
  exact List.mem_append_right _ List.mem_cons_self

/-! ## `normalize` -/

/-- The values so far: of parameters, and checked. -/
structure Normal (parameters : List (String × Spec)) (values : Fields) : Prop where
  nodup : (values.map Prod.fst).Nodup
  checked : ∀ field ∈ values, ∃ parameter ∈ parameters, parameter.1 = field.1 ∧
    checkValue parameter.2.fields field.2 = .ok ()

section Normalize

variable {given values result : Fields} {parameter : String × Spec}
  {parameters rest : List (String × Spec)}

lemma Normal.set (h : Normal parameters values) (hmem : parameter ∈ parameters) {value : Json}
    (hvalue : checkValue parameter.2.fields value = .ok ()) :
    Normal parameters (Json.set parameter.1 value values) where
  nodup := nodup_set h.nodup
  checked field hfield := by
    rcases mem_set hfield with rfl | hfield
    · exact ⟨parameter, hmem, rfl, hvalue⟩
    · exact h.checked field hfield

/-- A value was checked; only a random default is left out. -/
lemma normalizeValue_ok {value : Option Json}
    (h : normalizeValue given parameter = .ok value) :
    (∃ v, value = some v ∧ checkValue parameter.2.fields v = .ok ()) ∨
      value = none ∧ flag parameter.2.fields "random_default" = true := by
  unfold normalizeValue at h
  cases hgiven : given.lookup parameter.1 with
  | some v =>
      rw [hgiven] at h
      dsimp only at h
      split at h
      · next hv =>
          cases h
          exact .inl ⟨v, rfl, hv⟩
      · cases h
  | none =>
      rw [hgiven] at h
      dsimp only at h
      split at h
      · cases h
      · split at h
        · next hrandom =>
            cases h
            exact .inr ⟨rfl, hrandom⟩
        · split at h
          · next hv =>
              cases h
              exact .inl ⟨_, rfl, hv⟩
          · cases h

lemma normalizeAll_ok (h : normalizeAll given rest values = .ok result)
    (hrest : ∀ parameter ∈ rest, parameter ∈ parameters) (hvalues : Normal parameters values) :
    Normal parameters result ∧
      (∀ name ∈ values.map Prod.fst, name ∈ result.map Prod.fst) ∧
      ∀ parameter ∈ rest, parameter.1 ∈ result.map Prod.fst ∨
        flag parameter.2.fields "random_default" = true := by
  induction rest generalizing values with
  | nil =>
      cases h
      exact ⟨hvalues, fun _ ↦ id, List.forall_mem_nil _⟩
  | cons parameter rest ih =>
      have hmem := hrest parameter List.mem_cons_self
      have htail : ∀ other ∈ rest, other ∈ parameters := fun other hother ↦
        hrest other (List.mem_cons_of_mem _ hother)
      unfold normalizeAll at h
      obtain ⟨value, hvalue, h⟩ := bind_eq_ok.mp h
      rcases normalizeValue_ok hvalue with ⟨v, rfl, hv⟩ | ⟨rfl, hrandom⟩
      · obtain ⟨hresult, hkeys, hothers⟩ := ih h htail (hvalues.set hmem hv)
        refine ⟨hresult, fun name hname ↦ hkeys name (mem_keys_set.mpr (.inr hname)), ?_⟩
        rintro other hother
        rcases List.mem_cons.mp hother with rfl | hother
        · exact .inl (hkeys _ (mem_keys_set.mpr (.inl rfl)))
        · exact hothers other hother
      · obtain ⟨hresult, hkeys, hothers⟩ := ih h htail hvalues
        refine ⟨hresult, hkeys, ?_⟩
        rintro other hother
        rcases List.mem_cons.mp hother with rfl | hother
        · exact .inr hrandom
        · exact hothers other hother

lemma normalize_ok {w : Workflow} {given : Json} (h : w.normalize given = .ok values) :
    Normal w.parameters values ∧ ∀ parameter ∈ w.parameters,
      parameter.1 ∈ values.map Prod.fst ∨ flag parameter.2.fields "random_default" = true := by
  unfold Workflow.normalize at h
  split at h
  · split at h
    · obtain ⟨hvalues, -, hall⟩ := normalizeAll_ok h (fun _ ↦ id)
        ⟨List.nodup_nil, List.forall_mem_nil _⟩
      exact ⟨hvalues, hall⟩
    · cases h
  · cases h

end Normalize

/-! ## The parameters of an accepted workflow -/

/-- The values that `build` is called with. -/
structure Workflow.Resolved (w : Workflow) (values : Fields) : Prop where
  nodup : (values.map Prod.fst).Nodup
  declared : ∀ name ∈ values.map Prod.fst, name ∈ w.parameters.map Prod.fst
  complete : ∀ name ∈ w.parameters.map Prod.fst, name ∈ values.map Prod.fst
  seed : w.drawsSeed values = false
  mode : ∀ modes ∈ w.modes, ∃ name mode, values.lookup "mode" = some (.str name) ∧
    modes.definitions.lookup name = some mode
  nsfw : ∀ loras ∈ w.nsfwLoras, ∃ enabled, values.lookup "nsfw" = some (.bool enabled)

section Parameters

variable {w : Workflow} {values : Fields} {parameter : String × Spec}

lemma mem_parameters : parameter ∈ w.parameters ↔ parameter ∈ w.declared ∨
    (∃ modes ∈ w.modes, parameter = ("mode", ⟨modes.parameter, none⟩)) ∨
    w.nsfwLoras.isSome = true ∧ parameter = ("nsfw", ⟨nsfwSpec, none⟩) := by
  unfold Workflow.parameters
  cases w.modes <;> cases w.nsfwLoras <;> simp

/-- A parameter with a target was declared. -/
lemma mem_declared {name : String} {target : Target}
    (h : (w.parameters.lookup name).bind Spec.target = some target) :
    ∃ spec, (name, spec) ∈ w.declared ∧ spec.target = some target := by
  obtain ⟨spec, hspec, htarget⟩ := Option.bind_eq_some_iff.mp h
  refine ⟨spec, ?_, htarget⟩
  rcases mem_parameters.mp (mem_of_lookup_eq hspec) with hmem | ⟨modes, -, heq⟩ | ⟨-, heq⟩
  · exact hmem
  · obtain ⟨-, rfl⟩ := Prod.mk.inj heq
    cases htarget
  · obtain ⟨-, rfl⟩ := Prod.mk.inj heq
    cases htarget

lemma checkValue_type {spec : Fields} {value : Json} (h : checkValue spec value = .ok ()) :
    hasType (Json.get spec "type") value = true := by
  unfold checkValue at h
  exact check_eq_ok.mp (of_bind_unit h).1

lemma checkValue_choice {spec : Fields} {value : Json} {choices : List Json}
    (h : checkValue spec value = .ok ()) (henum : spec.lookup "enum" = some (.arr choices)) :
    choices.any (sameChoice value) = true := by
  unfold checkValue at h
  have hchoice := (of_bind_unit (of_bind_unit h).2).2
  unfold checkChoice at hchoice
  rw [henum] at hchoice
  exact check_eq_ok.mp hchoice

/-- A value of the mode names a definition. -/
lemma checkValue_mode {modes : WorkflowModes} {value : Json}
    (h : checkValue modes.parameter value = .ok ()) :
    ∃ name mode, value = .str name ∧ modes.definitions.lookup name = some mode := by
  have hany := checkValue_choice h rfl
  obtain ⟨choice, hchoice, hsame⟩ := List.any_eq_true.mp hany
  obtain ⟨definition, hdefinition, rfl⟩ := List.mem_map.mp hchoice
  cases value with
  | str name =>
      obtain rfl : name = definition.1 := by simpa [sameChoice] using hsame
      obtain ⟨mode, hmode⟩ := lookup_isSome (List.mem_map_of_mem hdefinition)
      exact ⟨_, mode, rfl, hmode⟩
  | _ => cases hsame

lemma checkValue_nsfw {value : Json} (h : checkValue nsfwSpec value = .ok ()) :
    ∃ enabled, value = .bool enabled := by
  have htype : hasType (.str "boolean") value = true := checkValue_type h
  cases value with
  | bool enabled => exact ⟨enabled, rfl⟩
  | _ => simp [hasType] at htype

/-- `resolve_seed` adds at most a seed. -/
lemma resolveSeed_eq (randbelow : ℤ → ℤ) (values : Fields) :
    (w.drawsSeed values = false ∧ w.resolveSeed randbelow values = values) ∨
      w.drawsSeed values = true ∧
        ∃ seed, w.resolveSeed randbelow values = Json.set "seed" seed values := by
  unfold Workflow.resolveSeed
  split
  · next h => exact .inr ⟨h, _, rfl⟩
  · next h => exact .inl ⟨Bool.eq_false_iff.mpr h, rfl⟩

lemma mem_keys_iff {fields : Fields} {name : String} :
    name ∈ fields.map Prod.fst ↔ Json.has fields name = true := by
  constructor
  · intro h
    obtain ⟨v, hv⟩ := lookup_isSome h
    rw [Json.has, hv]
    rfl
  · intro h
    obtain ⟨v, hv⟩ := Option.isSome_iff_exists.mp h
    exact List.mem_map_of_mem (mem_of_lookup hv)

/-- The values of a switch were checked with the schema of the switch. -/
lemma Normal.switch (h : Normal w.parameters values) {name : String}
    (hname : name ∈ values.map Prod.fst) {s : Fields}
    (hspec : ∀ parameter ∈ w.parameters, parameter.1 = name → parameter.2.fields = s) :
    ∃ value, values.lookup name = some value ∧ checkValue s value = .ok () := by
  obtain ⟨value, hvalue⟩ := lookup_isSome hname
  obtain ⟨parameter, hparameter, hfst, hcheck⟩ := h.checked _ (mem_of_lookup hvalue)
  exact ⟨value, hvalue, hspec parameter hparameter hfst ▸ hcheck⟩

lemma Normal.mode (h : Normal w.parameters values) (hw : w.Accepted)
    {modes : WorkflowModes} (hmodes : modes ∈ w.modes) (hname : "mode" ∈ values.map Prod.fst) :
    ∃ name mode, values.lookup "mode" = some (.str name) ∧
      modes.definitions.lookup name = some mode := by
  obtain ⟨value, hvalue, hcheck⟩ := h.switch (s := modes.parameter) hname
    fun parameter hparameter hfst ↦ by
      rcases mem_parameters.mp hparameter with hmem | ⟨modes', hmodes', rfl⟩ | ⟨-, rfl⟩
      · exact absurd (hfst ▸ List.mem_map_of_mem hmem) (hw.modes modes hmodes).1
      · obtain rfl : modes = modes' := Option.mem_unique hmodes hmodes'
        rfl
      · exact absurd hfst (by decide)
  obtain ⟨name, mode, rfl, hmode⟩ := checkValue_mode hcheck
  exact ⟨name, mode, hvalue, hmode⟩

lemma Normal.nsfw (h : Normal w.parameters values) (hw : w.Accepted)
    {loras : NsfwLoras} (hloras : loras ∈ w.nsfwLoras) (hname : "nsfw" ∈ values.map Prod.fst) :
    ∃ enabled, values.lookup "nsfw" = some (.bool enabled) := by
  obtain ⟨value, hvalue, hcheck⟩ := h.switch (s := nsfwSpec) hname
    fun parameter hparameter hfst ↦ by
      rcases mem_parameters.mp hparameter with hmem | ⟨modes', hmodes', rfl⟩ | ⟨-, rfl⟩
      · exact absurd (hfst ▸ List.mem_map_of_mem hmem) (hw.nsfw loras hloras).2
      · have hne : "mode" ≠ "nsfw" := by decide
        exact absurd hfst hne
      · rfl
  obtain ⟨enabled, rfl⟩ := checkValue_nsfw hcheck
  exact ⟨enabled, hvalue⟩

/-- Only the seed is left out by `normalize`, and `resolve_seed` would draw it. -/
lemma Workflow.Accepted.left_out (hw : w.Accepted) {given : Json}
    (h : w.normalize given = .ok values) {name : String} (hname : name ∈ w.parameters.map Prod.fst)
    (hout : name ∉ values.map Prod.fst) : name = "seed" ∧ w.drawsSeed values = true := by
  obtain ⟨spec, hspec⟩ := lookup_isSome hname
  have hmem := mem_of_lookup_eq hspec
  have hrandom := ((normalize_ok h).2 _ hmem).resolve_left hout
  have hdeclared : (name, spec) ∈ w.declared := by
    rcases mem_parameters.mp hmem with hmem | ⟨modes, -, heq⟩ | ⟨-, heq⟩
    · exact hmem
    · obtain ⟨-, rfl⟩ := Prod.mk.inj heq
      exact absurd (show false = true from hrandom) Bool.false_ne_true
    · obtain ⟨-, rfl⟩ := Prod.mk.inj heq
      exact absurd (show false = true from hrandom) Bool.false_ne_true
  obtain rfl : name = "seed" := hw.randomSeed _ hdeclared hrandom
  refine ⟨rfl, ?_⟩
  rw [Workflow.drawsSeed, Workflow.seedSpec, hspec, Bool.and_eq_true]
  refine ⟨hrandom, ?_⟩
  rw [Bool.not_eq_true', Bool.eq_false_iff]
  exact fun hhas ↦ hout (mem_keys_iff.mpr hhas)

/-- The values of a request after `normalize` and `resolve_seed`. -/
theorem resolveSeed_resolved (hw : w.Accepted) {given : Json} (randbelow : ℤ → ℤ)
    (h : w.normalize given = .ok values) : w.Resolved (w.resolveSeed randbelow values) := by
  obtain ⟨hnormal, -⟩ := normalize_ok h
  have hdeclared : ∀ name ∈ values.map Prod.fst, name ∈ w.parameters.map Prod.fst := by
    intro name hname
    obtain ⟨field, hfield, rfl⟩ := List.mem_map.mp hname
    obtain ⟨parameter, hparameter, hfst, -⟩ := hnormal.checked field hfield
    exact hfst ▸ List.mem_map_of_mem hparameter
  have hswitch {name : String} (hname : name ∈ w.parameters.map Prod.fst) (hne : name ≠ "seed") :
      name ∈ values.map Prod.fst := by
    by_contra hout
    exact hne (hw.left_out h hname hout).1
  have hmode : ∀ modes ∈ w.modes, ∃ name mode, values.lookup "mode" = some (.str name) ∧
      modes.definitions.lookup name = some mode := fun modes hmodes ↦
    hnormal.mode hw hmodes <| hswitch (List.mem_map_of_mem
      (mem_parameters.mpr (.inr (.inl ⟨modes, hmodes, rfl⟩)))) (by decide)
  have hnsfw : ∀ loras ∈ w.nsfwLoras, ∃ enabled, values.lookup "nsfw" = some (.bool enabled) :=
    fun loras hloras ↦ hnormal.nsfw hw hloras <| hswitch (List.mem_map_of_mem
      (mem_parameters.mpr (.inr (.inr ⟨Option.isSome_of_mem hloras, rfl⟩)))) (by decide)
  rcases resolveSeed_eq (w := w) randbelow values with ⟨hdraws, heq⟩ | ⟨hdraws, seed, heq⟩
  · rw [heq]
    refine ⟨hnormal.nodup, hdeclared, fun name hname ↦ ?_, hdraws, hmode, hnsfw⟩
    by_contra hout
    rw [(hw.left_out h hname hout).2] at hdraws
    cases hdraws
  · rw [heq]
    refine ⟨nodup_set hnormal.nodup, fun name hname ↦ ?_, fun name hname ↦ ?_, ?_, ?_, ?_⟩
    · rcases mem_keys_set.mp hname with rfl | hname
      · unfold Workflow.drawsSeed Workflow.seedSpec at hdraws
        cases hspec : w.parameters.lookup "seed" with
        | none => simp [hspec, flag] at hdraws
        | some spec => exact List.mem_map_of_mem (mem_of_lookup_eq hspec)
      · exact hdeclared name hname
    · by_cases hseed : name = "seed"
      · exact mem_keys_set.mpr (.inl hseed)
      · exact mem_keys_set.mpr (.inr (hswitch hname hseed))
    · simp [Workflow.drawsSeed, Json.has, lookup_set]
    · intro modes hmodes
      rw [lookup_set_of_ne _ _ (by decide)]
      exact hmode modes hmodes
    · intro loras hloras
      rw [lookup_set_of_ne _ _ (by decide)]
      exact hnsfw loras hloras

end Parameters

end StProxy.Workflows
