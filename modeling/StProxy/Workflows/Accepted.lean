import StProxy.Workflows.Workflow

/-!
# What `load` guarantees

The inputs that the parts of an accepted manifest control exist in the graph, and
the checks of `load` keep most of the parts apart.
-/

namespace StProxy.Workflows

open Json Checked

/-- The inputs that are mapped to parameters or switches. -/
def Workflow.mapped (w : Workflow) : List (String × String) :=
  NsfwLoras.controlled w.nsfwLoras ++ targetsOf w.declared

/-- The inputs of the node are there. -/
def HasInputs (g : Graph) (id : String) : Prop := ∃ inputs, inputsOf g id = some inputs

lemma HasInputs.lookup_ne {g : Graph} {id : String} (h : HasInputs g id) : g.lookup id ≠ none := by
  obtain ⟨inputs, hinputs⟩ := h
  obtain ⟨node, hnode, -⟩ := inputsOf_eq_some.mp hinputs
  rw [hnode]
  exact Option.some_ne_none _

/-- A node keeps its inputs where it is not removed. -/
lemma HasInputs.kept {g g' : Graph} {id : String} {T : String → Prop} (h : HasInputs g id)
    (hkept : Kept T (g.lookup id) (g'.lookup id)) : HasInputs g' id := by
  obtain ⟨inputs, hinputs⟩ := h
  obtain ⟨inputs', hinputs', -⟩ := hkept.exists_inputs hinputs
  exact ⟨inputs', hinputs'⟩

/-- The switches are in rows of one node. -/
structure NsfwLoras.Accepted (g : Graph) (loras : NsfwLoras) : Prop where
  rows : ∀ name ∈ loras.inputs, ∃ row, inputOf g loras.node name = some (.obj row)
  hasInputs : HasInputs g loras.node
  classType : (classType g loras.node).eq (.str "AIOLoraConfiguration") = true

/-- The generator and the loader are two nodes that are not controlled otherwise. -/
structure References.Accepted (g : Graph) (mapped : List (String × String))
    (references : References) : Prop where
  nodup : references.inputs.Nodup
  ne : references.generator ≠ references.loader
  generator : HasInputs g references.generator
  loader : HasInputs g references.loader
  classType : (classType g references.loader).eq (.str "HeltoLoadImageFromRoot") = true
  mapped : ∀ target ∈ mapped, target.1 ≠ references.loader ∧
    ¬(target.1 = references.generator ∧ target.2 ∈ references.inputs)

/-- An output of the Helto node is not controlled otherwise. -/
structure Output.Accepted (g : Graph) (mapped : List (String × String)) (node : String) :
    Prop where
  hasInputs : HasInputs g node
  classType : (classType g node).eq (.str "HeltoSaveImageAdvanced") = true
  mapped : ∀ target ∈ mapped, target.1 ≠ node

/-- Modes keep away from all other controls. -/
structure WorkflowModes.Accepted (g : Graph) (mapped : List (String × String))
    (protectedNodes : List String) (modes : WorkflowModes) : Prop where
  valid : ∀ definition ∈ modes.definitions, definition.2.Valid
  default : modes.default ∈ modes.definitions.map Prod.fst
  targets : ∀ definition ∈ modes.definitions, ∀ target ∈ definition.2.targets,
    HasInputs g target.1 ∧ target.1 ∉ protectedNodes ∧
      ∀ name ∈ target.2, (target.1, name) ∉ mapped

/-- What the checks of `load` say of a workflow. -/
structure Workflow.Accepted (w : Workflow) : Prop where
  declared : ∀ parameter ∈ w.declared, ∃ target, parameter.2.target = some target ∧
    HasInputs w.graph target.node
  nodup : w.mapped.Nodup
  randomSeed : ∀ parameter ∈ w.declared, flag parameter.2.fields "random_default" = true →
    parameter.1 = "seed"
  nsfw : ∀ loras ∈ w.nsfwLoras, loras.Accepted w.graph ∧ "nsfw" ∉ w.declared.map Prod.fst
  outputs : ∀ output ∈ w.outputs, output.adapter = .heltoSavedImages →
    Output.Accepted w.graph w.mapped output.node
  references : ∀ references ∈ w.references, references.Accepted w.graph w.mapped
  modes : ∀ modes ∈ w.modes, "mode" ∉ w.declared.map Prod.fst ∧
    modes.Accepted w.graph (w.mapped ++ References.slots w.references)
      (w.outputs.map Output.node ++ (w.references.map References.loader).toList)

variable {text : Text} {g : Graph} {mapped controlled : List (String × String)}

lemma requireInputs_ok {node : String} {inputs : Fields} (h : requireInputs g node = .ok inputs) :
    inputsOf g node = some inputs := by
  unfold requireInputs at h
  split at h
  · next inputs' hinputs =>
      cases h
      exact hinputs
  · cases h

/-! ## The parts -/

lemma parseNsfwLoras_ok {value : Json} {loras : NsfwLoras}
    (h : parseNsfwLoras text value = .ok loras) : loras.inputs.Nodup := by
  unfold parseNsfwLoras at h
  split at h
  · split at h
    · split at h
      · split at h
        · next hchecks =>
            cases h
            exact hchecks.2.2.2
        · cases h
      · cases h
    · cases h
  · cases h

lemma isLoraRow_obj {value : Json} (h : isLoraRow text value = true) : ∃ row, value = .obj row := by
  cases value with
  | obj row => exact ⟨row, rfl⟩
  | _ => cases h

lemma get_obj {fields row : Fields} {name : String} (h : Json.get fields name = .obj row) :
    fields.lookup name = some (.obj row) := by
  unfold Json.get at h
  cases hlookup : fields.lookup name with
  | none =>
      rw [hlookup] at h
      cases h
  | some value =>
      rw [hlookup] at h
      exact congrArg some h

lemma loadNsfwLoras_ok {manifest parameters : Fields} {nsfwLoras : Option NsfwLoras}
    (h : loadNsfwLoras text g manifest parameters = .ok nsfwLoras) :
    (NsfwLoras.controlled nsfwLoras).Nodup ∧ ∀ loras ∈ nsfwLoras,
      loras.Accepted g ∧ Json.has parameters "nsfw" = false := by
  unfold loadNsfwLoras at h
  split at h
  · cases h
    exact ⟨List.nodup_nil, nofun⟩
  · obtain ⟨hreserved, h⟩ := of_bind_unit h
    obtain ⟨loras, hloras, h⟩ := bind_eq_ok.mp h
    obtain ⟨inputs, hinputs, h⟩ := bind_eq_ok.mp h
    obtain ⟨hclass, h⟩ := of_bind_unit h
    obtain ⟨hrows, h⟩ := of_bind_unit h
    obtain rfl := pure_eq_ok.mp h
    rw [check_eq_ok] at hreserved hclass hrows
    have hinputs := requireInputs_ok hinputs
    refine ⟨(parseNsfwLoras_ok hloras).map fun _ _ h ↦ congrArg Prod.snd h, ?_⟩
    rintro _ ⟨⟩
    refine ⟨⟨fun name hname ↦ ?_, ⟨inputs, hinputs⟩, hclass⟩, hreserved⟩
    obtain ⟨row, hrow⟩ := isLoraRow_obj (hrows name hname)
    refine ⟨row, ?_⟩
    rw [inputOf, hinputs, Option.bind_some]
    exact get_obj hrow

lemma checkSpec_ok {name : String} {spec : Fields} {target : Target}
    (h : checkSpec name spec = .ok target) (hrandom : flag spec "random_default" = true) :
    name = "seed" := by
  unfold checkSpec at h
  obtain ⟨-, h⟩ := of_bind_unit h
  obtain ⟨-, h⟩ := of_bind_unit h
  obtain ⟨-, h⟩ := of_bind_unit h
  obtain ⟨-, h⟩ := of_bind_unit h
  obtain ⟨-, h⟩ := of_bind_unit h
  obtain ⟨hseed, -⟩ := of_bind_unit h
  exact (check_eq_ok.mp hseed hrandom).1

lemma loadParameter_ok {parameter : String × Json} {loaded : String × Spec}
    (h : loadParameter g controlled mapped parameter = .ok loaded) :
    loaded.1 = parameter.1 ∧
      (flag loaded.2.fields "random_default" = true → loaded.1 = "seed") ∧
      ∃ target, loaded.2.target = some target ∧ HasInputs g target.node ∧
        (target.node, target.input) ∉ mapped := by
  unfold loadParameter at h
  split at h
  · obtain ⟨-, h⟩ := of_bind_unit h
    obtain ⟨target, htarget, h⟩ := bind_eq_ok.mp h
    obtain ⟨inputs, hinputs, h⟩ := bind_eq_ok.mp h
    obtain ⟨-, h⟩ := of_bind_unit h
    obtain ⟨-, h⟩ := of_bind_unit h
    obtain ⟨hmapped, h⟩ := of_bind_unit h
    obtain rfl := pure_eq_ok.mp h
    exact ⟨rfl, checkSpec_ok htarget, target, rfl, ⟨inputs, requireInputs_ok hinputs⟩,
      by simpa using check_eq_ok.mp hmapped⟩
  · cases h

/-- What holds of the parameters that were loaded so far. -/
structure ParametersOk (g : Graph) (controlled : List (String × String))
    (loaded : List (String × Spec)) : Prop where
  targets : ∀ parameter ∈ loaded, ∃ target, parameter.2.target = some target ∧
    HasInputs g target.node
  nodup : (controlled ++ targetsOf loaded).Nodup
  randomSeed : ∀ parameter ∈ loaded, flag parameter.2.fields "random_default" = true →
    parameter.1 = "seed"

lemma targetsOf_append (l l' : List (String × Spec)) :
    targetsOf (l ++ l') = targetsOf l ++ targetsOf l' := List.filterMap_append

lemma loadParameters_ok {parameters : Fields} {loaded result : List (String × Spec)}
    (h : loadParameters g controlled parameters loaded = .ok result)
    (hloaded : ParametersOk g controlled loaded) :
    ParametersOk g controlled result ∧
      result.map Prod.fst = loaded.map Prod.fst ++ parameters.map Prod.fst := by
  induction parameters generalizing loaded with
  | nil =>
      cases h
      exact ⟨hloaded, by simp⟩
  | cons parameter rest ih =>
      unfold loadParameters at h
      obtain ⟨spec, hspec, h⟩ := bind_eq_ok.mp h
      obtain ⟨hname, hseed, target, htarget, hinputs, hfresh⟩ := loadParameter_ok hspec
      have hone : targetsOf [spec] = [(target.node, target.input)] := by
        simp [targetsOf, htarget]
      have hnext : ParametersOk g controlled (loaded ++ [spec]) := by
        refine ⟨fun parameter hmem ↦ ?_, ?_, fun parameter hmem hrandom ↦ ?_⟩
        · rcases List.mem_append.mp hmem with hmem | hmem
          · exact hloaded.targets parameter hmem
          · obtain rfl := List.mem_singleton.mp hmem
            exact ⟨target, htarget, hinputs⟩
        · rw [targetsOf_append, hone, ← List.append_assoc]
          exact List.nodup_append.mpr ⟨hloaded.nodup, List.nodup_singleton _, fun a ha b hb hab ↦
            hfresh (List.mem_singleton.mp hb ▸ hab ▸ ha)⟩
        · rcases List.mem_append.mp hmem with hmem | hmem
          · exact hloaded.randomSeed parameter hmem hrandom
          · obtain rfl := List.mem_singleton.mp hmem
            exact hseed hrandom
      obtain ⟨hresult, hnames⟩ := ih h hnext
      exact ⟨hresult, by simp [hnames, hname]⟩

lemma loadOutputs_ok {directory : Directory} {values : List Json} {outputs result : List Output}
    {roots roots' : List (String × String)}
    (h : loadOutputs directory g mapped values outputs roots = .ok (result, roots'))
    (houtputs : ∀ output ∈ outputs, output.adapter = .heltoSavedImages →
      Output.Accepted g mapped output.node) :
    ∀ output ∈ result, output.adapter = .heltoSavedImages →
      Output.Accepted g mapped output.node := by
  induction values generalizing outputs roots with
  | nil =>
      cases h
      exact houtputs
  | cons value rest ih =>
      unfold loadOutputs at h
      obtain ⟨output, -, h⟩ := bind_eq_ok.mp h
      obtain ⟨-, h⟩ := of_bind_unit h
      split at h
      · next hadapter =>
          refine ih h fun other hother hhelto ↦ ?_
          rcases List.mem_append.mp hother with hother | hother
          · exact houtputs other hother hhelto
          · obtain rfl := List.mem_singleton.mp hother
            cases hadapter.symm.trans hhelto
      · obtain ⟨root, hroot, h⟩ := bind_eq_ok.mp h
        refine ih h fun other hother hhelto ↦ ?_
        rcases List.mem_append.mp hother with hother | hother
        · exact houtputs other hother hhelto
        · obtain rfl := List.mem_singleton.mp hother
          unfold loadHelto at hroot
          obtain ⟨hclass, hroot⟩ := of_bind_unit hroot
          obtain ⟨hmapped, hroot⟩ := of_bind_unit hroot
          obtain ⟨inputs, hinputs, -⟩ := bind_eq_ok.mp hroot
          have hinputs := requireInputs_ok (handled_eq_ok.mp hinputs)
          exact ⟨⟨inputs, hinputs⟩, check_eq_ok.mp hclass, check_eq_ok.mp hmapped⟩

lemma parseReferences_ok {value : Json} {references : References}
    (h : parseReferences value = .ok references) :
    references.inputs.Nodup ∧ references.generator ≠ references.loader := by
  unfold parseReferences at h
  split at h
  · split at h
    · split at h
      · split at h
        · next hchecks =>
            split at h
            · split at h
              · cases h
                exact hchecks.2.2.2
              · cases h
            · cases h
        · cases h
      · cases h
    · cases h
  · cases h

lemma loadReferences_ok {value : Json} {references : Option References}
    (h : loadReferences g mapped value = .ok references) :
    ∀ r ∈ references, r.Accepted g mapped := by
  unfold loadReferences at h
  split at h
  · cases h
    nofun
  · obtain ⟨r, hr, h⟩ := bind_eq_ok.mp h
    obtain ⟨generator, hgenerator, h⟩ := bind_eq_ok.mp h
    obtain ⟨loader, hloader, h⟩ := bind_eq_ok.mp h
    obtain ⟨hclass, h⟩ := of_bind_unit h
    obtain ⟨hmapped, h⟩ := of_bind_unit h
    obtain rfl := pure_eq_ok.mp h
    rintro _ ⟨⟩
    obtain ⟨hnodup, hne⟩ := parseReferences_ok hr
    exact ⟨hnodup, hne, ⟨generator, requireInputs_ok hgenerator⟩,
      ⟨loader, requireInputs_ok hloader⟩, (check_eq_ok.mp hclass).1, check_eq_ok.mp hmapped⟩

lemma loadModes_ok {directory : Directory} {manifest parameters : Fields} {outputs : List Output}
    {references : Option References} {result : Option WorkflowModes}
    (h : loadModes text directory g manifest parameters mapped outputs references = .ok result) :
    ∀ modes ∈ result, Json.has parameters "mode" = false ∧
      modes.Accepted g (mapped ++ References.slots references)
        (outputs.map Output.node ++ (references.map References.loader).toList) := by
  unfold loadModes at h
  split at h
  · cases h
    nofun
  · obtain ⟨hreserved, h⟩ := of_bind_unit h
    split at h
    · obtain ⟨-, h⟩ := of_bind_unit h
      obtain ⟨data, -, h⟩ := bind_eq_ok.mp h
      obtain ⟨modes, hmodes, h⟩ := bind_eq_ok.mp h
      obtain ⟨htargets, h⟩ := of_bind_unit h
      obtain rfl := pure_eq_ok.mp h
      rintro _ ⟨⟩
      obtain ⟨hvalid, hdefault⟩ := read_ok (handled_eq_ok.mp hmodes)
      exact ⟨check_eq_ok.mp hreserved, hvalid, hdefault,
        validateTargets_ok (handled_eq_ok.mp htargets)⟩
    · cases h

lemma notMem_of_has {fields : Fields} {key : String} (h : Json.has fields key = false) :
    key ∉ fields.map Prod.fst := by
  intro hmem
  obtain ⟨field, hfield, rfl⟩ := List.mem_map.mp hmem
  rw [has_eq_false, List.lookup_eq_none_iff] at h
  simpa using h field hfield

/-- Every workflow that `load` returns is accepted. -/
theorem load_ok {directory : Directory} {manifest : Json} {w : Workflow}
    (h : Workflow.load text directory manifest = .ok w) : w.Accepted := by
  unfold Workflow.load at h
  split at h
  · obtain ⟨header, -, h⟩ := bind_eq_ok.mp h
    obtain ⟨nsfwLoras, hnsfw, h⟩ := bind_eq_ok.mp h
    obtain ⟨declared, hdeclared, h⟩ := bind_eq_ok.mp h
    obtain ⟨⟨outputs, roots⟩, houtputs, h⟩ := bind_eq_ok.mp h
    obtain ⟨references, hreferences, h⟩ := bind_eq_ok.mp h
    obtain ⟨guidance, -, h⟩ := bind_eq_ok.mp h
    obtain ⟨modes, hmodes, h⟩ := bind_eq_ok.mp h
    obtain rfl := pure_eq_ok.mp h
    obtain ⟨hcontrolled, hnsfw⟩ := loadNsfwLoras_ok (handled_eq_ok.mp hnsfw)
    obtain ⟨hparameters, hnames⟩ := loadParameters_ok (handled_eq_ok.mp hdeclared)
      ⟨List.forall_mem_nil _, by simpa [targetsOf] using hcontrolled, List.forall_mem_nil _⟩
    rw [List.map_nil, List.nil_append] at hnames
    refine {
      declared := hparameters.targets
      nodup := hparameters.nodup
      randomSeed := hparameters.randomSeed
      nsfw := fun loras hloras ↦ ⟨(hnsfw loras hloras).1, ?_⟩
      outputs := loadOutputs_ok houtputs (List.forall_mem_nil _)
      references := loadReferences_ok (handled_eq_ok.mp hreferences)
      modes := fun modes' hmodes' ↦ ⟨?_, (loadModes_ok hmodes modes' hmodes').2⟩ }
    · exact hnames ▸ notMem_of_has (hnsfw loras hloras).2
    · exact hnames ▸ notMem_of_has (loadModes_ok hmodes modes' hmodes').1
  · cases h

end StProxy.Workflows
