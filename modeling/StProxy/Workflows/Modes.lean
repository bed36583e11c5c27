import Mathlib.Data.List.Nodup
import StProxy.Lib.Checked
import StProxy.Workflows.Graph

/-!
# Generation modes of a workflow

`workflow_modes.py`: named patches of a graph, read from YAML at startup.  The
decoded YAML is given; its decoder rejects values that are no JSON and files that
are too large.
-/

namespace StProxy.Workflows

open Json Checked

variable (text : Text)

/-- One definition, with its patches by node. -/
structure Mode where
  description : String
  set : List (String × Fields)
  remove : List (String × List String)

structure WorkflowModes where
  default : String
  definitions : List (String × Mode)

section Reading

mutual

/-- The rule of the constructor of mappings: the keys are unique and nonempty. -/
def uniqueKeys : Json → Bool
  | .arr l => uniqueKeysList l
  | .obj fields => decide (fields.map Prod.fst).Nodup && fields.all (·.1 ≠ "") &&
      uniqueKeysFields fields
  | _ => true

def uniqueKeysList : List Json → Bool
  | [] => true
  | v :: l => uniqueKeys v && uniqueKeysList l

def uniqueKeysFields : List (String × Json) → Bool
  | [] => true
  | (_, v) :: fields => uniqueKeys v && uniqueKeysFields fields

end

lemma uniqueKeysFields_iff {fields : Fields} :
    uniqueKeysFields fields = true ↔ ∀ field ∈ fields, uniqueKeys field.2 = true := by
  induction fields with
  | nil => simp [uniqueKeysFields]
  | cons field fields ih => simp [uniqueKeysFields, ih]

lemma uniqueKeys_obj {fields : Fields} (h : uniqueKeys (.obj fields) = true) :
    (fields.map Prod.fst).Nodup ∧ ∀ field ∈ fields, uniqueKeys field.2 = true := by
  simp only [uniqueKeys, Bool.and_eq_true, decide_eq_true_eq] at h
  exact ⟨h.1.1, uniqueKeysFields_iff.mp h.2⟩

/-- The names in a list that holds nothing else. -/
def namesOf (l : List Json) : Option (List String) :=
  l.mapM fun name ↦ match name with
    | .str s => some s
    | _ => none

def readSetPatch (patch : String × Json) : Except String (String × Fields) :=
  match patch.2 with
  | .obj inputs => .ok (patch.1, inputs)
  | _ => .error "mode set must map input names to values"

def readRemovePatch (patch : String × Json) : Except String (String × List String) :=
  match patch.2 with
  | .arr l =>
      match namesOf l with
      | some names =>
          if (∀ name ∈ names, name ≠ "") ∧ names.Nodup then .ok (patch.1, names)
          else .error "mode remove must list unique input names"
      | none => .error "mode remove must list unique input names"
  | _ => .error "mode remove must list unique input names"

/-- The patches of one operation, `{}` where it is missing. -/
def patchesOf (mode : Fields) (operation : String) : Except String Fields :=
  match (mode.lookup operation).getD (.obj []) with
  | .obj patches => .ok patches
  | _ => .error "mode patches must map node IDs to inputs"

/-- No input of a node is both set and removed. -/
def Mode.Consistent (mode : Mode) : Prop :=
  ∀ patch ∈ mode.remove, ∀ name ∈ patch.2,
    name ∉ (((mode.set.lookup patch.1).getD []).map Prod.fst)

instance : DecidablePred Mode.Consistent := fun mode ↦
  inferInstanceAs (Decidable (∀ patch ∈ mode.remove, ∀ name ∈ patch.2,
    name ∉ (((mode.set.lookup patch.1).getD []).map Prod.fst)))

def readDescription (mode : Fields) : Except String String :=
  match Json.get mode "description" with
  | .str description =>
      if (mode.all fun field ↦ ["description", "set", "remove"].contains field.1) ∧
          text.strip description ≠ "" then .ok description
      else .error "mode needs a description and optional set/remove patches"
  | _ => .error "mode needs a description and optional set/remove patches"

def readMode (data : String × Json) : Except String (String × Mode) :=
  match data.2 with
  | .obj fields => do
      let description ← readDescription text fields
      let set ← (← patchesOf fields "set").mapM readSetPatch
      let remove ← (← patchesOf fields "remove").mapM readRemovePatch
      check (Mode.Consistent ⟨description, set, remove⟩)
        "mode cannot set and remove the same input"
      pure (data.1, ⟨description, set, remove⟩)
  | _ => .error "mode needs a description and optional set/remove patches"

/-- `WorkflowModes.read` on the decoded file. -/
def WorkflowModes.read (data : Json) : Except String WorkflowModes := do
  check (uniqueKeys data = true) "mode YAML needs unique, nonempty string keys"
  match data with
  | .obj fields =>
      match Json.get fields "version", Json.get fields "default", Json.get fields "modes" with
      | .int 1, .str default, .obj modes =>
          check ((fields.all fun field ↦ ["version", "default", "modes"].contains field.1) ∧
            Json.has modes default = true) "invalid mode version, default or modes"
          let definitions ← modes.mapM (readMode text)
          pure ⟨default, definitions⟩
      | _, _, _ => .error "invalid mode version, default or modes"
  | _ => .error "mode YAML must be an object"

end Reading

/-- The inputs that a mode sets or removes, by node. -/
def Mode.targets (mode : Mode) : List (String × List String) :=
  mode.set.map (fun patch ↦ (patch.1, patch.2.map Prod.fst)) ++ mode.remove

/-- `validate_targets`, with the inputs of all other controls and the nodes whose
inputs are all protected. -/
def WorkflowModes.validateTargets (modes : WorkflowModes) (g : Graph)
    (mapped : List (String × String)) (protectedNodes : List String) : Except String Unit :=
  modes.definitions.forM fun definition ↦ definition.2.targets.forM fun (node, names) ↦ do
    check ((inputsOf g node).isSome = true) "configured mode node or its inputs are missing"
    check (node ∉ protectedNodes ∧ ∀ name ∈ names, (node, name) ∉ mapped)
      "mode conflicts with parameter or adapter controls"

/-- `parameter`. -/
def WorkflowModes.parameter (modes : WorkflowModes) : Fields :=
  [("type", .str "string"), ("default", .str modes.default),
    ("enum", .arr (modes.definitions.map fun definition ↦ .str definition.1)),
    ("description", .str ("Generation mode. " ++ " ".intercalate
      (modes.definitions.map fun (name, mode) ↦ s!"{name}: {mode.description}")))]

/-- The loop that sets inputs. -/
def Mode.applySet (mode : Mode) (g : Graph) : Except Raised Graph :=
  mode.set.foldlM (fun g patch ↦
    editInputs patch.1 (fun inputs ↦ .ok (Json.update patch.2 inputs)) g) g

def eraseAll (names : List String) (inputs : Fields) : Fields :=
  names.foldl (fun inputs name ↦ Json.erase name inputs) inputs

/-- The loop that removes inputs. -/
def Mode.applyRemove (mode : Mode) (g : Graph) : Except Raised Graph :=
  mode.remove.foldlM (fun g patch ↦
    editInputs patch.1 (fun inputs ↦ .ok (eraseAll patch.2 inputs)) g) g

/-- `apply`, for a name that may be no text. -/
def WorkflowModes.apply (modes : WorkflowModes) (g : Graph) (name : Json) :
    Except Raised Graph :=
  match name with
  | .str name =>
      match modes.definitions.lookup name with
      | some mode => do
          let g ← mode.applySet g
          mode.applyRemove g
      | none => .error (.workflowError "unknown generation mode")
  | _ => .error (.workflowError "unknown generation mode")

/-! ## What a definition that was read satisfies -/

/-- The nodes and the inputs of the patches are distinct, and no input is in both. -/
structure Mode.Valid (mode : Mode) : Prop where
  set_nodup : (mode.set.map Prod.fst).Nodup
  inputs_nodup : ∀ patch ∈ mode.set, (patch.2.map Prod.fst).Nodup
  remove_nodup : (mode.remove.map Prod.fst).Nodup
  consistent : mode.Consistent

section Valid

variable {text}

lemma eq_of_fst_eq {α : Type} {l : List (String × α)} (h : (l.map Prod.fst).Nodup)
    {a b : String × α} (ha : a ∈ l) (hb : b ∈ l) (hfst : a.1 = b.1) : a = b :=
  List.inj_on_of_nodup_map h ha hb hfst

/-- A loop that keeps the keys keeps them distinct. -/
lemma keys_of_forall₂ {α β : Type} {R : String × α → String × β → Prop}
    {l : List (String × α)} {l' : List (String × β)} (h : List.Forall₂ R l l')
    (hfst : ∀ a b, R a b → b.1 = a.1) : l'.map Prod.fst = l.map Prod.fst := by
  induction h with
  | nil => rfl
  | cons hab _ ih => rw [List.map_cons, List.map_cons, ih, hfst _ _ hab]

lemma exists_of_forall₂ {α β : Type} {R : α → β → Prop} {l : List α} {l' : List β}
    (h : List.Forall₂ R l l') {b : β} (hb : b ∈ l') : ∃ a ∈ l, R a b := by
  induction h with
  | nil => cases hb
  | cons hab _ ih =>
      rcases List.mem_cons.mp hb with rfl | hb
      · exact ⟨_, List.mem_cons_self, hab⟩
      · obtain ⟨a, ha, hr⟩ := ih hb
        exact ⟨a, List.mem_cons_of_mem _ ha, hr⟩

lemma readSetPatch_ok {patch : String × Json} {result : String × Fields}
    (h : readSetPatch patch = .ok result) :
    result.1 = patch.1 ∧ patch.2 = .obj result.2 := by
  unfold readSetPatch at h
  split at h
  · next inputs hinputs =>
      cases h
      exact ⟨rfl, hinputs⟩
  · cases h

lemma readRemovePatch_ok {patch : String × Json} {result : String × List String}
    (h : readRemovePatch patch = .ok result) : result.1 = patch.1 := by
  unfold readRemovePatch at h
  split at h
  · split at h
    · split at h
      · cases h
        rfl
      · cases h
    · cases h
  · cases h

lemma patchesOf_ok {mode patches : Fields} {operation : String}
    (h : patchesOf mode operation = .ok patches) (hunique : uniqueKeys (.obj mode) = true) :
    uniqueKeys (.obj patches) = true := by
  unfold patchesOf at h
  cases hlookup : mode.lookup operation with
  | none =>
      rw [hlookup] at h
      cases h
      rfl
  | some value =>
      rw [hlookup] at h
      have hvalue := (uniqueKeys_obj hunique).2 _ (mem_of_lookup hlookup)
      cases value with
      | obj fields =>
          cases h
          exact hvalue
      | _ => cases h

lemma readMode_fst {data : String × Json} {result : String × Mode}
    (h : readMode text data = .ok result) : result.1 = data.1 := by
  unfold readMode at h
  split at h
  · obtain ⟨description, -, h⟩ := bind_eq_ok.mp h
    obtain ⟨setPatches, -, h⟩ := bind_eq_ok.mp h
    obtain ⟨set, -, h⟩ := bind_eq_ok.mp h
    obtain ⟨removePatches, -, h⟩ := bind_eq_ok.mp h
    obtain ⟨remove, -, h⟩ := bind_eq_ok.mp h
    obtain ⟨-, h⟩ := of_bind_unit h
    obtain rfl := pure_eq_ok.mp h
    rfl
  · cases h

lemma readMode_ok {data : String × Json} {result : String × Mode}
    (h : readMode text data = .ok result) (hunique : uniqueKeys data.2 = true) :
    result.2.Valid := by
  unfold readMode at h
  split at h
  · next fields hfields =>
      rw [hfields] at hunique
      obtain ⟨description, -, h⟩ := bind_eq_ok.mp h
      obtain ⟨setPatches, hsetPatches, h⟩ := bind_eq_ok.mp h
      obtain ⟨set, hset, h⟩ := bind_eq_ok.mp h
      obtain ⟨removePatches, hremovePatches, h⟩ := bind_eq_ok.mp h
      obtain ⟨remove, hremove, h⟩ := bind_eq_ok.mp h
      obtain ⟨hcheck, h⟩ := of_bind_unit h
      obtain rfl := pure_eq_ok.mp h
      obtain ⟨hsetKeys, hsetUnique⟩ := uniqueKeys_obj (patchesOf_ok hsetPatches hunique)
      obtain ⟨hremoveKeys, -⟩ := uniqueKeys_obj (patchesOf_ok hremovePatches hunique)
      have hset := mapM_eq_ok hset
      have hremove := mapM_eq_ok hremove
      refine ⟨?_, fun patch hpatch ↦ ?_, ?_, check_eq_ok.mp hcheck⟩
      · exact keys_of_forall₂ hset (fun _ _ hr ↦ (readSetPatch_ok hr).1) ▸ hsetKeys
      · obtain ⟨source, hsource, hr⟩ := exists_of_forall₂ hset hpatch
        have hinputs := hsetUnique source hsource
        rw [(readSetPatch_ok hr).2] at hinputs
        exact (uniqueKeys_obj hinputs).1
      · exact keys_of_forall₂ hremove (fun _ _ hr ↦ readRemovePatch_ok hr) ▸ hremoveKeys
  · cases h

/-- Every definition is valid, and the default is one of them. -/
lemma read_ok {data : Json} {modes : WorkflowModes} (h : WorkflowModes.read text data = .ok modes) :
    (∀ definition ∈ modes.definitions, definition.2.Valid) ∧
      modes.default ∈ modes.definitions.map Prod.fst := by
  unfold WorkflowModes.read at h
  obtain ⟨hunique, h⟩ := of_bind_unit h
  rw [check_eq_ok] at hunique
  cases data with
  | obj fields =>
      dsimp only at h
      split at h
      · next default definitions _ hdefault hmodes =>
          obtain ⟨hcheck, h⟩ := of_bind_unit h
          obtain ⟨result, hresult, h⟩ := bind_eq_ok.mp h
          obtain rfl := pure_eq_ok.mp h
          have hforall := mapM_eq_ok hresult
          have hmember : uniqueKeys (.obj definitions) = true := by
            unfold Json.get at hmodes
            cases hlookup : fields.lookup "modes" with
            | none =>
                rw [hlookup] at hmodes
                cases hmodes
            | some value =>
                rw [hlookup] at hmodes
                have hvalue := (uniqueKeys_obj hunique).2 _ (mem_of_lookup hlookup)
                rw [← hmodes]
                exact hvalue
          have hdefinitions := (uniqueKeys_obj hmember).2
          refine ⟨fun definition hdefinition ↦ ?_, ?_⟩
          · obtain ⟨source, hsource, hr⟩ := exists_of_forall₂ hforall hdefinition
            exact readMode_ok hr (hdefinitions source hsource)
          · have hhas := (check_eq_ok.mp hcheck).2
            obtain ⟨value, hvalue⟩ := Option.isSome_iff_exists.mp hhas
            rw [keys_of_forall₂ hforall fun _ _ ↦ readMode_fst]
            exact List.mem_map_of_mem (mem_of_lookup hvalue)
      · cases h
  | _ => cases h

end Valid

/-! ## What a mode does to a graph -/

section Apply

variable {g : Graph} {mode : Mode}

/-- The inputs that a mode sets or removes. -/
def Mode.Touches (mode : Mode) (id name : String) : Prop :=
  ∃ target ∈ mode.targets, id = target.1 ∧ name ∈ target.2

lemma Mode.mem_targets_of_set {patch : String × Fields} (h : patch ∈ mode.set) :
    (patch.1, patch.2.map Prod.fst) ∈ mode.targets :=
  List.mem_append_left _ (List.mem_map.mpr ⟨patch, h, rfl⟩)

lemma Mode.mem_targets_of_remove {patch : String × List String} (h : patch ∈ mode.remove) :
    patch ∈ mode.targets := List.mem_append_right _ h

lemma lookup_eraseAll (names : List String) (inputs : Fields) (name : String) :
    (eraseAll names inputs).lookup name = if name ∈ names then none else inputs.lookup name := by
  induction names generalizing inputs with
  | nil => simp [eraseAll]
  | cons first names ih =>
      have hfold : eraseAll (first :: names) inputs =
          eraseAll names (Json.erase first inputs) := rfl
      rw [hfold, ih, lookup_erase]
      by_cases hmem : name ∈ names
      · simp [hmem]
      · by_cases hfirst : first = name
        · simp [hfirst]
        · have hne : ¬name = first := fun e ↦ hfirst e.symm
          simp [hmem, hfirst, hne]

/-- A mode whose nodes are in the graph applies: what it sets holds, what it removes is
gone, and nothing else is touched. -/
lemma Mode.apply_eq (h : mode.Valid)
    (htargets : ∀ target ∈ mode.targets, ∃ inputs, inputsOf g target.1 = some inputs) :
    ∃ g', (mode.applySet g >>= mode.applyRemove) = .ok g' ∧ Framed mode.Touches g g' ∧
      (∀ patch ∈ mode.set, ∀ field ∈ patch.2, inputOf g' patch.1 field.1 = some field.2) ∧
      ∀ patch ∈ mode.remove, ∀ name ∈ patch.2, inputOf g' patch.1 name = none := by
  obtain ⟨g₁, hg₁, hframed₁, hset⟩ := editAll (g := g) Prod.fst
    (fun patch : String × Fields ↦ Json.update patch.2)
    (fun patch name ↦ name ∈ patch.2.map Prod.fst)
    (fun patch inputs name hname ↦ lookup_update_of_notMem hname inputs) mode.set
    fun patch hpatch ↦ htargets _ (mem_targets_of_set hpatch)
  obtain ⟨g₂, hg₂, hframed₂, hremove⟩ := editAll (g := g₁) Prod.fst
    (fun patch : String × List String ↦ eraseAll patch.2) (fun patch name ↦ name ∈ patch.2)
    (fun patch inputs name hname ↦ by rw [lookup_eraseAll, if_neg hname]) mode.remove
    fun patch hpatch ↦ by
      obtain ⟨inputs, hinputs⟩ := htargets _ (mem_targets_of_remove hpatch)
      obtain ⟨inputs', hinputs', -⟩ := (hframed₁ patch.1).exists_inputs hinputs
      exact ⟨inputs', hinputs'⟩
  refine ⟨g₂, ?_, (hframed₁.append hframed₂).mono ?_, fun patch hpatch field hfield ↦ ?_,
    fun patch hpatch name hname ↦ ?_⟩
  · unfold Mode.applySet
    rw [hg₁]
    exact hg₂
  · rintro id name (⟨patch, hpatch, rfl, hname⟩ | ⟨patch, hpatch, rfl, hname⟩)
    · exact ⟨_, mem_targets_of_set hpatch, rfl, hname⟩
    · exact ⟨_, mem_targets_of_remove hpatch, rfl, hname⟩
  · have hvalue : inputOf g₁ patch.1 field.1 = some field.2 :=
      hset patch hpatch field.1 _
        (fun inputs ↦ lookup_update (h.inputs_nodup patch hpatch) hfield inputs)
        fun other hother hne hnode ↦ absurd (eq_of_fst_eq h.set_nodup hother hpatch hnode) hne
    obtain ⟨inputs, hinputs⟩ := htargets _ (mem_targets_of_set hpatch)
    obtain ⟨inputs', hinputs', -⟩ := (hframed₁ patch.1).exists_inputs hinputs
    rw [← hvalue]
    refine (hframed₂ patch.1).input ?_ hinputs'
    -- An input that is set is not removed.
    rintro ⟨removal, hremoval, hnode, hname⟩
    refine h.consistent removal hremoval field.1 hname ?_
    rw [← hnode, lookup_of_mem h.set_nodup hpatch]
    exact List.mem_map_of_mem hfield
  · exact hremove patch hpatch name none
      (fun inputs ↦ by rw [lookup_eraseAll, if_pos hname])
      fun other hother hne hnode ↦ absurd (eq_of_fst_eq h.remove_nodup hother hpatch hnode) hne

lemma validateTargets_ok {modes : WorkflowModes} {mapped : List (String × String)}
    {protectedNodes : List String}
    (h : modes.validateTargets g mapped protectedNodes = .ok ()) :
    ∀ definition ∈ modes.definitions, ∀ target ∈ definition.2.targets,
      (∃ inputs, inputsOf g target.1 = some inputs) ∧ target.1 ∉ protectedNodes ∧
        ∀ name ∈ target.2, (target.1, name) ∉ mapped := by
  intro definition hdefinition target htarget
  have hcheck := forM_eq_ok (forM_eq_ok h definition hdefinition) target htarget
  obtain ⟨hinputs, hcheck⟩ := of_bind_unit hcheck
  rw [check_eq_ok] at hinputs hcheck
  exact ⟨Option.isSome_iff_exists.mp hinputs, hcheck⟩

end Apply

end StProxy.Workflows
