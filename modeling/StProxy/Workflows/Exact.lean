import StProxy.Workflows.Edits

/-!
# `build` makes exactly the declared edits

Each pass of `build` edits the inputs that its part controls.  What one part wrote
survives the others, since they are apart.
-/

namespace StProxy.Workflows

open Json Checked

variable {w : Workflow} {values : Fields} {given : List ReferenceInputs} {g : Graph}

/-! ## One lemma for each pass -/

section Passes

lemma applyModes_eq (hw : w.Accepted) (hv : w.Resolved values) :
    ∃ g', w.applyModes values w.graph = .ok g' ∧
      Framed (w.Controls values .modes) w.graph g' ∧
      ∀ modes ∈ w.modes, ∃ mode, w.chosen values = some mode ∧ mode.Applied g' := by
  unfold Workflow.applyModes
  cases hmodes : w.modes with
  | none => exact ⟨w.graph, rfl, .refl _ _, nofun⟩
  | some modes =>
      obtain ⟨name, mode, hname, hmode⟩ := hv.mode modes hmodes
      have hchosen : w.chosen values = some mode := by
        rw [Workflow.chosen, hmodes, Option.bind_some, hname]
        exact hmode
      obtain ⟨-, haccepted⟩ := hw.modes modes hmodes
      have hmem := mem_of_lookup_eq hmode
      obtain ⟨g', hg', hframed, hset, hremove⟩ := Mode.apply_eq (haccepted.valid _ hmem)
        fun target htarget ↦ (haccepted.targets _ hmem target htarget).1
      refine ⟨g', ?_, hframed.mono fun id name h ↦ ⟨mode, hchosen, h⟩, ?_⟩
      · rw [hname]
        simp only [Option.getD_some, WorkflowModes.apply, hmode]
        exact hg'
      · rintro _ ⟨⟩
        exact ⟨mode, hchosen, hset, hremove⟩

lemma applyNsfw_eq (hv : w.Resolved values) (hnodup : w.mapped.Nodup)
    (hrows : ∀ loras ∈ w.nsfwLoras, ∀ name ∈ loras.inputs,
      ∃ row, inputOf g loras.node name = some (.obj row)) :
    ∃ g', w.applyNsfw values g = .ok g' ∧ Framed (w.Controls values .rows) g g' ∧
      ∀ loras ∈ w.nsfwLoras, ∃ enabled, values.lookup "nsfw" = some (.bool enabled) ∧
        ∀ name ∈ loras.inputs,
          Switched enabled (inputOf g loras.node name) (inputOf g' loras.node name) := by
  unfold Workflow.applyNsfw
  cases hloras : w.nsfwLoras with
  | none => exact ⟨g, rfl, .refl _ _, nofun⟩
  | some loras =>
      obtain ⟨enabled, henabled⟩ := hv.nsfw loras hloras
      have hcontrolled : NsfwLoras.controlled w.nsfwLoras =
          loras.inputs.map fun name ↦ (loras.node, name) := by rw [hloras, NsfwLoras.controlled]
      have hinputs : loras.inputs.Nodup := by
        have hleft := (List.nodup_append.mp hnodup).1
        rw [hcontrolled] at hleft
        exact List.Nodup.of_map _ hleft
      obtain ⟨g', hg', hframed, hswitched⟩ := applyRows_eq enabled hinputs (hrows loras hloras)
      refine ⟨g', ?_, hframed.mono ?_, ?_⟩
      · rw [henabled]
        exact hg'
      · rintro id name ⟨rfl, hname⟩
        show (loras.node, name) ∈ NsfwLoras.controlled w.nsfwLoras
        rw [hcontrolled]
        exact List.mem_map_of_mem hname
      · rintro _ ⟨⟩
        exact ⟨enabled, henabled, hswitched⟩

lemma validateReferenceCount_ok {count : ℕ} (h : w.validateReferenceCount count = .ok ()) :
    count ≤ w.maxReferences := by
  unfold Workflow.validateReferenceCount at h
  exact check_eq_ok.mp (of_bind_unit h).2

variable (values) in
lemma applyReferences_eq (hw : w.Accepted) (hcount : given.length ≤ w.maxReferences)
    (hg : ∀ id, HasInputs w.graph id → HasInputs g id) :
    ∃ ids g', w.applyReferences given g = .ok g' ∧ ids.length = given.length ∧
      (∀ references ∈ w.references, references.Filled given ids g g') ∧
      (∀ id ∈ ids, g.lookup id = none) ∧
      ∀ id ∉ ids, Kept (w.Controls values .slots id) (g.lookup id) (g'.lookup id) := by
  unfold Workflow.applyReferences
  cases hreferences : w.references with
  | none =>
      have hnone : given.length = 0 := by
        rw [Workflow.maxReferences, hreferences] at hcount
        exact Nat.le_zero.mp hcount
      exact ⟨[], g, rfl, hnone.symm, nofun, List.forall_mem_nil _, fun _ _ ↦ .inl rfl⟩
  | some references =>
      have haccepted := hw.references references hreferences
      rw [Workflow.maxReferences, hreferences] at hcount
      obtain ⟨ids, g', hg', hlength, hfilled, hkept⟩ := References.apply_eq haccepted.nodup
        haccepted.ne hcount (hg _ haccepted.generator) (hg _ haccepted.loader)
      refine ⟨ids, g', hg', hlength, ?_, hfilled.fresh, fun id hid ↦ (hkept id hid).mono ?_⟩
      · rintro _ ⟨⟩
        exact hfilled
      · rintro name ⟨rfl, hname⟩
        exact mem_slots.mpr ⟨references, hreferences, rfl, hname⟩

/-- The inputs that the parameters set, with their values. -/
def Workflow.assignments (w : Workflow) (values : Fields) : List (Target × Json) :=
  values.filterMap fun value ↦
    ((w.parameters.lookup value.1).bind Spec.target).map fun target ↦ (target, value.2)

/-- Exactly the switches have no target. -/
lemma isSwitch_iff (hw : w.Accepted) {name : String} (hname : name ∈ w.parameters.map Prod.fst) :
    w.isSwitch name = true ↔ (w.parameters.lookup name).bind Spec.target = none := by
  obtain ⟨spec, hspec⟩ := lookup_isSome hname
  rw [hspec, Option.bind_some]
  unfold Workflow.isSwitch
  rw [Bool.or_eq_true, Bool.and_eq_true, Bool.and_eq_true, beq_iff_eq, beq_iff_eq]
  rcases mem_parameters.mp (mem_of_lookup_eq hspec) with hmem | ⟨modes, hmodes, heq⟩ | ⟨hloras, heq⟩
  · obtain ⟨target, htarget, -⟩ := hw.declared _ hmem
    have hdeclared : name ∈ w.declared.map Prod.fst := List.mem_map_of_mem hmem
    rw [htarget]
    refine ⟨fun h ↦ ?_, nofun⟩
    rcases h with ⟨rfl, hmodes⟩ | ⟨rfl, hloras⟩
    · obtain ⟨modes, hmodes⟩ := Option.isSome_iff_exists.mp hmodes
      exact absurd hdeclared (hw.modes modes hmodes).1
    · obtain ⟨loras, hloras⟩ := Option.isSome_iff_exists.mp hloras
      exact absurd hdeclared (hw.nsfw loras hloras).2
  · obtain ⟨rfl, rfl⟩ := Prod.mk.inj heq
    exact ⟨fun _ ↦ rfl, fun _ ↦ .inl ⟨rfl, Option.isSome_of_mem hmodes⟩⟩
  · obtain ⟨rfl, rfl⟩ := Prod.mk.inj heq
    exact ⟨fun _ ↦ rfl, fun _ ↦ .inr ⟨rfl, hloras⟩⟩

lemma foldlM_applyValue (hw : w.Accepted)
    (h : ∀ name ∈ values.map Prod.fst, name ∈ w.parameters.map Prod.fst) (g : Graph) :
    values.foldlM w.applyValue g = (w.assignments values).foldlM
      (fun g a ↦ setInput a.1.node a.1.input a.2 g) g := by
  induction values generalizing g with
  | nil => rfl
  | cons value values ih =>
      rw [List.map_cons, List.forall_mem_cons] at h
      have hswitch := isSwitch_iff hw h.1
      unfold Workflow.assignments
      rw [List.foldlM_cons, List.filterMap_cons]
      unfold Workflow.applyValue
      cases htarget : (w.parameters.lookup value.1).bind Spec.target with
      | none =>
          rw [if_pos (hswitch.mpr htarget)]
          exact ih h.2 g
      | some target =>
          rw [if_neg fun hs ↦ by simp [hswitch.mp hs] at htarget]
          dsimp only [Option.map_some]
          rw [List.foldlM_cons]
          exact bind_congr fun g' ↦ ih h.2 g'

lemma eq_of_nodup_filterMap {α β : Type} {f : α → Option β} {l : List α}
    (h : (l.filterMap f).Nodup) {a b : α} {c : β} (ha : a ∈ l) (hb : b ∈ l)
    (hfa : f a = some c) (hfb : f b = some c) : a = b := by
  induction l with
  | nil => cases ha
  | cons first l ih =>
      have htail : (l.filterMap f).Nodup := h.sublist ((List.sublist_cons_self _ _).filterMap f)
      have hfirst {x : α} (hx : x ∈ l) (hfx : f x = some c) : f first ≠ some c := by
        intro hc
        rw [List.filterMap_cons, hc] at h
        exact (List.nodup_cons.mp h).1 (List.mem_filterMap.mpr ⟨x, hx, hfx⟩)
      rcases List.mem_cons.mp ha with rfl | hta
      · rcases List.mem_cons.mp hb with rfl | htb
        · rfl
        · exact absurd hfa (hfirst htb hfb)
      · rcases List.mem_cons.mp hb with rfl | htb
        · exact absurd hfb (hfirst hta hfa)
        · exact ih htail hta htb

/-- Two parameters have two targets. -/
lemma target_inj (hw : w.Accepted) {key key' : String} {target : Target}
    (h : (w.parameters.lookup key).bind Spec.target = some target)
    (h' : (w.parameters.lookup key').bind Spec.target = some target) : key = key' := by
  obtain ⟨spec, hspec, htarget⟩ := mem_declared h
  obtain ⟨spec', hspec', htarget'⟩ := mem_declared h'
  have heq := eq_of_nodup_filterMap (List.nodup_append.mp hw.nodup).2.1 hspec hspec'
    (c := (target.node, target.input)) (by simp [htarget]) (by simp [htarget'])
  exact congrArg Prod.fst heq

lemma applyValues_eq (hw : w.Accepted) (hv : w.Resolved values)
    (hg : ∀ id, HasInputs w.graph id → HasInputs g id) :
    ∃ g', values.foldlM w.applyValue g = .ok g' ∧ Framed (w.Controls values .targets) g g' ∧
      ∀ key target, (w.parameters.lookup key).bind Spec.target = some target →
        ∃ value, values.lookup key = some value ∧
          inputOf g' target.node target.input = some value := by
  have hassignment {a : Target × Json} (ha : a ∈ w.assignments values) :
      ∃ key, (w.parameters.lookup key).bind Spec.target = some a.1 ∧
        values.lookup key = some a.2 := by
    obtain ⟨value, hvalue, hsome⟩ := List.mem_filterMap.mp ha
    obtain ⟨target, htarget, rfl⟩ := Option.map_eq_some_iff.mp hsome
    exact ⟨value.1, htarget, lookup_of_mem hv.nodup hvalue⟩
  obtain ⟨g', hg', hframed, hpost⟩ := editAll (g := g) (fun a : Target × Json ↦ a.1.node)
    (fun a ↦ Json.set a.1.input a.2) (fun a name ↦ name = a.1.input)
    (fun a inputs name hname ↦ lookup_set_of_ne _ _ fun e ↦ hname e.symm) (w.assignments values)
    fun a ha ↦ by
      obtain ⟨key, hkey, -⟩ := hassignment ha
      exact hg _ (hw.hasInputs (show w.Controls values .targets _ _ from ⟨key, hkey⟩))
  refine ⟨g', (foldlM_applyValue hw hv.declared g).trans hg', hframed.mono ?_, ?_⟩
  · rintro id name ⟨a, ha, rfl, rfl⟩
    obtain ⟨key, hkey, -⟩ := hassignment ha
    exact ⟨key, hkey⟩
  · intro key target hkey
    obtain ⟨spec, hspec, -⟩ := Option.bind_eq_some_iff.mp hkey
    obtain ⟨value, hvalue⟩ := lookup_isSome
      (hv.complete key (List.mem_map_of_mem (mem_of_lookup_eq hspec)))
    refine ⟨value, hvalue, hpost (target, value) ?_ target.input _ (fun inputs ↦ ?_) ?_⟩
    · exact List.mem_filterMap.mpr ⟨(key, value), mem_of_lookup hvalue, by simp [hkey]⟩
    · rw [lookup_set, if_pos rfl]
    · -- Another assignment of the same input would be of the same parameter.
      rintro ⟨target', value'⟩ hother hne hnode hinput
      obtain rfl : target' = target := by
        cases target'
        cases target
        exact Target.mk.injEq .. ▸ ⟨hnode, hinput.symm⟩
      obtain ⟨key', hkey', hvalue'⟩ := hassignment hother
      obtain rfl := target_inj hw hkey hkey'
      exact hne (by simpa using hvalue'.symm.trans hvalue)

lemma foldlM_applyOutput (outputs : List Output) (g : Graph) :
    outputs.foldlM applyOutput g =
      (outputs.filter fun output ↦ output.adapter = .heltoSavedImages).foldlM
        (fun g output ↦ setInput output.node "reference_only" (.bool true) g) g := by
  induction outputs generalizing g with
  | nil => rfl
  | cons output outputs ih =>
      rw [List.foldlM_cons, List.filter_cons]
      unfold applyOutput
      cases hadapter : output.adapter with
      | comfyImages => exact ih g
      | heltoSavedImages =>
          simp only [decide_true, if_true, List.foldlM_cons]
          exact bind_congr fun g' ↦ ih g'

variable (values) in
lemma applyOutputs_eq (hw : w.Accepted) (hg : ∀ id, HasInputs w.graph id → HasInputs g id) :
    ∃ g', w.outputs.foldlM applyOutput g = .ok g' ∧ Framed (w.Controls values .outputs) g g' ∧
      ∀ output ∈ w.outputs, output.adapter = .heltoSavedImages →
        inputOf g' output.node "reference_only" = some (.bool true) := by
  have hmem {output : Output}
      (h : output ∈ w.outputs.filter fun output ↦ output.adapter = .heltoSavedImages) :
      output ∈ w.outputs ∧ output.adapter = .heltoSavedImages := by simpa using h
  obtain ⟨g', hg', hframed, hpost⟩ := editAll (g := g) Output.node
    (fun _ ↦ Json.set "reference_only" (.bool true)) (fun _ name ↦ name = "reference_only")
    (fun _ inputs name hname ↦ lookup_set_of_ne _ _ fun e ↦ hname e.symm)
    (w.outputs.filter fun output ↦ output.adapter = .heltoSavedImages)
    fun output houtput ↦ hg _ (hw.outputs output (hmem houtput).1 (hmem houtput).2).hasInputs
  refine ⟨g', (foldlM_applyOutput w.outputs g).trans hg', hframed.mono ?_, ?_⟩
  · rintro id name ⟨output, houtput, rfl, rfl⟩
    exact ⟨rfl, output, (hmem houtput).1, (hmem houtput).2, rfl⟩
  · intro output houtput hadapter
    refine hpost output (by simpa using ⟨houtput, hadapter⟩) "reference_only" _
      (fun inputs ↦ ?_) ?_
    · rw [lookup_set, if_pos rfl]
    · intro other hother hne hnode
      refine absurd ?_ hne
      obtain ⟨-, hadapter'⟩ := hmem hother
      cases other
      cases output
      exact Output.mk.injEq .. ▸ ⟨hnode, hadapter'.trans hadapter.symm⟩

end Passes

/-! ## All passes -/

/-- The graphs after each pass. -/
structure Passes (w : Workflow) (values : Fields) (given : List ReferenceInputs)
    (ids : List String) (g₁ g₂ g₃ g₄ g₅ : Graph) : Prop where
  framed₁ : Framed (w.Controls values .modes) w.graph g₁
  modes : ∀ modes ∈ w.modes, ∃ mode, w.chosen values = some mode ∧ mode.Applied g₁
  framed₂ : Framed (w.Controls values .rows) g₁ g₂
  rows : ∀ loras ∈ w.nsfwLoras, ∃ enabled, values.lookup "nsfw" = some (.bool enabled) ∧
    ∀ name ∈ loras.inputs,
      Switched enabled (inputOf g₁ loras.node name) (inputOf g₂ loras.node name)
  length : ids.length = given.length
  slots : ∀ references ∈ w.references, references.Filled given ids g₂ g₃
  fresh : ∀ id ∈ ids, g₂.lookup id = none
  kept₃ : ∀ id ∉ ids, Kept (w.Controls values .slots id) (g₂.lookup id) (g₃.lookup id)
  framed₄ : Framed (w.Controls values .targets) g₃ g₄
  targets : ∀ key target, (w.parameters.lookup key).bind Spec.target = some target →
    ∃ value, values.lookup key = some value ∧ inputOf g₄ target.node target.input = some value
  framed₅ : Framed (w.Controls values .outputs) g₄ g₅
  outputs : ∀ output ∈ w.outputs, output.adapter = .heltoSavedImages →
    inputOf g₅ output.node "reference_only" = some (.bool true)

lemma mem_rows {loras : NsfwLoras} (hloras : loras ∈ w.nsfwLoras) {name : String}
    (hname : name ∈ loras.inputs) : w.Controls values .rows loras.node name := by
  show (loras.node, name) ∈ NsfwLoras.controlled w.nsfwLoras
  rw [hloras]
  exact List.mem_map_of_mem hname

/-- The passes before the references add and remove no node. -/
lemma build_passes (hw : w.Accepted) (hv : w.Resolved values) (hconflict : ¬w.Conflict)
    (hcount : w.validateReferenceCount given.length = .ok ()) :
    ∃ ids g₁ g₂ g₃ g₄ g₅, w.build values given = .ok g₅ ∧
      Passes w values given ids g₁ g₂ g₃ g₄ g₅ := by
  obtain ⟨g₁, hg₁, hframed₁, hmodes⟩ := applyModes_eq hw hv
  obtain ⟨g₂, hg₂, hframed₂, hrows⟩ := applyNsfw_eq (g := g₁) hv hw.nodup
    fun loras hloras name hname ↦ by
      -- A mode does not touch the rows.
      obtain ⟨inputs, hinputs⟩ := (hw.nsfw loras hloras).1.hasInputs
      rw [(hframed₁ loras.node).input (fun hmode ↦ hw.apart hconflict (by decide) hmode
        (mem_rows hloras hname)) hinputs]
      exact (hw.nsfw loras hloras).1.rows name hname
  have hin₂ : ∀ id, HasInputs w.graph id → HasInputs g₂ id := fun id hid ↦
    (hid.kept (hframed₁ id)).kept (hframed₂ id)
  obtain ⟨ids, g₃, hg₃, hlength, hslots, hfresh, hkept₃⟩ :=
    applyReferences_eq values hw (validateReferenceCount_ok hcount) hin₂
  have hin₃ : ∀ id, HasInputs w.graph id → HasInputs g₃ id := fun id hid ↦
    (hin₂ id hid).kept (hkept₃ id fun hmem ↦ (hin₂ id hid).lookup_ne (hfresh id hmem))
  obtain ⟨g₄, hg₄, hframed₄, htargets⟩ := applyValues_eq hw hv hin₃
  obtain ⟨g₅, hg₅, hframed₅, houtputs⟩ := applyOutputs_eq values hw fun id hid ↦
    (hin₃ id hid).kept (hframed₄ id)
  refine ⟨ids, g₁, g₂, g₃, g₄, g₅, ?_, hframed₁, hmodes, hframed₂, hrows, hlength, hslots, hfresh,
    hkept₃, hframed₄, htargets, hframed₅, houtputs⟩
  have hseed : check (w.drawsSeed values = false)
      (Raised.workflowError "missing resolved seed") = .ok () := check_eq_ok.mpr hv.seed
  unfold Workflow.build
  rw [hseed, hg₁]
  simp only [bind, Except.bind, hg₂, hcount, hg₃, hg₄, hg₅]

/-- The inputs that other parts control. -/
def Workflow.Others (w : Workflow) (values : Fields) (part : Part) (id name : String) : Prop :=
  ∃ other ≠ part, w.Controls values other id name

section Survives

variable {ids : List String} {g₁ g₂ g₃ g₄ g₅ : Graph} {part : Part} {id name : String}

lemma Kept.others {other : Part} {a b : Option Json} (h : Kept (w.Controls values other id) a b)
    (hne : other ≠ part) : Kept (w.Others values part id) a b :=
  h.mono fun _ hname ↦ ⟨other, hne, hname⟩

/-- What a part wrote survives the other parts. -/
lemma survives (hw : w.Accepted) (hconflict : ¬w.Conflict) {g g' : Graph} (hg : HasInputs g id)
    (hkept : Kept (w.Others values part id) (g.lookup id) (g'.lookup id))
    (h : w.Controls values part id name) : inputOf g' id name = inputOf g id name := by
  obtain ⟨inputs, hinputs⟩ := hg
  refine hkept.input ?_ hinputs
  rintro ⟨other, hne, hother⟩
  exact hw.apart hconflict hne hother h

variable (h : Passes w values given ids g₁ g₂ g₃ g₄ g₅)

include h

lemma Passes.kept_after₃ (htargets : Part.targets ≠ part) (houtputs : Part.outputs ≠ part)
    (id : String) : Kept (w.Others values part id) (g₃.lookup id) (g₅.lookup id) :=
  ((h.framed₄ id).others htargets).trans ((h.framed₅ id).others houtputs)

lemma Passes.kept_after₂ (hid : id ∉ ids) :
    Kept (w.Others values .rows id) (g₂.lookup id) (g₅.lookup id) :=
  ((h.kept₃ id hid).others (by decide)).trans (h.kept_after₃ (by decide) (by decide) id)

lemma Passes.kept_after₁ (hid : id ∉ ids) :
    Kept (w.Others values .modes id) (g₁.lookup id) (g₅.lookup id) :=
  ((h.framed₂ id).others (by decide)).trans <|
    ((h.kept₃ id hid).others (by decide)).trans (h.kept_after₃ (by decide) (by decide) id)

lemma Passes.kept_before₃ (id : String) :
    Kept (fun name ↦ w.Controls values .modes id name ∨ w.Controls values .rows id name)
      (w.graph.lookup id) (g₂.lookup id) :=
  ((h.framed₁ id).mono fun _ ↦ .inl).trans ((h.framed₂ id).mono fun _ ↦ .inr)

/-- The nodes of the references are not in the export. -/
lemma Passes.fresh_export (hid : id ∈ ids) : w.graph.lookup id = none :=
  (h.fresh id hid ▸ h.kept_before₃ id).none

lemma Passes.notMem (hid : HasInputs w.graph id) : id ∉ ids := fun hmem ↦
  hid.lookup_ne (h.fresh_export hmem)

lemma Passes.others (hid : id ∉ ids) : Kept (fun name ↦ ∃ part, w.Controls values part id name)
    (w.graph.lookup id) (g₅.lookup id) :=
  ((h.framed₁ id).mono fun _ ht ↦ ⟨.modes, ht⟩).trans <|
    (h.kept_after₁ hid).mono fun _ ⟨other, _, ht⟩ ↦ ⟨other, ht⟩

lemma Passes.applied (hw : w.Accepted) (hconflict : ¬w.Conflict) {mode : Mode}
    (hchosen : w.chosen values = some mode) (hmode : mode.Applied g₁) : mode.Applied g₅ := by
  have hsurvives {target : String × List String} (htarget : target ∈ mode.targets) {name : String}
      (hname : name ∈ target.2) : inputOf g₅ target.1 name = inputOf g₁ target.1 name := by
    have hcontrols : w.Controls values .modes target.1 name :=
      ⟨mode, hchosen, target, htarget, rfl, hname⟩
    have hid := hw.hasInputs hcontrols
    exact survives hw hconflict (hid.kept (h.framed₁ _)) (h.kept_after₁ (h.notMem hid)) hcontrols
  refine ⟨fun patch hpatch field hfield ↦ ?_, fun patch hpatch name hname ↦ ?_⟩
  · rw [hsurvives (Mode.mem_targets_of_set hpatch) (List.mem_map_of_mem hfield)]
    exact hmode.set patch hpatch field hfield
  · rw [hsurvives (Mode.mem_targets_of_remove hpatch) hname]
    exact hmode.remove patch hpatch name hname

lemma Passes.switched (hw : w.Accepted) (hconflict : ¬w.Conflict) {loras : NsfwLoras}
    (hloras : loras ∈ w.nsfwLoras) (hname : name ∈ loras.inputs) {enabled : Bool}
    (hrow : Switched enabled (inputOf g₁ loras.node name) (inputOf g₂ loras.node name)) :
    Switched enabled (inputOf w.graph loras.node name) (inputOf g₅ loras.node name) := by
  have hcontrols : w.Controls values .rows loras.node name := mem_rows hloras hname
  have hid := hw.hasInputs hcontrols
  have hin₁ := hid.kept (h.framed₁ _)
  rw [survives hw hconflict (hin₁.kept (h.framed₂ _)) (h.kept_after₂ (h.notMem hid)) hcontrols,
    ← survives hw hconflict hid ((h.framed₁ _).others (by decide)) hcontrols]
  exact hrow

lemma Passes.filled (hw : w.Accepted) (hconflict : ¬w.Conflict) {references : References}
    (hreferences : references ∈ w.references) :
    references.Filled given ids w.graph g₅ := by
  have hfilled := h.slots references hreferences
  -- No part controls an input of a node that is not in the export.
  have hfree {id : String} (hid : id ∈ ids) (part : Part) (name : String) :
      ¬w.Controls values part id name := fun ht ↦
    (hw.hasInputs ht).lookup_ne (h.fresh_export hid)
  refine ⟨hfilled.nodup, fun id ↦ h.fresh_export, fun i id reference hid hreference ↦ ?_,
    fun i slot hslot ↦ ?_⟩
  · have hcopied := (hfilled.copied i id reference hid hreference).earlier (h.kept_before₃ _)
      fun name ht ↦ ht.elim (loader_free hw hreferences (.inl rfl) name)
        (loader_free hw hreferences (.inr rfl) name)
    have hkept : Kept (w.Others values .slots id) (g₃.lookup id) (g₅.lookup id) :=
      h.kept_after₃ (by decide) (by decide) id
    refine hcopied.later hkept ?_
    rintro name ⟨part, -, ht⟩
    exact hfree (List.mem_of_getElem? hid) part name ht
  · have hcontrols : w.Controls values .slots references.generator slot :=
      mem_slots.mpr ⟨references, hreferences, rfl, List.mem_of_getElem? hslot⟩
    have hid := hw.hasInputs hcontrols
    have hin₃ := ((hid.kept (h.framed₁ _)).kept (h.framed₂ _)).kept (h.kept₃ _ (h.notMem hid))
    rw [survives hw hconflict hin₃ (h.kept_after₃ (by decide) (by decide) _) hcontrols]
    exact hfilled.slots i slot hslot

/-- Every edit is in the graph after the last pass. -/
lemma Passes.edits (hw : w.Accepted) (hconflict : ¬w.Conflict) :
    w.Edits values given ids g₅ where
  targets key target hkey := by
    obtain ⟨value, hvalue, hinput⟩ := h.targets key target hkey
    have hcontrols : w.Controls values .targets target.node target.input := ⟨key, hkey⟩
    have hid := hw.hasInputs hcontrols
    have hin₃ := ((hid.kept (h.framed₁ _)).kept (h.framed₂ _)).kept (h.kept₃ _ (h.notMem hid))
    refine ⟨value, hvalue, ?_⟩
    rw [survives hw hconflict (hin₃.kept (h.framed₄ _)) ((h.framed₅ _).others (by decide))
      hcontrols]
    exact hinput
  modes modes hmodes := by
    obtain ⟨mode, hchosen, hmode⟩ := h.modes modes hmodes
    exact ⟨mode, hchosen, h.applied hw hconflict hchosen hmode⟩
  rows loras hloras := by
    obtain ⟨enabled, henabled, hrows⟩ := h.rows loras hloras
    exact ⟨enabled, henabled, fun name hname ↦
      h.switched hw hconflict hloras hname (hrows name hname)⟩
  length := h.length
  slots references hreferences := h.filled hw hconflict hreferences
  outputs := h.outputs
  others id hid := h.others hid
  apart hne := hw.apart hconflict hne

end Survives

/-- `build` returns a graph with all of the declared edits, exactly if no slot of the
references is the control of an output. -/
theorem build_edits_iff {text : Text} {directory : Directory} {manifest parameters : Json}
    (hload : Workflow.load text directory manifest = .ok w)
    (hvalues : w.normalize parameters = .ok values) (randbelow : ℤ → ℤ)
    (hcount : w.validateReferenceCount given.length = .ok ()) :
    (∃ ids g', w.build (w.resolveSeed randbelow values) given = .ok g' ∧
      w.Edits (w.resolveSeed randbelow values) given ids g') ↔ ¬w.Conflict := by
  constructor
  · rintro ⟨ids, g', -, hedits⟩
    exact hedits.not_conflict
  · intro hconflict
    have hw := load_ok hload
    obtain ⟨ids, g₁, g₂, g₃, g₄, g₅, hbuild, hpasses⟩ :=
      build_passes hw (resolveSeed_resolved hw randbelow hvalues) hconflict hcount
    exact ⟨ids, g₅, hbuild, hpasses.edits hw hconflict⟩

/-- A generator, a template of references and an output. -/
def portrait : Graph :=
  [("1", .obj [("class_type", .str "Sampler"), ("inputs", .obj [("text", .str "a lake")])]),
    ("2", .obj [("class_type", .str "HeltoLoadImageFromRoot"), ("inputs", .obj
      [("root", .str "references"), ("subfolder", .str ""), ("filename", .str "none.png")])]),
    ("3", .obj [("class_type", .str "HeltoSaveImageAdvanced"), ("inputs", .obj
      [("reference_only", .bool false), ("privacy_mode", .bool false), ("save_image", .bool true),
        ("pause_mode", .bool false), ("use_alternative_folder", .bool false),
        ("use_date_folder", .bool false), ("folder", .str "/images")])])]

def portraitFiles : Directory :=
  ⟨fun _ ↦ .ok (.obj portrait), fun _ ↦ .error (.handled "missing"),
    fun _ ↦ .error (.handled "missing"), .ok⟩

def portraitManifest (generator slot : String) : Json :=
  .obj [("id", .str "portrait"), ("name", .str "Portrait"), ("description", .str "A portrait."),
    ("workflow", .str "portrait.json"),
    ("parameters", .obj [("prompt", .obj [("type", .str "string"), ("required", .bool true),
      ("target", .obj [("node", .str "1"), ("input", .str "text")])])]),
    ("outputs", .arr [.obj [("node", .str "3"), ("adapter", .str "helto_saved_images")]]),
    ("references", .obj [("adapter", .str "helto_root_images"), ("generator", .str generator),
      ("loader", .str "2"), ("inputs", .arr [.str slot])])]

def portraitWorkflow (generator slot : String) : Workflow where
  id := "portrait"
  declared := [("prompt", ⟨[("type", .str "string"), ("required", .bool true),
    ("target", .obj [("node", .str "1"), ("input", .str "text")])], some ⟨"1", "text"⟩⟩)]
  nsfwLoras := none
  outputs := [⟨"3", .heltoSavedImages⟩]
  references := some ⟨generator, "2", [slot], 0⟩
  graph := portrait
  sourceRoots := [("3", "/images")]
  promptGuidance := none
  modes := none

/-- The workflow with its own node for the generator. -/
theorem build_edits_portrait : ∃ ids g',
    (portraitWorkflow "1" "image").build [("prompt", .str "a hill")]
      [⟨"references", "", "lake.png"⟩] = .ok g' ∧
    (portraitWorkflow "1" "image").Edits [("prompt", .str "a hill")]
      [⟨"references", "", "lake.png"⟩] ids g' := by
  have hload : Workflow.load plainText portraitFiles (portraitManifest "1" "image") =
      .ok (portraitWorkflow "1" "image") := rfl
  have hvalues : (portraitWorkflow "1" "image").normalize
      (.obj [("prompt", .str "a hill")]) = .ok [("prompt", .str "a hill")] := rfl
  refine (build_edits_iff hload hvalues id rfl).mpr ?_
  rintro ⟨references, ⟨⟩, hslot, -⟩
  exact absurd hslot (by decide)

/-- The output as the generator, with the slot `reference_only`: its link is overwritten. -/
theorem not_build_edits :
    Workflow.load plainText portraitFiles (portraitManifest "3" "reference_only") =
      .ok (portraitWorkflow "3" "reference_only") ∧
    (portraitWorkflow "3" "reference_only").normalize (.obj [("prompt", .str "a hill")]) =
      .ok [("prompt", .str "a hill")] ∧
    (portraitWorkflow "3" "reference_only").validateReferenceCount 1 = .ok () ∧
    (∃ g', (portraitWorkflow "3" "reference_only").build [("prompt", .str "a hill")]
        [⟨"references", "", "lake.png"⟩] = .ok g' ∧
      inputOf g' "3" "reference_only" = some (.bool true)) ∧
    ¬∃ ids g', (portraitWorkflow "3" "reference_only").build [("prompt", .str "a hill")]
        [⟨"references", "", "lake.png"⟩] = .ok g' ∧
      (portraitWorkflow "3" "reference_only").Edits [("prompt", .str "a hill")]
        [⟨"references", "", "lake.png"⟩] ids g' := by
  refine ⟨rfl, rfl, rfl, ⟨_, rfl, rfl⟩, ?_⟩
  rintro ⟨ids, g', -, hedits⟩
  refine hedits.not_conflict ⟨_, rfl, List.mem_singleton_self _, ?_⟩
  exact ⟨_, List.mem_singleton_self _, rfl, rfl⟩

end StProxy.Workflows
