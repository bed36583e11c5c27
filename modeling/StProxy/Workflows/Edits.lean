import StProxy.Workflows.Patches
import StProxy.Workflows.Values

/-!
# The edits of `build`

Five patchers write into one graph.  The checks of `load` keep their inputs apart,
but for one pair: the slot of a reference may be the control of an output.
-/

namespace StProxy.Workflows

open Json Checked

/-- What writes into the graph. -/
inductive Part
  | modes | rows | slots | targets | outputs
  deriving DecidableEq, Repr

/-- The mode that the values choose. -/
def Workflow.chosen (w : Workflow) (values : Fields) : Option Mode :=
  w.modes.bind fun modes ↦
    match values.lookup "mode" with
    | some (.str name) => modes.definitions.lookup name
    | _ => none

/-- The inputs that a part controls. -/
def Workflow.Controls (w : Workflow) (values : Fields) (part : Part) (id name : String) : Prop :=
  match part with
  | .modes => ∃ mode, w.chosen values = some mode ∧ mode.Touches id name
  | .rows => (id, name) ∈ NsfwLoras.controlled w.nsfwLoras
  | .slots => (id, name) ∈ References.slots w.references
  | .targets => ∃ key, (w.parameters.lookup key).bind Spec.target = some ⟨id, name⟩
  | .outputs => name = "reference_only" ∧
      ∃ output ∈ w.outputs, output.adapter = .heltoSavedImages ∧ output.node = id

/-- What a mode sets holds, and what it removes is absent. -/
structure Mode.Applied (mode : Mode) (g : Graph) : Prop where
  set : ∀ patch ∈ mode.set, ∀ field ∈ patch.2, inputOf g patch.1 field.1 = some field.2
  remove : ∀ patch ∈ mode.remove, ∀ name ∈ patch.2, inputOf g patch.1 name = none

/-- The declared edits of the export, all at once: `ids` are the nodes of the references. -/
structure Workflow.Edits (w : Workflow) (values : Fields) (given : List ReferenceInputs)
    (ids : List String) (g' : Graph) : Prop where
  targets : ∀ key target, (w.parameters.lookup key).bind Spec.target = some target →
    ∃ value, values.lookup key = some value ∧ inputOf g' target.node target.input = some value
  modes : ∀ modes ∈ w.modes, ∃ mode, w.chosen values = some mode ∧ mode.Applied g'
  rows : ∀ loras ∈ w.nsfwLoras, ∃ enabled, values.lookup "nsfw" = some (.bool enabled) ∧
    ∀ name ∈ loras.inputs,
      Switched enabled (inputOf w.graph loras.node name) (inputOf g' loras.node name)
  length : ids.length = given.length
  slots : ∀ references ∈ w.references, references.Filled given ids w.graph g'
  outputs : ∀ output ∈ w.outputs, output.adapter = .heltoSavedImages →
    inputOf g' output.node "reference_only" = some (.bool true)
  others : ∀ id ∉ ids, Kept (fun name ↦ ∃ part, w.Controls values part id name)
    (w.graph.lookup id) (g'.lookup id)
  apart : ∀ {part part' : Part} {id name : String}, part ≠ part' →
    w.Controls values part id name → ¬w.Controls values part' id name

/-- A slot of the references is the control of an output. -/
def Workflow.Conflict (w : Workflow) : Prop :=
  ∃ references ∈ w.references, "reference_only" ∈ references.inputs ∧
    ∃ output ∈ w.outputs, output.adapter = .heltoSavedImages ∧
      output.node = references.generator

variable {w : Workflow} {values : Fields} {given : List ReferenceInputs} {g g' : Graph}

/-- Where a slot is such a control, no graph has all of the edits. -/
lemma Workflow.Edits.not_conflict {ids : List String} (h : w.Edits values given ids g') :
    ¬w.Conflict := by
  rintro ⟨references, hreferences, hslot, output, houtput, hadapter, hnode⟩
  obtain ⟨i, hi⟩ := List.mem_iff_getElem?.mp hslot
  have htrue := h.outputs output houtput hadapter
  rw [hnode, (h.slots references hreferences).slots i _ hi] at htrue
  obtain ⟨id, -, hid⟩ := Option.map_eq_some_iff.mp htrue
  cases hid

/-! ## The parts are apart -/

section Apart

lemma eq_str {value : Json} {s : String} (h : value.eq (.str s) = true) : value = .str s := by
  cases value with
  | str t => simpa [Json.eq] using h
  | _ => simp [Json.eq, Json.number] at h

lemma mem_controlled {loras : Option NsfwLoras} {id name : String}
    (h : (id, name) ∈ NsfwLoras.controlled loras) :
    ∃ l ∈ loras, id = l.node ∧ name ∈ l.inputs := by
  cases loras with
  | none => cases h
  | some l =>
      obtain ⟨name', hname', heq⟩ := List.mem_map.mp h
      obtain ⟨rfl, rfl⟩ := Prod.mk.inj heq
      exact ⟨l, rfl, rfl, hname'⟩

lemma mem_slots {references : Option References} {id name : String} :
    (id, name) ∈ References.slots references ↔
      ∃ r ∈ references, id = r.generator ∧ name ∈ r.inputs := by
  cases references with
  | none => simp [References.slots]
  | some r => simp [References.slots, and_comm, eq_comm]

lemma mem_targetsOf {key : String} {target : Target}
    (h : (w.parameters.lookup key).bind Spec.target = some target) :
    (target.node, target.input) ∈ targetsOf w.declared := by
  obtain ⟨spec, hspec, htarget⟩ := mem_declared h
  exact List.mem_filterMap.mpr ⟨_, hspec, by simp [htarget]⟩

lemma controls_mapped {part : Part} {id name : String} (h : w.Controls values part id name)
    (hpart : part = .rows ∨ part = .targets) : (id, name) ∈ w.mapped := by
  rcases hpart with rfl | rfl
  · exact List.mem_append_left _ h
  · obtain ⟨key, hkey⟩ := h
    exact List.mem_append_right _ (mem_targetsOf hkey)

/-- Modes keep away from everything else. -/
lemma chosen_touches (hw : w.Accepted) {mode : Mode} (h : w.chosen values = some mode)
    {id name : String} (htouches : mode.Touches id name) :
    HasInputs w.graph id ∧ id ∉ w.outputs.map Output.node ∧
      (∀ references ∈ w.references, id ≠ references.loader) ∧ (id, name) ∉ w.mapped ∧
      (id, name) ∉ References.slots w.references := by
  obtain ⟨modes, hmodes, hmode⟩ := Option.bind_eq_some_iff.mp h
  split at hmode
  · next key _ =>
      obtain ⟨target, htarget, rfl, hname⟩ := htouches
      obtain ⟨hinputs, hnode, hfree⟩ :=
        (hw.modes modes hmodes).2.targets _ (mem_of_lookup_eq hmode) target htarget
      obtain ⟨houtput, hloader⟩ := not_or.mp (List.mem_append.not.mp hnode)
      obtain ⟨hmapped, hslot⟩ := not_or.mp (List.mem_append.not.mp (hfree name hname))
      refine ⟨hinputs, houtput, fun references hreferences heq ↦ hloader ?_, hmapped, hslot⟩
      rw [heq]
      simpa using ⟨references, hreferences, rfl⟩
  · cases hmode

/-- Each part controls inputs that the export has a node for. -/
lemma Workflow.Accepted.hasInputs (hw : w.Accepted) {part : Part} {id name : String}
    (h : w.Controls values part id name) : HasInputs w.graph id := by
  cases part with
  | modes =>
      obtain ⟨mode, hmode, htouches⟩ := h
      exact (chosen_touches hw hmode htouches).1
  | rows =>
      obtain ⟨loras, hloras, rfl, -⟩ := mem_controlled h
      exact (hw.nsfw loras hloras).1.hasInputs
  | slots =>
      obtain ⟨references, hreferences, rfl, -⟩ := mem_slots.mp h
      exact (hw.references references hreferences).generator
  | targets =>
      obtain ⟨key, hkey⟩ := h
      obtain ⟨spec, hspec, htarget⟩ := mem_declared hkey
      obtain ⟨target, htarget', hinputs⟩ := hw.declared _ hspec
      obtain rfl : target = ⟨id, name⟩ := by simpa using htarget'.symm.trans htarget
      exact hinputs
  | outputs =>
      obtain ⟨-, output, houtput, hadapter, rfl⟩ := h
      exact (hw.outputs output houtput hadapter).hasInputs

lemma modes_apart (hw : w.Accepted) {part : Part} {id name : String} (hne : part ≠ .modes)
    (h : w.Controls values .modes id name) : ¬w.Controls values part id name := by
  obtain ⟨mode, hmode, htouches⟩ := h
  obtain ⟨-, houtput, -, hmapped, hslot⟩ := chosen_touches hw hmode htouches
  intro h
  cases part with
  | modes => exact hne rfl
  | rows => exact hmapped (controls_mapped h (.inl rfl))
  | targets => exact hmapped (controls_mapped h (.inr rfl))
  | slots => exact hslot h
  | outputs =>
      obtain ⟨-, output, hmem, -, rfl⟩ := h
      exact houtput (List.mem_map_of_mem hmem)

lemma slots_mapped (hw : w.Accepted) {part : Part} {id name : String}
    (hpart : part = .rows ∨ part = .targets) (h : w.Controls values part id name) :
    ¬w.Controls values .slots id name := by
  intro hslot
  obtain ⟨references, hreferences, rfl, hname⟩ := mem_slots.mp hslot
  exact ((hw.references references hreferences).mapped _ (controls_mapped h hpart)).2 ⟨rfl, hname⟩

lemma outputs_mapped (hw : w.Accepted) {part : Part} {id name : String}
    (hpart : part = .rows ∨ part = .targets) (h : w.Controls values part id name) :
    ¬w.Controls values .outputs id name := by
  rintro ⟨-, output, houtput, hadapter, rfl⟩
  exact (hw.outputs output houtput hadapter).mapped _ (controls_mapped h hpart) rfl

lemma rows_targets (hw : w.Accepted) {id name : String} (h : w.Controls values .rows id name) :
    ¬w.Controls values .targets id name := by
  rintro ⟨key, hkey⟩
  exact (List.nodup_append.mp hw.nodup).2.2 _ h _ (mem_targetsOf hkey) rfl

lemma slots_outputs (hconflict : ¬w.Conflict) {id name : String}
    (h : w.Controls values .slots id name) : ¬w.Controls values .outputs id name := by
  rintro ⟨rfl, output, houtput, hadapter, hnode⟩
  obtain ⟨references, hreferences, rfl, hname⟩ := mem_slots.mp h
  exact hconflict ⟨references, hreferences, hname, output, houtput, hadapter, hnode⟩

/-- No input is controlled by two parts. -/
lemma Workflow.Accepted.apart (hw : w.Accepted) (hconflict : ¬w.Conflict) {part part' : Part}
    {id name : String} (hne : part ≠ part') (h : w.Controls values part id name) :
    ¬w.Controls values part' id name := by
  intro h'
  match part, part' with
  | .modes, part' => exact modes_apart hw hne.symm h h'
  | part, .modes => exact modes_apart hw hne h' h
  | .rows, .slots => exact slots_mapped hw (.inl rfl) h h'
  | .slots, .rows => exact slots_mapped hw (.inl rfl) h' h
  | .targets, .slots => exact slots_mapped hw (.inr rfl) h h'
  | .slots, .targets => exact slots_mapped hw (.inr rfl) h' h
  | .rows, .outputs => exact outputs_mapped hw (.inl rfl) h h'
  | .outputs, .rows => exact outputs_mapped hw (.inl rfl) h' h
  | .targets, .outputs => exact outputs_mapped hw (.inr rfl) h h'
  | .outputs, .targets => exact outputs_mapped hw (.inr rfl) h' h
  | .rows, .targets => exact rows_targets hw h h'
  | .targets, .rows => exact rows_targets hw h' h
  | .slots, .outputs => exact slots_outputs hconflict h h'
  | .outputs, .slots => exact slots_outputs hconflict h' h
  | .rows, .rows | .slots, .slots | .targets, .targets | .outputs, .outputs => exact hne rfl

/-- The template of the references is no node that a part before them controls. -/
lemma loader_free (hw : w.Accepted) {references : References}
    (hreferences : references ∈ w.references) {part : Part} (hpart : part = .modes ∨ part = .rows)
    (name : String) : ¬w.Controls values part references.loader name := by
  intro h
  rcases hpart with rfl | rfl
  · obtain ⟨mode, hmode, htouches⟩ := h
    exact (chosen_touches hw hmode htouches).2.2.1 references hreferences rfl
  · exact ((hw.references references hreferences).mapped _ (controls_mapped h (.inl rfl))).1 rfl

end Apart

end StProxy.Workflows
