import Mathlib.Data.List.Perm.Subperm
import StProxy.Workflows.Accepted
import StProxy.Workflows.Build

/-!
# What the patches of a graph do

One lemma for each loop of `build`: the rows of the LoRAs and the references, whose
nodes get fresh names.
-/

namespace StProxy.Workflows

open Json

/-! ## Rows of LoRAs -/

/-- A row after its switch was set. -/
def Switched (enabled : Bool) (a b : Option Json) : Prop :=
  ∃ row row', a = some (.obj row) ∧ b = some (.obj row') ∧
    row'.lookup "on" = some (.bool enabled) ∧
    ∀ field, field ≠ "on" → row'.lookup field = row.lookup field

lemma switched_set (enabled : Bool) (row : Fields) :
    Switched enabled (some (.obj row)) (some (.obj (Json.set "on" (.bool enabled) row))) := by
  refine ⟨row, _, rfl, rfl, ?_, fun field hfield ↦ ?_⟩
  · rw [lookup_set, if_pos rfl]
  · exact lookup_set_of_ne _ _ hfield.symm

lemma switchRow_eq {enabled : Bool} {name : String} {inputs row : Fields}
    (h : inputs.lookup name = some (.obj row)) : switchRow enabled name inputs =
      .ok (Json.set name (.obj (Json.set "on" (.bool enabled) row)) inputs) := by
  rw [switchRow, h]

lemma applyRows_eq {node : String} {names : List String} (enabled : Bool) (hnodup : names.Nodup)
    {g : Graph} (hrows : ∀ name ∈ names, ∃ row, inputOf g node name = some (.obj row)) :
    ∃ g', names.foldlM (fun g name ↦ editInputs node (switchRow enabled name) g) g = .ok g' ∧
      Framed (fun id name ↦ id = node ∧ name ∈ names) g g' ∧
      ∀ name ∈ names, Switched enabled (inputOf g node name) (inputOf g' node name) := by
  induction names generalizing g with
  | nil => exact ⟨g, rfl, .refl _ g, List.forall_mem_nil _⟩
  | cons name names ih =>
      obtain ⟨hfirst, hrest⟩ := List.nodup_cons.mp hnodup
      obtain ⟨row, hrow⟩ := hrows name List.mem_cons_self
      obtain ⟨inputs, hinputs, hlookup⟩ := Option.bind_eq_some_iff.mp hrow
      obtain ⟨g₁, hg₁, htouches⟩ := editInputs_eq (T := (· = name)) hinputs (switchRow_eq hlookup)
        fun other hother ↦ lookup_set_of_ne _ _ fun e ↦ hother e.symm
      -- The other rows are still there.
      have hother : ∀ other ∈ names, inputOf g₁ node other = inputOf g node other := by
        intro other hmem
        refine (htouches.framed node).input ?_ hinputs
        rintro ⟨-, rfl⟩
        exact hfirst hmem
      obtain ⟨g', hg', hframed, hswitched⟩ := ih hrest fun other hmem ↦ by
        rw [hother other hmem]
        exact hrows other (List.mem_cons_of_mem _ hmem)
      refine ⟨g', ?_, ?_, fun other hmem ↦ ?_⟩
      · rw [List.foldlM_cons, hg₁]
        exact hg'
      · refine (htouches.framed.append hframed).mono ?_
        rintro id other (⟨rfl, rfl⟩ | ⟨rfl, hmem⟩)
        · exact ⟨rfl, List.mem_cons_self⟩
        · exact ⟨rfl, List.mem_cons_of_mem _ hmem⟩
      · rcases List.mem_cons.mp hmem with rfl | hmem
        · have hset : inputOf g₁ node other =
              some (.obj (Json.set "on" (.bool enabled) row)) := by
            rw [inputOf, htouches.inputs, Option.bind_some, lookup_set, if_pos rfl]
          rw [(hframed node).input (fun h ↦ hfirst h.2) htouches.inputs, hset, hrow]
          exact switched_set enabled row
        · rw [← hother other hmem]
          exact hswitched other hmem

/-! ## Fresh names -/

/-- A name that is taken after `n` passes was reached through as many others. -/
lemma freshFrom_taken {g : Graph} {n : ℕ} {id : String}
    (h : freshFrom g n id ∈ g.map Prod.fst) :
    ∃ taken : List String, taken.Nodup ∧ taken.length = n + 1 ∧
      ∀ name ∈ taken, name ∈ g.map Prod.fst ∧ id.length ≤ name.length := by
  induction n generalizing id with
  | zero => exact ⟨[id], List.nodup_singleton _, rfl, by simpa [freshFrom] using h⟩
  | succ n ih =>
      rw [freshFrom] at h
      split at h
      · next hhas =>
          obtain ⟨taken, hnodup, hlength, htaken⟩ := ih h
          have hid : id ∈ g.map Prod.fst := by
            obtain ⟨v, hv⟩ := Option.isSome_iff_exists.mp hhas
            exact List.mem_map_of_mem (mem_of_lookup hv)
          have hlonger : ∀ name ∈ taken, id.length < name.length := by
            intro name hname
            have hle := (htaken name hname).2
            have happend : (id ++ "_").length = id.length + 1 := String.length_append id "_"
            omega
          refine ⟨id :: taken, List.nodup_cons.mpr ⟨fun hmem ↦ ?_, hnodup⟩, by simp [hlength],
            fun name hname ↦ ?_⟩
          · exact lt_irrefl _ (hlonger id hmem)
          · rcases List.mem_cons.mp hname with rfl | hname
            · exact ⟨hid, le_rfl⟩
            · exact ⟨(htaken name hname).1, (hlonger name hname).le⟩
      · next hhas =>
          refine absurd ?_ hhas
          obtain ⟨field, hfield, rfl⟩ := List.mem_map.mp h
          by_contra hnone
          rw [Bool.not_eq_true, has_eq_false, List.lookup_eq_none_iff] at hnone
          exact absurd (hnone field hfield) (by simp)

lemma lookup_freshId (g : Graph) (index : ℕ) : g.lookup (freshId g index) = none := by
  have hfree : freshId g index ∉ g.map Prod.fst := by
    intro hmem
    obtain ⟨taken, hnodup, hlength, htaken⟩ := freshFrom_taken hmem
    have hle := (hnodup.subperm fun name hname ↦ (htaken name hname).1).length_le
    rw [hlength, List.length_map] at hle
    omega
  cases hlookup : g.lookup (freshId g index) with
  | none => rfl
  | some v => exact absurd (List.mem_map_of_mem (mem_of_lookup hlookup)) hfree

/-! ## References -/

/-- The output of a loader. -/
def link (id : String) : Json := .arr [.str id, .int 0]

/-- A copy of the loader of `g` with the inputs of one reference. -/
structure Copied (g : Graph) (loader : String) (reference : ReferenceInputs) (g' : Graph)
    (id : String) : Prop where
  edited : Edited (· ∈ reference.fields.map Prod.fst) (g.lookup loader) (g'.lookup id)
  inputs : ∀ field ∈ reference.fields, inputOf g' id field.1 = some field.2

/-- The new nodes and the slots of the generator. -/
structure References.Filled (references : References) (given : List ReferenceInputs)
    (ids : List String) (g g' : Graph) : Prop where
  nodup : ids.Nodup
  fresh : ∀ id ∈ ids, g.lookup id = none
  copied : ∀ (i : ℕ) id reference, ids[i]? = some id → given[i]? = some reference →
    Copied g references.loader reference g' id
  slots : ∀ (i : ℕ) slot, references.inputs[i]? = some slot →
    inputOf g' references.generator slot = ids[i]?.map link

section References

variable {references : References} {g g₁ g' : Graph} {id : String} {reference : ReferenceInputs}
  {given : List ReferenceInputs}

lemma Edited.exists_inputs {T : String → Prop} {a : Option Json}
    (h : Edited T a (g.lookup id)) : HasInputs g id := by
  obtain ⟨node, inputs, inputs', -, -, hb, -⟩ := h
  refine ⟨inputs', inputsOf_eq_some.mpr ⟨_, hb, ?_⟩⟩
  rw [lookup_set, if_pos rfl]

/-- Later edits of other nodes leave a copy as it is. -/
lemma Copied.later {T : String → Prop} {loader : String} (h : Copied g loader reference g₁ id)
    (hkept : Kept T (g₁.lookup id) (g'.lookup id)) (hT : ∀ name, ¬T name) :
    Copied g loader reference g' id := by
  obtain ⟨inputs, hinputs⟩ := h.edited.exists_inputs
  refine ⟨h.edited.kept (hkept.mono fun name hname ↦ absurd hname (hT name)), ?_⟩
  intro field hfield
  rw [hkept.input (hT _) hinputs]
  exact h.inputs field hfield

/-- Earlier edits of other nodes do not matter for a copy. -/
lemma Copied.earlier {T : String → Prop} {loader : String}
    (h : Copied g₁ loader reference g' id)
    (hkept : Kept T (g.lookup loader) (g₁.lookup loader)) (hT : ∀ name, ¬T name) :
    Copied g loader reference g' id where
  edited := (hkept.mono fun name hname ↦ absurd hname (hT name)).edited h.edited
  inputs := h.inputs

/-- A loop of the references from the index `k` on. -/
structure References.Added (references : References) (k : ℕ) (given : List ReferenceInputs)
    (ids : List String) (g g' : Graph) : Prop where
  length : ids.length = given.length
  nodup : ids.Nodup
  fresh : ∀ id ∈ ids, g.lookup id = none
  copied : ∀ (i : ℕ) id reference, ids[i]? = some id → given[i]? = some reference →
    Copied g references.loader reference g' id
  slots : ∀ (i : ℕ) id slot, ids[i]? = some id → references.inputs[k + i]? = some slot →
    inputOf g' references.generator slot = some (link id)
  kept : ∀ id ∉ ids, Kept (fun name ↦ id = references.generator ∧
    ∃ i < given.length, references.inputs[k + i]? = some name) (g.lookup id) (g'.lookup id)

variable (reference) in
lemma References.add_eq {k : ℕ} {slot : String} (hgenerator : HasInputs g references.generator)
    (hloader : HasInputs g references.loader) (hslot : references.inputs[k]? = some slot) :
    ∃ g₁ g', references.add g (reference, k) = .ok g' ∧
      Copied g references.loader reference g₁ (freshId g k) ∧
      (∀ id ≠ freshId g k, g₁.lookup id = g.lookup id) ∧
      Framed (fun id name ↦ id = references.generator ∧ name = slot) g₁ g' ∧
      inputOf g' references.generator slot = some (link (freshId g k)) := by
  obtain ⟨inputs, hinputs⟩ := hloader
  obtain ⟨node, hnode, hlookup⟩ := inputsOf_eq_some.mp hinputs
  have hfresh := lookup_freshId g k
  set id := freshId g k with hid
  set g₁ := Json.set id (.obj (Json.set "inputs" (.obj (Json.update reference.fields inputs))
    node)) g with hg₁
  have hothers : ∀ id' ≠ id, g₁.lookup id' = g.lookup id' := fun id' hne ↦
    lookup_set_of_ne _ _ hne.symm
  have hnew : g₁.lookup id =
      some (.obj (Json.set "inputs" (.obj (Json.update reference.fields inputs)) node)) := by
    rw [hg₁, lookup_set, if_pos rfl]
  have hinputs₁ : inputsOf g₁ id = some (Json.update reference.fields inputs) := by
    refine inputsOf_eq_some.mpr ⟨_, hnew, ?_⟩
    rw [lookup_set, if_pos rfl]
  have hne : references.generator ≠ id := fun e ↦ hgenerator.lookup_ne (e ▸ hfresh)
  obtain ⟨generator, hgenerator⟩ : HasInputs g₁ references.generator :=
    hgenerator.kept (T := fun _ ↦ False) (.inl (hothers _ hne))
  obtain ⟨g', hg', hframed, hvalue⟩ := setInput_eq (link id) hgenerator
  refine ⟨g₁, g', ?_, ⟨?_, fun field hfield ↦ ?_⟩, hothers, hframed, hvalue⟩
  · unfold References.add
    rw [nodeOf_eq_some.mpr hnode, hinputs, hslot]
    exact hg'
  · exact ⟨node, inputs, _, hnode, hlookup, hnew, fun name hname ↦
      lookup_update_of_notMem hname inputs⟩
  · rw [inputOf, hinputs₁, Option.bind_some]
    exact lookup_update (by simp [ReferenceInputs.fields]) hfield inputs

lemma References.addAll_eq (hnodup : references.inputs.Nodup)
    (hne : references.generator ≠ references.loader) (k : ℕ)
    (hk : k + given.length ≤ references.inputs.length)
    (hgenerator : HasInputs g references.generator) (hloader : HasInputs g references.loader) :
    ∃ ids g', (given.zipIdx k).foldlM references.add g = .ok g' ∧
      references.Added k given ids g g' := by
  induction given generalizing g k with
  | nil =>
      refine ⟨[], g, rfl, ⟨rfl, List.nodup_nil, List.forall_mem_nil _, ?_, ?_, fun _ _ ↦ .inl rfl⟩⟩
      · simp
      · simp
  | cons reference given ih =>
      rw [List.length_cons] at hk
      obtain ⟨slot, hslot⟩ : ∃ slot, references.inputs[k]? = some slot :=
        ⟨_, List.getElem?_eq_getElem (by omega)⟩
      obtain ⟨g₁, g₂, hadd, hcopied, hothers, hframed, hlink⟩ :=
        add_eq reference hgenerator hloader hslot
      have hfresh := lookup_freshId g k
      set first := freshId g k
      have hpresent {id : String} (hid : HasInputs g id) : id ≠ first :=
        fun e ↦ hid.lookup_ne (e ▸ hfresh)
      -- One pass keeps what was there, but for one slot.
      have hpass : ∀ id ≠ first, Kept (fun name ↦ id = references.generator ∧ name = slot)
          (g.lookup id) (g₂.lookup id) := fun id hid ↦ hothers id hid ▸ hframed id
      have hinputs₂ {id : String} (hid : HasInputs g id) : HasInputs g₂ id :=
        hid.kept (hpass id (hpresent hid))
      obtain ⟨ids, g', hg', hadded⟩ := ih (k + 1) (by omega) (hinputs₂ hgenerator)
        (hinputs₂ hloader)
      have hcopied₂ : Copied g references.loader reference g₂ first :=
        hcopied.later (hframed first) fun name h ↦ hpresent hgenerator h.1.symm
      have hnotin {id : String} (hid : HasInputs g₂ id) : id ∉ ids :=
        fun hmem ↦ hid.lookup_ne (hadded.fresh id hmem)
      have hfirst : first ∉ ids := hnotin hcopied₂.edited.exists_inputs
      refine ⟨first :: ids, g', ?_, ⟨by simp [hadded.length], ?_, ?_, ?_, ?_, ?_⟩⟩
      · rw [List.zipIdx_cons, List.foldlM_cons, hadd]
        exact hg'
      · exact List.nodup_cons.mpr ⟨hfirst, hadded.nodup⟩
      · intro id hid
        rcases List.mem_cons.mp hid with rfl | hid
        · exact hfresh
        · have hid₁ := (hadded.fresh id hid ▸ hframed id).none
          rw [← hothers id fun e ↦ hfirst (e ▸ hid)]
          exact hid₁
      · intro i id reference' hid hreference
        cases i with
        | zero =>
            obtain rfl : first = id := by simpa using hid
            obtain rfl : reference = reference' := by simpa using hreference
            exact hcopied₂.later (hadded.kept first hfirst) fun name h ↦
              hpresent hgenerator h.1.symm
        | succ i =>
            exact (hadded.copied i id reference' (by simpa using hid)
              (by simpa using hreference)).earlier (hpass _ (hpresent hloader))
              fun name h ↦ hne h.1.symm
      · intro i id slot' hid hslot'
        cases i with
        | zero =>
            obtain rfl : first = id := by simpa using hid
            obtain rfl : slot = slot' := by simpa [hslot] using hslot'
            obtain ⟨inputs, hinputs⟩ := hinputs₂ hgenerator
            rw [(hadded.kept _ (hnotin ⟨inputs, hinputs⟩)).input ?_ hinputs]
            · exact hlink
            · rintro ⟨-, i, -, hi⟩
              -- The slots are distinct.
              have := (List.getElem?_inj (by omega) hnodup).mp (hslot.trans hi.symm)
              omega
        | succ i =>
            refine hadded.slots i id slot' (by simpa using hid) ?_
            rw [← hslot']
            congr 1
            omega
      · intro id hid
        obtain ⟨hid₁, hid₂⟩ := not_or.mp (List.mem_cons.not.mp hid)
        refine ((hpass id hid₁).mono ?_).trans ((hadded.kept id hid₂).mono ?_)
        · rintro name ⟨hg, rfl⟩
          exact ⟨hg, 0, by simp, hslot⟩
        · rintro name ⟨hg, i, hi, hname⟩
          refine ⟨hg, i + 1, by simpa using hi, ?_⟩
          rw [← hname]
          congr 1
          omega

/-- The slots are filled in order, and the others are emptied. -/
lemma References.apply_eq (hnodup : references.inputs.Nodup)
    (hne : references.generator ≠ references.loader)
    (hlength : given.length ≤ references.inputs.length)
    (hgenerator : HasInputs g references.generator) (hloader : HasInputs g references.loader) :
    ∃ ids g', references.apply given g = .ok g' ∧ ids.length = given.length ∧
      references.Filled given ids g g' ∧ ∀ id ∉ ids, Kept (fun name ↦
        id = references.generator ∧ name ∈ references.inputs) (g.lookup id) (g'.lookup id) := by
  obtain ⟨inputs, hinputs⟩ := hgenerator
  obtain ⟨g₁, hg₁, htouches⟩ := editInputs_eq (T := (· ∈ references.inputs)) hinputs
    (f := fun inputs ↦ .ok (eraseAll references.inputs inputs)) rfl
    fun name hname ↦ by rw [lookup_eraseAll, if_neg hname]
  have hloader₁ : HasInputs g₁ references.loader := hloader.kept (htouches.framed _)
  obtain ⟨ids, g', hg', hadded⟩ := addAll_eq hnodup hne 0 (by simpa using hlength)
    ⟨_, htouches.inputs⟩ hloader₁
  have hfresh : ∀ id ∈ ids, g.lookup id = none := fun id hid ↦
    (hadded.fresh id hid ▸ htouches.framed id).none
  refine ⟨ids, g', ?_, hadded.length, ⟨hadded.nodup, hfresh, ?_, ?_⟩, fun id hid ↦ ?_⟩
  · unfold References.apply
    rw [hg₁]
    exact hg'
  · intro i id reference hid hreference
    exact (hadded.copied i id reference hid hreference).earlier (htouches.framed _)
      fun name h ↦ hne h.1.symm
  · intro i slot hslot
    cases hid : ids[i]? with
    | some id => exact hadded.slots i id slot hid (by simpa using hslot)
    | none =>
        -- A slot without a reference stays empty.
        have hi : given.length ≤ i := by
          rw [← hadded.length]
          exact List.getElem?_eq_none_iff.mp hid
        have hgenerator : references.generator ∉ ids := fun hmem ↦
          HasInputs.lookup_ne ⟨inputs, hinputs⟩ (hfresh _ hmem)
        rw [(hadded.kept _ hgenerator).input ?_ htouches.inputs, inputOf, htouches.inputs,
          Option.bind_some, lookup_eraseAll, if_pos (List.mem_of_getElem? hslot)]
        · rfl
        · rintro ⟨-, j, hj, hslot'⟩
          obtain ⟨hlt, -⟩ := List.getElem?_eq_some_iff.mp hslot
          rw [Nat.zero_add] at hslot'
          have := (List.getElem?_inj hlt hnodup).mp (hslot.trans hslot'.symm)
          omega
  · refine (htouches.framed id).trans ((hadded.kept id hid).mono ?_)
    rintro name ⟨hg, i, -, hname⟩
    exact ⟨hg, List.mem_of_getElem? hname⟩

end References

end StProxy.Workflows
