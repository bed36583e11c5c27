import StProxy.Lib.Json

/-!
# Workflow graphs and edits of their inputs

A graph in ComfyUI's API format is an object of nodes, each with an object
`inputs`; the rest of a node is opaque.  An edit touches some inputs and frames
everything else.
-/

namespace StProxy.Workflows

open Json

abbrev Graph : Type := Fields

/-- How the code of a workflow fails: with a `WorkflowError`, or at a subscript. -/
inductive Raised
  | workflowError (message : String)
  | lookupError
  deriving DecidableEq, Repr

def nodeOf (g : Graph) (id : String) : Option Fields :=
  match g.lookup id with
  | some (.obj node) => some node
  | _ => none

def inputsOf (g : Graph) (id : String) : Option Fields :=
  match nodeOf g id with
  | none => none
  | some node =>
      match node.lookup "inputs" with
      | some (.obj inputs) => some inputs
      | _ => none

def inputOf (g : Graph) (id name : String) : Option Json :=
  (inputsOf g id).bind (List.lookup name)

/-- The graph after the object `graph[id]["inputs"]` was mutated. -/
def withInputs (id : String) (inputs : Fields) (g : Graph) : Graph :=
  match nodeOf g id with
  | some node => Json.set id (.obj (Json.set "inputs" (.obj inputs) node)) g
  | none => g

/-- Mutate `graph[id]["inputs"]`. -/
def editInputs (id : String) (f : Fields → Except Raised Fields) (g : Graph) :
    Except Raised Graph :=
  match inputsOf g id with
  | none => .error .lookupError
  | some inputs => (f inputs).map fun inputs ↦ withInputs id inputs g

/-- `graph[id]["inputs"][name] = value`. -/
def setInput (id name : String) (value : Json) : Graph → Except Raised Graph :=
  editInputs id fun inputs ↦ .ok (Json.set name value inputs)

section Lookup

variable {g : Graph} {id id' name : String} {node inputs inputs' : Fields}

lemma nodeOf_eq_some : nodeOf g id = some node ↔ g.lookup id = some (.obj node) := by
  unfold nodeOf
  split
  · next node' h => simp [h]
  · next h =>
      refine ⟨by simp, fun hnode ↦ ?_⟩
      exact absurd hnode (h node)

lemma inputsOf_eq_some : inputsOf g id = some inputs ↔
    ∃ node, g.lookup id = some (.obj node) ∧ node.lookup "inputs" = some (.obj inputs) := by
  unfold inputsOf
  cases hnode : nodeOf g id with
  | none =>
      refine ⟨nofun, ?_⟩
      rintro ⟨node, h, -⟩
      rw [nodeOf_eq_some.mpr h] at hnode
      cases hnode
  | some node =>
      rw [nodeOf_eq_some] at hnode
      dsimp only
      constructor
      · intro h
        cases hinputs : node.lookup "inputs" with
        | none =>
            rw [hinputs] at h
            cases h
        | some value =>
            rw [hinputs] at h
            cases value with
            | obj inputs' =>
                obtain rfl := Option.some.inj h
                exact ⟨node, hnode, hinputs⟩
            | _ => cases h
      · rintro ⟨node', hnode', hinputs⟩
        obtain rfl : node = node' := by simpa using hnode.symm.trans hnode'
        rw [hinputs]

end Lookup

/-! ## Frames -/

/-- A node after inputs in `T` were edited. -/
def Edited (T : String → Prop) (a b : Option Json) : Prop :=
  ∃ node inputs inputs', a = some (.obj node) ∧ node.lookup "inputs" = some (.obj inputs) ∧
    b = some (.obj (Json.set "inputs" (.obj inputs') node)) ∧
    ∀ name, ¬T name → inputs'.lookup name = inputs.lookup name

/-- A node as it was, or after inputs in `T` were edited. -/
def Kept (T : String → Prop) (a b : Option Json) : Prop := b = a ∨ Edited T a b

/-- Only inputs in `T` were edited; no node was added or removed. -/
def Framed (T : String → String → Prop) (g g' : Graph) : Prop :=
  ∀ id, Kept (T id) (g.lookup id) (g'.lookup id)

section Kept

variable {T T' : String → Prop} {a b c : Option Json} {g g' : Graph} {id name : String}
  {inputs : Fields}

lemma Edited.mono (h : Edited T a b) (hle : ∀ name, T name → T' name) : Edited T' a b := by
  obtain ⟨node, inputs, inputs', ha, hinputs, hb, hframe⟩ := h
  exact ⟨node, inputs, inputs', ha, hinputs, hb, fun name hname ↦
    hframe name fun h ↦ hname (hle name h)⟩

lemma Edited.trans (h : Edited T a b) (h' : Edited T b c) : Edited T a c := by
  obtain ⟨node, inputs, inputs', ha, hinputs, rfl, hframe⟩ := h
  obtain ⟨node', middle, last, hb, hmiddle, hc, hframe'⟩ := h'
  obtain rfl : Json.set "inputs" (.obj inputs') node = node' := by simpa using hb
  obtain rfl : inputs' = middle := by simpa [lookup_set] using hmiddle
  refine ⟨node, inputs, last, ha, hinputs, ?_, fun name hname ↦
    (hframe' name hname).trans (hframe name hname)⟩
  rw [hc, set_set]

lemma Kept.mono (h : Kept T a b) (hle : ∀ name, T name → T' name) : Kept T' a b :=
  h.imp_right fun hedited ↦ hedited.mono hle

lemma Kept.trans (h : Kept T a b) (h' : Kept T b c) : Kept T a c := by
  rcases h with rfl | hedited
  · exact h'
  · rcases h' with rfl | hedited'
    · exact .inr hedited
    · exact .inr (hedited.trans hedited')

lemma Kept.edited (h : Kept T a b) (h' : Edited T b c) : Edited T a c := by
  rcases h with rfl | hedited
  · exact h'
  · exact hedited.trans h'

lemma Edited.kept (h : Edited T a b) (h' : Kept T b c) : Edited T a c := by
  rcases h' with rfl | hedited
  · exact h
  · exact h.trans hedited

lemma Kept.none (h : Kept T a none) : a = none := by
  rcases h with heq | ⟨node, inputs, inputs', -, -, hb, -⟩
  · exact heq.symm
  · cases hb

lemma Kept.exists_inputs (h : Kept T (g.lookup id) (g'.lookup id))
    (hinputs : inputsOf g id = some inputs) :
    ∃ inputs', inputsOf g' id = some inputs' ∧
      ∀ name, ¬T name → inputs'.lookup name = inputs.lookup name := by
  obtain ⟨node, hnode, hlookup⟩ := inputsOf_eq_some.mp hinputs
  rcases h with heq | ⟨node', i, i', hnode', hi, hg', hframe⟩
  · exact ⟨inputs, inputsOf_eq_some.mpr ⟨node, heq.trans hnode, hlookup⟩, fun _ _ ↦ rfl⟩
  · obtain rfl : node = node' := by simpa using hnode.symm.trans hnode'
    obtain rfl : inputs = i := by simpa using hlookup.symm.trans hi
    refine ⟨i', inputsOf_eq_some.mpr ⟨_, hg', ?_⟩, hframe⟩
    rw [lookup_set, if_pos rfl]

lemma Kept.input (h : Kept T (g.lookup id) (g'.lookup id)) (hname : ¬T name)
    (hinputs : inputsOf g id = some inputs) : inputOf g' id name = inputOf g id name := by
  obtain ⟨inputs', hinputs', hframe⟩ := h.exists_inputs hinputs
  simp only [inputOf, hinputs, hinputs', Option.bind_some, hframe name hname]

end Kept

section Frames

variable {g g' g'' : Graph} {T T' : String → String → Prop} {id name : String}
  {inputs inputs' : Fields}

lemma Framed.refl (T : String → String → Prop) (g : Graph) : Framed T g g := fun _ ↦ .inl rfl

lemma Framed.mono (h : Framed T g g') (hle : ∀ id name, T id name → T' id name) :
    Framed T' g g' :=
  fun id ↦ (h id).mono (hle id)

lemma Framed.trans (h : Framed T g g') (h' : Framed T g' g'') : Framed T g g'' :=
  fun id ↦ (h id).trans (h' id)

/-- Two edits in a row touch what either touches. -/
lemma Framed.append (h : Framed T g g') (h' : Framed T' g' g'') :
    Framed (fun id name ↦ T id name ∨ T' id name) g g'' :=
  (h.mono fun _ _ ↦ .inl).trans (h'.mono fun _ _ ↦ .inr)

/-- Two graphs with the same inputs and nodes otherwise. -/
lemma inputsOf_withInputs {id' : String} (h : inputsOf g id = some inputs) :
    inputsOf (withInputs id inputs' g) id' =
      if id = id' then some inputs' else inputsOf g id' := by
  obtain ⟨node, hnode, -⟩ := inputsOf_eq_some.mp h
  have hset : withInputs id inputs' g =
      Json.set id (.obj (Json.set "inputs" (.obj inputs') node)) g := by
    rw [withInputs, nodeOf_eq_some.mpr hnode]
  split
  · next heq =>
      subst heq
      refine inputsOf_eq_some.mpr ⟨Json.set "inputs" (.obj inputs') node, ?_, ?_⟩
      · rw [hset, lookup_set, if_pos rfl]
      · rw [lookup_set, if_pos rfl]
  · next hne => rw [inputsOf, inputsOf, nodeOf, nodeOf, hset, lookup_set,
      if_neg hne]

lemma framed_withInputs (h : inputsOf g id = some inputs) {T : String → Prop}
    (hframe : ∀ name, ¬T name → inputs'.lookup name = inputs.lookup name) :
    Framed (fun id' name ↦ id' = id ∧ T name) g (withInputs id inputs' g) := by
  obtain ⟨node, hnode, hinputs⟩ := inputsOf_eq_some.mp h
  have hset : withInputs id inputs' g =
      Json.set id (.obj (Json.set "inputs" (.obj inputs') node)) g := by
    rw [withInputs, nodeOf_eq_some.mpr hnode]
  intro id'
  rw [hset, lookup_set]
  split
  · next heq =>
      subst heq
      exact .inr ⟨node, inputs, inputs', hnode, hinputs, rfl, fun name hname ↦
        hframe name fun ht ↦ hname ⟨rfl, ht⟩⟩
  · exact .inl rfl

/-- An edit of the inputs of one node. -/
structure Touches (id : String) (T : String → Prop) (inputs inputs' : Fields) (g g' : Graph) :
    Prop where
  framed : Framed (fun id' name ↦ id' = id ∧ T name) g g'
  inputs : inputsOf g' id = some inputs'

lemma editInputs_eq {f : Fields → Except Raised Fields} (h : inputsOf g id = some inputs)
    (hf : f inputs = .ok inputs') {T : String → Prop}
    (hframe : ∀ name, ¬T name → inputs'.lookup name = inputs.lookup name) :
    ∃ g', editInputs id f g = .ok g' ∧ Touches id T inputs inputs' g g' := by
  refine ⟨withInputs id inputs' g, ?_, framed_withInputs h hframe, ?_⟩
  · rw [editInputs, h]
    simp [hf, Except.map]
  · rw [inputsOf_withInputs h, if_pos rfl]

lemma setInput_eq (value : Json) (h : inputsOf g id = some inputs) :
    ∃ g', setInput id name value g = .ok g' ∧
      Framed (fun id' name' ↦ id' = id ∧ name' = name) g g' ∧
      inputOf g' id name = some value := by
  obtain ⟨g', hg', htouches⟩ := editInputs_eq (T := (· = name))
    (f := fun inputs ↦ .ok (Json.set name value inputs)) h rfl
    fun name' hname' ↦ lookup_set_of_ne _ _ fun e ↦ hname' e.symm
  refine ⟨g', hg', htouches.framed, ?_⟩
  rw [inputOf, htouches.inputs, Option.bind_some, lookup_set, if_pos rfl]

/-- A loop of edits, each of one node.  An input keeps the value that one of them
gives it, if the others do not touch it. -/
lemma editAll {ι : Type} (node : ι → String) (f : ι → Fields → Fields) (T : ι → String → Prop)
    (hframe : ∀ a inputs name, ¬T a name → (f a inputs).lookup name = inputs.lookup name)
    (l : List ι) {g : Graph} (h : ∀ a ∈ l, ∃ inputs, inputsOf g (node a) = some inputs) :
    ∃ g', l.foldlM (fun g a ↦ editInputs (node a) (fun inputs ↦ .ok (f a inputs)) g) g = .ok g' ∧
      Framed (fun id name ↦ ∃ a ∈ l, id = node a ∧ T a name) g g' ∧
      ∀ a ∈ l, ∀ name v, (∀ inputs, (f a inputs).lookup name = v) →
        (∀ b ∈ l, b ≠ a → node b = node a → ¬T b name) → inputOf g' (node a) name = v := by
  induction l generalizing g with
  | nil => exact ⟨g, rfl, .refl _ g, fun a ha ↦ absurd ha List.not_mem_nil⟩
  | cons a l ih =>
      obtain ⟨inputs, hinputs⟩ := h a List.mem_cons_self
      obtain ⟨g₁, hg₁, htouches⟩ := editInputs_eq (f := fun inputs ↦ .ok (f a inputs)) hinputs rfl
        fun name hname ↦ hframe a inputs name hname
      obtain ⟨g', hg', hframed, hpost⟩ := ih (g := g₁) fun b hb ↦ by
        obtain ⟨inputs', hinputs'⟩ := h b (List.mem_cons_of_mem _ hb)
        obtain ⟨inputs'', hinputs'', -⟩ := (htouches.framed (node b)).exists_inputs hinputs'
        exact ⟨inputs'', hinputs''⟩
      refine ⟨g', ?_, ?_, ?_⟩
      · rw [List.foldlM_cons, hg₁]
        exact hg'
      · refine (htouches.framed.append hframed).mono ?_
        rintro id name (⟨rfl, hname⟩ | ⟨b, hb, rfl, hname⟩)
        · exact ⟨a, List.mem_cons_self, rfl, hname⟩
        · exact ⟨b, List.mem_cons_of_mem _ hb, rfl, hname⟩
      · intro b hb name v hv hothers
        by_cases hmem : b ∈ l
        · exact hpost b hmem name v hv fun c hc ↦ hothers c (List.mem_cons_of_mem _ hc)
        · obtain rfl := (List.mem_cons.mp hb).resolve_right hmem
          have hvalue : inputOf g₁ (node b) name = v := by
            rw [inputOf, htouches.inputs, Option.bind_some, hv]
          rw [← hvalue]
          refine (hframed (node b)).input ?_ htouches.inputs
          rintro ⟨c, hc, hnode, hname⟩
          exact hothers c (List.mem_cons_of_mem _ hc) (fun e ↦ hmem (e ▸ hc)) hnode.symm hname

end Frames

end StProxy.Workflows
