import StProxy.Workflows.Workflow

/-!
# Values and the graph of a request

`normalize`, `resolve_seed` and `build`.
-/

namespace StProxy.Workflows

open Json Checked

/-- The schema of the switch. -/
def nsfwSpec : Fields :=
  [("type", .str "boolean"), ("default", .bool false), ("description", .str
    ("Opt-in LoRA switch, not a content label. Set true only when the " ++
      "user explicitly requests enabling the NSFW mode, flag or LoRA " ++
      "for this image or batch (e.g. 'enable NSFW mode' or 'nsfw=true'). " ++
      "'Make an NSFW image' or requests for nude, erotic or explicit " ++
      "content do not authorize it. Never infer activation from prompts, " ++
      "prompt guidance, references, earlier jobs or another item's flag. " ++
      "Without a clear activation request, omit or set false and proceed " ++
      "with the image. Independent of mode."))]

/-- `parameters`.  The names `mode` and `nsfw` are not declared where they are added. -/
def Workflow.parameters (w : Workflow) : List (String × Spec) :=
  w.declared ++
    (match w.modes with
      | some modes => [("mode", ⟨modes.parameter, none⟩)]
      | none => []) ++
    match w.nsfwLoras with
    | some _ => [("nsfw", ⟨nsfwSpec, none⟩)]
    | none => []

/-- The value of one parameter, `none` where it is left to `resolve_seed`. -/
def normalizeValue (given : Fields) (parameter : String × Spec) : Except String (Option Json) :=
  let checked (value : Json) : Except String (Option Json) :=
    match checkValue parameter.2.fields value with
    | .ok () => .ok (some value)
    | .error e => .error s!"{parameter.1}: {e}"
  match given.lookup parameter.1 with
  | some value => checked value
  | none =>
      if flag parameter.2.fields "required" then
        .error s!"missing required parameter: {parameter.1}"
      else if flag parameter.2.fields "random_default" then .ok none
      else checked (Json.get parameter.2.fields "default")

/-- The loop of `normalize`. -/
def normalizeAll (given : Fields) : List (String × Spec) → Fields → Except String Fields
  | [], values => .ok values
  | parameter :: rest, values => do
      match ← normalizeValue given parameter with
      | some value => normalizeAll given rest (Json.set parameter.1 value values)
      | none => normalizeAll given rest values

def Workflow.normalize (w : Workflow) (parameters : Json) : Except String Fields :=
  match parameters with
  | .obj given =>
      if given.all fun field ↦ (w.parameters.map Prod.fst).contains field.1 then
        normalizeAll given w.parameters []
      else .error "unknown parameter or invalid parameter object"
  | _ => .error "unknown parameter or invalid parameter object"

/-- `self.parameters.get("seed", {})`. -/
def Workflow.seedSpec (w : Workflow) : Fields :=
  match w.parameters.lookup "seed" with
  | some spec => spec.fields
  | none => []

/-- Whether `resolve_seed` draws. -/
def Workflow.drawsSeed (w : Workflow) (values : Fields) : Bool :=
  flag w.seedSpec "random_default" && !Json.has values "seed"

/-- An integer constraint. -/
def boundOf (spec : Fields) (key : String) : ℤ :=
  match spec.lookup key with
  | some (.int n) => n
  | _ => 0

/-- `resolve_seed`; `randbelow` answers the call with that bound. -/
def Workflow.resolveSeed (w : Workflow) (randbelow : ℤ → ℤ) (values : Fields) : Fields :=
  if w.drawsSeed values then
    let low := boundOf w.seedSpec "minimum"
    Json.set "seed" (.int (low + randbelow (boundOf w.seedSpec "maximum" - low + 1))) values
  else values

/-! ## `build` -/

/-- The inputs of a registered reference. -/
structure ReferenceInputs where
  root : String
  subfolder : String
  filename : String

def ReferenceInputs.fields (reference : ReferenceInputs) : Fields :=
  [("root", .str reference.root), ("subfolder", .str reference.subfolder),
    ("filename", .str reference.filename)]

def Workflow.minReferences (w : Workflow) : ℕ := (w.references.map References.minItems).getD 0

def Workflow.maxReferences (w : Workflow) : ℕ :=
  (w.references.map fun references ↦ references.inputs.length).getD 0

def Workflow.validateReferenceCount (w : Workflow) (count : ℕ) : Except Raised Unit := do
  check (w.minReferences ≤ count)
    (.workflowError s!"workflow requires at least {w.minReferences} reference image(s)")
  check (count ≤ w.maxReferences)
    (.workflowError "workflow does not support this number of references")

def Workflow.applyModes (w : Workflow) (values : Fields) (g : Graph) : Except Raised Graph :=
  match w.modes with
  | none => .ok g
  | some modes => modes.apply g ((values.lookup "mode").getD (.str modes.default))

/-- `inputs[name]["on"] = enabled`. -/
def switchRow (enabled : Bool) (name : String) (inputs : Fields) : Except Raised Fields :=
  match inputs.lookup name with
  | some (.obj row) => .ok (Json.set name (.obj (Json.set "on" (.bool enabled) row)) inputs)
  | _ => .error .lookupError

def NsfwLoras.apply (loras : NsfwLoras) (enabled : Bool) (g : Graph) : Except Raised Graph :=
  loras.inputs.foldlM (fun g name ↦ editInputs loras.node (switchRow enabled name) g) g

def Workflow.applyNsfw (w : Workflow) (values : Fields) (g : Graph) : Except Raised Graph :=
  match w.nsfwLoras with
  | none => .ok g
  | some loras =>
      match (values.lookup "nsfw").getD (.bool false) with
      | .bool enabled => loras.apply enabled g
      | _ => .error (.workflowError "nsfw: parameter has the wrong type")

/-- `while node_id in graph: node_id += "_"`, which ends within as many passes as the
graph has nodes. -/
def freshFrom (g : Graph) : ℕ → String → String
  | 0, id => id
  | n + 1, id => if Json.has g id then freshFrom g n (id ++ "_") else id

def freshId (g : Graph) (index : ℕ) : String :=
  freshFrom g g.length s!"mcp_reference_{index + 1}"

/-- One pass of the loop over the references. -/
def References.add (references : References) (g : Graph) (entry : ReferenceInputs × ℕ) :
    Except Raised Graph :=
  let id := freshId g entry.2
  match nodeOf g references.loader, inputsOf g references.loader, references.inputs[entry.2]? with
  | some loader, some inputs, some slot =>
      setInput references.generator slot (.arr [.str id, .int 0])
        (Json.set id (.obj (Json.set "inputs" (.obj (Json.update entry.1.fields inputs)) loader)) g)
  | _, _, _ => .error .lookupError

/-- The slots are emptied and filled in order. -/
def References.apply (references : References) (given : List ReferenceInputs) (g : Graph) :
    Except Raised Graph := do
  let g ← editInputs references.generator (fun inputs ↦ .ok (eraseAll references.inputs inputs)) g
  given.zipIdx.foldlM references.add g

def Workflow.applyReferences (w : Workflow) (given : List ReferenceInputs) (g : Graph) :
    Except Raised Graph :=
  match w.references with
  | none => .ok g
  | some references => references.apply given g

/-- The names of values that are no inputs. -/
def Workflow.isSwitch (w : Workflow) (name : String) : Bool :=
  (name == "mode" && w.modes.isSome) || (name == "nsfw" && w.nsfwLoras.isSome)

/-- One pass of the loop over the values. -/
def Workflow.applyValue (w : Workflow) (g : Graph) (value : String × Json) :
    Except Raised Graph :=
  if w.isSwitch value.1 then .ok g
  else match (w.parameters.lookup value.1).bind Spec.target with
    | some target => setInput target.node target.input value.2 g
    | none => .error .lookupError

/-- One pass of the loop over the outputs. -/
def applyOutput (g : Graph) (output : Output) : Except Raised Graph :=
  match output.adapter with
  | .heltoSavedImages => setInput output.node "reference_only" (.bool true) g
  | .comfyImages => .ok g

def Workflow.build (w : Workflow) (values : Fields) (given : List ReferenceInputs) :
    Except Raised Graph := do
  check (w.drawsSeed values = false) (.workflowError "missing resolved seed")
  let g ← w.applyModes values w.graph
  let g ← w.applyNsfw values g
  w.validateReferenceCount given.length
  let g ← w.applyReferences given g
  let g ← values.foldlM w.applyValue g
  w.outputs.foldlM applyOutput g

end StProxy.Workflows
