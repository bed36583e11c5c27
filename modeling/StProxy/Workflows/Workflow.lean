import Mathlib.Algebra.Group.Nat.Defs
import StProxy.Workflows.Modes

/-!
# Workflows

`workflows.py`: the checks of a manifest and its graph, the values of a request and
the graph that is built from them.  The parts of a manifest are parsed as they are
checked; the constraints of a parameter stay JSON.
-/

namespace StProxy.Workflows

open Json Checked

/-- How `load` fails: with an exception that the catalog handles, or with another one. -/
inductive LoadError
  /-- An `OSError`, `ValueError`, `TypeError`, `OverflowError` or `RecursionError`. -/
  | handled (message : String)
  /-- What PyYAML raises for a scalar that does not fit its tag, such as the `IndexError` for
  `!!int ""`, or `Path.resolve` for a loop of symbolic links. -/
  | unhandled (typeName : String)
  deriving DecidableEq, Repr

/-- Checks that raise what the catalog handles. -/
def handled {α : Type} (x : Except String α) : Except LoadError α := x.mapError .handled

lemma handled_eq_ok {α : Type} {x : Except String α} {a : α} :
    handled x = .ok a ↔ x = .ok a := mapError_eq_ok

/-- What `load` reads in the directory of the workflows: the graph, the prompt
guidance and the decoded modes, each with the checks of its path and its size. -/
structure Directory where
  graph : String → Except LoadError Json
  guidance : String → Except LoadError String
  modes : String → Except LoadError Json
  /-- `Path(folder).resolve()`. -/
  resolve : String → Except LoadError String

structure Target where
  node : String
  input : String
  deriving DecidableEq, Repr

/-- The schema of a parameter; those of `mode` and `nsfw` have no target. -/
structure Spec where
  fields : Fields
  target : Option Target

structure NsfwLoras where
  node : String
  inputs : List String

inductive Adapter
  | comfyImages | heltoSavedImages
  deriving DecidableEq, Repr

structure Output where
  node : String
  adapter : Adapter
  deriving DecidableEq, Repr

structure References where
  generator : String
  loader : String
  inputs : List String
  minItems : ℕ

structure Workflow where
  id : String
  declared : List (String × Spec)
  nsfwLoras : Option NsfwLoras
  outputs : List Output
  references : Option References
  graph : Graph
  sourceRoots : List (String × String)
  promptGuidance : Option String
  modes : Option WorkflowModes

def schemaKeys : List String :=
  ["type", "description", "default", "enum", "minimum", "maximum", "minLength", "maxLength",
    "multipleOf"]

def parameterKeys : List String :=
  schemaKeys ++ ["target", "required", "private", "random_default"]

def maxSeed : ℤ := 9007199254740991

section Values

/-- `type(value) in TYPES[type]`. -/
def hasType : Json → Json → Bool
  | .str "string", .str _ => true
  | .str "integer", .int _ => true
  | .str "number", .int _ | .str "number", .float _ | .str "number", .infinity _
  | .str "number", .nan => true
  | .str "boolean", .bool _ => true
  | _, _ => false

/-- `type(value) is type(v) and value == v`. -/
def sameChoice : Json → Json → Bool
  | .str s, .str t => s == t
  | .int n, .int m => n == m
  | .float x, .float y => x == y
  | .bool b, .bool c => b == c
  | _, _ => false

/-- The comparisons of a finite number with the constraints. -/
def checkNumber (spec : Fields) (value : Json) (x : ℚ) : Except String Unit := do
  check (∀ low ∈ (Json.get spec "minimum").number, low ≤ x) "parameter is below its minimum"
  check (∀ high ∈ (Json.get spec "maximum").number, x ≤ high) "parameter exceeds its maximum"
  match value, Json.get spec "multipleOf" with
  | .int n, .int step => check (n % step = 0) "parameter must be a multiple of its configured step"
  | _, _ => pure ()

/-- A length constraint with its default. -/
def lengthOf (spec : Fields) (key : String) (default : ℤ) : ℤ :=
  match spec.lookup key with
  | some (.int n) => n
  | _ => default

def checkBounds (spec : Fields) (value : Json) : Except String Unit :=
  match value with
  | .infinity _ | .nan => .error "parameter must be finite"
  | .int n => checkNumber spec value n
  | .float x => checkNumber spec value x
  | .str s => check (lengthOf spec "minLength" 0 ≤ s.length ∧
      s.length ≤ lengthOf spec "maxLength" 65536) "parameter has an invalid length"
  | _ => pure ()

def checkChoice (spec : Fields) (value : Json) : Except String Unit :=
  match spec.lookup "enum" with
  | some (.arr choices) =>
      check (choices.any (sameChoice value) = true) "parameter is not an allowed choice"
  | _ => pure ()

/-- `_check_value`. -/
def checkValue (spec : Fields) (value : Json) : Except String Unit := do
  check (hasType (Json.get spec "type") value = true) "parameter has the wrong type"
  checkBounds spec value
  checkChoice spec value

/-- `spec.get(key, False)` of a key that holds a boolean. -/
def flag (spec : Fields) (key : String) : Bool :=
  match spec.lookup key with
  | some (.bool b) => b
  | _ => false

end Values

/-! ## `load` -/

section Load

variable (text : Text)

/-- `_inputs`. -/
def requireInputs (g : Graph) (node : String) : Except String Fields :=
  match inputsOf g node with
  | some inputs => .ok inputs
  | none => .error "configured node or its inputs are missing"

def classType (g : Graph) (id : String) : Json :=
  match nodeOf g id with
  | some node => Json.get node "class_type"
  | none => .null

def isText : Json → Bool
  | .str _ => true
  | _ => false

def isBool : Json → Bool
  | .bool _ => true
  | _ => false

/-- A text that is not blank. -/
def isNonblank : Json → Bool
  | .str s => text.strip s ≠ ""
  | _ => false

/-- The row of a LoRA that can be switched. -/
def isLoraRow : Json → Bool
  | .obj row => isBool (Json.get row "on") && isNonblank text (Json.get row "lora") &&
      !(Json.get row "lora").eq (.str "None")
  | _ => false

/-- `name.startswith("lora_") and name[5:].isdigit()`. -/
def isLoraName (name : String) : Bool :=
  "lora_".toList.isPrefixOf name.toList && text.isdigit (String.ofList (name.toList.drop 5))

def parseNsfwLoras (value : Json) : Except String NsfwLoras :=
  match value with
  | .obj fields =>
      match Json.get fields "node", Json.get fields "inputs" with
      | .str node, .arr l =>
          match namesOf l with
          | some names =>
              if (fields.all fun field ↦ ["node", "inputs"].contains field.1) ∧ names ≠ [] ∧
                  (∀ name ∈ names, isLoraName text name = true) ∧ names.Nodup then
                .ok ⟨node, names⟩
              else .error "invalid NSFW LoRA targets"
          | none => .error "invalid NSFW LoRA targets"
      | _, _ => .error "invalid NSFW LoRA targets"
  | _ => .error "invalid NSFW LoRA targets"

def loadNsfwLoras (g : Graph) (manifest parameters : Fields) :
    Except String (Option NsfwLoras) :=
  match manifest.lookup "nsfw_loras" with
  | none => .ok none
  | some value => do
      check (Json.has parameters "nsfw" = false) "nsfw is reserved when NSFW LoRAs are configured"
      let loras ← parseNsfwLoras text value
      let inputs ← requireInputs g loras.node
      check ((classType g loras.node).eq (.str "AIOLoraConfiguration") = true)
        "NSFW LoRAs require AIOLoraConfiguration"
      check (∀ name ∈ loras.inputs, isLoraRow text (Json.get inputs name) = true)
        "configured NSFW LoRA row is missing or invalid"
      pure (some loras)

/-- `controlled_inputs`. -/
def NsfwLoras.controlled (loras : Option NsfwLoras) : List (String × String) :=
  match loras with
  | some loras => loras.inputs.map fun name ↦ (loras.node, name)
  | none => []

/-- A finite number that is no boolean. -/
def isFinite : Json → Bool
  | .int n => n.natAbs < 2 ^ 1024 - 2 ^ 970
  | .float _ => true
  | _ => false

/-- The checks of the constraints of a parameter. -/
def checkConstraints (spec : Fields) : Except String Unit := do
  check (∀ key ∈ ["minimum", "maximum", "minLength", "maxLength"],
    ∀ value ∈ spec.lookup key, isFinite value = true) "invalid parameter constraint"
  check (∀ key ∈ ["minLength", "maxLength"], ∀ value ∈ spec.lookup key,
    (match value with
      | .int n => decide (0 ≤ n)
      | _ => false) = true ∧ (Json.get spec "type").eq (.str "string") = true)
    "invalid string constraint"
  check ((Json.has spec "minimum" || Json.has spec "maximum") = true →
    ((Json.get spec "type").eq (.str "number") || (Json.get spec "type").eq (.str "integer")) =
      true) "numeric constraints require a number"
  check (∀ value ∈ spec.lookup "multipleOf", (Json.get spec "type").eq (.str "integer") = true ∧
    (match value with
      | .int n => decide (0 < n)
      | _ => false) = true) "multipleOf requires an integer parameter and positive step"
  check (∀ pair ∈ [("minimum", "maximum"), ("minLength", "maxLength")],
    ∀ low ∈ (Json.get spec pair.1).number, ∀ high ∈ (Json.get spec pair.2).number, low ≤ high)
    "inverted parameter constraints"

/-- The checks of the choices. -/
def checkEnum (spec : Fields) : Except String Unit :=
  match spec.lookup "enum" with
  | none => pure ()
  | some (.arr (choice :: choices)) => (choice :: choices).forM (checkValue spec)
  | some _ => .error "enum must contain choices"

/-- The checks of the default. -/
def checkDefault (spec : Fields) : Except String Unit :=
  match spec.lookup "default" with
  | none => pure ()
  | some value => do
      checkValue spec value
      check (flag spec "private" = false) "private parameters must be required, without defaults"

/-- A public bounded seed that a request may leave to chance. -/
def IsRandomSeed (name : String) (spec : Fields) : Prop :=
  name = "seed" ∧ (Json.get spec "type").eq (.str "integer") = true ∧
    Json.has spec "default" = false ∧ flag spec "required" = false ∧ flag spec "private" = false ∧
    Json.has spec "enum" = false ∧ Json.has spec "multipleOf" = false ∧
    (match Json.get spec "minimum", Json.get spec "maximum" with
      | .int low, .int high => decide (0 ≤ low ∧ low ≤ high ∧ high ≤ maxSeed)
      | _, _ => false) = true

instance (name : String) (spec : Fields) : Decidable (IsRandomSeed name spec) := by
  unfold IsRandomSeed
  infer_instance

def parseTarget (value : Json) : Except String Target :=
  match value with
  | .obj target =>
      match Json.get target "node", Json.get target "input" with
      | .str node, .str input => .ok ⟨node, input⟩
      | _, _ => .error "invalid parameter target"
  | _ => .error "invalid parameter target"

def isType (value : Json) : Bool :=
  ["string", "integer", "number", "boolean"].any fun type ↦ value.eq (.str type)

/-- The checks of one parameter up to its target. -/
def checkSpec (name : String) (spec : Fields) : Except String Target := do
  check ((spec.all fun field ↦ parameterKeys.contains field.1) ∧
    isType (Json.get spec "type") = true) "invalid parameter definition"
  check (∀ key ∈ ["required", "private", "random_default"], ∀ value ∈ spec.lookup key,
    isBool value = true) "required/private/random_default must be booleans"
  checkConstraints spec
  checkEnum spec
  checkDefault spec
  check (flag spec "random_default" = true → IsRandomSeed name spec)
    "random_default requires an optional public bounded seed"
  check (flag spec "required" = true ∨ Json.has spec "default" = true ∨
    flag spec "random_default" = true) "optional parameters need a default"
  parseTarget (Json.get spec "target")

/-- One pass of the loop over the parameters, with the inputs that are mapped so far. -/
def loadParameter (g : Graph) (controlled mapped : List (String × String))
    (parameter : String × Json) : Except String (String × Spec) :=
  match parameter.2 with
  | .obj spec => do
      check (parameter.1 ≠ "") "invalid parameter definition"
      let target ← checkSpec parameter.1 spec
      let inputs ← requireInputs g target.node
      check (Json.has inputs target.input = true) "configured input is missing"
      check (controlled.contains (target.node, target.input) = false)
        "parameter conflicts with NSFW LoRA controls"
      check (mapped.contains (target.node, target.input) = false)
        "parameters cannot target the same input"
      pure (parameter.1, ⟨spec, some target⟩)
  | _ => .error "invalid parameter definition"

/-- The inputs that the parameters are mapped to. -/
def targetsOf (parameters : List (String × Spec)) : List (String × String) :=
  parameters.filterMap fun parameter ↦
    parameter.2.target.map fun target ↦ (target.node, target.input)

/-- The loop over the parameters. -/
def loadParameters (g : Graph) (controlled : List (String × String)) :
    Fields → List (String × Spec) → Except String (List (String × Spec))
  | [], loaded => .ok loaded
  | parameter :: rest, loaded => do
      let spec ← loadParameter g controlled (controlled ++ targetsOf loaded) parameter
      loadParameters g controlled rest (loaded ++ [spec])

/-- `".." in Path(path).parts`. -/
def hasParent (path : String) : Bool := path.toList.splitOn '/' |>.any (· == "..".toList)

def isAbsolute (path : String) : Bool := "/".toList.isPrefixOf path.toList

/-- `_helto_root`, up to the folder that it resolves. -/
def heltoRoot (inputs : Fields) : Except String String := do
  check (∀ field ∈ ["reference_only", "privacy_mode", "save_image", "pause_mode",
      "use_alternative_folder", "use_date_folder"], isBool (Json.get inputs field) = true)
    "Helto output requires boolean save/privacy/reference controls"
  check (flag inputs "save_image" = true ∧ flag inputs "pause_mode" = false)
    "Helto output requires save_image=true and pause_mode=false"
  match Json.get inputs (if flag inputs "use_alternative_folder" then "alternative_folder"
      else "folder"), (inputs.lookup "subfolder").getD (.str "") with
  | .str folder, .str subfolder => do
      check (isAbsolute folder = true) "Helto output requires an absolute destination folder"
      check (isAbsolute subfolder = false ∧ hasParent subfolder = false)
        "Helto subfolder must remain inside the destination folder"
      pure folder
  | .str folder, _ => do
      check (isAbsolute folder = true) "Helto output requires an absolute destination folder"
      .error "Helto subfolder must remain inside the destination folder"
  | _, _ => .error "Helto output requires an absolute destination folder"

def parseOutput (value : Json) : Except String Output :=
  match value with
  | .obj fields =>
      match Json.get fields "node", Json.get fields "adapter" with
      | .str node, .str "comfy_images" => .ok ⟨node, .comfyImages⟩
      | .str node, .str "helto_saved_images" => .ok ⟨node, .heltoSavedImages⟩
      | _, _ => .error "invalid output definition"
  | _ => .error "invalid output definition"

/-- The checks of an output of the Helto node, and its resolved folder. -/
def loadHelto (directory : Directory) (g : Graph) (mapped : List (String × String))
    (node : String) : Except LoadError String := do
  check ((classType g node).eq (.str "HeltoSaveImageAdvanced") = true)
    (.handled "Helto adapter requires HeltoSaveImageAdvanced")
  check (∀ target ∈ mapped, target.1 ≠ node)
    (.handled "Helto output controls cannot be agent parameters")
  let inputs ← handled (requireInputs g node)
  let folder ← handled (heltoRoot inputs)
  directory.resolve folder

/-- The loop over the outputs, with those that were seen. -/
def loadOutputs (directory : Directory) (g : Graph) (mapped : List (String × String)) :
    List Json → List Output → List (String × String) →
      Except LoadError (List Output × List (String × String))
  | [], outputs, roots => .ok (outputs, roots)
  | value :: rest, outputs, roots => do
      let output ← handled (parseOutput value)
      check (output.node ∉ outputs.map Output.node ∧ (nodeOf g output.node).isSome = true)
        (.handled "output node is missing or duplicated")
      match output.adapter with
      | .comfyImages => loadOutputs directory g mapped rest (outputs ++ [output]) roots
      | .heltoSavedImages => do
          let root ← loadHelto directory g mapped output.node
          loadOutputs directory g mapped rest (outputs ++ [output])
            (roots ++ [(output.node, root)])

def parseReferences (value : Json) : Except String References :=
  match value with
  | .obj fields =>
      match Json.get fields "adapter", Json.get fields "generator", Json.get fields "loader",
          Json.get fields "inputs" with
      | .str "helto_root_images", .str generator, .str loader, .arr l =>
          match namesOf l with
          | some slots =>
              if 1 ≤ slots.length ∧ slots.length ≤ 10 ∧ (∀ slot ∈ slots, slot ≠ "") ∧
                  slots.Nodup ∧ generator ≠ loader then
                match (fields.lookup "minItems").getD (.int 0) with
                | .int minimum =>
                    if 0 ≤ minimum ∧ minimum ≤ slots.length then
                      .ok ⟨generator, loader, slots, minimum.toNat⟩
                    else .error "invalid minimum reference count"
                | _ => .error "invalid minimum reference count"
              else .error "invalid reference inputs"
          | none => .error "invalid reference inputs"
      | _, _, _, _ => .error "invalid reference mapping"
  | _ => .error "invalid reference mapping"

def loadReferences (g : Graph) (mapped : List (String × String)) (value : Json) :
    Except String (Option References) :=
  match value with
  | .null => .ok none
  | value => do
      let references ← parseReferences value
      let _ ← requireInputs g references.generator
      let inputs ← requireInputs g references.loader
      check ((classType g references.loader).eq (.str "HeltoLoadImageFromRoot") = true ∧
        ∀ key ∈ ["root", "subfolder", "filename"], isText (Json.get inputs key) = true)
        "reference adapter requires a HeltoLoadImageFromRoot template"
      check (∀ target ∈ mapped, target.1 ≠ references.loader ∧
        ¬(target.1 = references.generator ∧ target.2 ∈ references.inputs))
        "reference controls cannot also be parameter targets"
      pure (some references)

/-- The inputs that hold references. -/
def References.slots (references : Option References) : List (String × String) :=
  match references with
  | some references => references.inputs.map fun name ↦ (references.generator, name)
  | none => []

def loadModes (directory : Directory) (g : Graph) (manifest parameters : Fields)
    (mapped : List (String × String)) (outputs : List Output) (references : Option References) :
    Except LoadError (Option WorkflowModes) :=
  match manifest.lookup "modes" with
  | none => .ok none
  | some value => do
      check (Json.has parameters "mode" = false)
        (.handled "mode is reserved when a modes file is configured")
      match value with
      | .str filename =>
          check (text.strip filename ≠ "") (.handled "modes must name a local YAML file")
          let data ← directory.modes filename
          let modes ← handled (WorkflowModes.read text data)
          handled (modes.validateTargets g (mapped ++ References.slots references)
            (outputs.map Output.node ++ (references.map References.loader).toList))
          pure (some modes)
      | _ => .error (.handled "modes must name a local YAML file")

def loadGuidance (directory : Directory) (manifest : Fields) :
    Except LoadError (Option String) :=
  match manifest.lookup "prompt_guidance" with
  | none => .ok none
  | some (.str filename) => (directory.guidance filename).map some
  | some _ => .error (.handled "prompt_guidance must name a local text file")

/-- The parts of a manifest that `load` reads first. -/
structure Header where
  id : String
  graph : Graph
  parameters : Fields
  outputs : List Json

def loadHeader (directory : Directory) (manifest : Fields) : Except LoadError Header := do
  check (∀ key ∈ ["id", "name", "description", "workflow"],
    isNonblank text (Json.get manifest key) = true)
    (.handled "manifest needs id, name, description and workflow")
  match Json.get manifest "id", Json.get manifest "workflow" with
  | .str id, .str filename =>
      match ← directory.graph filename with
      | .obj g =>
          match Json.get manifest "parameters", Json.get manifest "outputs" with
          | .obj parameters, .arr (output :: outputs) => pure ⟨id, g, parameters, output :: outputs⟩
          | _, _ => .error (.handled "manifest needs parameters and outputs")
      | _ => .error (.handled "API workflow must be an object")
  | _, _ => .error (.handled "manifest needs id, name, description and workflow")

def Workflow.load (directory : Directory) (manifest : Json) : Except LoadError Workflow :=
  match manifest with
  | .obj manifest => do
      let header ← loadHeader text directory manifest
      let g := header.graph
      let nsfwLoras ← handled (loadNsfwLoras text g manifest header.parameters)
      let controlled := NsfwLoras.controlled nsfwLoras
      let declared ← handled (loadParameters g controlled header.parameters [])
      let mapped := controlled ++ targetsOf declared
      let (outputs, roots) ← loadOutputs directory g mapped header.outputs [] []
      let references ← handled (loadReferences g mapped (Json.get manifest "references"))
      let guidance ← loadGuidance directory manifest
      let modes ← loadModes text directory g manifest header.parameters mapped outputs references
      pure ⟨header.id, declared, nsfwLoras, outputs, references, g, roots, guidance, modes⟩
  | _ => .error (.handled "manifest must be an object")

end Load

/-- Text functions that do for names without spaces. -/
def plainText : Text := ⟨id, id, fun _ ↦ none, fun _ ↦ false⟩

end StProxy.Workflows
