import Mathlib.Algebra.Group.Nat.Defs
import StProxy.Lib.Json

/-!
# Model profiles

`model_profiles.py` on decoded JSON: which thinking controls a request carries,
and the defaults that a profile adds to it.
-/

namespace StProxy.Profiles

open Json

/-- `STRATA`. -/
def strataEngines : List String := ["sc117", "orca", "sc117_128k", "orca_128k"]

def backends : List String := strataEngines ++ ["prism", "tabbyapi"]

/-- `PARAMETERS`. -/
def profileParameters : List String :=
  ["temperature", "top_p", "top_k", "min_p", "repetition_penalty", "presence_penalty",
    "frequency_penalty", "reasoning_budget_tokens"]

def repetitionAliases : List String := ["repetition_penalty", "repeat_penalty", "rep_pen"]

def budgetAliases : List String :=
  ["reasoning_budget_tokens", "reasoning_budget", "thinking_budget", "thinking_token_budget",
    "thinking_budget_tokens"]

/-- The parts of a profile that hold parameters. -/
def groups : List String := ["defaults", "thinking", "non_thinking"]

variable (text : Text)

section Parameters

/-- The range of a finite number. -/
def inRange (strata : Bool) (key : String) (value : Json) (x : ℚ) : Bool :=
  let whole := match value with
    | .int n => decide (0 ≤ n)
    | _ => false
  if key = "temperature" then decide (0 ≤ x ∧ x ≤ 2)
  else if key = "top_p" then decide (0 < x ∧ x ≤ 1)
  else if key = "min_p" then decide (0 ≤ x ∧ x ≤ 1)
  else if key = "repetition_penalty" then decide (0 < x)
  else if key = "top_k" then whole && (!strata || decide (1 ≤ x ∧ x ≤ 64))
  else if key = "reasoning_budget_tokens" then whole
  else decide ((if strata then 0 else -2) ≤ x ∧ x ≤ 2)

/-- One step of the loop of `_validate_parameters`.  `math.isfinite` raises for an
integer whose nearest double is out of range. -/
def validateParameter (strata : Bool) (place key : String) (value : Json) : Except String Unit :=
  let checked (x : ℚ) : Except String Unit :=
    if inRange strata key value x then .ok ()
    else .error s!"{place}.{key}: value outside supported backend range"
  match value with
  | .int n =>
      if 2 ^ 1024 - 2 ^ 970 ≤ n.natAbs then .error "int too large to convert to float"
      else checked n
  | .float x => checked x
  | _ => .error s!"{place}.{key}: expected a finite number"

def validateParameters (values : Json) (engines : List String) (place : String) :
    Except String Unit :=
  match values with
  | .obj fields =>
      if fields.all fun field ↦ profileParameters.contains field.1 then
        fields.forM fun field ↦
          validateParameter (engines.any strataEngines.contains) place field.1 field.2
      else .error s!"{place}: expected supported parameter names"
  | _ => .error s!"{place}: expected supported parameter names"

/-- An object whose keys are parameters. -/
def Supported : Json → Prop
  | .obj fields => ∀ field ∈ fields, field.1 ∈ profileParameters
  | _ => False

theorem validateParameters_ok {values : Json} {engines : List String} {place : String}
    (h : validateParameters values engines place = .ok ()) : Supported values := by
  cases values with
  | obj fields =>
      simp only [validateParameters] at h
      split at h
      · rename_i hall
        intro field hmem
        have := List.all_eq_true.mp hall field hmem
        simpa using this
      · cases h
  | _ => cases h

end Parameters

section Modes

inductive Mode
  | thinking | nonThinking
  deriving DecidableEq, Repr

def Mode.key : Mode → String
  | thinking => "thinking"
  | nonThinking => "non_thinking"

/-- An entry of `controls`. -/
inductive Control
  | effort (value : Json)
  | enabled (value : Json)

def effortKey (key : String) : String := if key = "reasoning" then "effort" else "reasoning_effort"

def enabledKey (key : String) : String := if key = "reasoning" then "enabled" else "enable_thinking"

/-- The loop over the items of one object; `none` for `return None`. -/
def itemControls (engine key : String) : Fields → Option (List Control)
  | [] => some []
  | (name, value) :: fields =>
      if name = effortKey key then
        if key = "reasoning" ∧ engine = "prism" then none
        else if engine = "prism" ∧ value.eq (.str "none") then none
        else (itemControls engine key fields).map (.effort value :: ·)
      else if name = enabledKey key then
        if key = "reasoning" ∧ engine ≠ "tabbyapi" then none
        else match value, strataEngines.contains engine with
          | .bool true, true => itemControls engine key fields
          | _, _ => (itemControls engine key fields).map (.enabled value :: ·)
      else itemControls engine key fields

/-- The controls under one of the four keys of objects. -/
def objectControls (payload : Fields) (engine key : String) : Option (List Control) :=
  match payload.lookup key with
  | none => some []
  | some value =>
      if engine = "tabbyapi" ∧ key = "chat_template_kwargs" ∧ Json.has payload "template_vars" then
        some []
      else match value with
        | .obj fields =>
            if key = "thinking" ∨ (key = "template_vars" ∧ engine ≠ "tabbyapi") then none
            else itemControls engine key fields
        | _ => none

def effortControls (payload : Fields) : List Control :=
  match payload.lookup "reasoning_effort" with
  | none => []
  | some value => [.effort value]

def enabledControls (payload : Fields) (engine : String) : Option (List Control) :=
  match payload.lookup "enable_thinking" with
  | none => some []
  | some value => if engine = "tabbyapi" then some [.enabled value] else none

def controls (payload : Fields) (engine : String) : Option (List Control) := do
  let enabled ← enabledControls payload engine
  let reasoning ← objectControls payload engine "reasoning"
  let kwargs ← objectControls payload engine "chat_template_kwargs"
  let vars ← objectControls payload engine "template_vars"
  let thinking ← objectControls payload engine "thinking"
  return effortControls payload ++ enabled ++ reasoning ++ kwargs ++ vars ++ thinking

/-- The mode that one control asks for. -/
def Control.mode (engine : String) : Control → Option Mode
  | .enabled (.bool b) => some (if b then .thinking else .nonThinking)
  | .enabled _ => none
  | .effort (.str s) =>
      let level := if engine = "prism" then s else text.lower (text.strip s)
      if (if engine = "prism" then ["none"] else ["none", "off"]).contains level then
        some .nonThinking
      else if (if engine = "prism" then ["low", "medium", "xhigh"]
          else ["low", "medium", "high", "xhigh"]).contains level then
        some .thinking
      else none
  | .effort _ => none

/-- The only element of a set that is given by its elements in any order. -/
def unanimous : List Mode → Option Mode
  | [] => none
  | m :: modes => if modes.all (· = m) then some m else none

/-- `_mode`. -/
def mode (payload : Fields) (engine : String) : Option Mode := do
  let found ← controls payload engine
  let modes ← found.mapM (Control.mode text engine)
  unanimous modes

end Modes

def hasThinkingControl (payload : Fields) : Bool :=
  (budgetAliases ++ ["reasoning_effort", "enable_thinking", "reasoning", "thinking"]).any
      (Json.has payload) ||
    ["chat_template_kwargs", "template_vars"].any fun key ↦
      match payload.lookup key with
      | none => false
      | some (.obj fields) =>
          (["enable_thinking", "reasoning_effort"] ++ budgetAliases).any (Json.has fields)
      | some _ => true

/-- The parts of a profile, where it has them, are objects of parameters. -/
def SupportedGroups (fields : Fields) : Prop :=
  ∀ group ∈ groups, Supported ((fields.lookup group).getD (.obj []))

/-- A profile whose parameters were validated. -/
structure Profile where
  fields : Fields
  supported : SupportedGroups fields

/-- `profile.get(group, {})`. -/
def Profile.parameters (profile : Profile) (group : String) : Fields :=
  match (profile.fields.lookup group).getD (.obj []) with
  | .obj fields => fields
  | _ => []

/-- `_models`: the profile of each `engine/model`. -/
structure ModelProfiles where
  models : List (String × Profile)

namespace ModelProfiles

/-- `model.split("/", 1)`. -/
def splitModel (model : String) : Option (String × String) :=
  match model.toList.span (· ≠ '/') with
  | (engine, _ :: name) => some (String.ofList engine, String.ofList name)
  | (_, []) => none

def exact (model : String) : Option String :=
  match splitModel model with
  | some (engine, name) =>
      if backends.contains engine && text.strip name ≠ "" &&
          !model.toList.any (['*', '?', '[', ']'].contains ·) then some engine
      else none
  | none => none

/-- The loop over the models of one profile: their names and engines. -/
def addModels (name : String) (known : List String) :
    List Json → Except String (List String × List String)
  | [] => .ok ([], [])
  | .str model :: models =>
      match exact text model with
      | none => .error s!"{name}: expected an exact supported backend/model ID"
      | some engine =>
          if known.contains model then .error s!"duplicate model match: {model}"
          else (addModels name (known ++ [model]) models).map fun (names, engines) ↦
            (model :: names, engine :: engines)
  | _ :: _ => .error s!"{name}: expected an exact supported backend/model ID"

def profileFields : List String :=
  ["id", "models", "defaults", "thinking", "non_thinking", "sources", "checked_at", "notes",
    "installed_revision"]

/-- The checks after the parameters. -/
def validateNotes (name : String) (fields : Fields) : Except String Unit := do
  ["checked_at", "notes", "installed_revision"].forM fun key ↦
    match fields.lookup key with
    | none | some (.str _) => .ok ()
    | some _ => .error s!"{name}.{key}: expected text"
  match (fields.lookup "sources").getD (.arr []) with
  | .arr sources =>
      if sources.all fun source ↦ match source with
          | .str _ => true
          | _ => false then .ok ()
      else .error s!"{name}.sources: expected a list of source URLs"
  | _ => .error s!"{name}.sources: expected a list of source URLs"

/-- The three parts, one after the other. -/
def validateGroups (name : String) (engines : List String) (fields : Fields) :
    Except String (PLift (SupportedGroups fields)) :=
  let check (group : String) :=
    validateParameters ((fields.lookup group).getD (.obj [])) engines s!"{name}.{group}"
  match hdefaults : check "defaults" with
  | .error e => .error e
  | .ok () =>
    match hthinking : check "thinking" with
    | .error e => .error e
    | .ok () =>
      match hnon : check "non_thinking" with
      | .error e => .error e
      | .ok () => .ok ⟨by
          intro group hgroup
          rcases List.mem_cons.mp hgroup with rfl | hgroup
          · exact validateParameters_ok hdefaults
          rcases List.mem_cons.mp hgroup with rfl | hgroup
          · exact validateParameters_ok hthinking
          obtain rfl := List.mem_singleton.mp hgroup
          exact validateParameters_ok hnon⟩

/-- `_add`, with the identifiers that are taken. -/
def add (profile : Json) (names : List String) (profiles : ModelProfiles) :
    Except String (List String × ModelProfiles) :=
  match profile with
  | .obj fields =>
      if fields.all fun field ↦ profileFields.contains field.1 then
        match Json.get fields "id", Json.get fields "models" with
        | .str name, models =>
            if text.strip name = "" ∨ name ∈ names then
              .error "profile IDs must be nonempty and unique"
            else match models with
              | .arr (model :: rest) => do
                  let (added, engines) ←
                    addModels text name (profiles.models.map Prod.fst) (model :: rest)
                  let supported ← validateGroups name engines fields
                  validateNotes name fields
                  return (names ++ [name], ⟨profiles.models ++
                    added.map fun model ↦ (model, ⟨fields, supported.down⟩)⟩)
              | _ => .error s!"{name}: models must be a nonempty list"
        | _, _ => .error "profile IDs must be nonempty and unique"
      else .error "unknown profile fields"
  | _ => .error "unknown profile fields"

def addAll : List Json → List String → ModelProfiles → Except String ModelProfiles
  | [], _, profiles => .ok profiles
  | profile :: rest, names, profiles =>
      match add text profile names profiles with
      | .ok (names, profiles) => addAll rest names profiles
      | .error e => .error e

/-- `__init__`.  The decoder of the file refuses duplicate keys. -/
def init (path : String) (data : Except String Json) : Except String ModelProfiles :=
  let checked : Except String ModelProfiles := do
    match ← data with
    | .obj fields =>
        match Json.get fields "version", Json.get fields "profiles" with
        | .int 1, .arr profiles =>
            if fields.all fun field ↦ ["version", "profiles"].contains field.1 then
              addAll text profiles [] ⟨[]⟩
            else .error "expected version 1 and a profiles list"
        | _, _ => .error "expected version 1 and a profiles list"
    | _ => .error "expected version 1 and a profiles list"
  checked.mapError fun e ↦ s!"model profiles {path}: {e}"

/-- `{**profile.get("defaults", {}), **profile.get(mode, {})}`. -/
def defaultsFor (profile : Profile) (m : Option Mode) : Fields :=
  Json.update (match m with
    | some m => profile.parameters m.key
    | none => []) (profile.parameters "defaults")

/-- The name under which a parameter is sent. -/
def wire (engine key : String) : String :=
  if key = "repetition_penalty" ∧ engine = "prism" then "repeat_penalty" else key

/-- One step of the loop over the defaults. -/
def addDefault (payload : Fields) (engine : String) (result : Fields) (field : String × Json) :
    Fields :=
  let aliases :=
    if field.1 = "repetition_penalty" then repetitionAliases else [wire engine field.1]
  if field.1 = "reasoning_budget_tokens" && hasThinkingControl payload then result
  else if aliases.any (Json.has payload) then result
  else Json.set (wire engine field.1) field.2 result

/-- The translation of the caller's alias of the repetition penalty. -/
def addAlias (payload : Fields) (engine : String) (result : Fields) : Fields :=
  let native := wire engine "repetition_penalty"
  let aliases :=
    if engine = "tabbyapi" then ["rep_pen", "repeat_penalty"] else repetitionAliases
  if Json.has payload native then result
  else match aliases.findSome? fun key ↦ payload.lookup key with
    | some value => Json.set native value result
    | none => result

def apply (profiles : ModelProfiles) (payload : Fields) (engine : String) (model : Json) :
    Fields :=
  match model with
  | .str name =>
      match profiles.models.lookup s!"{engine}/{name}" with
      | none => payload
      | some profile =>
          let defaults := defaultsFor profile (mode text payload engine)
          let result := addAlias payload engine (defaults.foldl (addDefault payload engine) payload)
          if (Json.obj result).eq (.obj payload) then payload else result
  | _ => payload

end ModelProfiles

end StProxy.Profiles
