import StProxy.Workflows.Workflow

/-!
# The catalog of workflows

`WorkflowCatalog` visits the manifest files one after another.  Which workflows are
available does not depend on the order of the visits, unless some manifest raises what the
loop does not handle.
-/

namespace StProxy.Workflows

open Json Checked

/-- A file of the glob: its size, and its text as `json.loads` decodes it. -/
structure ManifestFile where
  size : Except String ℕ
  payload : Except String Json

structure WorkflowCatalog where
  workflows : List (String × Workflow)
  seen : List String

namespace WorkflowCatalog

/-- `self.workflows.pop(id, None)`. -/
def pop (id : String) (catalog : WorkflowCatalog) : WorkflowCatalog :=
  { catalog with workflows := catalog.workflows.filter (·.1 ≠ id) }

/-- `workflows[id] = workflow`. -/
def setItem (id : String) (workflow : Workflow) :
    List (String × Workflow) → List (String × Workflow)
  | [] => [(id, workflow)]
  | item :: items =>
      if item.1 = id then (id, workflow) :: items else item :: setItem id workflow items

end WorkflowCatalog

/-- The size check and the parse. -/
def ManifestFile.read (maxBytes : ℕ) (file : ManifestFile) : Except String Json := do
  let size ← file.size
  check (size ≤ maxBytes) "manifest is too large"
  file.payload

/-- `identifier`. -/
def identifier : Json → Option String
  | .obj manifest =>
      match Json.get manifest "id" with
      | .str id => some id
      | _ => none
  | _ => none

section

variable (text : Text) (directory : Directory) (maxBytes : ℕ)

namespace WorkflowCatalog

/-- The end of the loop body: a workflow that loads is available. -/
def loadManifest (manifest : Json) (catalog : WorkflowCatalog) : Except String WorkflowCatalog :=
  match Workflow.load text directory manifest with
  | .ok workflow =>
      .ok { catalog with workflows := setItem workflow.id workflow catalog.workflows }
  | .error (.handled _) => .ok catalog
  | .error (.unhandled typeName) => .error typeName

/-- One pass of the loop.  What was done before an exception that is handled stays; the others
leave the constructor. -/
def visit (catalog : WorkflowCatalog) (file : ManifestFile) : Except String WorkflowCatalog :=
  match file.read maxBytes with
  | .error _ => .ok catalog
  | .ok manifest =>
      match identifier manifest with
      | none => catalog.loadManifest text directory manifest
      | some id =>
          if id ∈ catalog.seen then .ok (catalog.pop id)
          else ({ catalog with seen := id :: catalog.seen } : WorkflowCatalog).loadManifest text
            directory manifest

/-- `__init__` over the files in the order of the visits. -/
def ofFiles (files : List ManifestFile) : Except String WorkflowCatalog :=
  files.foldlM (visit text directory maxBytes) ⟨[], []⟩

def get (catalog : WorkflowCatalog) (id : String) : Except String Workflow :=
  match catalog.workflows.lookup id with
  | some workflow => .ok workflow
  | none => .error "unknown or unavailable workflow"

/-- The workflow under an id, if there is a catalog. -/
def available (files : List ManifestFile) (id : String) : Option Workflow :=
  match ofFiles text directory maxBytes files with
  | .ok catalog => (catalog.get id).toOption
  | .error _ => none

end WorkflowCatalog

/-- The file is an admissible manifest object with the string id. -/
def ManifestFile.declares (id : String) (file : ManifestFile) : Bool :=
  match file.read maxBytes with
  | .ok manifest => identifier manifest == some id
  | .error _ => false

/-- `Workflow.load` accepts the manifest in the file. -/
def ManifestFile.Loads (file : ManifestFile) (workflow : Workflow) : Prop :=
  ∃ manifest, file.read maxBytes = .ok manifest ∧
    Workflow.load text directory manifest = .ok workflow

/-- `Workflow.load` raises what the loop does not handle. -/
def ManifestFile.Escapes (file : ManifestFile) : Prop :=
  ∃ manifest typeName, file.read maxBytes = .ok manifest ∧
    Workflow.load text directory manifest = .error (.unhandled typeName)

/-- One file declares the id, and that one loads. -/
def Sole (files : List ManifestFile) (id : String) (workflow : Workflow) : Prop :=
  ∃ file, files.filter (·.declares maxBytes id) = [file] ∧
    file.Loads text directory maxBytes workflow

/-- The catalog makes a workflow available just if one file declares its id, and that one
loads; neither the order of the files nor the other files matter. -/
structure Orderless (files : List ManifestFile) : Prop where
  available : ∀ id workflow,
    WorkflowCatalog.available text directory maxBytes files id = some workflow ↔
      Sole text directory maxBytes files id workflow
  isolated : ∀ before file after id, files = before ++ file :: after →
    file.declares maxBytes id = false →
      WorkflowCatalog.available text directory maxBytes files id =
        WorkflowCatalog.available text directory maxBytes (before ++ after) id
  permuted : ∀ files', files.Perm files' → ∀ id,
    WorkflowCatalog.available text directory maxBytes files id =
      WorkflowCatalog.available text directory maxBytes files' id

end

variable {text : Text} {directory : Directory} {maxBytes : ℕ}

/-! ## What a visit changes -/

lemma load_identifier {manifest : Json} {workflow : Workflow}
    (h : Workflow.load text directory manifest = .ok workflow) :
    identifier manifest = some workflow.id := by
  unfold Workflow.load at h
  split at h
  · next fields =>
      obtain ⟨header, hheader, h⟩ := bind_eq_ok.mp h
      obtain ⟨nsfwLoras, -, h⟩ := bind_eq_ok.mp h
      obtain ⟨declared, -, h⟩ := bind_eq_ok.mp h
      obtain ⟨⟨outputs, roots⟩, -, h⟩ := bind_eq_ok.mp h
      obtain ⟨references, -, h⟩ := bind_eq_ok.mp h
      obtain ⟨guidance, -, h⟩ := bind_eq_ok.mp h
      obtain ⟨modes, -, h⟩ := bind_eq_ok.mp h
      obtain rfl := pure_eq_ok.mp h
      obtain ⟨-, hheader⟩ := of_bind_unit hheader
      split at hheader
      · next id filename hid hworkflow =>
          obtain ⟨graph, -, hheader⟩ := bind_eq_ok.mp hheader
          split at hheader
          · split at hheader
            · obtain rfl := pure_eq_ok.mp hheader
              simp [identifier, hid]
            · cases hheader
          · cases hheader
      · cases hheader
  · cases h

namespace WorkflowCatalog

lemma lookup_setItem (id : String) (workflow : Workflow) (items : List (String × Workflow))
    (name : String) :
    (setItem id workflow items).lookup name =
      if id = name then some workflow else items.lookup name := by
  induction items with
  | nil => rw [setItem, lookup_cons]
  | cons item items ih =>
      by_cases h : item.1 = id
      · rw [setItem, if_pos h, lookup_cons, lookup_cons, h]
        split_ifs <;> rfl
      · rw [setItem, if_neg h, lookup_cons, lookup_cons, ih]
        by_cases hname : item.1 = name
        · rw [if_pos hname, if_pos hname, if_neg fun e ↦ h (hname.trans e.symm)]
        · rw [if_neg hname, if_neg hname]

lemma lookup_filter_ne (id : String) (items : List (String × Workflow)) (name : String) :
    (items.filter (·.1 ≠ id)).lookup name = if id = name then none else items.lookup name := by
  induction items with
  | nil => simp
  | cons item items ih =>
      by_cases h : item.1 = id
      · rw [List.filter_cons_of_neg (by simpa using h), ih, lookup_cons, h]
        split_ifs <;> rfl
      · rw [List.filter_cons_of_pos (by simpa using h), lookup_cons, lookup_cons, ih]
        by_cases hname : item.1 = name
        · rw [if_pos hname, if_pos hname, if_neg fun e ↦ h (hname.trans e.symm)]
        · rw [if_neg hname, if_neg hname]

lemma lookup_pop (catalog : WorkflowCatalog) (id name : String) :
    (catalog.pop id).workflows.lookup name =
      if id = name then none else catalog.workflows.lookup name :=
  lookup_filter_ne id catalog.workflows name

lemma seen_pop (catalog : WorkflowCatalog) (id : String) : (catalog.pop id).seen = catalog.seen :=
  rfl

/-- What the catalog knows of one id: its workflow, and whether it was seen. -/
def view (id : String) (catalog : WorkflowCatalog) : Option Workflow × Bool :=
  (catalog.workflows.lookup id, decide (id ∈ catalog.seen))

end WorkflowCatalog

/-- The workflow of a file that loads. -/
def ManifestFile.workflow (text : Text) (directory : Directory) (maxBytes : ℕ)
    (file : ManifestFile) : Option Workflow :=
  match file.read maxBytes with
  | .ok manifest => (Workflow.load text directory manifest).toOption
  | .error _ => none

lemma ManifestFile.loads_iff {file : ManifestFile} {workflow : Workflow} :
    file.Loads text directory maxBytes workflow ↔
      file.workflow text directory maxBytes = some workflow := by
  unfold ManifestFile.Loads ManifestFile.workflow
  cases file.read maxBytes with
  | error e => simp
  | ok manifest => cases h : Workflow.load text directory manifest <;> simp [h, Except.toOption]

namespace WorkflowCatalog

/-- What a visit changes for one id. -/
def track (text : Text) (directory : Directory) (maxBytes : ℕ) (id : String)
    (known : Option Workflow × Bool) (file : ManifestFile) : Option Workflow × Bool :=
  if file.declares maxBytes id then
    if known.2 then (none, true)
    else ((file.workflow text directory maxBytes).or known.1, true)
  else known

lemma loadManifest_ok {manifest : Json} {catalog catalog' : WorkflowCatalog}
    (h : catalog.loadManifest text directory manifest = .ok catalog') (name : String) :
    catalog'.seen = catalog.seen ∧ catalog'.workflows.lookup name =
      if identifier manifest = some name then
        (Workflow.load text directory manifest).toOption.or (catalog.workflows.lookup name)
      else catalog.workflows.lookup name := by
  unfold loadManifest at h
  cases hload : Workflow.load text directory manifest with
  | error e =>
      rw [hload] at h
      cases e with
      | handled message =>
          cases h
          simp [Except.toOption]
      | unhandled typeName => cases h
  | ok workflow =>
      rw [hload] at h
      cases h
      simp [lookup_setItem, load_identifier hload, Except.toOption]

lemma view_pop (catalog : WorkflowCatalog) (id name : String) :
    view id (catalog.pop name) =
      if name = id then (none, (view id catalog).2) else view id catalog := by
  unfold view
  rw [lookup_pop, seen_pop]
  split_ifs <;> rfl

lemma view_visit {id : String} {catalog catalog' : WorkflowCatalog} {file : ManifestFile}
    (h : visit text directory maxBytes catalog file = .ok catalog') :
    view id catalog' = track text directory maxBytes id (view id catalog) file := by
  unfold track ManifestFile.declares ManifestFile.workflow
  unfold visit at h
  cases hread : file.read maxBytes with
  | error e =>
      rw [hread] at h
      cases h
      rfl
  | ok manifest =>
      rw [hread] at h
      cases hid : identifier manifest with
      | none =>
          simp only [hid] at h
          obtain ⟨hseen, hlookup⟩ := loadManifest_ok h id
          simp [view, hseen, hlookup, hid]
      | some name =>
          simp only [hid] at h
          split_ifs at h with hseen
          · cases h
            rw [view_pop]
            by_cases hname : name = id
            · subst hname
              simp [view, hid, hseen]
            · simp [hid, hname]
          · obtain ⟨hsame, hlookup⟩ := loadManifest_ok h id
            by_cases hname : name = id
            · subst hname
              simp [view, hsame, hlookup, hid, hseen]
            · simp [view, hsame, hlookup, hid, hname, Ne.symm hname]

/-- Only the files that declare the id matter to it. -/
lemma view_ofFiles {files : List ManifestFile} {catalog : WorkflowCatalog}
    (h : ofFiles text directory maxBytes files = .ok catalog) (id : String) :
    view id catalog = (files.filter (·.declares maxBytes id)).foldl
      (track text directory maxBytes id) (none, false) := by
  have hview : view id catalog = files.foldl (track text directory maxBytes id) (none, false) :=
    foldlM_hom (fun _ _ _ ↦ view_visit) h
  rw [hview, List.foldl_filter]
  congr 1
  funext known file
  unfold track
  split_ifs <;> rfl

/-- The duplicates of an id that was seen leave it unavailable. -/
lemma foldl_track_seen {id : String} {files : List ManifestFile}
    (hfiles : ∀ file ∈ files, file.declares maxBytes id = true) :
    files.foldl (track text directory maxBytes id) (none, true) = (none, true) := by
  induction files with
  | nil => rfl
  | cons file files ih =>
      obtain ⟨hfile, hfiles⟩ := List.forall_mem_cons.mp hfiles
      rw [List.foldl_cons, track, if_pos hfile]
      exact ih hfiles

/-- What the catalog makes of the files that declare an id. -/
def pick (text : Text) (directory : Directory) (maxBytes : ℕ) :
    List ManifestFile → Option Workflow
  | [file] => file.workflow text directory maxBytes
  | _ => none

lemma lookup_ofFiles {files : List ManifestFile} {catalog : WorkflowCatalog}
    (h : ofFiles text directory maxBytes files = .ok catalog) (id : String) :
    catalog.workflows.lookup id =
      pick text directory maxBytes (files.filter (·.declares maxBytes id)) := by
  have hview := congrArg Prod.fst (view_ofFiles h id)
  have hdeclares : ∀ file ∈ files.filter (·.declares maxBytes id),
      file.declares maxBytes id = true := fun file hfile ↦ (List.mem_filter.mp hfile).2
  refine hview.trans ?_
  generalize files.filter (·.declares maxBytes id) = declaring at hdeclares
  match declaring, hdeclares with
  | [], _ => rfl
  | [file], hdeclares =>
      simp [track, pick, hdeclares file (by simp)]
  | first :: second :: rest, hdeclares =>
      obtain ⟨hfirst, hdeclares⟩ := List.forall_mem_cons.mp hdeclares
      obtain ⟨hsecond, hrest⟩ := List.forall_mem_cons.mp hdeclares
      simp [track, pick, hfirst, hsecond, foldl_track_seen hrest]

lemma available_of_ok {files : List ManifestFile} {catalog : WorkflowCatalog}
    (h : ofFiles text directory maxBytes files = .ok catalog) (id : String) :
    available text directory maxBytes files id =
      pick text directory maxBytes (files.filter (·.declares maxBytes id)) := by
  unfold available get
  rw [h]
  dsimp only
  rw [lookup_ofFiles h]
  cases pick text directory maxBytes (files.filter (·.declares maxBytes id)) <;> rfl

lemma pick_eq_some_iff {files : List ManifestFile} {workflow : Workflow} :
    pick text directory maxBytes files = some workflow ↔
      ∃ file, files = [file] ∧ file.Loads text directory maxBytes workflow := by
  match files with
  | [] => simp [pick]
  | [file] => simp [pick, ManifestFile.loads_iff]
  | _ :: _ :: _ => simp [pick]

lemma pick_perm {files files' : List ManifestFile} (h : files.Perm files') :
    pick text directory maxBytes files = pick text directory maxBytes files' := by
  match files, files', h.length_eq with
  | [], [], _ => rfl
  | [file], [file'], _ =>
      rw [List.singleton_perm_singleton.mp h]
  | _ :: _ :: _, _ :: _ :: _, _ => rfl

/-! ## Exceptions that escape -/

/-- Without an exception that escapes there is a catalog. -/
lemma exists_ofFiles {files : List ManifestFile}
    (h : ∀ file ∈ files, ¬file.Escapes text directory maxBytes) :
    ∃ catalog, ofFiles text directory maxBytes files = .ok catalog := by
  refine exists_foldlM_eq_ok (fun file hfile catalog ↦ ?_) _
  have hload {manifest : Json} (hread : file.read maxBytes = .ok manifest)
      (catalog : WorkflowCatalog) :
      ∃ catalog', catalog.loadManifest text directory manifest = .ok catalog' := by
    unfold loadManifest
    cases hload : Workflow.load text directory manifest with
    | ok workflow => exact ⟨_, rfl⟩
    | error e =>
        cases e with
        | handled message => exact ⟨_, rfl⟩
        | unhandled typeName => exact absurd ⟨manifest, typeName, hread, hload⟩ (h file hfile)
  unfold visit
  cases hread : file.read maxBytes with
  | error e => exact ⟨_, rfl⟩
  | ok manifest =>
      dsimp only
      split
      · exact hload hread _
      · split_ifs
        · exact ⟨_, rfl⟩
        · exact hload hread _

/-- What is visited first is not seen yet, and its exception leaves the constructor. -/
lemma available_cons_of_escapes {file : ManifestFile}
    (h : file.Escapes text directory maxBytes) (files : List ManifestFile) (id : String) :
    available text directory maxBytes (file :: files) id = none := by
  obtain ⟨manifest, typeName, hread, hload⟩ := h
  have hraises (catalog : WorkflowCatalog) :
      catalog.loadManifest text directory manifest = .error typeName := by
    unfold loadManifest
    rw [hload]
  have hvisit : visit text directory maxBytes ⟨[], []⟩ file = .error typeName := by
    unfold visit
    rw [hread]
    dsimp only
    split
    · exact hraises _
    · rw [if_neg List.not_mem_nil]
      exact hraises _
  have herror : ofFiles text directory maxBytes (file :: files) = .error typeName := by
    unfold ofFiles
    rw [List.foldlM_cons, hvisit]
    rfl
  unfold available
  rw [herror]

/-- Where no file alone loads for its id, nothing is available. -/
lemma available_eq_none {files : List ManifestFile} {id : String}
    (h : ∀ workflow, ¬Sole text directory maxBytes files id workflow) :
    available text directory maxBytes files id = none := by
  cases hfiles : ofFiles text directory maxBytes files with
  | error typeName =>
      unfold available
      rw [hfiles]
  | ok catalog =>
      rw [available_of_ok hfiles, Option.eq_none_iff_forall_ne_some]
      exact fun workflow hworkflow ↦ h workflow (pick_eq_some_iff.mp hworkflow)

end WorkflowCatalog

open WorkflowCatalog

section

variable {files files' : List ManifestFile}

lemma Sole.perm {id : String} {workflow : Workflow}
    (h : Sole text directory maxBytes files id workflow) (hperm : files.Perm files') :
    Sole text directory maxBytes files' id workflow := by
  unfold Sole at *
  rw [← pick_eq_some_iff] at *
  rwa [← pick_perm (hperm.filter _)]

lemma filter_declares_of_not {before after : List ManifestFile} {file : ManifestFile}
    {id : String} (h : file.declares maxBytes id = false) :
    (before ++ file :: after).filter (·.declares maxBytes id) =
      (before ++ after).filter (·.declares maxBytes id) := by
  rw [List.filter_append, List.filter_cons_of_neg (by simp [h]), ← List.filter_append]

/-- Without an exception that escapes, neither the order nor the other files matter. -/
lemma orderless_of_not_escapes (h : ∀ file ∈ files, ¬file.Escapes text directory maxBytes) :
    Orderless text directory maxBytes files := by
  have hpick {files' : List ManifestFile} (hfiles' : files' ⊆ files) (id : String) :
      available text directory maxBytes files' id =
        pick text directory maxBytes (files'.filter (·.declares maxBytes id)) := by
    obtain ⟨catalog, hcatalog⟩ := exists_ofFiles fun file hfile ↦ h file (hfiles' hfile)
    exact available_of_ok hcatalog id
  refine ⟨fun id workflow ↦ ?_, ?_, fun files' hperm id ↦ ?_⟩
  · rw [hpick (List.Subset.refl _), pick_eq_some_iff]
    rfl
  · rintro before file after id rfl hfile
    have hsub : before ++ after ⊆ before ++ file :: after :=
      ((List.sublist_cons_self file after).append_left before).subset
    rw [hpick (List.Subset.refl _), hpick hsub, filter_declares_of_not hfile]
  · rw [hpick (List.Subset.refl _), hpick hperm.symm.subset, pick_perm (hperm.filter _)]

/-- Where nothing can be available, nothing is. -/
lemma orderless_of_not_sole
    (h : ∀ id workflow, ¬Sole text directory maxBytes files id workflow) :
    Orderless text directory maxBytes files := by
  have hnone (id : String) := available_eq_none (h id)
  refine ⟨fun id workflow ↦ ?_, ?_, fun files' hperm id ↦ ?_⟩
  · rw [hnone id]
    exact ⟨nofun, fun hsole ↦ absurd hsole (h id workflow)⟩
  · rintro before file after id rfl hfile
    rw [hnone id]
    refine (available_eq_none fun workflow hsole ↦ h id workflow ?_).symm
    unfold Sole at *
    rwa [filter_declares_of_not hfile]
  · rw [hnone id]
    exact (available_eq_none fun workflow hsole ↦ h id workflow (hsole.perm hperm.symm)).symm

end

/-- Which workflows are available does not depend on the order of the files, and two files
with the same id disable it, exactly when no manifest raises what the loop does not handle, or
nothing would be available in any case. -/
theorem catalog_orderless_iff (text : Text) (directory : Directory) (maxBytes : ℕ)
    (files : List ManifestFile) : Orderless text directory maxBytes files ↔
      (∀ file ∈ files, ¬file.Escapes text directory maxBytes) ∨
        ∀ id workflow, ¬Sole text directory maxBytes files id workflow := by
  constructor
  · intro h
    by_contra hnot
    simp only [not_or, not_forall, not_not] at hnot
    obtain ⟨⟨file, hfile, hescapes⟩, id, workflow, hsole⟩ := hnot
    -- The order in which the file is visited first makes nothing available.
    obtain ⟨before, after, rfl⟩ := List.append_of_mem hfile
    have hfirst := h.permuted _ List.perm_middle id
    rw [(h.available id workflow).mpr hsole, available_cons_of_escapes hescapes] at hfirst
    cases hfirst
  · rintro (h | h)
    · exact orderless_of_not_escapes h
    · exact orderless_of_not_sole h

/-! ## A scalar that does not fit its tag -/

/-- A directory whose modes file has the version `!!int ""`. -/
def taggedFiles : Directory :=
  ⟨fun _ ↦ .ok (.obj [("1", .obj [("class_type", .str "SaveImage"), ("inputs", .obj [])])]),
    fun _ ↦ .error (.handled "missing"), fun _ ↦ .error (.unhandled "IndexError"), .ok⟩

/-- A manifest with one output, and more fields. -/
def posterManifest (id : String) (more : Fields) : ManifestFile where
  size := .ok 512
  payload := .ok (.obj ([("id", .str id), ("name", .str "Poster"),
    ("description", .str "A poster."), ("workflow", .str "poster.json"), ("parameters", .obj []),
    ("outputs", .arr [.obj [("node", .str "1"), ("adapter", .str "comfy_images")]])] ++ more))

/-- The workflow without modes is the only one of its id, and is not available. -/
theorem catalog_orderless_fails_tagged :
    ¬Orderless plainText taggedFiles 65536
      [posterManifest "moody" [("modes", .str "modes.yaml")], posterManifest "poster" []] := by
  intro h
  have hsole : Sole plainText taggedFiles 65536
      [posterManifest "moody" [("modes", .str "modes.yaml")], posterManifest "poster" []] "poster"
      ⟨"poster", [], none, [⟨"1", .comfyImages⟩], none, _, [], none, none⟩ :=
    ⟨posterManifest "poster" [], rfl, _, rfl, rfl⟩
  have havailable := (h.available _ _).mpr hsole
  cases havailable

end StProxy.Workflows
