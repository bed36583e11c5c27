import Mathlib.Data.Rat.Defs
import Mathlib.Data.List.Basic

/-!
# JSON values as Python decodes them

An object is a dictionary: a list of fields with distinct keys, in the order of
insertion.  `None` and `null` are the same value.
-/

inductive Json
  | null
  | bool (b : Bool)
  | int (n : ℤ)
  | float (x : ℚ)
  | infinity (negative : Bool)
  | nan
  | str (s : String)
  | arr (l : List Json)
  | obj (fields : List (String × Json))

namespace Json

abbrev Fields : Type := List (String × Json)

/-- The value of a finite number; `True` is 1. -/
def number : Json → Option ℚ
  | bool b => some (if b then 1 else 0)
  | int n => some n
  | float x => some x
  | _ => none

mutual

/-- Python's `==`. -/
def eq : Json → Json → Bool
  | null, null => true
  | infinity b, infinity c => b == c
  | str s, str t => s == t
  | arr l, arr m => eqList l m
  | obj fields, obj others => fields.length == others.length && eqFields fields others
  | v, w => v.number.isSome && v.number == w.number

def eqList : List Json → List Json → Bool
  | [], [] => true
  | v :: l, w :: m => eq v w && eqList l m
  | _, _ => false

/-- Every field of the one is a field of the other. -/
def eqFields : List (String × Json) → List (String × Json) → Bool
  | [], _ => true
  | (key, v) :: fields, others =>
      (match others.lookup key with
        | some w => eq v w
        | none => false) && eqFields fields others

end

/-- `fields.get(key)`. -/
def get (fields : Fields) (key : String) : Json := (fields.lookup key).getD null

/-- Python truth. -/
def truthy : Json → Bool
  | null => false
  | bool b => b
  | int n => n != 0
  | float x => x != 0
  | infinity _ | nan => true
  | str s => s != ""
  | arr l => !l.isEmpty
  | obj fields => !fields.isEmpty

/-- `isinstance(v, dict)`. -/
def isDict : Json → Bool
  | obj _ => true
  | _ => false

/-- `key in fields`. -/
def has (fields : Fields) (key : String) : Bool := (fields.lookup key).isSome

/-- `fields[key] = value`. -/
def set (key : String) (value : Json) : Fields → Fields
  | [] => [(key, value)]
  | field :: fields =>
      if field.1 = key then (key, value) :: fields else field :: set key value fields

/-- `del fields[key]`, or `fields.pop(key)` for its effect. -/
def erase (key : String) (fields : Fields) : Fields := fields.filter (·.1 ≠ key)

/-- `fields.update(others)`. -/
def update (others fields : Fields) : Fields :=
  others.foldl (fun fields field ↦ set field.1 field.2 fields) fields

lemma lookup_cons {α : Type} (field : String × α) (fields : List (String × α)) (name : String) :
    (field :: fields).lookup name =
      if field.1 = name then some field.2 else fields.lookup name := by
  obtain ⟨key, v⟩ := field
  by_cases h : key = name
  · simp [h]
  · have hne : (name == key) = false := beq_false_of_ne fun e ↦ h e.symm
    simp [List.lookup_cons, h, hne]

lemma lookup_set (fields : Fields) (key name : String) (value : Json) :
    (set key value fields).lookup name =
      if key = name then some value else fields.lookup name := by
  induction fields with
  | nil => simp only [set, lookup_cons]
  | cons field fields ih =>
      by_cases h : field.1 = key
      · rw [set, if_pos h, lookup_cons, lookup_cons, h]
        split <;> rfl
      · rw [set, if_neg h, lookup_cons, lookup_cons, ih]
        by_cases hname : field.1 = name
        · rw [if_pos hname, if_pos hname, if_neg fun e ↦ h (hname.trans e.symm)]
        · rw [if_neg hname, if_neg hname]

lemma lookup_set_of_ne (fields : Fields) {key name : String} (value : Json) (hne : key ≠ name) :
    (set key value fields).lookup name = fields.lookup name := by
  rw [lookup_set, if_neg hne]

lemma lookup_erase (fields : Fields) (key name : String) :
    (erase key fields).lookup name = if key = name then none else fields.lookup name := by
  induction fields with
  | nil => simp [erase]
  | cons field fields ih =>
      by_cases h : field.1 = key
      · have herase : erase key (field :: fields) = erase key fields := by simp [erase, h]
        rw [herase, ih, lookup_cons, h]
        split <;> rfl
      · have herase : erase key (field :: fields) = field :: erase key fields := by
          simp [erase, h]
        rw [herase, lookup_cons, lookup_cons, ih]
        by_cases hname : field.1 = name
        · rw [if_pos hname, if_pos hname, if_neg fun e ↦ h (hname.trans e.symm)]
        · rw [if_neg hname, if_neg hname]

lemma lookup_erase_of_ne (fields : Fields) {key name : String} (hne : key ≠ name) :
    (erase key fields).lookup name = fields.lookup name := by
  rw [lookup_erase, if_neg hne]

/-- Only the last of two assignments to a key counts. -/
lemma set_set (key : String) (v w : Json) (fields : Fields) :
    set key w (set key v fields) = set key w fields := by
  induction fields with
  | nil => simp [set]
  | cons field fields ih =>
      by_cases h : field.1 = key
      · simp [set, h]
      · simp [set, h, ih]

lemma lookup_update_of_notMem {others : Fields} {name : String}
    (h : name ∉ others.map Prod.fst) (fields : Fields) :
    (update others fields).lookup name = fields.lookup name := by
  induction others generalizing fields with
  | nil => rfl
  | cons other others ih =>
      obtain ⟨hne, hrest⟩ := not_or.mp (List.mem_cons.not.mp h)
      exact (ih hrest _).trans (lookup_set_of_ne _ _ fun e ↦ hne e.symm)

/-- Every given value holds after an update, if the keys are distinct. -/
lemma lookup_update {others : Fields} (hnodup : (others.map Prod.fst).Nodup)
    {field : String × Json} (h : field ∈ others) (fields : Fields) :
    (update others fields).lookup field.1 = some field.2 := by
  induction others generalizing fields with
  | nil => exact absurd h List.not_mem_nil
  | cons other others ih =>
      obtain ⟨hfirst, hrest⟩ := List.nodup_cons.mp hnodup
      rcases List.mem_cons.mp h with rfl | h
      · refine (lookup_update_of_notMem hfirst _).trans ?_
        rw [lookup_set, if_pos rfl]
      · exact ih hrest h _

lemma mem_keys_set {key name : String} {value : Json} {fields : Fields} :
    name ∈ (set key value fields).map Prod.fst ↔
      name = key ∨ name ∈ fields.map Prod.fst := by
  induction fields with
  | nil => simp [set]
  | cons field fields ih =>
      by_cases h : field.1 = key
      · simp [set, h]
      · rw [set, if_neg h, List.map_cons, List.mem_cons, ih, List.map_cons, List.mem_cons]
        exact or_left_comm

lemma nodup_set {key : String} {value : Json} {fields : Fields}
    (h : (fields.map Prod.fst).Nodup) : ((set key value fields).map Prod.fst).Nodup := by
  induction fields with
  | nil => simp [set]
  | cons field fields ih =>
      obtain ⟨hfirst, hrest⟩ := List.nodup_cons.mp h
      by_cases hkey : field.1 = key
      · rw [set, if_pos hkey]
        exact hkey ▸ h
      · rw [set, if_neg hkey]
        refine List.nodup_cons.mpr ⟨fun hmem ↦ ?_, ih hrest⟩
        exact (mem_keys_set.mp hmem).elim hkey hfirst

lemma mem_set {key : String} {value : Json} {fields : Fields} {field : String × Json}
    (h : field ∈ set key value fields) : field = (key, value) ∨ field ∈ fields := by
  induction fields with
  | nil => exact .inl (List.mem_singleton.mp h)
  | cons first fields ih =>
      by_cases hkey : first.1 = key
      · rw [set, if_pos hkey] at h
        exact (List.mem_cons.mp h).imp_right (List.mem_cons_of_mem _)
      · rw [set, if_neg hkey] at h
        rcases List.mem_cons.mp h with rfl | h
        · exact .inr List.mem_cons_self
        · exact (ih h).imp_right (List.mem_cons_of_mem _)

lemma lookup_of_mem {α : Type} {l : List (String × α)} (h : (l.map Prod.fst).Nodup)
    {a : String × α} (ha : a ∈ l) : l.lookup a.1 = some a.2 := by
  induction l with
  | nil => cases ha
  | cons b l ih =>
      obtain ⟨hfirst, hrest⟩ := List.nodup_cons.mp h
      rcases List.mem_cons.mp ha with rfl | hmem
      · exact List.lookup_cons_self
      · have hne : (a.1 == b.1) = false :=
          beq_false_of_ne fun e ↦ hfirst (e ▸ List.mem_map_of_mem hmem)
        obtain ⟨key, v⟩ := b
        have hskip : ((key, v) :: l).lookup a.1 = l.lookup a.1 := by rw [List.lookup_cons, hne]
        rw [hskip]
        exact ih hrest hmem

lemma mem_of_lookup {fields : Fields} {key : String} {v : Json}
    (h : fields.lookup key = some v) : (key, v) ∈ fields := by
  induction fields with
  | nil => cases h
  | cons field fields ih =>
      rw [lookup_cons] at h
      split at h
      · next hkey =>
          obtain rfl := Option.some.inj h
          exact hkey ▸ List.mem_cons_self
      · exact List.mem_cons_of_mem _ (ih h)

lemma has_eq_false {fields : Fields} {key : String} :
    has fields key = false ↔ fields.lookup key = none := by
  simp [has]

/-- Values that differ only in the order of the keys of their objects, which are
distinct. -/
inductive Alike : Json → Json → Prop
  | null : Alike null null
  | bool (b : Bool) : Alike (bool b) (bool b)
  | int (n : ℤ) : Alike (int n) (int n)
  | float (x : ℚ) : Alike (float x) (float x)
  | infinity (b : Bool) : Alike (infinity b) (infinity b)
  | nan : Alike nan nan
  | str (s : String) : Alike (str s) (str s)
  | arr {l m : List Json} (h : List.Forall₂ Alike l m) : Alike (arr l) (arr m)
  | obj {fields others : Fields} (hfields : (fields.map Prod.fst).Nodup)
      (hothers : (others.map Prod.fst).Nodup) (hkeys : ∀ key, has fields key = has others key)
      (hvalues : ∀ key v w, fields.lookup key = some v → others.lookup key = some w → Alike v w) :
      Alike (obj fields) (obj others)

lemma Alike.lookup {fields others : Fields} (h : Alike (.obj fields) (.obj others))
    (key : String) : Option.Rel Alike (fields.lookup key) (others.lookup key) := by
  cases h with
  | obj _ _ hkeys hvalues =>
      have hkey := hkeys key
      unfold has at hkey
      cases hv : fields.lookup key with
      | none =>
          rw [hv, Option.isSome_none, eq_comm, Option.isSome_eq_false_iff,
            Option.isNone_iff_eq_none] at hkey
          rw [hkey]
          exact .none
      | some v =>
          rw [hv, Option.isSome_some, eq_comm, Option.isSome_iff_exists] at hkey
          obtain ⟨w, hw⟩ := hkey
          rw [hw]
          exact .some (hvalues key v w hv hw)

lemma Alike.of_lookup {fields others : Fields} (hfields : (fields.map Prod.fst).Nodup)
    (hothers : (others.map Prod.fst).Nodup)
    (h : ∀ key, Option.Rel Alike (fields.lookup key) (others.lookup key)) :
    Alike (.obj fields) (.obj others) := by
  refine .obj hfields hothers (fun key ↦ ?_) fun key v w hv hw ↦ ?_
  · have hkey := h key
    unfold has
    generalize fields.lookup key = a at hkey ⊢
    generalize others.lookup key = b at hkey ⊢
    cases hkey with
    | none => rfl
    | some _ => rfl
  · have hkey := h key
    rw [hv, hw] at hkey
    cases hkey with
    | some hvw => exact hvw

lemma Alike.has {fields others : Fields} (h : Alike (.obj fields) (.obj others)) (key : String) :
    has fields key = has others key := by
  cases h with
  | obj _ _ hkeys _ => exact hkeys key

/-- Every field of the one object is alike in the other. -/
lemma Alike.fields {fields others : Fields} (h : Alike (.obj fields) (.obj others)) :
    (∀ field ∈ fields, ∃ w, (field.1, w) ∈ others ∧ Alike field.2 w) ∧
      ∀ other ∈ others, ∃ v, (other.1, v) ∈ fields ∧ Alike v other.2 := by
  have hlookup := h.lookup
  cases h with
  | obj hfields hothers _ _ =>
      refine ⟨fun field hfield ↦ ?_, fun other hother ↦ ?_⟩
      · have hrel := hlookup field.1
        rw [lookup_of_mem hfields hfield] at hrel
        generalize hw : others.lookup field.1 = b at hrel
        cases hrel with
        | some halike => exact ⟨_, mem_of_lookup hw, halike⟩
      · have hrel := hlookup other.1
        rw [lookup_of_mem hothers hother] at hrel
        generalize hv : fields.lookup other.1 = a at hrel
        cases hrel with
        | some halike => exact ⟨_, mem_of_lookup hv, halike⟩

mutual

/-- Equality of the decoded values, types included. -/
def same : Json → Json → Bool
  | null, null => true
  | bool b, bool c => b == c
  | int n, int m => n == m
  | float x, float y => x == y
  | infinity b, infinity c => b == c
  | nan, nan => true
  | str s, str t => s == t
  | arr l, arr m => sameList l m
  | obj fields, obj others => sameFields fields others
  | _, _ => false

def sameList : List Json → List Json → Bool
  | [], [] => true
  | v :: l, w :: m => same v w && sameList l m
  | _, _ => false

def sameFields : List (String × Json) → List (String × Json) → Bool
  | [], [] => true
  | (key, v) :: fields, (key', w) :: others => key == key' && same v w && sameFields fields others
  | _, _ => false

end

mutual

theorem same_iff : ∀ v w : Json, same v w = true ↔ v = w
  | arr l, w => by
      cases w with
      | arr m => simpa [same] using sameList_iff l m
      | _ => simp [same]
  | obj fields, w => by
      cases w with
      | obj others => simpa [same] using sameFields_iff fields others
      | _ => simp [same]
  | null, w => by cases w <;> simp [same]
  | bool _, w => by cases w <;> simp [same]
  | int _, w => by cases w <;> simp [same]
  | float _, w => by cases w <;> simp [same]
  | infinity _, w => by cases w <;> simp [same]
  | nan, w => by cases w <;> simp [same]
  | str _, w => by cases w <;> simp [same]

theorem sameList_iff : ∀ l m : List Json, sameList l m = true ↔ l = m
  | [], m => by cases m <;> simp [sameList]
  | v :: l, [] => by simp [sameList]
  | v :: l, w :: m => by
      simp [sameList, same_iff v w, sameList_iff l m]

theorem sameFields_iff : ∀ fields others : List (String × Json),
    sameFields fields others = true ↔ fields = others
  | [], others => by cases others <;> simp [sameFields]
  | (key, v) :: fields, [] => by simp [sameFields]
  | (key, v) :: fields, (key', w) :: others => by
      simp [sameFields, same_iff v w, sameFields_iff fields others, and_assoc]

end

instance : DecidableEq Json := fun v w ↦ decidable_of_iff _ (same_iff v w)

example : eq (obj [("a", int 1), ("b", null)]) (obj [("b", null), ("a", float 1)]) = true := by
  decide

end Json

/-- `text.strip()`, `text.lower()`, `int(text)` and `text.isdigit()`, which rest on the
Unicode tables; nothing is assumed of them. -/
structure Text where
  strip : String → String
  lower : String → String
  int : String → Option ℤ
  isdigit : String → Bool
