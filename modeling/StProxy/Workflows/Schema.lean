import StProxy.Workflows.Values

/-!
# The published schema

`describe` publishes a part of each parameter, with JSON Schema's words.  What they say
of a value is what `_check_value` checks.
-/

namespace StProxy.Workflows

open Json Checked

/-- The published part of a parameter. -/
def schemaOf (spec : Fields) : Fields := spec.filter fun field ↦ schemaKeys.contains field.1

/-- `properties` of `describe`. -/
def Workflow.properties (w : Workflow) : Fields :=
  w.parameters.map fun parameter ↦ (parameter.1, .obj (schemaOf parameter.2.fields))

/-- `required` of `describe`. -/
def Workflow.required (w : Workflow) : List String :=
  (w.parameters.filter fun parameter ↦ flag parameter.2.fields "required").map Prod.fst

/-- `parameters` of `describe`. -/
def Workflow.schema (w : Workflow) : Json :=
  .obj [("type", .str "object"), ("properties", .obj w.properties),
    ("additionalProperties", .bool false), ("required", .arr (w.required.map .str))]

/-! ## What a schema says -/

/-- The value is a finite number, and no boolean. -/
inductive IsNumber : Json → ℚ → Prop
  | int (n : ℤ) : IsNumber (.int n) n
  | float (x : ℚ) : IsNumber (.float x) x

/-- The value has the type, with the strict types of Python. -/
inductive OfType : Json → Json → Prop
  | string (s : String) : OfType (.str "string") (.str s)
  | integer (n : ℤ) : OfType (.str "integer") (.int n)
  | number {v : Json} {x : ℚ} (h : IsNumber v x) : OfType (.str "number") v
  | boolean (b : Bool) : OfType (.str "boolean") (.bool b)

/-- The value satisfies the schema of one property.  A string without `maxLength` has at most
65536 characters. -/
structure Conforms (schema : Fields) (v : Json) : Prop where
  type : OfType (Json.get schema "type") v
  enum : ∀ choices, schema.lookup "enum" = some (.arr choices) → v ∈ choices
  minimum : ∀ x low, IsNumber v x → (Json.get schema "minimum").number = some low → low ≤ x
  maximum : ∀ x high, IsNumber v x → (Json.get schema "maximum").number = some high → x ≤ high
  multipleOf : ∀ n step, v = .int n → Json.get schema "multipleOf" = .int step → step ∣ n
  minLength : ∀ s n, v = .str s → schema.lookup "minLength" = some (.int n) → n ≤ s.length
  maxLength : ∀ s n, v = .str s → schema.lookup "maxLength" = some (.int n) → s.length ≤ n
  implicitLength : ∀ s, v = .str s → (∀ n, schema.lookup "maxLength" ≠ some (.int n)) →
    s.length ≤ 65536

/-- The object satisfies the schema. -/
def Satisfies (schema : Json) (given : Fields) : Prop :=
  ∃ fields properties required, schema = .obj fields ∧
    Json.get fields "properties" = .obj properties ∧ Json.get fields "required" = .arr required ∧
    (∀ field ∈ given, field.1 ∈ properties.map Prod.fst) ∧
    (∀ name, .str name ∈ required → Json.has given name = true) ∧
    ∀ name v property, given.lookup name = some v →
      properties.lookup name = some (.obj property) → Conforms property v

section

variable {spec : Fields} {v : Json}

lemma lookup_schemaOf {key : String} (h : key ∈ schemaKeys) :
    (schemaOf spec).lookup key = spec.lookup key := by
  induction spec with
  | nil => rfl
  | cons field spec ih =>
      unfold schemaOf
      by_cases hfield : field.1 ∈ schemaKeys
      · rw [List.filter_cons_of_pos (by simpa using hfield), lookup_cons, lookup_cons]
        split
        · rfl
        · exact ih
      · rw [List.filter_cons_of_neg (by simpa using hfield), lookup_cons,
          if_neg fun e : field.1 = key ↦ hfield (e ▸ h)]
        exact ih

lemma sameChoice_iff {schema : Json} (h : OfType schema v) {choice : Json} :
    sameChoice v choice = true ↔ v = choice := by
  cases h with
  | number hnumber => cases hnumber <;> cases choice <;> simp [sameChoice]
  | _ => cases choice <;> simp [sameChoice]

lemma checkChoice_eq_ok {schema : Json} (h : OfType schema v) :
    checkChoice spec v = .ok () ↔
      ∀ choices, spec.lookup "enum" = some (.arr choices) → v ∈ choices := by
  unfold checkChoice
  split
  · next choices hchoices =>
      rw [check_eq_ok, List.any_eq_true]
      simp only [sameChoice_iff h, hchoices, Option.some.injEq, Json.arr.injEq, forall_eq']
      exact ⟨fun ⟨choice, hmem, heq⟩ ↦ heq ▸ hmem, fun hmem ↦ ⟨v, hmem, rfl⟩⟩
  · next hne => exact ⟨fun _ choices hchoices ↦ absurd hchoices (hne choices), fun _ ↦ rfl⟩

lemma bind_unit_eq_ok {ε : Type} {x y : Except ε Unit} :
    (x >>= fun _ ↦ y) = .ok () ↔ x = .ok () ∧ y = .ok () := by
  cases x with
  | error e => exact ⟨nofun, nofun⟩
  | ok u => exact ⟨fun h ↦ ⟨rfl, h⟩, And.right⟩

lemma checkNumber_eq_ok {x : ℚ} :
    checkNumber spec v x = .ok () ↔
      (∀ low, (Json.get spec "minimum").number = some low → low ≤ x) ∧
      (∀ high, (Json.get spec "maximum").number = some high → x ≤ high) ∧
      ∀ n step, v = .int n → Json.get spec "multipleOf" = .int step → step ∣ n := by
  unfold checkNumber
  rw [bind_unit_eq_ok, bind_unit_eq_ok, check_eq_ok, check_eq_ok]
  simp only [Option.mem_def]
  refine and_congr_right fun _ ↦ and_congr_right fun _ ↦ ?_
  split
  · next n step hstep =>
      rw [check_eq_ok, ← Int.dvd_iff_emod_eq_zero]
      refine ⟨?_, fun h ↦ h n step rfl hstep⟩
      rintro h n' step' ⟨⟩ hstep'
      cases hstep.symm.trans hstep'
      exact h
  · next hne => exact ⟨fun _ n step hn hstep ↦ absurd hstep (hne n step hn), fun _ ↦ rfl⟩

lemma IsNumber.unique {x y : ℚ} (hx : IsNumber v x) (hy : IsNumber v y) : x = y := by
  cases hx <;> cases hy <;> rfl

/-- A number is finite where its bounds are checked. -/
lemma ofType_of_hasType {type : Json} (h : hasType type v = true)
    (hbounds : checkBounds spec v = .ok ()) : OfType type v := by
  unfold hasType at h
  split at h
  · exact .string _
  · exact .integer _
  · exact .number (.int _)
  · exact .number (.float _)
  · cases hbounds
  · cases hbounds
  · exact .boolean _
  · cases h

lemma OfType.hasType {type : Json} (h : OfType type v) : hasType type v = true := by
  cases h with
  | number h => cases h <;> rfl
  | _ => rfl

/-- The limits of a number. -/
def WithinLimits (spec : Fields) (v : Json) : Prop :=
  (∀ x low, IsNumber v x → (Json.get spec "minimum").number = some low → low ≤ x) ∧
    (∀ x high, IsNumber v x → (Json.get spec "maximum").number = some high → x ≤ high) ∧
    ∀ n step, v = .int n → Json.get spec "multipleOf" = .int step → step ∣ n

/-- The limits of the length of a string. -/
def WithinLengths (spec : Fields) (v : Json) : Prop :=
  ∀ s, v = .str s → (∀ n, spec.lookup "minLength" = some (.int n) → n ≤ s.length) ∧
    (∀ n, spec.lookup "maxLength" = some (.int n) → s.length ≤ n) ∧
    ((∀ n, spec.lookup "maxLength" ≠ some (.int n)) → s.length ≤ 65536)

lemma checkNumber_iff_withinLimits {x : ℚ} (h : IsNumber v x) :
    checkNumber spec v x = .ok () ↔ WithinLimits spec v := by
  rw [checkNumber_eq_ok, WithinLimits]
  refine and_congr ?_ (and_congr_left' ?_)
  · exact ⟨fun hlow y low hy hmin ↦ h.unique hy ▸ hlow low hmin, fun hlow low ↦ hlow x low h⟩
  · exact ⟨fun hhigh y high hy hmax ↦ h.unique hy ▸ hhigh high hmax,
      fun hhigh high ↦ hhigh x high h⟩

lemma checkLengths_iff {s : String} :
    (lengthOf spec "minLength" 0 ≤ s.length ∧ s.length ≤ lengthOf spec "maxLength" 65536) ↔
      WithinLengths spec (.str s) := by
  have hmin : lengthOf spec "minLength" 0 ≤ s.length ↔
      ∀ n, spec.lookup "minLength" = some (.int n) → n ≤ s.length := by
    unfold lengthOf
    split
    · next n hn => simp [hn]
    · next hne => exact ⟨fun _ n hn ↦ absurd hn (hne n), fun _ ↦ by simp⟩
  have hmax : s.length ≤ lengthOf spec "maxLength" 65536 ↔
      (∀ n, spec.lookup "maxLength" = some (.int n) → s.length ≤ n) ∧
        ((∀ n, spec.lookup "maxLength" ≠ some (.int n)) → s.length ≤ 65536) := by
    unfold lengthOf
    split
    · next n hn => simp [hn]
    · next hne =>
        exact ⟨fun h ↦ ⟨fun n hn ↦ absurd hn (hne n), fun _ ↦ by omega⟩, fun h ↦ by
          have := h.2 hne
          omega⟩
  rw [hmin, hmax, WithinLengths]
  simp only [Json.str.injEq, forall_eq']

lemma checkBounds_eq_ok {type : Json} (h : OfType type v) :
    checkBounds spec v = .ok () ↔ WithinLimits spec v ∧ WithinLengths spec v := by
  have hlengths (hne : ∀ s, v ≠ .str s) : WithinLengths spec v :=
    fun s hs ↦ absurd hs (hne s)
  have hlimits (hne : ∀ x, ¬IsNumber v x) : WithinLimits spec v :=
    ⟨fun x _ hx ↦ absurd hx (hne x), fun x _ hx ↦ absurd hx (hne x),
      fun n _ hn ↦ absurd (hn ▸ .int n) (hne n)⟩
  have hnumber {x : ℚ} (hx : IsNumber v x) :
      checkBounds spec v = .ok () ↔ WithinLimits spec v ∧ WithinLengths spec v := by
    rw [and_iff_left (hlengths (by rintro s rfl; cases hx)), ← checkNumber_iff_withinLimits hx]
    cases hx <;> rfl
  cases h with
  | string s =>
      rw [and_iff_right (hlimits nofun), ← checkLengths_iff]
      exact check_eq_ok
  | integer n => exact hnumber (.int n)
  | number h => exact hnumber h
  | boolean b => exact ⟨fun _ ↦ ⟨hlimits nofun, hlengths nofun⟩, fun _ ↦ rfl⟩

/-- A schema says nothing but what the published keys say. -/
lemma Conforms.congr {schema schema' : Fields} (h : Conforms schema v)
    (heq : ∀ key ∈ schemaKeys, schema.lookup key = schema'.lookup key) : Conforms schema' v := by
  have hget (key : String) (hkey : key ∈ schemaKeys) :
      Json.get schema key = Json.get schema' key := by
    rw [Json.get, heq key hkey, Json.get]
  refine {
    type := hget "type" (by decide) ▸ h.type
    enum := heq "enum" (by decide) ▸ h.enum
    minimum := hget "minimum" (by decide) ▸ h.minimum
    maximum := hget "maximum" (by decide) ▸ h.maximum
    multipleOf := hget "multipleOf" (by decide) ▸ h.multipleOf
    minLength := heq "minLength" (by decide) ▸ h.minLength
    maxLength := heq "maxLength" (by decide) ▸ h.maxLength
    implicitLength := heq "maxLength" (by decide) ▸ h.implicitLength }

lemma conforms_schemaOf : Conforms (schemaOf spec) v ↔ Conforms spec v :=
  ⟨fun h ↦ h.congr fun _ ↦ lookup_schemaOf,
    fun h ↦ h.congr fun _ hkey ↦ (lookup_schemaOf hkey).symm⟩

lemma conforms_iff : Conforms spec v ↔ OfType (Json.get spec "type") v ∧
    (WithinLimits spec v ∧ WithinLengths spec v) ∧
      ∀ choices, spec.lookup "enum" = some (.arr choices) → v ∈ choices := by
  constructor
  · intro h
    exact ⟨h.type, ⟨⟨h.minimum, h.maximum, h.multipleOf⟩, fun s hs ↦
      ⟨fun n ↦ h.minLength s n hs, fun n ↦ h.maxLength s n hs, h.implicitLength s hs⟩⟩, h.enum⟩
  · rintro ⟨htype, ⟨⟨hmin, hmax, hstep⟩, hlengths⟩, henum⟩
    exact ⟨htype, henum, hmin, hmax, hstep, fun s n hs ↦ (hlengths s hs).1 n,
      fun s n hs ↦ (hlengths s hs).2.1 n, fun s hs ↦ (hlengths s hs).2.2⟩

/-- `_check_value` is what the published part of the parameter says. -/
theorem checkValue_eq_ok : checkValue spec v = .ok () ↔ Conforms (schemaOf spec) v := by
  rw [conforms_schemaOf, conforms_iff]
  unfold checkValue
  rw [bind_unit_eq_ok, bind_unit_eq_ok, check_eq_ok]
  constructor
  · rintro ⟨htype, hbounds, hchoice⟩
    have h := ofType_of_hasType htype hbounds
    exact ⟨h, (checkBounds_eq_ok h).mp hbounds, (checkChoice_eq_ok h).mp hchoice⟩
  · rintro ⟨h, hbounds, hchoice⟩
    exact ⟨h.hasType, (checkBounds_eq_ok h).mpr hbounds, (checkChoice_eq_ok h).mpr hchoice⟩

end

end StProxy.Workflows
