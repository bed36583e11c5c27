import StProxy.Llm.Base

/-!
# Adapters with one flag

What `PrismBackend` and `StrataBackend` share: the attribute `_uncertain`, the
requests of `_json`, and the rule that an unconfirmed mutation is the last one.
-/

namespace StProxy.Llm

open Async

/-- The attribute that changes. -/
structure Lifecycle where
  uncertain : Bool
  deriving DecidableEq, Repr

/-- The awaits of an adapter with the methods `Op`.  `enter` is none: it marks in
the record where the call of a method begins. -/
inductive Call (Op : Type)
  | enter (op : Op)
  | get (path : String)
  | post (path model : String)
  | sleep
  | polls (deadline : Deadline)

def Answer {Op : Type} : Call Op → Type
  | .enter _ => Unit
  | .get _ | .post _ _ => Except Raised Response
  | .sleep => Except Raised Unit
  | .polls _ => ℕ

abbrev Method (Op α : Type) : Type := Async Lifecycle (Call Op) Answer Raised α

abbrev Log (Op : Type) : Type := Exchanges (Call Op) Answer

variable {Op : Type} {α : Type}

/-- Raise a `backend_error`. -/
def failure (label action detail : String) : Raised :=
  .exn (backendError label action (some detail))

/-- The body of `_json`. -/
def readJson (label path : String) : Response → Except Raised Json
  | ⟨status, payload⟩ =>
      if status ≠ 200 then .error (failure label path s!"HTTP {status}") else .ok payload

def getJson (label path : String) : Method Op Json :=
  translating label path (within .request do
    let response ← result (← await (Call.get path))
    result (readJson label path response))

def postJson (label path model : String) : Method Op Json :=
  translating label path (within .request do
    let response ← result (← await (Call.post path model))
    result (readJson label path response))

/-- `_require_certain`. -/
def requireCertain (label detail : String) : Method Op Unit := do
  let s ← self
  if s.uncertain then raise (failure label "lifecycle confirmation" detail) else pure ()

/-! ## Mutations in the record -/

abbrev Exchange (Op : Type) : Type := (c : Call Op) × Answer c

/-- The path and the model of a POST. -/
def mutation : Exchange Op → Option (String × String)
  | ⟨.post path model, _⟩ => some (path, model)
  | _ => none

/-- The POSTs that were sent, newest first. -/
def posts (log : Log Op) : List (String × String) := log.filterMap mutation

/-- The POSTs that no later reply confirmed. -/
def openPosts (confirms : Exchange Op → String × String → Bool) :
    Log Op → List (String × String)
  | [] => []
  | e :: log =>
      (mutation e).toList ++ (openPosts confirms log).filter fun p ↦ !confirms e p

/-- The exchanges of the call that began last, newest first. -/
def callLog : Log Op → Log Op
  | [] => []
  | ⟨.enter _, _⟩ :: _ => []
  | e :: log => e :: callLog log

/-- A POST is in flight. -/
def IsPost : Call Op → Prop
  | .post _ _ => True
  | _ => False

section
variable {confirms : Exchange Op → String × String → Bool} {log : Log Op} {e : Exchange Op}

theorem openPosts_cons (h : mutation e = none) :
    openPosts confirms (e :: log) = (openPosts confirms log).filter fun p ↦ !confirms e p := by
  simp [openPosts, h]

theorem mem_openPosts_cons (h : mutation e = none) {p : String × String}
    (hp : p ∈ openPosts confirms (e :: log)) : p ∈ openPosts confirms log := by
  rw [openPosts_cons h] at hp
  exact (List.mem_filter.mp hp).1

/-- A reply that confirms the one POST that is open. -/
theorem openPosts_eq_nil (h : mutation e = none)
    (hopen : ∀ p ∈ openPosts confirms log, confirms e p = true) :
    openPosts confirms (e :: log) = [] := by
  rw [openPosts_cons h, List.filter_eq_nil_iff]
  intro p hp
  simp [hopen p hp]

end

/-! ## Rules -/

section
variable {K : Contract (Log Op) (Call Op) Answer} {ok : (c : Call Op) → Answer c → Log Op → Prop}
  {D : Call Op → Lifecycle → Log Op → Prop} {s : Lifecycle} {log : Log Op}

/-- The result `r` of `_json` was read from the answer `a`. -/
def Reads (label path : String) (a : Except Raised Response) (r : Except Raised Json) : Prop :=
  ∀ payload, r = .ok payload → ∃ response, a = .ok response ∧
    readJson label path response = .ok payload

theorem wp_getJson {label path : String} {Q : Except Raised Json → Lifecycle → Log Op → Prop}
    (hd : D (.get path) s log)
    (h : ∀ (a : Except Raised Response) r, ok (.get path) a log → Reads label path a r →
      Q r s (⟨.get path, a⟩ :: log)) :
    (getJson label path : Method Op Json).wp (recording ok) D Q s log := by
  refine wp_mono (Q := fun r s' log' ↦ ∃ a : Except Raised Response, ok (.get path) a log ∧
    s' = s ∧ log' = ⟨.get path, a⟩ :: log ∧ Reads label path a r) ?_ ?_
  · refine wp_translating (wp_within (wp_bind (wp_record hd fun a ha ↦
      wp_bind (wp_result ?_))) ?_) ?_
    · cases a with
      | error exn => exact ⟨_, ha, rfl, rfl, nofun⟩
      | ok response => exact wp_result ⟨_, ha, rfl, rfl, fun payload hr ↦ ⟨response, rfl, hr⟩⟩
    · rintro exn exn' _ _ ⟨a, ha, rfl, rfl, -⟩
      exact ⟨a, ha, rfl, rfl, nofun⟩
    · rintro exn exn' _ _ ⟨a, ha, rfl, rfl, -⟩
      exact ⟨a, ha, rfl, rfl, nofun⟩
  · rintro r _ _ ⟨a, ha, rfl, rfl, hr⟩
    exact h a r ha hr

theorem wp_postJson {label path model : String}
    {Q : Except Raised Json → Lifecycle → Log Op → Prop} (hd : D (.post path model) s log)
    (h : ∀ (a : Except Raised Response) r, Q r s (⟨.post path model, a⟩ :: log)) :
    (postJson label path model : Method Op Json).wp (recording ok) D Q s log := by
  refine wp_mono (Q := fun _ s' log' ↦ s' = s ∧ ∃ a : Except Raised Response,
    log' = ⟨.post path model, a⟩ :: log) ?_ ?_
  · refine wp_translating (wp_within (wp_bind (wp_record hd fun a _ ↦
      wp_bind (wp_result ?_))) ?_) ?_
    · cases a with
      | error exn => exact ⟨rfl, _, rfl⟩
      | ok response => exact wp_result ⟨rfl, _, rfl⟩
    · exact fun _ _ _ _ ↦ id
    · exact fun _ _ _ _ ↦ id
  · rintro r _ _ ⟨rfl, a, rfl⟩
    exact h a r

theorem wp_requireCertain {label detail : String}
    {Q : Except Raised Unit → Lifecycle → Log Op → Prop}
    (hcertain : s.uncertain = false → Q (.ok ()) s log)
    (huncertain : s.uncertain = true → ∀ e, Q (.error e) s log) :
    (requireCertain label detail : Method Op Unit).wp K D Q s log := by
  refine wp_bind_self ?_
  split_ifs with hs
  · exact wp_raise (huncertain hs _)
  · exact wp_pure (hcertain (by simpa using hs))

end

/-! ## Failing closed -/

section
variable {O : AsyncObject Lifecycle (Call Op) Answer Raised Op}
  {ok : (c : Call Op) → Answer c → Log Op → Prop}
  {confirms : Exchange Op → String × String → Bool} {s : O.State (Log Op)}

/-- The adapter before its first call. -/
def Fresh (s : Lifecycle) (log : Log Op) : Prop := s = ⟨false⟩ ∧ log = []

/-- A POST that is left unconfirmed is the last one, and every later call raises. -/
structure Closed (O : AsyncObject Lifecycle (Call Op) Answer Raised Op)
    (ok : (c : Call Op) → Answer c → Log Op → Prop)
    (confirms : Exchange Op → String × String → Bool) (s : O.State (Log Op)) : Prop where
  returned : ∀ op a, s.last = some ⟨op, .ok a⟩ → openPosts confirms s.world = []
  sent : ∀ op c k, s.task = some ⟨op, c, k⟩ → IsPost c → openPosts confirms s.world = []
  stuck : s.task = none → openPosts confirms s.world ≠ [] →
    ∀ s', ((O.serial (recording ok) Fresh).startingAt s).ReachableVia
      (AsyncObject.Meets (recording ok)) s' →
      posts s'.world = posts s.world ∧ ∀ op r, s'.last = some ⟨op, r⟩ → ∃ e, r = .error e

/-- The flag is up while a POST is unconfirmed. -/
def Certain (confirms : Exchange Op → String × String → Bool) (s : Lifecycle) (log : Log Op) :
    Prop :=
  s.uncertain = false → openPosts confirms log = []

/-- A POST is sent when none is unconfirmed. -/
def Sends (confirms : Exchange Op → String × String → Bool) (c : Call Op) (_ : Lifecycle)
    (log : Log Op) : Prop :=
  IsPost c → openPosts confirms log = []

/-- What a method keeps, and what holds when it returns. -/
def Keeps (confirms : Exchange Op → String × String → Bool) (P : α → Log Op → Prop)
    (r : Except Raised α) (s : Lifecycle) (log : Log Op) : Prop :=
  match r with
  | .ok a => openPosts confirms log = [] ∧ P a log
  | .error _ => Certain confirms s log

theorem Keeps.certain {P : α → Log Op → Prop} {r : Except Raised α} {s : Lifecycle}
    {log : Log Op} (h : Keeps confirms P r s log) : Certain confirms s log := by
  cases r with
  | error e => exact h
  | ok a => exact fun _ ↦ h.1

/-- Code after `_require_certain`. -/
theorem wp_certain {P : α → Log Op → Prop} {label detail : String} {f : Unit → Method Op α}
    {s : Lifecycle} {log : Log Op} (h : Certain confirms s log)
    (hf : openPosts confirms log = [] →
      (f ()).wp (recording ok) (Sends confirms) (Keeps confirms P) s log) :
    (requireCertain label detail >>= f).wp (recording ok) (Sends confirms) (Keeps confirms P)
      s log :=
  wp_bind (wp_requireCertain (fun hs ↦ hf (h hs)) fun _ _ ↦ h)

theorem openPosts_eq_nil_cons {e : Exchange Op} {log : Log Op} (he : mutation e = none)
    (h : openPosts confirms log = []) : openPosts confirms (e :: log) = [] := by
  rw [openPosts_cons he, h]
  rfl

/-- The code raises, and sends nothing. -/
def Refuses (ok : (c : Call Op) → Answer c → Log Op → Prop) (p : Method Op α) : Prop :=
  ∀ s log, s.uncertain = true →
    p.wp (recording ok) (fun c _ log' ↦ ¬IsPost c ∧ posts log' = posts log)
      (fun r s' log' ↦ s' = s ∧ posts log' = posts log ∧ ∃ e, r = .error e) s log

/-- Every method refuses while the flag is up. -/
def refusingSpec (hrefuses : ∀ op, Refuses ok (O.run op)) (sent : List (String × String)) :
    O.Spec (recording ok) where
  pre _ := True
  inv s log := s.uncertain = true ∧ posts log = sent
  during c _ log := ¬IsPost c ∧ posts log = sent
  post _ r _ _ := ∃ e, r = .error e
  inv_drift h hw := hw ▸ h
  post_drift _ h _ := h
  run op s log _ h := by
    obtain ⟨hs, rfl⟩ := h
    refine wp_mono (hrefuses op s log hs) ?_
    rintro r _ log' ⟨rfl, hposts, herror⟩
    exact ⟨⟨hs, hposts⟩, herror⟩

theorem closed_of_holds (S : O.Spec (recording ok))
    (hinv : ∀ s log, S.inv s log → Certain confirms s log)
    (hpost : ∀ op a s log, S.post op (.ok a) s log → openPosts confirms log = [])
    (hduring : ∀ c s log, S.during c s log → IsPost c → openPosts confirms log = [])
    (hrefuses : ∀ op, Refuses ok (O.run op)) (h : S.Holds s) : Closed O ok confirms s where
  returned op a hlast := hpost op a _ _ (h.post op _ hlast).2
  sent op c k htask hc := hduring c _ _ (h.during htask) hc
  stuck htask hopen s' hs' := by
    have huncertain : s.obj.uncertain = true := by
      by_contra hcertain
      exact hopen (hinv _ _ (h.idle htask) (by simpa using hcertain))
    have hstuck : (refusingSpec hrefuses (posts s.world)).Holds s := by
      refine ⟨fun _ ↦ ⟨huncertain, rfl⟩, fun op r hlast ↦ ⟨⟨huncertain, rfl⟩, ?_⟩, by simp [htask]⟩
      cases r with
      | error e => exact ⟨e, rfl⟩
      | ok a => exact absurd (hpost op a _ _ (h.post op _ hlast).2) hopen
    have hlater := hstuck.later (hs'.mono fun _ _ hmeets ↦ ⟨hmeets, fun _ _ ↦ trivial⟩)
    refine ⟨?_, fun op r hlast ↦ (hlater.post op r hlast).2⟩
    cases htask' : s'.task with
    | none => exact (hlater.idle htask').2
    | some task => exact (hlater.during htask').2

/-- The code raises before its first request. -/
def RefusesAtOnce (ok : (c : Call Op) → Answer c → Log Op → Prop) (p : Method Op α) : Prop :=
  ∀ (D : Call Op → Lifecycle → Log Op → Prop) s log, s.uncertain = true →
    p.wp (recording ok) D (fun r s' log' ↦ s' = s ∧ log' = log ∧ ∃ e, r = .error e) s log

theorem refuses_enter {op : Op} {p : Method Op α} (h : RefusesAtOnce ok p) :
    Refuses ok (do Async.await (Call.enter op); p) := by
  intro s log hs
  refine wp_bind (wp_record ⟨id, rfl⟩ fun r _ ↦ wp_mono (h _ s _ hs) ?_)
  rintro r _ _ ⟨rfl, rfl, herror⟩
  exact ⟨rfl, rfl, herror⟩

theorem refuses_requireCertain {label detail : String} {f : Unit → Method Op α} :
    RefusesAtOnce ok (requireCertain label detail >>= f) :=
  fun _ _ _ hs ↦ wp_bind (wp_requireCertain (by simp [hs]) fun _ e ↦ ⟨rfl, rfl, e, rfl⟩)

theorem RefusesAtOnce.bind {β : Type} {p : Method Op β} {f : β → Method Op α}
    (h : RefusesAtOnce ok p) : RefusesAtOnce ok (p >>= f) := by
  intro D s log hs
  refine wp_bind (wp_mono (h D s log hs) ?_)
  rintro _ _ _ ⟨rfl, rfl, e, rfl⟩
  exact ⟨rfl, rfl, e, rfl⟩

theorem refuses_result {β : Type} {r : Except Raised β} {f : β → Method Op α}
    (h : ∀ b, RefusesAtOnce ok (f b)) : RefusesAtOnce ok (result r >>= f) := by
  intro D s log hs
  refine wp_bind (wp_result ?_)
  cases r with
  | error e => exact ⟨rfl, rfl, e, rfl⟩
  | ok b => exact h b D s log hs

end

end StProxy.Llm
