import StProxy.Tabby.LoadStream

/-!
# TabbyAPI fails closed

The world of the adapter is the list of its exchanges with the server, newest
first.  A POST is sent when the adapter makes the request, whatever becomes of it.
-/

namespace StProxy.Tabby

open Async Llm

/-! ## What the server said -/

/-- The event stream of a load ended cleanly with an error: the load was accepted, and
its decoded lines report that it failed. -/
def EndedWithError (cfg : Settings) (r : LoadResponse) : Prop :=
  r.status = 200 ∧ r.contentType = "text/event-stream" ∧
    ∃ lines, r.lines = lines.map some ∧ ReportsFailed cfg lines r.broken

/-- A request that changes what is loaded, a load with its outcome. -/
inductive Post
  | unload
  | load (expected : TabbyApiRestorePoint) (outcome : Except Raised LoadResponse)

def Post.Failed (cfg : Settings) : Post → Prop
  | unload => False
  | load _ outcome => ∃ r, outcome = .ok r ∧ EndedWithError cfg r

def post : Exchange → Option Post
  | ⟨.unload, _⟩ => some .unload
  | ⟨.load _ expected, r⟩ => some (.load expected r)
  | _ => none

/-- The reply says that no models are loaded. -/
def readsUnloaded : Exchange → Bool
  | ⟨.get path, .ok ⟨status, .obj fields⟩⟩ =>
      path == "/v1/model" && status == 503 &&
        (Json.get fields "detail").eq (.str "No models are currently loaded.")
  | _ => false

/-- The model card of the reply. -/
def readsCard : Exchange → Option TabbyApiRestorePoint
  | ⟨.get path, .ok ⟨status, payload⟩⟩ =>
      if path = "/v1/model" ∧ status = 200 then (card payload).toOption else none
  | _ => none

/-- The reply is a success without a model card: its body is empty or `null`. -/
def readsBlank : Exchange → Bool
  | ⟨.get path, .ok ⟨status, .null⟩⟩ => path == "/v1/model" && status == 200
  | _ => false

/-- What confirms an unload, and a load. -/
def confirms (e : Exchange) : Post → Bool
  | .unload => readsUnloaded e
  | .load expected _ => (readsCard e).any fun current ↦ current.matches expected

/-- The last POST, unless a later reply confirmed it. -/
def unconfirmed : Log → Option Post
  | [] => none
  | e :: log =>
      match post e with
      | some p => some p
      | none => (unconfirmed log).filter fun p ↦ !confirms e p

/-- The loads that no later reply confirmed. -/
def openLoads : Log → List Post
  | [] => []
  | e :: log =>
      let rest := (openLoads log).filter fun p ↦ !confirms e p
      match post e with
      | some (.load expected outcome) => .load expected outcome :: rest
      | _ => rest

/-- The last model card that was read. -/
def lastCard (log : Log) : Option TabbyApiRestorePoint := log.findSome? readsCard

/-- While an unload is unconfirmed, no reply is a success without a model card. -/
def Legible (c : Call) (r : Answer c) (log : Log) : Prop :=
  unconfirmed log = some .unload → readsBlank ⟨c, r⟩ = false

/-- The adapter answers only for what it confirmed. -/
structure FailsClosed (cfg : Settings) (s : AsyncObject.State (object cfg) Log) : Prop where
  released : ∀ target, s.last = some ⟨.releaseGpu target, .ok ()⟩ →
    unconfirmed s.world = none
  observed : s.last = some ⟨.observeReady, .ok none⟩ → unconfirmed s.world = none
  acquired : ∀ target restored, s.last = some ⟨.acquireGpu target, .ok restored⟩ →
    lastCard s.world = some restored ∧
      ∀ restore, target = some (.tabbyapi restore) → restored.matches restore = true
  loads : ∀ op payload expected k, s.task = some ⟨op, .load payload expected, k⟩ →
    ∀ p ∈ openLoads s.world, p.Failed cfg

/-! ## What the flags say about the log -/

/-- The flags tell which POST is outstanding. -/
def Awaited (cfg : Settings) (s : TabbyApiBackend) : Post → Prop
  | .unload => s.uncertain = true ∧ s.pendingLoad = none
  | .load expected outcome => s.uncertain = true ∧ s.pendingLoad = some expected ∧
      (s.loadFailed = true → Post.Failed cfg (.load expected outcome))

structure Inv (cfg : Settings) (s : TabbyApiBackend) (log : Log) : Prop where
  outstanding : ∀ p ∈ unconfirmed log, Awaited cfg s p
  loads : ∀ p ∈ openLoads log, p.Failed cfg ∨ unconfirmed log = some p

/-- Every load that is not confirmed has failed. -/
def Reloadable (cfg : Settings) (log : Log) : Prop := ∀ p ∈ openLoads log, p.Failed cfg

section
variable {cfg : Settings} {s s' : TabbyApiBackend} {log : Log} {e : Exchange}

theorem Awaited.uncertain {p : Post} (h : Awaited cfg s p) : s.uncertain = true := by
  cases p <;> exact h.1

theorem unconfirmed_cons (h : post e = none) :
    unconfirmed (e :: log) = (unconfirmed log).filter fun p ↦ !confirms e p := by
  simp [unconfirmed, h]

theorem openLoads_cons (h : post e = none) :
    openLoads (e :: log) = (openLoads log).filter fun p ↦ !confirms e p := by
  simp [openLoads, h]

/-- A request that is no POST leaves what the flags say true. -/
theorem Inv.read (h : Inv cfg s log) (he : post e = none) : Inv cfg s (e :: log) where
  outstanding p hp := by
    rw [unconfirmed_cons he] at hp
    exact h.outstanding p (Option.mem_filter_iff.mp hp).1
  loads p hp := by
    rw [openLoads_cons he] at hp
    obtain ⟨hmem, hconfirms⟩ := List.mem_filter.mp hp
    refine (h.loads p hmem).imp_right fun hlog ↦ ?_
    rw [unconfirmed_cons he, hlog]
    exact Option.filter_some_pos hconfirms

theorem Inv.reloadable (h : Inv cfg s log) (hlog : unconfirmed log = none) :
    Reloadable cfg log := by
  intro p hp
  refine (h.loads p hp).resolve_right ?_
  rw [hlog]
  exact nofun

/-- When nothing is outstanding, the flags may say anything. -/
theorem Reloadable.inv (h : Reloadable cfg log) (hlog : unconfirmed log = none) :
    Inv cfg s log where
  outstanding p hp := by
    rw [hlog] at hp
    cases hp
  loads p hp := .inl (h p hp)

theorem Inv.unconfirmed_eq_none (h : Inv cfg s log) (hs : s.uncertain = false) :
    unconfirmed log = none := by
  by_contra hne
  obtain ⟨p, hp⟩ := Option.ne_none_iff_exists'.mp hne
  have hp' := (h.outstanding p hp).uncertain
  simp [hs] at hp'

/-- A reply that confirms what the flags await. -/
theorem unconfirmed_eq_none_of_confirms (he : post e = none)
    (h : ∀ p ∈ unconfirmed log, confirms e p = true) :
    unconfirmed (e :: log) = none := by
  rw [unconfirmed_cons he, Option.filter_eq_none_iff]
  intro p hp
  simp [h p hp]

/-! ## Observations -/

/-- What the result of an observation says about its reply. -/
def Observed (e : Exchange) : Except Raised (Option TabbyApiRestorePoint) → Prop
  | .ok none => readsUnloaded e = true ∨ readsBlank e = true
  | .ok (some current) => readsCard e = some current
  | .error _ => True

theorem observed_of_readJson {response : Response} {payload : Json}
    (h : readJson "/v1/model" true response = .ok payload) :
    Observed ⟨.get "/v1/model", .ok response⟩ (observed payload) := by
  obtain ⟨status, body⟩ := response
  simp only [readJson] at h
  split_ifs at h with hunloaded hstatus
  · cases h
    cases body with
    | obj fields =>
        left
        simpa [readsUnloaded] using hunloaded
    | _ => simp at hunloaded
  · cases h
    rw [not_not] at hstatus
    subst hstatus
    cases payload with
    | null => exact .inr rfl
    | obj fields =>
        cases hcard : card (.obj fields) with
        | error exn => simp [observed, hcard, Except.map, Observed]
        | ok current => simp [observed, hcard, Except.map, Observed, readsCard, Except.toOption]
    | _ => exact trivial

/-- The calls of the adapter while a load is sent. -/
def During (cfg : Settings) (c : Call) (_ : TabbyApiBackend) (log : Log) : Prop :=
  ∀ payload expected, c = .load payload expected → Reloadable cfg log

abbrev Runs (cfg : Settings) {α : Type} (p : Method α) (s : TabbyApiBackend) (log : Log)
    (Q : Except Raised α → TabbyApiBackend → Log → Prop) : Prop :=
  p.wp (recording Legible) (During cfg) Q s log

theorem runs_json (path : String) (allowUnloaded : Bool) :
    Runs cfg (json path allowUnloaded) s log fun r s' log' ↦
      s' = s ∧ ∃ e, log' = e :: log ∧ post e = none ∧ Legible e.1 e.2 log ∧
        ∀ payload, r = .ok payload → ∃ response, e = ⟨.get path, .ok response⟩ ∧
          readJson path allowUnloaded response = .ok payload := by
  refine wp_within (wp_bind (wp_record (fun _ _ ↦ nofun) fun r hr ↦ wp_bind (wp_result ?_))) ?_
  · cases r with
    | error exn => exact ⟨rfl, _, rfl, rfl, hr, nofun⟩
    | ok response =>
        exact wp_result ⟨rfl, _, rfl, rfl, hr, fun payload hpayload ↦ ⟨response, rfl, hpayload⟩⟩
  · rintro exn exn' s' log' ⟨hs, e, hlog, he, hr, -⟩
    exact ⟨hs, e, hlog, he, hr, nofun⟩

theorem runs_observe
    {Q : Except Raised (Option TabbyApiRestorePoint) → TabbyApiBackend → Log → Prop}
    (h : ∀ r e, post e = none → Legible e.1 e.2 log → Observed e r → Q r s (e :: log)) :
    Runs cfg observe s log Q := by
  refine wp_bind (wp_mono (runs_json "/v1/model" true) ?_)
  rintro (exn | payload) _ _ ⟨rfl, e, rfl, he, hlegible, hpayload⟩
  · exact h _ e he hlegible trivial
  · obtain ⟨response, rfl, hread⟩ := hpayload payload rfl
    exact wp_result (h _ _ he hlegible (observed_of_readJson hread))

theorem lastCard_cons {current : TabbyApiRestorePoint} (h : readsCard e = some current) :
    lastCard (e :: log) = some current := by
  simp [lastCard, h]

/-- An unload is confirmed only by the server's word. -/
theorem unconfirmed_of_unloaded (he : post e = none) (hlegible : Legible e.1 e.2 log)
    (hread : readsUnloaded e = true ∨ readsBlank e = true)
    (h : ∀ p ∈ unconfirmed log, p = .unload) : unconfirmed (e :: log) = none := by
  apply unconfirmed_eq_none_of_confirms he
  intro p hp
  obtain rfl := h p hp
  rcases hread with hread | hread
  · exact hread
  · exact absurd hread (by simp [hlegible hp])

/-- A load is confirmed by a card that matches. -/
theorem unconfirmed_of_card {current expected : TabbyApiRestorePoint} (h : Inv cfg s log)
    (he : post e = none) (hread : readsCard e = some current)
    (hpending : s.pendingLoad = some expected) (hmatches : current.matches expected = true) :
    unconfirmed (e :: log) = none := by
  apply unconfirmed_eq_none_of_confirms he
  intro p hp
  have hawaited := h.outstanding p hp
  cases p with
  | unload => simp [Awaited, hpending] at hawaited
  | load other outcome =>
      obtain rfl : expected = other := Option.some.inj (hpending.symm.trans hawaited.2.1)
      simp [confirms, hread, hmatches]

/-- What `_observe_confirmed` establishes. -/
def Confirmed (cfg : Settings) (retryFailedLoad : Bool)
    (r : Except Raised (Option TabbyApiRestorePoint)) (s : TabbyApiBackend) (log : Log) : Prop :=
  match r with
  | .ok none => Reloadable cfg log ∧ (retryFailedLoad = false → unconfirmed log = none)
  | .ok (some current) =>
      Reloadable cfg log ∧ unconfirmed log = none ∧ lastCard log = some current
  | .error _ => Inv cfg s log

theorem confirmed_of_certain {retryFailedLoad : Bool} {current : Option TabbyApiRestorePoint}
    (h : Inv cfg s (e :: log)) (hobserved : Observed e (.ok current))
    (hlog : unconfirmed (e :: log) = none) :
    Confirmed cfg retryFailedLoad (.ok current) s' (e :: log) := by
  cases current with
  | none => exact ⟨h.reloadable hlog, fun _ ↦ hlog⟩
  | some current => exact ⟨h.reloadable hlog, hlog, lastCard_cons hobserved⟩

/-- A failed load is outstanding, and may be tried again. -/
theorem reloadable_of_failed {expected : TabbyApiRestorePoint} (h : Inv cfg s log)
    (hpending : s.pendingLoad = some expected) (hfailed : s.loadFailed = true) :
    Reloadable cfg log := by
  intro p hp
  rcases h.loads p hp with hp | hp
  · exact hp
  · have hawaited := h.outstanding p hp
    cases p with
    | unload => simp [Awaited, hpending] at hawaited
    | load other outcome => exact hawaited.2.2 hfailed

theorem confirmed_of_flags {retryFailedLoad : Bool} {current : Option TabbyApiRestorePoint}
    (h : Inv cfg s log) (he : post e = none) (hlegible : Legible e.1 e.2 log)
    (hobserved : Observed e (.ok current))
    (hconfirmed : confirmed retryFailedLoad s current = true) :
    Confirmed cfg retryFailedLoad (.ok current) s' (e :: log) := by
  have h' := h.read he
  cases hpending : s.pendingLoad with
  | none =>
      cases current with
      | some current => simp [confirmed, hpending] at hconfirmed
      | none =>
          refine confirmed_of_certain h' hobserved
            (unconfirmed_of_unloaded he hlegible hobserved fun p hp ↦ ?_)
          have hawaited := h.outstanding p hp
          cases p with
          | unload => rfl
          | load expected outcome => simp [Awaited, hpending] at hawaited
  | some expected =>
      cases current with
      | some current =>
          refine confirmed_of_certain h' hobserved
            (unconfirmed_of_card h he hobserved hpending ?_)
          simpa [confirmed, hpending] using hconfirmed
      | none =>
          simp only [confirmed, hpending, Option.isNone_some, Bool.false_or,
            Bool.and_eq_true] at hconfirmed
          refine ⟨reloadable_of_failed h' hpending hconfirmed.2, fun hretry ↦ ?_⟩
          simp [hretry] at hconfirmed

theorem runs_observeConfirmed (retryFailedLoad : Bool) (h : Inv cfg s log) :
    Runs cfg (observeConfirmed retryFailedLoad) s log (Confirmed cfg retryFailedLoad) := by
  refine wp_bind (runs_observe fun r e he hlegible hobserved ↦ ?_)
  have h' := h.read he
  cases r with
  | error exn => exact h'
  | ok current =>
      refine wp_bind_self ?_
      split_ifs with huncertain hconfirmed
      · exact wp_pure (confirmed_of_certain h' hobserved (h'.unconfirmed_eq_none huncertain))
      · exact wp_bind_modify (wp_pure (confirmed_of_flags h he hlegible hobserved hconfirmed))
      · exact wp_raise h'

/-! ## Unloads -/

/-- What a method keeps when it is not known to have returned anything. -/
def Keeps (cfg : Settings) {α : Type} (_ : Except Raised α) (s : TabbyApiBackend) (log : Log) :
    Prop :=
  Inv cfg s log

/-- A normal return leaves nothing outstanding. -/
def Settles (cfg : Settings) (r : Except Raised Unit) (s : TabbyApiBackend) (log : Log) : Prop :=
  Inv cfg s log ∧ (r = .ok () → unconfirmed log = none)

theorem Settles.of_inv {exn : Raised} (h : Inv cfg s log) : Settles cfg (.error exn) s log :=
  ⟨h, nofun⟩

theorem inv_unloading {r : Answer .unload} (h : Reloadable cfg log)
    (huncertain : s.uncertain = true)
    (hpending : s.pendingLoad = none) : Inv cfg s (⟨.unload, r⟩ :: log) where
  outstanding p hp := by
    cases hp
    exact ⟨huncertain, hpending⟩
  loads p hp := .inl (h p (List.mem_filter.mp hp).1)

theorem runs_confirmUnloaded (h : Inv cfg s log) (hlog : unconfirmed log = some .unload) :
    Runs cfg confirmUnloaded s log (Settles cfg) := by
  refine wp_bind (runs_observe fun r e he hlegible hobserved ↦ ?_)
  have h' := h.read he
  match r, hobserved with
  | .error exn, _ => exact .of_inv h'
  | .ok (some current), _ => exact wp_raise (.of_inv h')
  | .ok none, hread =>
      have hnone := unconfirmed_of_unloaded he hlegible hread (by simp [hlog])
      exact wp_modify ⟨(h'.reloadable hnone).inv hnone, fun _ ↦ hnone⟩

theorem runs_unload (h : Reloadable cfg log) (current : TabbyApiRestorePoint) :
    Runs cfg (unload current) s log (Settles cfg) := by
  refine wp_bind_modify (wp_bind (wp_record (fun _ _ ↦ nofun) fun r _ ↦ wp_bind (wp_result ?_)))
  have h' : Inv cfg (startUnload current s) (⟨.unload, r⟩ :: log) := inv_unloading h rfl rfl
  cases r with
  | error exn => exact .of_inv h'
  | ok status =>
      refine wp_bind (wp_result ?_)
      cases checkStatus status with
      | error exn => exact .of_inv h'
      | ok u => exact runs_confirmUnloaded h' rfl

theorem runs_releaseGpu (h : Inv cfg s log) (target : RestorePoint) :
    Runs cfg (releaseGpu target) s log (Settles cfg) := by
  refine wp_bind (wp_result ?_)
  cases targetOf target with
  | error exn => exact .of_inv h
  | ok restore =>
      have h' : Inv cfg { s with released := some restore } log := ⟨h.outstanding, h.loads⟩
      refine wp_bind_modify (wp_translating (wp_within (wp_bind (wp_mono
        (runs_observeConfirmed false h') fun r s₁ log₁ hr ↦ ?_)) ?_) ?_)
      · match r, hr with
        | .error exn, hr => exact .of_inv hr
        | .ok none, hr => exact wp_pure ⟨hr.1.inv (hr.2 rfl), fun _ ↦ hr.2 rfl⟩
        | .ok (some current), hr => exact runs_unload hr.1 current
      · exact fun _ _ _ _ hr ↦ .of_inv hr.1
      · exact fun _ _ _ _ hr ↦ .of_inv hr.1

/-! ## The stream of a load -/

theorem decoded_of_readStream {st st' : Stream} {lines : List (Option String)}
    (h : readStream cfg st lines = .ok st') :
    ∃ decoded : List String, lines = decoded.map some := by
  induction lines generalizing st with
  | nil => exact ⟨[], rfl⟩
  | cons line lines ih =>
      cases line with
      | none => cases h
      | some raw =>
          rw [readStream] at h
          cases hline : onLine cfg st (some raw) with
          | error exn =>
              rw [hline] at h
              cases h
          | ok next =>
              rw [hline] at h
              obtain ⟨decoded, rfl⟩ := ih h
              exact ⟨raw :: decoded, rfl⟩

/-- Only a stream that was accepted and decoded is read to its end. -/
theorem streamed_of_loadStream {r : LoadResponse} {st : Stream} (h : loadStream cfg r = .ok st) :
    ∃ lines, r = streamed lines r.broken := by
  obtain ⟨status, contentType, lines, broken⟩ := r
  unfold loadStream at h
  split_ifs at h with hstatus htype
  rw [not_not] at hstatus htype
  dsimp only at hstatus htype
  subst hstatus htype
  cases hread : readStream cfg .start lines with
  | error exn =>
      simp only [hread] at h
      cases h
  | ok next =>
      obtain ⟨decoded, rfl⟩ := decoded_of_readStream hread
      exact ⟨decoded, rfl⟩

theorem endedWithError_of_failed {r : LoadResponse} {st : Stream}
    (h : loadStream cfg r = .ok st) (hdata : st.data = []) (hfailed : st.failed = true) :
    EndedWithError cfg r := by
  obtain ⟨lines, hr⟩ := streamed_of_loadStream h
  rw [hr] at h ⊢
  obtain ⟨hbroken, hlines, hadmits, rfl⟩ := loadStream_ok_iff.mp h
  refine ⟨rfl, rfl, lines, rfl, reportsFailed_iff.mpr ⟨⟨hbroken, hlines, hadmits, hdata⟩, ?_⟩⟩
  obtain ⟨-, hany, -⟩ := @foldl_absorb cfg .start (eventsOf lines)
  exact hany.symm.trans hfailed

/-! ## Loads -/

/-- The flags while the load of `expected` is outstanding. -/
def Loading (expected : TabbyApiRestorePoint) (s : TabbyApiBackend) : Prop :=
  s.uncertain = true ∧ s.pendingLoad = some expected

theorem inv_loading {payload : Json.Fields} {expected : TabbyApiRestorePoint}
    {r : Answer (.load payload expected)} (h : Reloadable cfg log) (hs : Loading expected s)
    (hfailed : s.loadFailed = true → Post.Failed cfg (.load expected r)) :
    Inv cfg s (⟨.load payload expected, r⟩ :: log) where
  outstanding p hp := by
    cases hp
    exact ⟨hs.1, hs.2, hfailed⟩
  loads p hp := by
    rcases List.mem_cons.mp hp with rfl | hp
    · exact .inr rfl
    · exact .inl (h p (List.mem_filter.mp hp).1)

theorem runs_load {restore expected : TabbyApiRestorePoint} (h : Reloadable cfg log)
    (hs : Loading expected s) (hfailed : s.loadFailed = false) :
    Runs cfg (load cfg restore expected) s log fun r s' log' ↦
      Inv cfg s' log' ∧ (r = .ok () → Loading expected s') := by
  refine wp_bind (wp_record (fun _ _ _ ↦ h) fun r _ ↦ wp_bind (wp_result ?_))
  have h' : Inv cfg s (⟨.load (loadPayload restore) expected, r⟩ :: log) :=
    inv_loading h hs (by simp [hfailed])
  cases r with
  | error exn => exact ⟨h', nofun⟩
  | ok response =>
      refine wp_bind (wp_result ?_)
      cases hst : loadStream cfg response with
      | error exn => exact ⟨h', nofun⟩
      | ok st =>
          change Runs cfg (endLoad st) s _ _
          unfold endLoad
          split_ifs with hincomplete hfail
          · exact wp_raise ⟨h', nofun⟩
          · refine wp_bind_modify (wp_raise ⟨inv_loading h hs fun _ ↦ ?_, nofun⟩)
            rw [not_or, not_not] at hincomplete
            exact ⟨response, rfl, endedWithError_of_failed hst hincomplete.1 hfail⟩
          · exact wp_pure ⟨h', fun _ ↦ hs⟩

/-- What `acquire_gpu` returns is the last card that was read. -/
def Acquires (cfg : Settings) (expected : Option TabbyApiRestorePoint)
    (r : Except Raised TabbyApiRestorePoint) (s : TabbyApiBackend) (log : Log) : Prop :=
  Inv cfg s log ∧ ∀ restored, r = .ok restored → lastCard log = some restored ∧
    ∀ restore ∈ expected, restored.matches restore = true

theorem Acquires.of_inv {expected : Option TabbyApiRestorePoint} {exn : Raised}
    (h : Inv cfg s log) : Acquires cfg expected (.error exn) s log :=
  ⟨h, nofun⟩

theorem runs_awaitLoaded {expected : TabbyApiRestorePoint} (n : ℕ) (h : Inv cfg s log)
    (hs : Loading expected s) :
    Runs cfg (awaitLoaded expected n) s log (Acquires cfg (some expected)) := by
  induction n generalizing log with
  | zero => exact wp_raise (.of_inv h)
  | succ n ih =>
      refine wp_bind (runs_observe fun r e he hlegible hobserved ↦ ?_)
      have h' := h.read he
      match r, hobserved with
      | .error exn, _ => exact .of_inv h'
      | .ok none, _ =>
          refine wp_bind (wp_record (fun _ _ ↦ nofun) fun r _ ↦ wp_bind (wp_result ?_))
          have h'' : Inv cfg s (⟨.sleep, r⟩ :: e :: log) := h'.read rfl
          cases r with
          | error exn => exact .of_inv h''
          | ok u => exact ih h''
      | .ok (some current), hread =>
          change Runs cfg (if _ then _ else _) _ _ _
          split_ifs with hmatches
          · have hnone := unconfirmed_of_card h he hread hs.2 hmatches
            refine wp_bind_modify (wp_pure ⟨(h'.reloadable hnone).inv hnone, ?_⟩)
            rintro _ ⟨⟩
            refine ⟨lastCard_cons hread, ?_⟩
            rintro _ ⟨⟩
            exact hmatches
          · exact wp_raise (.of_inv h')

theorem runs_loadConfirmed {restore : TabbyApiRestorePoint} {parameters : Json.Fields}
    (h : Reloadable cfg log) :
    Runs cfg (loadConfirmed cfg restore parameters) s log
      (Acquires cfg (some ⟨restore.model, parameters⟩)) := by
  refine wp_bind_modify (wp_then (runs_load h ⟨rfl, rfl⟩ rfl) (fun _ s₁ log₁ hr ↦ ?_)
    fun exn s₁ log₁ hr ↦ .of_inv hr.1)
  refine wp_bind (wp_record (fun _ _ ↦ nofun) fun n _ ↦ ?_)
  exact runs_awaitLoaded n (hr.1.read rfl) (hr.2 rfl)

/-- A model is configured, or the target is explicit. -/
def Targeted (cfg : Settings) : Op → Prop
  | .acquireGpu none => ∃ model, cfg.model = some model ∧ model ≠ ""
  | _ => True

theorem runs_acquireObserved {restore current : Option TabbyApiRestorePoint}
    (hmodel : restore = none → ∃ model, cfg.model = some model ∧ model ≠ "")
    (h : Confirmed cfg true (.ok current) s log) :
    Runs cfg (acquireObserved cfg restore current) s log (Acquires cfg restore) := by
  match restore, current, h with
  | none, some current, h =>
      refine wp_pure ⟨h.1.inv h.2.1, ?_⟩
      rintro _ ⟨⟩
      exact ⟨h.2.2, nofun⟩
  | none, none, h =>
      obtain ⟨model, hcfg, hne⟩ := hmodel rfl
      simp only [acquireObserved, loadConfigured, hcfg]
      refine wp_mono (runs_loadConfirmed h.1) fun r s' log' hr ↦ ⟨hr.1, fun restored hok ↦ ?_⟩
      exact ⟨(hr.2 restored hok).1, nofun⟩
  | some restore, none, h => exact runs_loadConfirmed h.1
  | some restore, some current, h =>
      change Runs cfg (replaceLoaded cfg restore current) s log _
      unfold replaceLoaded
      split_ifs with hmatches
      · refine wp_pure ⟨h.1.inv h.2.1, ?_⟩
        rintro _ ⟨⟩
        refine ⟨h.2.2, ?_⟩
        rintro _ ⟨⟩
        exact hmatches
      · refine wp_then (runs_releaseGpu (h.1.inv h.2.1) _) (fun _ s₁ log₁ hr ↦ ?_)
          fun exn s₁ log₁ hr ↦ .of_inv hr.1
        exact runs_loadConfirmed (hr.1.reloadable (hr.2 rfl))

theorem runs_acquireGpu {target : Option RestorePoint} (hop : Targeted cfg (.acquireGpu target))
    (h : Inv cfg s log) :
    Runs cfg (acquireGpu cfg target) s log
      (Acquires cfg ((optionalTarget target).toOption.bind id)) := by
  refine wp_bind (wp_result ?_)
  cases htarget : optionalTarget target with
  | error exn => exact .of_inv h
  | ok restore =>
      refine wp_translating (wp_within (wp_bind (wp_mono (runs_observeConfirmed true h)
        fun r s₁ log₁ hr ↦ ?_)) ?_) ?_
      · cases r with
        | error exn => exact .of_inv hr
        | ok current =>
            refine runs_acquireObserved ?_ hr
            rintro rfl
            cases target with
            | none => exact hop
            | some target => cases target <;> cases htarget
      · exact fun _ _ _ _ hr ↦ .of_inv hr.1
      · exact fun _ _ _ _ hr ↦ .of_inv hr.1

/-! ## The other methods -/

theorem runs_awaitReady (n : ℕ) (h : Inv cfg s log) :
    Runs cfg (awaitReady n) s log (Keeps cfg) := by
  induction n generalizing s log with
  | zero => exact wp_raise h
  | succ n ih =>
      refine wp_bind (wp_mono (runs_observeConfirmed false h) fun r s₁ log₁ hr ↦ ?_)
      match r, hr with
      | .error exn, hr => exact hr
      | .ok (some current), hr => exact wp_pure (hr.1.inv hr.2.1)
      | .ok none, hr =>
          have h₁ : Inv cfg s₁ log₁ := hr.1.inv (hr.2 rfl)
          refine wp_bind (wp_record (fun _ _ ↦ nofun) fun r _ ↦ wp_bind (wp_result ?_))
          have h₂ : Inv cfg s₁ (⟨.sleep, r⟩ :: log₁) := h₁.read rfl
          cases r with
          | error exn => exact h₂
          | ok u => exact ih h₂

theorem runs_snapshotReady (h : Inv cfg s log) : Runs cfg snapshotReady s log (Keeps cfg) := by
  refine wp_translating (wp_within (wp_bind (wp_record (fun _ _ ↦ nofun) fun n _ ↦ ?_)) ?_) ?_
  · exact runs_awaitReady n (h.read rfl)
  · exact fun _ _ _ _ ↦ id
  · exact fun _ _ _ _ ↦ id

theorem runs_jsonKeeps (path : String) (allowUnloaded : Bool) (h : Inv cfg s log) :
    Runs cfg (json path allowUnloaded) s log (Keeps cfg) := by
  refine wp_mono (runs_json path allowUnloaded) ?_
  rintro r _ _ ⟨rfl, e, rfl, he, -⟩
  exact h.read he

theorem runs_validateControl (h : Inv cfg s log) :
    Runs cfg validateControl s log (Keeps cfg) := by
  refine wp_translating (wp_then (runs_jsonKeeps _ _ h) (fun health s₁ log₁ h₁ ↦ ?_)
    fun _ _ _ ↦ id) fun _ _ _ _ ↦ id
  exact wp_then (runs_jsonKeeps _ _ h₁) (fun models s₂ log₂ h₂ ↦ wp_result h₂) fun _ _ _ ↦ id

theorem runs_observeReady (h : Inv cfg s log) :
    Runs cfg observeReady s log fun r s' log' ↦
      Inv cfg s' log' ∧ (r = .ok none → unconfirmed log' = none) := by
  refine wp_translating (wp_mono (runs_observeConfirmed false h) fun r s₁ log₁ hr ↦ ?_) ?_
  · match r, hr with
    | .error exn, hr => exact ⟨hr, nofun⟩
    | .ok none, hr => exact ⟨hr.1.inv (hr.2 rfl), fun _ ↦ hr.2 rfl⟩
    | .ok (some current), hr => exact ⟨hr.1.inv hr.2.1, nofun⟩
  · exact fun _ _ _ _ hr ↦ ⟨hr.1, nofun⟩

end

/-! ## All runs -/

/-- What the methods promise when they return. -/
def Outcome : (op : Op) → Except Raised op.Ret → Log → Prop
  | .releaseGpu _, .ok _, log => unconfirmed log = none
  | .observeReady, .ok none, log => unconfirmed log = none
  | .acquireGpu target, .ok restored, log => lastCard log = some restored ∧
      ∀ restore, target = some (.tabbyapi restore) → restored.matches restore = true
  | _, _, _ => True

def closedSpec (cfg : Settings) : (object cfg).Spec (recording Legible) where
  pre := Targeted cfg
  inv := Inv cfg
  during := During cfg
  post op r _ log := Outcome op r log
  inv_drift h hw := hw ▸ h
  post_drift _ h hw := hw ▸ h
  run op s log hop h := by
    cases op with
    | validateControl =>
        exact wp_mono (runs_validateControl h) fun r _ _ hr ↦ ⟨hr, by cases r <;> trivial⟩
    | snapshotReady =>
        exact wp_mono (runs_snapshotReady h) fun r _ _ hr ↦ ⟨hr, by cases r <;> trivial⟩
    | observeReady =>
        refine wp_mono (runs_observeReady h) fun r _ _ hr ↦ ⟨hr.1, ?_⟩
        match r, hr with
        | .error exn, _ => trivial
        | .ok none, hr => exact hr.2 rfl
        | .ok (some current), _ => trivial
    | releaseGpu target =>
        refine wp_mono (runs_releaseGpu h target) fun r _ _ hr ↦ ⟨hr.1, ?_⟩
        cases r with
        | error exn => trivial
        | ok u => exact hr.2 rfl
    | acquireGpu target =>
        refine wp_mono (runs_acquireGpu hop h) fun r _ _ hr ↦ ⟨hr.1, ?_⟩
        cases r with
        | error exn => trivial
        | ok restored =>
            obtain ⟨hcard, hmatches⟩ := hr.2 restored rfl
            refine ⟨hcard, ?_⟩
            rintro restore rfl
            exact hmatches restore rfl

/-- The adapter before its first call. -/
def Fresh (s : TabbyApiBackend) (log : Log) : Prop := s = .initial ∧ log = []

theorem inv_of_fresh {cfg : Settings} {s : TabbyApiBackend} {log : Log} (h : Fresh s log) :
    Inv cfg s log := by
  obtain ⟨rfl, rfl⟩ := h
  exact ⟨nofun, nofun⟩

/-- The calls of a run, with a configured model or an explicit target, under
environments that restrict their replies by `ok`. -/
def Calls (cfg : Settings) (ok : (c : Call) → Answer c → Log → Prop)
    (s : AsyncObject.State (object cfg) Log)
    (a : AsyncObject.Action Log Op Call Answer) : Prop :=
  AsyncObject.Meets (recording ok) s a ∧ ∀ op, a = .invoke op → Targeted cfg op

/-- While every success carries a model card, the adapter fails closed. -/
theorem fails_closed (cfg : Settings) {s : AsyncObject.State (object cfg) Log}
    (hs : ((object cfg).serial (recording Legible) Fresh).ReachableVia (Calls cfg Legible) s) :
    FailsClosed cfg s := by
  have h := (closedSpec cfg).holds (fun _ _ ↦ inv_of_fresh) hs
  exact {
    released := fun target hlast ↦ (h.post _ _ hlast).2
    observed := fun hlast ↦ (h.post _ _ hlast).2
    acquired := fun target restored hlast ↦ (h.post _ _ hlast).2
    loads := fun op payload expected k htask ↦ h.during htask payload expected rfl }

/-! ## Two releases -/

def exampleSettings : Settings := ⟨some "exl3", 4096, fun _ ↦ none⟩

def modelCard : Json :=
  .obj [("id", .str "exl3"), ("parameters", .obj [("max_seq_len", .int 4096)])]

def unloadedDetail : Json := .obj [("detail", .str "No models are currently loaded.")]

/-- Unloads succeed, and a GET is answered by the given response. -/
def replies (status : ℕ) (payload : Json) : (c : Call) → Answer c
  | .get _ => .ok ⟨status, payload⟩
  | .unload => .ok 200
  | .load _ _ => .error .timeout
  | .sleep => .ok ()
  | .polls _ => (0 : ℕ)

/-- `release_gpu` of the loaded model is called. -/
def releaseStart : AsyncObject.State (object exampleSettings) Log :=
  AsyncObject.stop (recording fun _ _ _ ↦ True) (.releaseGpu (.tabbyapi ⟨"exl3", []⟩)) []
    ((releaseGpu (.tabbyapi ⟨"exl3", []⟩)).resume .initial)

theorem calls_respond {cfg : Settings} {ok : (c : Call) → Answer c → Log → Prop}
    {s : AsyncObject.State (object cfg) Log} {r : (c : Call) → Answer c}
    (hs : ((object cfg).serial (recording ok) Fresh).ReachableVia (Calls cfg ok) s)
    (h : ∀ c, ok c (r c) s.world) :
    ((object cfg).serial (recording ok) Fresh).ReachableVia (Calls cfg ok)
      (AsyncObject.respond r s) := by
  exact AsyncObject.respond_reachable hs fun op c k htask ↦
    ⟨AsyncObject.meets_answer h htask, nofun⟩

theorem releaseStart_reachable (ok : (c : Call) → Answer c → Log → Prop) :
    ((object exampleSettings).serial (recording ok) Fresh).ReachableVia
      (Calls exampleSettings ok) releaseStart := by
  refine .next (a := .invoke (.releaseGpu (.tabbyapi ⟨"exl3", []⟩)))
    (.start (s := ⟨.initial, [], none, none⟩) ⟨⟨rfl, rfl⟩, rfl, rfl⟩) ⟨trivial, ?_⟩ rfl
  rintro _ ⟨⟩
  trivial

/-- The loaded model is observed and unloaded, and observed again. -/
def releaseEnd (status : ℕ) (payload : Json) : AsyncObject.State (object exampleSettings) Log :=
  AsyncObject.respond (replies status payload) (AsyncObject.respond (replies 200 modelCard)
    (AsyncObject.respond (replies 200 modelCard) releaseStart))

/-- Replies that are objects are legible. -/
theorem legible_replies (status : ℕ) (fields : Json.Fields) (c : Call) (log : Log) :
    Legible c (replies status (.obj fields) c) log := by
  intro _
  cases c <;> rfl

theorem fails_closed_release :
    unconfirmed (releaseEnd 503 unloadedDetail).world = none := by
  refine (fails_closed exampleSettings ?_).released (.tabbyapi ⟨"exl3", []⟩) rfl
  iterate 3 refine calls_respond ?_ fun c ↦ legible_replies _ _ c _
  exact releaseStart_reachable _

/-- An empty success is taken for the server's word that nothing is loaded. -/
theorem not_fails_closed :
    ¬∀ (cfg : Settings) (s : AsyncObject.State (object cfg) Log),
      ((object cfg).serial (recording fun _ _ _ ↦ True) Fresh).ReachableVia
        (Calls cfg fun _ _ _ ↦ True) s → FailsClosed cfg s := by
  intro hclosed
  have hs : ((object exampleSettings).serial (recording fun _ _ _ ↦ True) Fresh).ReachableVia
      (Calls exampleSettings fun _ _ _ ↦ True) (releaseEnd 200 .null) := by
    iterate 3 refine calls_respond ?_ fun _ ↦ trivial
    exact releaseStart_reachable _
  have h := (hclosed _ _ hs).released (.tabbyapi ⟨"exl3", []⟩) rfl
  cases h

end StProxy.Tabby
