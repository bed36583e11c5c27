import StProxy.Strata.Backend
import StProxy.Prism.Confirmed

/-!
# Strata confirms its transitions

`acquire_gpu` reads the health of the server twice, and compares the model only
the first time.
-/

namespace StProxy.Strata

open Async Llm

variable {kind : BackendKind}

/-- The state that a reply reports. -/
def readsHealth (kind : BackendKind) : Exchange Op → Option Health
  | ⟨.get path, .ok ⟨status, payload⟩⟩ =>
      if path = "/health" ∧ status = 200 then (parseHealth kind payload).toOption else none
  | _ => none

/-- The last state that was read. -/
def lastHealth (kind : BackendKind) (log : Log Op) : Option Health :=
  log.findSome? (readsHealth kind)

/-- The method whose call began last, and the states read since. -/
def callReads (kind : BackendKind) : Log Op → Option (Op × List Health)
  | [] => none
  | ⟨.enter op, _⟩ :: _ => some (op, [])
  | e :: log => (callReads kind log).map fun (op, l) ↦ (op, (readsHealth kind e).toList ++ l)

/-- The second state that a call of `acquire_gpu` reads names, if it is loaded, the
model that the first one named. -/
def Steady (kind : BackendKind) (c : Call Op) (r : Answer c) (log : Log Op) : Prop :=
  ∀ target h h', callReads kind log = some (.acquireGpu target, [h]) →
    readsHealth kind ⟨c, r⟩ = some h' → h'.loaded = true → h'.model = h.model

/-- A state that confirms a POST. -/
def confirms (kind : BackendKind) (e : Exchange Op) (p : String × String) : Bool :=
  (readsHealth kind e).any fun h ↦ h.model == p.2 && p.1 == path h.loaded

/-- The last state that the call read reports nothing loaded. -/
def Released (kind : BackendKind) (log : Log Op) : Prop :=
  ∃ h, lastHealth kind (callLog log) = some h ∧ h.loaded = false

/-- The last state that the call read reports the model of the restore point loaded. -/
def Acquired (kind : BackendKind) (restored : StrataRestorePoint) (log : Log Op) : Prop :=
  ∃ h, lastHealth kind (callLog log) = some h ∧ h.loaded = true ∧ h.model = restored.model

/-! ## The methods -/

section
variable {s : Lifecycle} {log : Log Op}

abbrev Runs (kind : BackendKind) {α : Type} (p : Method Op α) (s : Lifecycle) (log : Log Op)
    (Q : Except Raised α → Lifecycle → Log Op → Prop) : Prop :=
  p.wp (recording (Steady kind)) (Sends (confirms kind)) Q s log

theorem runs_health {Q : Except Raised Health → Lifecycle → Log Op → Prop}
    (h : ∀ (a : Except Raised Response) r, Steady kind (.get "/health") a log →
      (∀ health, r = .ok health → readsHealth kind ⟨.get "/health", a⟩ = some health) →
      Q r s (⟨.get "/health", a⟩ :: log)) : Runs kind (health kind) s log Q := by
  refine wp_bind (wp_getJson nofun fun a r hsteady hr ↦ ?_)
  cases r with
  | error e => exact h a _ hsteady nofun
  | ok payload =>
      obtain ⟨⟨status, json⟩, rfl, hread⟩ := hr payload rfl
      simp only [readJson] at hread
      split_ifs at hread with hstatus
      cases hread
      rw [not_not] at hstatus
      subst hstatus
      refine wp_result (h _ _ hsteady fun health hhealth ↦ ?_)
      simp [readsHealth, hhealth, Except.toOption]

theorem lastHealth_cons {a : Except Raised Response} {h : Health}
    (ha : readsHealth kind ⟨.get "/health", a⟩ = some h) :
    lastHealth kind (callLog (⟨.get "/health", a⟩ :: log)) = some h := by
  simp [callLog, lastHealth, ha]

theorem callReads_get {path : String} {a : Except Raised Response} {op : Op} {l : List Health}
    (h : callReads kind log = some (op, l)) :
    callReads kind (⟨.get path, a⟩ :: log) =
      some (op, (readsHealth kind ⟨.get path, a⟩).toList ++ l) := by
  simp [callReads, h]

theorem runs_bindHealth {α : Type} {P : α → Log Op → Prop} {f : Health → Method Op α}
    (h : openPosts (confirms kind) log = [])
    (hf : ∀ health a, openPosts (confirms kind) (⟨.get "/health", a⟩ :: log) = [] →
      Steady kind (.get "/health") a log →
      readsHealth kind ⟨.get "/health", a⟩ = some health →
      Runs kind (f health) s (⟨.get "/health", a⟩ :: log) (Keeps (confirms kind) P)) :
    Runs kind (health kind >>= f) s log (Keeps (confirms kind) P) := by
  refine wp_bind (runs_health fun a r hsteady hr ↦ ?_)
  cases r with
  | error e => exact fun _ ↦ openPosts_eq_nil_cons rfl h
  | ok health => exact hf health a (openPosts_eq_nil_cons rfl h) hsteady (hr health rfl)

theorem runs_bindModels {α : Type} {P : α → Log Op → Prop} {f : List String → Method Op α}
    (h : openPosts (confirms kind) log = [])
    (hf : ∀ ids a, openPosts (confirms kind) (⟨.get "/v1/models", a⟩ :: log) = [] →
      Runs kind (f ids) s (⟨.get "/v1/models", a⟩ :: log) (Keeps (confirms kind) P)) :
    Runs kind (availableModels kind >>= f) s log (Keeps (confirms kind) P) := by
  refine wp_bind (wp_bind (wp_getJson nofun fun a r _ _ ↦ ?_))
  have hnil : openPosts (confirms kind) (⟨.get "/v1/models", a⟩ :: log) = [] :=
    openPosts_eq_nil_cons rfl h
  cases r with
  | error e => exact fun _ ↦ hnil
  | ok payload =>
      refine wp_result ?_
      cases parseCards kind payload with
      | error e => exact fun _ ↦ hnil
      | ok ids => exact hf ids a hnil

theorem readsHealth_models {a : Except Raised Response} :
    readsHealth kind ⟨.get "/v1/models", a⟩ = none := by
  cases a with
  | error e => rfl
  | ok response => simp [readsHealth]

theorem runs_validateControl (h : Certain (confirms kind) s log) :
    Runs kind (validateControl kind) s log (Keeps (confirms kind) fun _ _ ↦ True) :=
  wp_certain h fun hopen ↦ runs_bindHealth hopen fun _ _ hopen _ _ ↦
    runs_bindModels hopen fun _ _ hopen ↦ wp_pure ⟨hopen, trivial⟩

theorem runs_observeReady (h : Certain (confirms kind) s log) :
    Runs kind (observeReady kind) s log (Keeps (confirms kind) fun _ _ ↦ True) :=
  wp_certain h fun hopen ↦ runs_bindHealth hopen fun _ _ hopen _ _ ↦ wp_pure ⟨hopen, trivial⟩

theorem runs_snapshotReady (h : Certain (confirms kind) s log) :
    Runs kind (snapshotReady kind) s log (Keeps (confirms kind) fun _ _ ↦ True) := by
  refine wp_bind (wp_mono (runs_observeReady h) fun r s' log' hr ↦ ?_)
  match r, hr with
  | .error e, hr => exact hr
  | .ok none, hr => exact wp_raise hr.certain
  | .ok (some observed), hr => exact wp_pure hr

/-- The states read by `_target` when it returns. -/
def Targets (kind : BackendKind) (op : Op) (target : Option RestorePoint)
    (restore : StrataRestorePoint) (log : Log Op) : Prop :=
  (∀ restore', target = some (.strata restore') → restore = restore') ∧
    ∃ h, h.model = restore.model ∧ callReads kind log = some (op, [h])

theorem runs_targetOf {op : Op} {target : Option RestorePoint}
    (h : openPosts (confirms kind) log = []) (hlog : callReads kind log = some (op, [])) :
    Runs kind (targetOf kind target) s log (Keeps (confirms kind) (Targets kind op target)) := by
  have hcertain {log : Log Op} (h : openPosts (confirms kind) log = []) :
      Certain (confirms kind) s log := fun _ ↦ h
  match target with
  | none =>
      refine runs_bindHealth h fun health a hopen _ hread ↦ runs_bindModels hopen
        fun ids b hopen ↦ wp_result ?_
      have hreads : callReads kind (⟨.get "/v1/models", b⟩ :: ⟨.get "/health", a⟩ :: log) = _ :=
        callReads_get (callReads_get hlog)
      have hmodels : readsHealth kind ⟨.get "/v1/models", b⟩ = none := readsHealth_models
      rw [hread, hmodels] at hreads
      unfold checkModel
      split_ifs
      · exact ⟨hopen, nofun, health, rfl, hreads⟩
      · exact hcertain hopen
  | some (.other _) => exact wp_raise (hcertain h)
  | some (.strata restore) =>
      simp only [targetOf]
      split_ifs with hkind
      · refine runs_bindHealth h fun health a hopen _ hread ↦ wp_result ?_
        have hreads : callReads kind (⟨.get "/health", a⟩ :: log) = _ := callReads_get hlog
        rw [hread] at hreads
        unfold checkTarget
        split_ifs with hmodel
        · refine ⟨hopen, ?_, health, hmodel.symm, hreads⟩
          rintro _ ⟨⟩
          rfl
        · exact hcertain hopen
      · exact wp_raise (hcertain h)

/-- `_change` returns when the change is confirmed, and leaves the flag up if not. -/
def Changes (kind : BackendKind) (target : StrataRestorePoint) (loaded : Bool)
    (r : Except Raised Unit) (s : Lifecycle) (log : Log Op) : Prop :=
  match r with
  | .ok _ => openPosts (confirms kind) log = [] ∧
      ∃ h, lastHealth kind (callLog log) = some h ∧ h.loaded = loaded ∧ h.model = target.model
  | .error _ => s.uncertain = true

theorem Changes.certain {target : StrataRestorePoint} {loaded : Bool} {r : Except Raised Unit}
    (h : Changes kind target loaded r s log) : Certain (confirms kind) s log := by
  intro hs
  cases r with
  | error e => exact absurd (hs.symm.trans (h : s.uncertain = true)) Bool.false_ne_true
  | ok u => exact h.1

theorem runs_change {target : StrataRestorePoint} {loaded : Bool}
    (h : openPosts (confirms kind) log = []) :
    Runs kind (change kind target loaded) s log (Changes kind target loaded) := by
  refine wp_bind (wp_requireCertain (fun _ ↦ ?_) fun hs _ ↦ hs)
  refine wp_bind_modify (wp_bind (wp_mono (Q := fun r s' log' ↦ s' = ⟨true⟩ ∧
    (r = .ok () → Changes kind target loaded (.ok ()) s' log')) ?_ ?_))
  · refine wp_timedOut (wp_within (wp_bind (wp_postJson (fun _ ↦ h) fun a r ↦ ?_)) ?_) ?_
    · cases r with
      | error e => exact ⟨rfl, nofun⟩
      | ok payload =>
          refine wp_bind (wp_result ?_)
          cases accepted kind loaded payload with
          | error e => exact ⟨rfl, nofun⟩
          | ok u =>
              refine wp_bind (runs_health fun b r _ hr ↦ ?_)
              cases r with
              | error e => exact ⟨rfl, nofun⟩
              | ok health =>
                  refine wp_result ?_
                  have hread := hr health rfl
                  unfold checkHealth
                  split_ifs with hhealth
                  · refine ⟨rfl, fun _ ↦ ⟨openPosts_eq_nil rfl fun p hp ↦ ?_, health,
                      lastHealth_cons hread, hhealth⟩⟩
                    obtain rfl : p = (path loaded, target.model) := by
                      simpa [openPosts, mutation, h] using hp
                    simp [confirms, hread, hhealth]
                  · exact ⟨rfl, nofun⟩
    · exact fun _ _ _ _ h ↦ ⟨h.1, nofun⟩
    · exact fun _ _ _ _ h ↦ ⟨h.1, nofun⟩
  · rintro (e | u) _ log' ⟨rfl, hr⟩
    · rfl
    · exact wp_modify (hr rfl)

theorem runs_releaseGpu {op : Op} {target : Option RestorePoint}
    (h : Certain (confirms kind) s log) (hlog : callReads kind log = some (op, [])) :
    Runs kind (releaseGpu kind target) s log
      (Keeps (confirms kind) fun _ ↦ Released kind) := by
  refine wp_certain h fun hopen ↦ wp_bind (wp_mono (runs_targetOf hopen hlog)
    fun r s' log' hr ↦ ?_)
  cases r with
  | error e => exact hr
  | ok restore =>
      refine wp_mono (runs_change hr.1) fun r s'' log'' hchange ↦ ?_
      cases r with
      | error e => exact hchange.certain
      | ok u =>
          obtain ⟨hopen', health, hlast, hloaded, -⟩ := hchange
          exact ⟨hopen', health, hlast, hloaded⟩

/-- A steady server's second report is about the first one's model. -/
theorem runs_acquireGpu {target : Option RestorePoint} (h : Certain (confirms kind) s log)
    (hlog : callReads kind log = some (.acquireGpu target, [])) :
    Runs kind (acquireGpu kind target) s log
      (Keeps (confirms kind) fun restored log ↦
        (∀ restore, target = some (.strata restore) → restored = restore) ∧
          Acquired kind restored log) := by
  refine wp_certain h fun hopen ↦ wp_bind (wp_mono (runs_targetOf hopen hlog)
    fun r s' log' hr ↦ ?_)
  cases r with
  | error e => exact hr
  | ok restore =>
      obtain ⟨hopen', htarget, first, hmodel, hreads⟩ := hr
      refine wp_bind (wp_bind (wp_requireCertain (fun _ ↦ ?_) fun _ _ _ ↦ hopen'))
      refine wp_bind (runs_health fun a r hsteady hread ↦ ?_)
      have hopen'' : openPosts (confirms kind) (⟨.get "/health", a⟩ :: log') = [] :=
        openPosts_eq_nil_cons rfl hopen'
      cases r with
      | error e => exact fun _ ↦ hopen''
      | ok second =>
          have hsecond := hread second rfl
          change Runs kind (acquireObserved kind restore (if second.loaded then _ else _)) _ _ _
          split_ifs with hloaded
          · refine wp_pure ⟨hopen'', htarget, second, lastHealth_cons hsecond, hloaded, ?_⟩
            exact (hsteady target first second hreads hsecond hloaded).trans hmodel
          · refine wp_bind (wp_mono (runs_change hopen'') fun r s'' log'' hchange ↦ ?_)
            cases r with
            | error e => exact hchange.certain
            | ok u => exact wp_pure ⟨hchange.1, htarget, hchange.2⟩

end

/-! ## All runs -/

/-- What the methods promise when they return. -/
def Outcome (kind : BackendKind) : (op : Op) → op.Ret → Log Op → Prop
  | .releaseGpu _, _, log => Released kind log
  | .acquireGpu target, restored, log =>
      (∀ restore, target = some (.strata restore) → restored = restore) ∧
        Acquired kind restored log
  | _, _, _ => True

theorem runs_body {s : Lifecycle} {log : Log Op} (op : Op) (h : Certain (confirms kind) s log)
    (hlog : callReads kind log = some (op, [])) :
    Runs kind (body kind op) s log (Keeps (confirms kind) (Outcome kind op)) := by
  cases op with
  | validateControl => exact runs_validateControl h
  | observeReady => exact runs_observeReady h
  | snapshotReady => exact runs_snapshotReady h
  | releaseGpu target => exact runs_releaseGpu h hlog
  | acquireGpu target => exact runs_acquireGpu h hlog

def confirmedSpec (kind : BackendKind) : (object kind).Spec (recording (Steady kind)) where
  pre _ := True
  inv := Certain (confirms kind)
  during := Sends (confirms kind)
  post op r s log := Keeps (confirms kind) (Outcome kind op) r s log
  inv_drift h hw := hw ▸ h
  post_drift _ h hw := hw ▸ h
  run op s log _ h := by
    refine wp_bind (wp_record nofun fun r _ ↦ wp_mono (runs_body op (fun hs ↦ ?_) rfl) ?_)
    · exact openPosts_eq_nil_cons rfl (h hs)
    · exact fun _ _ _ hr ↦ ⟨hr.certain, hr⟩

/-- With the flag up, every method raises before its first request. -/
theorem refuses (ok : (c : Call Op) → Answer c → Log Op → Prop) (op : Op) :
    Refuses ok ((object kind).run op) := by
  refine refuses_enter ?_
  cases op with
  | validateControl => exact refuses_requireCertain
  | observeReady => exact refuses_requireCertain
  | snapshotReady => exact refuses_requireCertain.bind
  | releaseGpu target => exact refuses_requireCertain
  | acquireGpu target => exact refuses_requireCertain

/-- What was confirmed when the last call returned, and that an unconfirmed POST is the last. -/
structure Confirms (kind : BackendKind) (ok : (c : Call Op) → Answer c → Log Op → Prop)
    (s : (object kind).State (Log Op)) : Prop where
  acquired : ∀ target restored, s.last = some ⟨.acquireGpu target, .ok restored⟩ →
    (∀ restore, target = some (.strata restore) → restored = restore) ∧
      Acquired kind restored s.world
  released : ∀ target, s.last = some ⟨.releaseGpu target, .ok ()⟩ → Released kind s.world
  closed : Closed (object kind) ok (confirms kind) s

theorem certain_of_fresh {s : Lifecycle} {log : Log Op} (h : Fresh s log) :
    Certain (confirms kind) s log := by
  obtain ⟨rfl, rfl⟩ := h
  exact fun _ ↦ rfl

theorem confirms_of_reachable {s : (object kind).State (Log Op)}
    (hs : ((object kind).serial (recording (Steady kind)) Fresh).ReachableVia
      (AsyncObject.Meets (recording (Steady kind))) s) : Confirms kind (Steady kind) s := by
  have h := (confirmedSpec kind).holds (fun _ _ ↦ certain_of_fresh)
    (hs.mono fun _ _ hmeets ↦ ⟨hmeets, fun _ _ ↦ trivial⟩)
  exact {
    acquired := fun target restored hlast ↦ (h.post _ _ hlast).2.2
    released := fun target hlast ↦ (h.post _ _ hlast).2.2
    closed := closed_of_holds (confirmedSpec kind) (fun _ _ ↦ id) (fun _ _ _ _ h ↦ h.1)
      (fun _ _ _ ↦ id) (refuses _) h }

/-- Every run of Prism, and every run of a Strata server that is steady. -/
theorem adapters_confirm (default : String) (kind : BackendKind) :
    (∀ s : (Prism.object default).State (Log Prism.Op),
      ((Prism.object default).serial (recording fun _ _ _ ↦ True) Fresh).ReachableVia
        (AsyncObject.Meets (recording fun _ _ _ ↦ True)) s → Prism.Confirms default s) ∧
    ∀ s : (object kind).State (Log Op),
      ((object kind).serial (recording (Steady kind)) Fresh).ReachableVia
        (AsyncObject.Meets (recording (Steady kind))) s → Confirms kind (Steady kind) s :=
  ⟨fun _ ↦ Prism.confirms_of_reachable, fun _ ↦ confirms_of_reachable⟩

/-! ## Two calls -/

def report (loaded : Bool) (model : String) : Json :=
  .obj [("service", .str "strata"), ("status", .str "ok"), ("loaded", .bool loaded),
    ("model", .str model)]

/-- Every request is answered by the payload. -/
def replies (payload : Json) : (c : Call Op) → Answer c
  | .enter _ => ()
  | .get _ | .post _ _ => .ok ⟨200, payload⟩
  | .sleep => .ok ()
  | .polls _ => (0 : ℕ)

def exampleTarget : StrataRestorePoint := ⟨"a", .sc117⟩

/-- Model `a` is acquired, and the server reports `a` not loaded. -/
def observedOnce : (object .sc117).State (Log Op) :=
  AsyncObject.respond (replies (report false "a"))
    (AsyncObject.respond (replies .null)
      (AsyncObject.stop (recording fun _ _ _ ↦ True) (.acquireGpu (some (.strata exampleTarget)))
        [] (((object .sc117).run (.acquireGpu (some (.strata exampleTarget)))).resume ⟨false⟩)))

/-- Then it reports another state. -/
def observedTwice (second : Json) : (object .sc117).State (Log Op) :=
  AsyncObject.respond (replies second) observedOnce

theorem observedTwice_reachable {ok : (c : Call Op) → Answer c → Log Op → Prop} {second : Json}
    (henter : ∀ c, ok c (replies .null c) [])
    (hfirst : ∀ c, ok c (replies (report false "a") c)
      [⟨.enter (.acquireGpu (some (.strata exampleTarget))), ()⟩])
    (hsecond : ∀ c, ok c (replies second c) observedOnce.world) :
    ((object .sc117).serial (recording ok) Fresh).ReachableVia
      (AsyncObject.Meets (recording ok)) (observedTwice second) := by
  refine AsyncObject.respond_reachable ?_ fun _ _ _ ↦ AsyncObject.meets_answer hsecond
  refine AsyncObject.respond_reachable ?_ fun _ _ _ ↦ AsyncObject.meets_answer hfirst
  refine AsyncObject.respond_reachable ?_ fun _ _ _ ↦ AsyncObject.meets_answer henter
  exact .next (a := .invoke (.acquireGpu (some (.strata exampleTarget))))
    (.start (s := ⟨⟨false⟩, [], none, none⟩) ⟨⟨rfl, rfl⟩, rfl, rfl⟩) trivial rfl

/-- The server loads model `a` between the two reports, and reports nothing else. -/
theorem adapters_confirm_acquired :
    Acquired .sc117 exampleTarget (observedTwice (report true "a")).world := by
  have hs := @observedTwice_reachable (Steady .sc117) (report true "a") ?_ ?_ ?_
  · exact (((adapters_confirm "" .sc117).2 _ hs).acquired (some (.strata exampleTarget)) _ rfl).2
  · intro c target h h' hreads
    cases hreads
  · intro c target h h' hreads
    cases hreads
  · intro c target h h' hreads hread _
    obtain rfl : h = ⟨false, "a"⟩ := by
      have hfirst : callReads .sc117 observedOnce.world =
          some (.acquireGpu (some (.strata exampleTarget)), [⟨false, "a"⟩]) := by decide +kernel
      cases hfirst.symm.trans hreads
      rfl
    cases c with
    | get path =>
        have hsecond : readsHealth .sc117 ⟨.get path, .ok ⟨200, report true "a"⟩⟩ =
            if path = "/health" ∧ 200 = 200 then some ⟨true, "a"⟩ else none := rfl
        have hread' := hsecond.symm.trans hread
        split_ifs at hread'
        cases hread'
        rfl
    | _ => cases hread

/-- `acquire_gpu` returns for model `a` after the server reported model `b`. -/
theorem not_adapters_confirm :
    ¬∀ (kind : BackendKind) (s : (object kind).State (Log Op)),
      ((object kind).serial (recording fun _ _ _ ↦ True) Fresh).ReachableVia
        (AsyncObject.Meets (recording fun _ _ _ ↦ True)) s →
          Confirms kind (fun _ _ _ ↦ True) s := by
  intro hconfirms
  have hs := @observedTwice_reachable (fun _ _ _ ↦ True) (report true "b")
    (fun _ ↦ trivial) (fun _ ↦ trivial) fun _ ↦ trivial
  obtain ⟨-, h, hlast, -, hmodel⟩ :=
    (hconfirms .sc117 (observedTwice (report true "b")) hs).acquired
      (some (.strata exampleTarget)) exampleTarget rfl
  cases hlast
  revert hmodel
  decide

end StProxy.Strata
