import StProxy.Prism.Backend

/-!
# Prism confirms its transitions
-/

namespace StProxy.Prism

open Async Llm

/-- The states that a reply reports. -/
def readsStates (default : String) : Exchange Op → Option States
  | ⟨.get path, .ok ⟨status, payload⟩⟩ =>
      if path = "/models" ∧ status = 200 then (parseStates default payload).toOption else none
  | _ => none

/-- The last states that were read. -/
def lastStates (default : String) (log : Log Op) : Option States :=
  log.findSome? (readsStates default)

/-- The preset is loaded and every other one unloaded. -/
def LoadedOnly (model : String) (states : States) : Prop :=
  (states.lookup model).any (·.value == .loaded) = true ∧
    ∀ state ∈ states, state.1 = model ∨ state.2.value = .unloaded

def AllUnloaded (states : States) : Prop := ∀ state ∈ states, state.2.value = .unloaded

instance (model : String) (states : States) : Decidable (LoadedOnly model states) :=
  inferInstanceAs (Decidable (_ ∧ ∀ state ∈ states, _))

instance (states : States) : Decidable (AllUnloaded states) :=
  inferInstanceAs (Decidable (∀ state ∈ states, _))

/-- States that confirm a POST. -/
def Confirming (states : States) (p : String × String) : Prop :=
  (p.1 = "/models/load" ∧ LoadedOnly p.2 states) ∨ (p.1 = "/models/unload" ∧ AllUnloaded states)

instance (states : States) (p : String × String) : Decidable (Confirming states p) :=
  inferInstanceAs (Decidable ((_ ∧ _) ∨ (_ ∧ _)))

def confirms (default : String) (e : Exchange Op) (p : String × String) : Bool :=
  (readsStates default e).any fun states ↦ decide (Confirming states p)

/-- What `_wait` waits for. -/
def Reports (model : String) (states : States) : Value → Prop
  | .loaded => LoadedOnly model states
  | .unloaded => AllUnloaded states
  | _ => True

/-! ## The states of a payload -/

theorem isActive_eq_false_iff {state : String × Status} :
    isActive state = false ↔ state.2.value = .unloaded := by
  simp [isActive]

theorem active_eq_none_iff {states : States} : active states = none ↔ AllUnloaded states := by
  simp [active, AllUnloaded, isActive_eq_false_iff]

/-- At most one worker is active. -/
theorem eq_of_isActive {default : String} {payload : Json} {states : States}
    (h : parseStates default payload = .ok states) {a b : String × Status} (ha : a ∈ states)
    (hb : b ∈ states) (ha' : isActive a = true) (hb' : isActive b = true) : a = b := by
  have hlength : (states.filter isActive).length ≤ 1 := by
    unfold parseStates at h
    cases hcards : modelsOf payload with
    | error e => simp [hcards, Except.bind] at h
    | ok cards =>
        cases hstates : addCards [] cards with
        | error e => simp [hcards, hstates, Except.bind] at h
        | ok states' =>
            simp only [hcards, hstates, Except.bind, checkStates] at h
            split_ifs at h with hdefault hmany
            cases h
            omega
  have ha'' := List.mem_filter.mpr ⟨ha, ha'⟩
  have hb'' := List.mem_filter.mpr ⟨hb, hb'⟩
  obtain ⟨i, hi, rfl⟩ := List.mem_iff_getElem.mp ha''
  obtain ⟨j, hj, rfl⟩ := List.mem_iff_getElem.mp hb''
  congr 1
  omega

theorem loadedOnly_of_lookup {default model : String} {payload : Json} {states : States}
    {status : Status} (h : parseStates default payload = .ok states)
    (hlookup : states.lookup model = some status) (hvalue : status.value = .loaded) :
    LoadedOnly model states := by
  refine ⟨by simp [hlookup, hvalue], fun state hstate ↦ ?_⟩
  by_contra hne
  rw [not_or] at hne
  obtain ⟨l₁, l₂, heq, -⟩ := List.lookup_eq_some_iff.mp hlookup
  have hmem : (model, status) ∈ states := by simp [heq]
  have hactive : isActive state = true := by
    by_contra hfalse
    exact hne.2 (isActive_eq_false_iff.mp (by simpa using hfalse))
  exact hne.1 (congrArg Prod.fst
    (eq_of_isActive h hstate hmem hactive (by simp [isActive, hvalue])))

theorem reports_of_reached {default model : String} {payload : Json} {states : States}
    {expected : Value} (h : parseStates default payload = .ok states)
    (hreached : reached model expected states = .ok true) : Reports model states expected := by
  unfold reached at hreached
  split at hreached
  · cases hreached
  · next status hlookup =>
      split_ifs at hreached with hvalue hother <;> cases hreached
      cases expected with
      | loaded => exact loadedOnly_of_lookup h hlookup hvalue
      | unloaded => exact active_eq_none_iff.mp (by simpa using hother)
      | _ => trivial

/-! ## The methods -/

section
variable {default : String} {s : Lifecycle} {log : Log Op}

abbrev Runs (default : String) {α : Type} (p : Method Op α) (s : Lifecycle) (log : Log Op)
    (Q : Except Raised α → Lifecycle → Log Op → Prop) : Prop :=
  p.wp (recording fun _ _ _ ↦ True) (Sends (confirms default)) Q s log

theorem runs_states {Q : Except Raised States → Lifecycle → Log Op → Prop}
    (h : ∀ (a : Except Raised Response) r, (∀ states, r = .ok states →
      readsStates default ⟨.get "/models", a⟩ = some states ∧
        ∃ payload, parseStates default payload = .ok states) → Q r s (⟨.get "/models", a⟩ :: log)) :
    Runs default (states default) s log Q := by
  refine wp_bind (wp_getJson nofun fun a r _ hr ↦ ?_)
  cases r with
  | error e => exact h a _ nofun
  | ok payload =>
      obtain ⟨⟨status, json⟩, rfl, hread⟩ := hr payload rfl
      simp only [readJson] at hread
      split_ifs at hread with hstatus
      cases hread
      rw [not_not] at hstatus
      subst hstatus
      refine wp_result (h _ _ fun states hstates ↦ ⟨?_, payload, hstates⟩)
      simp [readsStates, hstates, Except.toOption]

theorem lastStates_cons {a : Except Raised Response} {states : States}
    (h : readsStates default ⟨.get "/models", a⟩ = some states) :
    lastStates default (callLog (⟨.get "/models", a⟩ :: log)) = some states := by
  simp [callLog, lastStates, h]

/-- The last states that the call read report what was expected, and no POST is unconfirmed. -/
def Reported (default model : String) (expected : Value) (log : Log Op) : Prop :=
  openPosts (confirms default) log = [] ∧
    ∃ states, lastStates default (callLog log) = some states ∧ Reports model states expected

/-- What `_wait` keeps, and what holds when it returns. -/
def Waits (default model : String) (expected : Value) (s : Lifecycle) (log : Log Op)
    (r : Except Raised Unit) (s' : Lifecycle) (log' : Log Op) : Prop :=
  s' = s ∧ (∀ p ∈ openPosts (confirms default) log', p ∈ openPosts (confirms default) log) ∧
    (r = .ok () → Reported default model expected log')

theorem Waits.error {model : String} {expected : Value} (e e' : Raised) (s' : Lifecycle)
    (log' : Log Op) (h : Waits default model expected s log (.error e) s' log') :
    Waits default model expected s log (.error e') s' log' :=
  ⟨h.1, h.2.1, nofun⟩

theorem Waits.cons {model : String} {expected : Value} {e : Exchange Op} (he : mutation e = none)
    {r : Except Raised Unit} {s' : Lifecycle} {log' : Log Op}
    (h : Waits default model expected s (e :: log) r s' log') :
    Waits default model expected s log r s' log' :=
  ⟨h.1, fun p hp ↦ mem_openPosts_cons he (h.2.1 p hp), h.2.2⟩

/-- The loop reads until the states confirm every POST that is open. -/
theorem runs_await {model : String} {expected : Value} (n : ℕ)
    (hopen : ∀ p ∈ openPosts (confirms default) log, ∀ states, Reports model states expected →
      Confirming states p) :
    Runs default (await default model expected n) s log (Waits default model expected s log) := by
  induction n generalizing log with
  | zero => exact wp_raise ⟨rfl, fun _ ↦ id, nofun⟩
  | succ n ih =>
      refine wp_bind (runs_states fun a r hr ↦ ?_)
      have hmem {p : String × String}
          (hp : p ∈ openPosts (confirms default) (⟨.get "/models", a⟩ :: log)) :
          p ∈ openPosts (confirms default) log := mem_openPosts_cons rfl hp
      cases r with
      | error e => exact ⟨rfl, fun _ ↦ hmem, nofun⟩
      | ok states =>
          obtain ⟨hread, payload, hparse⟩ := hr states rfl
          refine wp_bind (wp_result ?_)
          cases hreached : reached model expected states with
          | error e => exact ⟨rfl, fun _ ↦ hmem, nofun⟩
          | ok done =>
              cases done with
              | true =>
                  have hreports := reports_of_reached hparse hreached
                  refine wp_pure ⟨rfl, fun _ ↦ hmem, fun _ ↦ ⟨openPosts_eq_nil rfl fun p hp ↦ ?_,
                    states, lastStates_cons hread, hreports⟩⟩
                  simp [confirms, hread, hopen p hp states hreports]
              | false =>
                  refine wp_bind (wp_record nofun fun r _ ↦ wp_bind (wp_result ?_))
                  cases r with
                  | error e => exact ⟨rfl, fun _ hp ↦ hmem (mem_openPosts_cons rfl hp), nofun⟩
                  | ok u =>
                      refine wp_mono (ih fun p hp ↦ hopen p (hmem (mem_openPosts_cons rfl hp))) ?_
                      exact fun _ _ _ h ↦ (h.cons rfl).cons rfl

theorem runs_wait {model : String} {expected : Value}
    (hopen : ∀ p ∈ openPosts (confirms default) log, ∀ states, Reports model states expected →
      Confirming states p) :
    Runs default (wait default model expected) s log (Waits default model expected s log) := by
  refine wp_timedOut (wp_within (wp_bind (wp_record nofun fun n _ ↦ ?_)) Waits.error) Waits.error
  refine wp_mono (runs_await n fun p hp ↦ hopen p (mem_openPosts_cons rfl hp)) ?_
  exact fun _ _ _ h ↦ h.cons rfl

/-- `_change` returns when the change is confirmed, and leaves the flag up if not. -/
def Changes (default model : String) (expected : Value) (r : Except Raised Unit) (s : Lifecycle)
    (log : Log Op) : Prop :=
  match r with
  | .ok _ => Reported default model expected log
  | .error _ => s.uncertain = true

theorem runs_change {model action : String} {expected : Value} {deadline : Deadline}
    (h : Certain (confirms default) s log) (hconfirming : ∀ states, Reports model states expected →
      Confirming states ("/models/" ++ action, model)) :
    Runs default (change default model action expected deadline) s log
      (Changes default model expected) := by
  refine wp_bind (wp_requireCertain (fun hs ↦ ?_) fun hs e ↦ hs)
  refine wp_bind_modify (wp_bind (wp_mono (Q := fun r s' log' ↦ s' = ⟨true⟩ ∧
    (r = .ok () → Reported default model expected log')) ?_ ?_))
  · refine wp_timedOut (wp_within (wp_bind (wp_postJson (fun _ ↦ h hs) fun a r ↦ ?_)) ?_) ?_
    · cases r with
      | error e => exact ⟨rfl, nofun⟩
      | ok payload =>
          refine wp_bind (wp_result ?_)
          cases accepted action payload with
          | error e => exact ⟨rfl, nofun⟩
          | ok u =>
              refine wp_mono (runs_wait fun p hp ↦ ?_) fun r _ _ hr ↦ ⟨hr.1, hr.2.2⟩
              obtain rfl : p = ("/models/" ++ action, model) := by
                simpa [openPosts, mutation, h hs] using hp
              exact hconfirming
    · exact fun _ _ _ _ h ↦ ⟨h.1, nofun⟩
    · exact fun _ _ _ _ h ↦ ⟨h.1, nofun⟩
  · rintro (e | u) _ log' ⟨rfl, hr⟩
    · rfl
    · exact wp_modify (hr rfl)

theorem runs_unload {model : String} (h : Certain (confirms default) s log) :
    Runs default (unload default model) s log (Changes default model .unloaded) :=
  runs_change h fun _ hreports ↦ .inr ⟨rfl, hreports⟩

theorem runs_load {model : String} (h : Certain (confirms default) s log) :
    Runs default (load default model) s log (Changes default model .loaded) :=
  runs_change h fun _ hreports ↦ .inl ⟨rfl, hreports⟩

theorem Changes.certain {model : String} {expected : Value} {r : Except Raised Unit}
    (h : Changes default model expected r s log) : Certain (confirms default) s log := by
  intro hs
  cases r with
  | error e => exact absurd (hs.symm.trans (h : s.uncertain = true)) Bool.false_ne_true
  | ok u => exact h.1

theorem runs_bindStates {α : Type} {P : α → Log Op → Prop} {f : States → Method Op α}
    (h : openPosts (confirms default) log = [])
    (hf : ∀ states log', openPosts (confirms default) log' = [] →
      lastStates default (callLog log') = some states →
      (∃ payload, parseStates default payload = .ok states) →
      Runs default (f states) s log' (Keeps (confirms default) P)) :
    Runs default (states default >>= f) s log (Keeps (confirms default) P) := by
  refine wp_bind (runs_states fun a r hr ↦ ?_)
  cases r with
  | error e => exact fun _ ↦ openPosts_eq_nil_cons rfl h
  | ok states =>
      obtain ⟨hread, hparse⟩ := hr states rfl
      exact hf states _ (openPosts_eq_nil_cons rfl h) (lastStates_cons hread) hparse

theorem runs_validateControl (h : Certain (confirms default) s log) :
    Runs default (validateControl default) s log (Keeps (confirms default) fun _ _ ↦ True) :=
  wp_certain h fun hopen ↦ runs_bindStates hopen fun _ _ hopen' _ _ ↦ wp_pure ⟨hopen', trivial⟩

theorem runs_observeReady (h : Certain (confirms default) s log) :
    Runs default (observeReady default) s log (Keeps (confirms default) fun _ _ ↦ True) := by
  refine wp_certain h fun hopen ↦ runs_bindStates hopen fun states _ hopen' _ _ ↦ wp_result ?_
  cases readyOf states with
  | error e => exact fun _ ↦ hopen'
  | ok observed => exact ⟨hopen', trivial⟩

theorem runs_snapshotReady (h : Certain (confirms default) s log) :
    Runs default (snapshotReady default) s log (Keeps (confirms default) fun _ _ ↦ True) := by
  refine wp_certain h fun hopen ↦ runs_bindStates hopen fun states log' hopen' _ _ ↦ ?_
  refine wp_bind (wp_mono (runs_wait (by simp [hopen'])) ?_)
  rintro (e | u) _ log'' ⟨rfl, hmem, hr⟩
  · exact fun _ ↦ List.eq_nil_iff_forall_not_mem.mpr fun p hp ↦ by simpa [hopen'] using hmem p hp
  · exact wp_pure ⟨(hr rfl).1, trivial⟩

/-- The last states that the call read report nothing loaded. -/
def Released (default : String) (log : Log Op) : Prop :=
  ∃ states, lastStates default (callLog log) = some states ∧ AllUnloaded states

/-- The last states that the call read report only the model of the restore point loaded. -/
def Acquired (default : String) (restored : PrismRestorePoint) (log : Log Op) : Prop :=
  ∃ states, lastStates default (callLog log) = some states ∧ LoadedOnly restored.model states

theorem runs_releaseGpu {target : Option RestorePoint} (h : Certain (confirms default) s log) :
    Runs default (releaseGpu default target) s log
      (Keeps (confirms default) fun _ ↦ Released default) := by
  refine wp_bind (wp_result ?_)
  cases targetOf default target with
  | error e => exact h
  | ok restore =>
      refine wp_certain h fun hopen ↦ runs_bindStates hopen fun states log' hopen' hlast _ ↦ ?_
      have hcertain : Certain (confirms default) s log' := fun _ ↦ hopen'
      unfold releaseObserved
      split_ifs with hmissing
      · exact wp_raise hcertain
      · split
        · next hactive =>
            exact wp_pure ⟨hopen', states, hlast, active_eq_none_iff.mp hactive⟩
        · next model hactive =>
            split_ifs with hmodel
            · exact wp_raise hcertain
            · refine wp_mono (runs_unload hcertain) fun r s' log'' hr ↦ ?_
              cases r with
              | error e => exact hr.certain
              | ok u => exact hr

theorem runs_loadTarget {restore : PrismRestorePoint} (h : Certain (confirms default) s log) :
    Runs default (do load default restore.model; pure restore) s log
      (Keeps (confirms default) fun restored log ↦
        restored = restore ∧ Acquired default restored log) := by
  refine wp_bind (wp_mono (runs_load h) fun r s' log' hr ↦ ?_)
  cases r with
  | error e => exact hr.certain
  | ok u => exact wp_pure ⟨hr.1, rfl, hr.2⟩

theorem runs_acquireGpu {target : Option RestorePoint} (h : Certain (confirms default) s log) :
    Runs default (acquireGpu default target) s log
      (Keeps (confirms default) fun restored log ↦
        targetOf default target = .ok restored ∧ Acquired default restored log) := by
  refine wp_bind (wp_result ?_)
  cases targetOf default target with
  | error e => exact h
  | ok restore =>
      refine wp_certain h fun hopen ↦ runs_bindStates hopen fun states log' hopen' hlast hparse ↦ ?_
      obtain ⟨payload, hparse⟩ := hparse
      have hcertain : Certain (confirms default) s log' := fun _ ↦ hopen'
      have hload {s : Lifecycle} {log : Log Op} (h : Certain (confirms default) s log) :
          Runs default (do load default restore.model; pure restore) s log
            (Keeps (confirms default) fun restored log ↦
              Except.ok (ε := Raised) restore = .ok restored ∧ Acquired default restored log) :=
        wp_mono (runs_loadTarget h) fun r s log hr ↦ by
          cases r with
          | error e => exact hr
          | ok restored => exact ⟨hr.1, congrArg _ hr.2.1.symm, hr.2.2⟩
      unfold acquireObserved
      split_ifs with hmissing
      · exact wp_raise hcertain
      · split
        · exact hload hcertain
        · next model hactive =>
            split_ifs with hvalue hmodel
            · exact wp_raise hcertain
            · subst hmodel
              obtain ⟨status, hlookup⟩ : ∃ status, states.lookup restore.model = some status := by
                apply Option.ne_none_iff_exists'.mp
                intro hnone
                exact hmissing (by rw [hnone]; rfl)
              refine wp_pure ⟨hopen', rfl, states, hlast, loadedOnly_of_lookup hparse hlookup ?_⟩
              simpa [hlookup] using hvalue
            · refine wp_bind (wp_mono (runs_unload hcertain) fun r s' log'' hr ↦ ?_)
              cases r with
              | error e => exact hr.certain
              | ok u => exact hload hr.certain

end

/-! ## All runs -/

/-- What the methods promise when they return. -/
def Outcome (default : String) : (op : Op) → op.Ret → Log Op → Prop
  | .releaseGpu _, _, log => Released default log
  | .acquireGpu target, restored, log =>
      targetOf default target = .ok restored ∧ Acquired default restored log
  | _, _, _ => True

theorem runs_body {default : String} {s : Lifecycle} {log : Log Op}
    (h : Certain (confirms default) s log) (op : Op) :
    Runs default (body default op) s log (Keeps (confirms default) (Outcome default op)) := by
  cases op with
  | validateControl => exact runs_validateControl h
  | observeReady => exact runs_observeReady h
  | snapshotReady => exact runs_snapshotReady h
  | releaseGpu target => exact runs_releaseGpu h
  | acquireGpu target => exact runs_acquireGpu h

def confirmedSpec (default : String) :
    (object default).Spec (recording fun _ _ _ ↦ True) where
  pre _ := True
  inv := Certain (confirms default)
  during := Sends (confirms default)
  post op r s log := Keeps (confirms default) (Outcome default op) r s log
  inv_drift h hw := hw ▸ h
  post_drift _ h hw := hw ▸ h
  run op s log _ h := by
    refine wp_bind (wp_record nofun fun r _ ↦ wp_mono (runs_body (fun hs ↦ ?_) op) ?_)
    · simp [openPosts, mutation, h hs]
    · exact fun _ _ _ hr ↦ ⟨hr.certain, hr⟩

/-- With the flag up, every method raises before its first request. -/
theorem refuses (default : String) (op : Op) :
    Refuses (fun _ _ _ ↦ True) ((object default).run op) := by
  refine refuses_enter ?_
  cases op with
  | validateControl => exact refuses_requireCertain
  | observeReady => exact refuses_requireCertain
  | snapshotReady => exact refuses_requireCertain
  | releaseGpu target => exact refuses_result fun _ ↦ refuses_requireCertain
  | acquireGpu target => exact refuses_result fun _ ↦ refuses_requireCertain

/-- What was confirmed when the last call returned, and that an unconfirmed POST is the last. -/
structure Confirms (default : String) (s : (object default).State (Log Op)) : Prop where
  acquired : ∀ target restored, s.last = some ⟨.acquireGpu target, .ok restored⟩ →
    targetOf default target = .ok restored ∧ Acquired default restored s.world
  released : ∀ target, s.last = some ⟨.releaseGpu target, .ok ()⟩ → Released default s.world
  closed : Closed (object default) (fun _ _ _ ↦ True) (confirms default) s

theorem certain_of_fresh {default : String} {s : Lifecycle} {log : Log Op} (h : Fresh s log) :
    Certain (confirms default) s log := by
  obtain ⟨rfl, rfl⟩ := h
  exact fun _ ↦ rfl

/-- Prism confirms every transition in every run. -/
theorem confirms_of_reachable {default : String} {s : (object default).State (Log Op)}
    (hs : ((object default).serial (recording fun _ _ _ ↦ True) Fresh).ReachableVia
      (AsyncObject.Meets (recording fun _ _ _ ↦ True)) s) : Confirms default s := by
  have h := (confirmedSpec default).holds (fun _ _ ↦ certain_of_fresh)
    (hs.mono fun _ _ hmeets ↦ ⟨hmeets, fun _ _ ↦ trivial⟩)
  exact {
    acquired := fun target restored hlast ↦ (h.post _ _ hlast).2.2
    released := fun target hlast ↦ (h.post _ _ hlast).2.2
    closed := closed_of_holds (confirmedSpec default) (fun _ _ ↦ id) (fun _ _ _ _ h ↦ h.1)
      (fun _ _ _ ↦ id) (refuses default) h }

end StProxy.Prism
