import StProxy.Kobold.Backend

/-!
# What KoboldCpp confirms

`_wait_for_model` polls the model name and the version until they show the state that is
waited for.  A model name that could not be read shows no state, but a wait for the
unloaded state takes it for one.
-/

namespace StProxy.Kobold

open Async Llm

/-- The answers to one poll of `_wait_for_model`. -/
abbrev Poll : Type := Except Raised Response × Except Raised ℕ

/-- The polls of a record, newest first. -/
def pollsOf : Log → List Poll
  | ⟨.version, ready⟩ :: ⟨.model, model⟩ :: log => (model, ready) :: pollsOf log
  | _ :: log => pollsOf log
  | [] => []

section Polls

variable (cfg : Settings)

/-- The model name that was read. -/
def nameRead : Except Raised Response → Option String
  | .ok response => ((modelPayload response).bind (nameOf cfg)).toOption
  | .error _ => none

/-- The version endpoint answered below 400. -/
def Answered : Except Raised ℕ → Prop
  | .ok status => status < 400
  | .error _ => False

instance (ready : Except Raised ℕ) : Decidable (Answered ready) :=
  match ready with
  | .ok status => inferInstanceAs (Decidable (status < 400))
  | .error _ => isFalse not_false

def Inactive (name : String) : Prop := name = "" ∨ cfg.text.lower name ∈ inactiveModelNames

/-- A poll that read no active model. -/
def ShowsUnloaded (poll : Poll) : Prop :=
  (∃ name, nameRead cfg poll.1 = some name ∧ Inactive cfg name) ∧ Answered poll.2

/-- A poll that read the active model that is expected. -/
def ShowsLoaded (expected : Option String) (poll : Poll) : Prop :=
  (∃ name, nameRead cfg poll.1 = some name ∧ ¬Inactive cfg name ∧
    ∀ model ∈ expected, name = model) ∧ Answered poll.2

/-- A poll that could not read the model name of a server that answers. -/
def Blind (poll : Poll) : Prop := nameRead cfg poll.1 = none ∧ Answered poll.2

instance (poll : Poll) : Decidable (Blind cfg poll) := inferInstanceAs (Decidable (_ ∧ _))

/-- The reload was accepted. -/
def Accepted : Except Raised (ℕ × Option Json) → Prop
  | .ok (status, some (.obj payload)) => status < 400 ∧ Json.get payload "success" = .bool true
  | _ => False

/-- The record has an accepted reload and a later poll with the property. -/
def ConfirmedAfter (filename : String) (P : Poll → Prop) (log : Log) : Prop :=
  ∃ after before a, log = after ++ ⟨.reload filename, a⟩ :: before ∧ Accepted a ∧
    ∃ poll ∈ pollsOf after, P poll

/-- The lifecycle methods return only what a poll confirmed. -/
structure LifecycleConfirmed (answers : Log → (c : Call) → Answer c) : Prop where
  released : ∀ target s log, (releaseGpu cfg target).play answers () [] = (.ok (), s, log) →
    ConfirmedAfter "unload_model" (ShowsUnloaded cfg) log
  acquired : cfg.routerMode = false → ∀ target restored s log,
    (acquireGpu cfg target).play answers () [] = (.ok restored, s, log) →
      ∃ restore, target.mapM requireTarget = .ok restore ∧
        ConfirmedAfter "initial_model" (ShowsLoaded cfg (restore.map (·.model))) log
  observed : ∀ point s log, (observeReady cfg).play answers () [] = (.ok point, s, log) →
    ∃ poll ∈ pollsOf log, nameRead cfg poll.1 ≠ none

/-- The answers to a release. -/
def releaseLog (answers : Log → (c : Call) → Answer c) (target : RestorePoint) : Log :=
  ((releaseGpu cfg target).play answers () []).2.2

end Polls

variable {cfg : Settings} {log : Log}

/-! ## One poll -/

/-- What `_read_model_name` makes of an answer. -/
def readAnswer (cfg : Settings) (model : Except Raised Response) : Except Raised String :=
  ((model.bind modelPayload).mapError (translate label "model-state observation")).bind
    (nameOf cfg)

/-- What `_model_name` makes of an answer. -/
def heard (cfg : Settings) (model : Except Raised Response) : Except Raised (Option String) :=
  match readAnswer cfg model with
  | .ok name => .ok (some name)
  | .error e => if isUpstreamError e then .ok none else .error e

/-- What `_version_ready` makes of an answer. -/
def readyOf : Except Raised ℕ → Except Raised Bool
  | .ok status => .ok (status < 400)
  | .error (.client _) | .error .timeout => .ok false
  | .error e => .error e

lemma readModelName_eq :
    readModelName cfg = await Call.model >>= fun a ↦ result (readAnswer cfg a) := by
  refine congrArg (Async.call Call.model) (funext fun (a : Except Raised Response) ↦ ?_)
  change (handle _ (result a >>= fun response ↦ result (modelPayload response)) >>= fun payload ↦
    result (nameOf cfg payload)) = result (readAnswer cfg a)
  rw [result_bind_result, handle_reraise_result, result_bind_result]
  rfl

lemma modelName_eq : modelName cfg = await Call.model >>= fun a ↦ result (heard cfg a) := by
  unfold modelName
  rw [readModelName_eq]
  refine congrArg (Async.call Call.model) (funext fun a ↦ ?_)
  change handle _ (result (readAnswer cfg a) >>= fun name ↦ pure (some name)) =
    result (heard cfg a)
  unfold heard
  cases readAnswer cfg a with
  | ok name => rfl
  | error e =>
      change (if isUpstreamError e then _ else _) = result (if isUpstreamError e then _ else _)
      split <;> rfl

lemma versionReady_eq : versionReady = await Call.version >>= fun a ↦ result (readyOf a) := by
  refine congrArg (Async.call Call.version) (funext fun a ↦ ?_)
  obtain (e | typeName | _ | expired) | status := a <;> rfl

lemma nameRead_eq (a : Except Raised Response) : nameRead cfg a = (readAnswer cfg a).toOption := by
  obtain e | response := a
  · rfl
  · simp only [nameRead, readAnswer, Except.bind]
    cases modelPayload response <;> rfl

lemma nameRead_ne_none {a : Except Raised Response} {name : String}
    (h : readAnswer cfg a = .ok name) : nameRead cfg a ≠ none := by
  rw [nameRead_eq, h]
  exact nofun

lemma nameRead_of_heard {a : Except Raised Response} {model : Option String}
    (h : heard cfg a = .ok model) : nameRead cfg a = model := by
  rw [nameRead_eq]
  unfold heard at h
  cases hread : readAnswer cfg a with
  | ok name =>
      simp only [hread, Except.ok.injEq] at h
      exact h
  | error e =>
      simp only [hread] at h
      split at h
      · simp only [Except.ok.injEq] at h
        exact h
      · cases h

lemma answered_of_readyOf {a : Except Raised ℕ} {ready : Bool} (h : readyOf a = .ok ready) :
    ready = true ↔ Answered a := by
  obtain (e | typeName | _ | expired) | status := a
  · cases h
  · cases h
    simp [Answered]
  · cases h
    simp [Answered]
  · cases h
  · cases h
    simp [Answered]

/-- The wait ends with the poll. -/
def Ends (cfg : Settings) (loaded : Bool) (expected : Option String) (poll : Poll) : Prop :=
  Answered poll.2 ∧ isLoaded cfg (nameRead cfg poll.1) = loaded ∧
    expectedReady loaded expected (nameRead cfg poll.1) = true

lemma isActive_iff {name : String} : isActive cfg name = true ↔ ¬Inactive cfg name := by
  simp [isActive, Inactive]

lemma ends_loaded {expected : Option String} {poll : Poll} :
    Ends cfg true expected poll ↔ ShowsLoaded cfg expected poll := by
  unfold Ends ShowsLoaded isLoaded expectedReady
  cases nameRead cfg poll.1 with
  | none => simp
  | some name =>
      cases expected with
      | none => simp [isActive_iff, and_comm]
      | some model => simp [isActive_iff, and_comm]

lemma ends_unloaded {poll : Poll} :
    Ends cfg false none poll ↔ ShowsUnloaded cfg poll ∨ Blind cfg poll := by
  unfold Ends ShowsUnloaded Blind isLoaded expectedReady
  cases nameRead cfg poll.1 with
  | none => simp
  | some name =>
      have hactive : isActive cfg name = false ↔ Inactive cfg name := by
        rw [← not_iff_not, ← isActive_iff, Bool.not_eq_false]
      simp [hactive, and_comm]

/-- A poll that shows a state read the model name. -/
lemma not_blind_of_showsUnloaded {poll : Poll} (h : ShowsUnloaded cfg poll) :
    ¬Blind cfg poll := by
  obtain ⟨⟨name, hname, -⟩, -⟩ := h
  rintro ⟨hnone, -⟩
  rw [hname] at hnone
  cases hnone

/-! ## The wait -/

/-- The wait ends with the first poll that ends it. -/
def Waited (cfg : Settings) (loaded : Bool) (expected : Option String) (start : Log)
    (r : Except Raised (Option String)) (log : Log) : Prop :=
  ∃ after, log = after ++ start ∧ match r with
    | .ok model => ∃ poll polls, pollsOf after = poll :: polls ∧ nameRead cfg poll.1 = model ∧
        Ends cfg loaded expected poll ∧ ∀ poll ∈ polls, ¬Ends cfg loaded expected poll
    | .error _ => ∀ poll ∈ pollsOf after, ¬Ends cfg loaded expected poll

abbrev Runs {α : Type} (p : Method α) (log : Log) (Q : Except Raised α → Log → Prop) : Prop :=
  p.wp (recording fun _ _ _ ↦ True) (fun _ _ _ ↦ True) (fun r _ log ↦ Q r log) () log

/-- The rule of a call whose answer is checked. -/
lemma runs_call {c : Call} {α β : Type} {g : Answer c → Except Raised β} {f : β → Method α}
    {Q : Except Raised α → Log → Prop}
    (hok : ∀ a b, g a = .ok b → Runs (f b) (⟨c, a⟩ :: log) Q)
    (herror : ∀ a e, g a = .error e → Q (.error e) (⟨c, a⟩ :: log)) :
    Runs ((await c >>= fun a ↦ result (g a)) >>= f) log Q := by
  refine wp_bind (wp_bind (wp_record trivial fun a _ ↦ wp_result ?_))
  cases hg : g a with
  | ok b => exact hok a b hg
  | error e => exact herror a e hg

lemma runs_poll {loaded : Bool} {expected : Option String} {start : Log} (n : ℕ)
    (after : Log) (h : ∀ poll ∈ pollsOf after, ¬Ends cfg loaded expected poll) :
    Runs (pollModel cfg loaded expected n) (after ++ start)
      (Waited cfg loaded expected start) := by
  induction n generalizing after with
  | zero => exact wp_raise ⟨after, rfl, h⟩
  | succ n ih =>
      unfold pollModel
      rw [modelName_eq, versionReady_eq]
      refine runs_call (fun a model hheard ↦ runs_call (fun v ready hready ↦ ?_) fun v e hv ↦ ?_)
        fun a e _ ↦ ⟨⟨.model, a⟩ :: after, rfl, h⟩
      · have hends : Ends cfg loaded expected (a, v) ↔
            (ready && isLoaded cfg model == loaded &&
              expectedReady loaded expected model) = true := by
          simp only [Ends, nameRead_of_heard hheard, ← answered_of_readyOf hready,
            Bool.and_eq_true, beq_iff_eq, and_assoc]
        split_ifs with hstop
        · exact wp_pure ⟨⟨.version, v⟩ :: ⟨.model, a⟩ :: after, rfl, (a, v), pollsOf after, rfl,
            nameRead_of_heard hheard, hends.mpr hstop, h⟩
        · have hpolls : ∀ poll ∈ pollsOf (⟨.version, v⟩ :: ⟨.model, a⟩ :: after),
              ¬Ends cfg loaded expected poll :=
            List.forall_mem_cons.mpr ⟨fun hpoll ↦ hstop (hends.mp hpoll), h⟩
          refine wp_bind (wp_record trivial fun w _ ↦ wp_bind (wp_result ?_))
          obtain e | u := w
          · exact ⟨⟨.sleep, .error e⟩ :: ⟨.version, v⟩ :: ⟨.model, a⟩ :: after, rfl, hpolls⟩
          · exact ih (⟨.sleep, .ok u⟩ :: ⟨.version, v⟩ :: ⟨.model, a⟩ :: after) hpolls
      · refine ⟨⟨.version, v⟩ :: ⟨.model, a⟩ :: after, rfl, List.forall_mem_cons.mpr ⟨?_, h⟩⟩
        rintro ⟨hanswered, -⟩
        obtain e | status := v
        · exact hanswered
        · cases hv

lemma pollsOf_append {start : Log} (h : ∀ a rest, start ≠ ⟨.model, a⟩ :: rest) (after : Log) :
    pollsOf (after ++ start) = pollsOf after ++ pollsOf start := by
  induction after using pollsOf.induct with
  | case1 ready model after ih =>
      change (model, ready) :: pollsOf (after ++ start) = _
      rw [ih]
      rfl
  | case2 e after hne ih =>
      rw [pollsOf.eq_2 e after hne, List.cons_append, pollsOf.eq_2 e (after ++ start), ih]
      rintro ready model rest rfl hrest
      obtain _ | ⟨e', after⟩ := after
      · exact h _ _ hrest
      · cases hrest
        exact hne _ _ _ rfl rfl
  | case3 => rfl

lemma runs_waitForModel {loaded : Bool} {expected : Option String} :
    Runs (waitForModel cfg loaded expected) log fun r log' ↦
      ∃ n, Waited cfg loaded expected (⟨.polls .confirmation, n⟩ :: log) r log' := by
  refine wp_timedOut (wp_within (wp_bind (wp_record trivial fun n _ ↦ ?_)) ?_) ?_
  · exact wp_mono (runs_poll n [] nofun) fun _ _ _ h ↦ ⟨n, h⟩
  · exact fun _ _ _ _ h ↦ h
  · exact fun _ _ _ _ h ↦ h

/-! ## Reloads -/

lemma accepted_of_checkReload {filename : String} {a : Except Raised (ℕ × Option Json)}
    (h : a.bind (checkReload filename) = .ok ()) : Accepted a := by
  obtain e | ⟨status, body⟩ := a
  · cases h
  · simp only [Except.bind, checkReload] at h
    split_ifs at h with hstatus
    split at h
    · cases h
    · next payload =>
        split at h
        · next hsuccess => exact ⟨by omega, hsuccess⟩
        · cases h
    · cases h

lemma runs_reloadConfig {filename : String} {deadline : Deadline} :
    Runs (reloadConfig filename deadline) log fun r log' ↦
      ∃ a, log' = ⟨.reload filename, a⟩ :: log ∧ (r = .ok () → Accepted a) := by
  refine wp_translating (wp_within (wp_bind (wp_record trivial fun a _ ↦ wp_bind
    (wp_result ?_))) ?_) ?_
  · obtain e | response := a
    · exact ⟨_, rfl, nofun⟩
    · exact wp_result ⟨_, rfl, fun h ↦ accepted_of_checkReload h⟩
  · rintro e e' s log' ⟨a, rfl, -⟩
    exact ⟨a, rfl, nofun⟩
  · rintro e e' s log' ⟨a, rfl, -⟩
    exact ⟨a, rfl, nofun⟩

/-- The record since the reload was accepted, whose last poll ended the wait. -/
structure Settled (cfg : Settings) (loaded : Bool) (expected : Option String)
    (a : Except Raised (ℕ × Option Json)) (after : Log) (model : Option String) : Prop where
  accepted : Accepted a
  ended : ∃ poll polls, pollsOf after = poll :: polls ∧ nameRead cfg poll.1 = model ∧
    Ends cfg loaded expected poll ∧ ∀ poll ∈ polls, ¬Ends cfg loaded expected poll

lemma runs_reload_wait {filename : String} {deadline : Deadline} {loaded : Bool}
    {expected : Option String} {α : Type} {f : Option String → Method α}
    {Q : Except Raised α → Log → Prop}
    (hok : ∀ a after model, Settled cfg loaded expected a after model →
      Runs (f model) (after ++ ⟨.reload filename, a⟩ :: log) Q)
    (herror : ∀ e log', (∀ poll ∈ pollsOf log', poll ∈ pollsOf log ∨
      ¬Ends cfg loaded expected poll) → Q (.error e) log') :
    Runs (reloadConfig filename deadline >>= fun _ ↦ waitForModel cfg loaded expected >>= f) log
      Q := by
  refine wp_bind (wp_mono runs_reloadConfig ?_)
  rintro (e | u) _ _ ⟨a, rfl, haccepted⟩
  · exact herror e _ fun poll hpoll ↦ .inl hpoll
  · refine wp_bind (wp_mono runs_waitForModel ?_)
    rintro (e | model) _ _ ⟨n, after, rfl, hr⟩
    · refine herror e _ fun poll hpoll ↦ ?_
      rw [pollsOf_append (by rintro _ _ ⟨⟩)] at hpoll
      rcases List.mem_append.mp hpoll with hpoll | hpoll
      · exact .inr (hr poll hpoll)
      · exact .inl hpoll
    · change Runs (f model) _ Q
      rw [List.append_cons]
      refine hok a _ model ⟨haccepted rfl, ?_⟩
      rw [pollsOf_append (by rintro _ _ ⟨⟩)]
      simpa [pollsOf] using hr

/-! ## The methods -/

lemma ConfirmedAfter.mem {filename : String} {P : Poll → Prop}
    (h : ConfirmedAfter filename P log) : ∃ poll ∈ pollsOf log, P poll := by
  obtain ⟨after, before, a, rfl, -, poll, hpoll, hP⟩ := h
  refine ⟨poll, ?_, hP⟩
  rw [pollsOf_append (by rintro _ _ ⟨⟩)]
  exact List.mem_append_left _ hpoll

/-- The unload is confirmed unless the poll that ended the wait was blind. -/
lemma Settled.confirmed_iff {a : Except Raised (ℕ × Option Json)} {after : Log}
    {model : Option String} (h : Settled cfg false none a after model) :
    ConfirmedAfter "unload_model" (ShowsUnloaded cfg) (after ++ [⟨.reload "unload_model", a⟩]) ↔
      ¬∃ poll ∈ pollsOf (after ++ [⟨.reload "unload_model", a⟩]), Blind cfg poll := by
  obtain ⟨haccepted, poll, polls, hpolls, -, hends, hrest⟩ := h
  have hlog : pollsOf (after ++ [⟨.reload "unload_model", a⟩]) = poll :: polls := by
    rw [pollsOf_append (by rintro _ _ ⟨⟩), hpolls]
    exact List.append_nil _
  have hlast {p : Poll} (hp : p ∈ poll :: polls) (hends : Ends cfg false none p) : p = poll := by
    rcases List.mem_cons.mp hp with rfl | hp
    · rfl
    · exact absurd hends (hrest p hp)
  constructor
  · rintro hconfirmed ⟨p, hp, hblind⟩
    obtain ⟨q, hq, hshows⟩ := hconfirmed.mem
    rw [hlog] at hp hq
    obtain rfl := hlast hp (ends_unloaded.mpr (.inr hblind))
    obtain rfl := hlast hq (ends_unloaded.mpr (.inl hshows))
    exact not_blind_of_showsUnloaded hshows hblind
  · intro hblind
    refine ⟨after, [], a, rfl, haccepted, poll, by simp [hpolls], ?_⟩
    rcases ends_unloaded.mp hends with hshows | hpoll
    · exact hshows
    · exact absurd ⟨poll, by simp [hlog], hpoll⟩ hblind

/-- A release returns after a blind poll, and is confirmed without one. -/
lemma runs_releaseGpu {target : RestorePoint} :
    Runs (releaseGpu cfg target) [] fun r log ↦
      ((∃ poll ∈ pollsOf log, Blind cfg poll) → r = .ok ()) ∧ (r = .ok () →
        (ConfirmedAfter "unload_model" (ShowsUnloaded cfg) log ↔
          ¬∃ poll ∈ pollsOf log, Blind cfg poll)) := by
  refine wp_bind (wp_result ?_)
  cases requireTarget target with
  | error e => exact ⟨nofun, nofun⟩
  | ok restore =>
      refine runs_reload_wait (fun a after model hsettled ↦
        wp_pure ⟨fun _ ↦ rfl, fun _ ↦ hsettled.confirmed_iff⟩) ?_
      rintro e log h
      refine ⟨?_, nofun⟩
      rintro ⟨poll, hpoll, hblind⟩
      rcases h poll hpoll with hnil | hends
      · cases hnil
      · exact absurd (ends_unloaded.mpr (.inr hblind)) hends

lemma runs_loadInitial {restore : Option KoboldCppRestorePoint} :
    Runs (loadInitial cfg restore) [] fun r log ↦ ∀ restored, r = .ok restored →
      ConfirmedAfter "initial_model" (ShowsLoaded cfg (restore.map (·.model))) log := by
  refine runs_reload_wait (fun a after model hsettled ↦ wp_bind (wp_result ?_)) fun e _ _ ↦ nofun
  obtain ⟨haccepted, poll, polls, hpolls, -, hends, -⟩ := hsettled
  cases known "model load" "model is unknown" model with
  | error e => exact nofun
  | ok model => exact wp_pure fun _ _ ↦ ⟨after, [], a, rfl, haccepted, poll, by simp [hpolls],
      ends_loaded.mp hends⟩

lemma runs_acquireGpu (hrouter : cfg.routerMode = false) {target : Option RestorePoint} :
    Runs (acquireGpu cfg target) [] fun r log ↦ ∀ restored, r = .ok restored →
      ∃ restore, target.mapM requireTarget = .ok restore ∧
        ConfirmedAfter "initial_model" (ShowsLoaded cfg (restore.map (·.model))) log := by
  refine wp_bind (wp_result ?_)
  cases target.mapM requireTarget with
  | error e => exact nofun
  | ok restore =>
      simp only [hrouter, Bool.false_eq_true, if_false]
      exact wp_mono runs_loadInitial fun r _ log h restored hr ↦ ⟨restore, rfl, h restored hr⟩

/-- `observe_ready` raises when the model name cannot be read. -/
lemma runs_observeReady :
    Runs (observeReady cfg) [] fun r log ↦ ∀ point, r = .ok point →
      ∃ poll ∈ pollsOf log, nameRead cfg poll.1 ≠ none := by
  unfold observeReady
  rw [readModelName_eq, versionReady_eq]
  refine runs_call (fun a name hname ↦ runs_call (fun v ready _ ↦ ?_) fun v e _ ↦ nofun)
    fun a e _ ↦ nofun
  cases ready with
  | false => exact wp_raise nofun
  | true =>
      refine wp_pure fun _ _ ↦ ⟨(a, v), List.mem_singleton.mpr rfl, ?_⟩
      exact nameRead_ne_none hname

/-- The lifecycle methods return only on confirmation exactly if no poll of a release is
blind. -/
theorem lifecycleConfirmed_iff (cfg : Settings) (answers : Log → (c : Call) → Answer c) :
    LifecycleConfirmed cfg answers ↔
      ∀ target, ∀ poll ∈ pollsOf (releaseLog cfg answers target), ¬Blind cfg poll := by
  have hrelease (target : RestorePoint) :=
    wp_play answers (@runs_releaseGpu cfg target)
      fun _ _ ↦ trivial
  constructor
  · intro h target poll hpoll hblind
    have hreturns := (hrelease target).1 ⟨poll, hpoll, hblind⟩
    have hconfirmed := h.released target _ _ (Prod.ext hreturns rfl)
    exact ((hrelease target).2 hreturns).mp hconfirmed ⟨poll, hpoll, hblind⟩
  · intro h
    refine ⟨fun target s log hplay ↦ ?_, fun hrouter target restored s log hplay ↦ ?_,
      fun point s log hplay ↦ ?_⟩
    · have hlog : releaseLog cfg answers target = log := by rw [releaseLog, hplay]
      have hiff := (hrelease target).2 (by rw [hplay])
      rw [hplay] at hiff
      refine hiff.mpr ?_
      rintro ⟨poll, hpoll, hblind⟩
      exact h target poll (hlog ▸ hpoll) hblind
    · have hacquire := wp_play answers (@runs_acquireGpu cfg hrouter target)
        fun _ _ ↦ trivial
      rw [hplay] at hacquire
      exact hacquire restored rfl
    · have hobserve := wp_play answers (@runs_observeReady cfg)
        fun _ _ ↦ trivial
      rw [hplay] at hobserve
      exact hobserve point rfl

/-- A server whose model endpoint fails while its other endpoints answer. -/
def failingModel (_ : Log) : (c : Call) → Answer c
  | .reload _ => .ok (200, some (.obj [("success", .bool true)]))
  | .model => .ok ⟨500, .null⟩
  | .version => .ok 200
  | .sleep => .ok ()
  | .polls _ => (1 : ℕ)

/-- A release takes HTTP 500 from the model endpoint for the unloaded state. -/
theorem lifecycleConfirmed_fails_blind :
    ¬LifecycleConfirmed ⟨false, ⟨id, id, fun _ ↦ none, fun _ ↦ false⟩, fun _ ↦ ""⟩
      failingModel := by
  intro h
  obtain ⟨poll, hpoll, hshows⟩ := (h.released (.koboldcpp ⟨"model"⟩) _ _ rfl).mem
  obtain rfl := List.mem_singleton.mp hpoll
  exact not_blind_of_showsUnloaded hshows ⟨rfl, by decide⟩

end StProxy.Kobold
