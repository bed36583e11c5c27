import StProxy.Coordinator.Reported
import StProxy.Multi.Saved
import StProxy.Multi.Sound
import StProxy.Strata.Backend

/-!
# The serialized modes

One model request runs at a time.  Where the leases carry a target it runs on that target, and
after a failed request to KoboldCpp nobody is given the GPU before an unload.
-/

namespace StProxy.Multi

open Async History
open Coordinator (State Action Faithful)

/-! ## What the adapters return -/

/-- Strata returns the restore point it was given. -/
theorem strata_loads (kind : BackendKind) (restore : Strata.StrataRestorePoint) :
    (Strata.acquireGpu kind (some (.strata restore))).Returns (· = restore) := by
  have htarget : (Strata.targetOf kind (some (.strata restore))).Returns (· = restore) := by
    unfold Strata.targetOf
    dsimp only
    split
    · refine returns_bind fun health ↦ ?_
      unfold Strata.checkTarget
      split
      · exact rfl
      · trivial
    · trivial
  refine returns_bind fun _ ↦ returns_then htarget fun r hr ↦ returns_bind fun observed ↦ ?_
  subst hr
  cases observed with
  | some _ => exact rfl
  | none => exact returns_bind fun _ ↦ rfl

section
variable {RP Out BE σ C E : Type} {R : C → Type}

/-- What `_restore_llm` is told that an adapter loaded is what its `acquire_gpu` returns. -/
def Answers (acquire : RP → Async σ C R E RP) (s : State RP Out BE) (a : Action RP Out BE) : Prop :=
  ∀ n target r, s.point = .restoreAcquireTarget n target → a = .reply (.acquired r) →
    (acquire target).Yields r

theorem Answers.faithful {acquire : RP → Async σ C R E RP} {s : State RP Out BE}
    {a : Action RP Out BE} (hloads : ∀ target r, (acquire target).Yields r → r = target)
    (h : Answers acquire s a) : Faithful s a :=
  fun n target r hp ha ↦ hloads target r (h n target r hp ha)

/-- At most one lease is held. -/
def OneLease (s : State RP Out BE) : Prop :=
  s.activeChats ≤ 1 ∧
    ∀ m n, (s.chats m).granted = true → (s.chats n).granted = true → m = n

/-- The LLM owns the GPU, and the restore point is the target of the lease. -/
def LeaseHolds (s : State RP Out BE) (n : ℕ) (target : RP) : Prop :=
  (s.chats n).granted = true → (s.chats n).target = some target →
    s.owner = .llm ∧ s.restorePoint = some target

variable [DecidableEq RP] {cfg : BrokerConfig} {s : State RP Out BE}

theorem oneLease_of_reachable (hserialized : cfg.serialized = true)
    (hs : (Coordinator.system RP Out BE cfg).Reachable s) : OneLease s := by
  have hex := Coordinator.exclusive_of_reachable hs
  have hsingle := hex.single hserialized
  refine ⟨hsingle, fun m n hm hn ↦ ?_⟩
  obtain ⟨granted, hgranted, hcard⟩ := hex.counted
  have hone : granted.card ≤ 1 := hcard ▸ hsingle
  exact Finset.card_le_one.mp hone m ((hgranted m).mpr hm) n ((hgranted n).mpr hn)

theorem leaseHolds_of_answers {acquire : RP → Async σ C R E RP}
    (hloads : ∀ target r, (acquire target).Yields r → r = target)
    (hs : (Coordinator.system RP Out BE cfg).ReachableVia (Answers acquire) s) (n : ℕ)
    (target : RP) : LeaseHolds s n target := by
  intro hn htarget
  obtain ⟨howner, hon⟩ :=
    Coordinator.lease_onTarget (hs.mono fun _ _ ↦ Answers.faithful hloads) hn
  exact ⟨howner, hon target htarget⟩

end

/-! ## One request on its target -/

/-- `acquire_gpu` of Prism with a target. -/
def prismAcquire (default : String) (target : Prism.PrismRestorePoint) :
    Llm.Method Prism.Op Prism.PrismRestorePoint :=
  Prism.acquireGpu default (some (.prism target))

/-- `acquire_gpu` of Strata with a target. -/
def strataAcquire (kind : BackendKind) (target : Strata.StrataRestorePoint) :
    Llm.Method Strata.Op Strata.StrataRestorePoint :=
  Strata.acquireGpu kind (some (.strata target))

theorem eq_of_prismAcquire (default : String) (target r : Prism.PrismRestorePoint)
    (h : (prismAcquire default target).Yields r) : r = target := by
  have hmodel := (prism_loads default target).of_yields h
  cases r
  cases target
  exact congrArg _ hmodel

/-- In the serialized modes at most one lease is held.  With Prism, with Strata and in mode
`all` it is held on its target, which is the model that was loaded last. -/
theorem one_model_at_a_time :
    (∀ (RP Out BE : Type) [DecidableEq RP] (cfg : BrokerConfig) (s : State RP Out BE),
      cfg.serialized = true → (Coordinator.system RP Out BE cfg).Reachable s → OneLease s) ∧
    (∀ (Out BE : Type) (default : String) (cfg : BrokerConfig)
      (s : State Prism.PrismRestorePoint Out BE),
      (Coordinator.system _ Out BE cfg).ReachableVia (Answers (prismAcquire default)) s →
        ∀ n target, LeaseHolds s n target) ∧
    (∀ (Out BE : Type) (kind : BackendKind) (cfg : BrokerConfig)
      (s : State Strata.StrataRestorePoint Out BE),
      (Coordinator.system _ Out BE cfg).ReachableVia (Answers (strataAcquire kind)) s →
        ∀ n target, LeaseHolds s n target) ∧
    ∀ (P Out : Type) [EmptyCollection P] (cfg : BrokerConfig) (s : Broker P Out),
      (Broker.system P Out cfg).Reachable s →
        (cfg.llmBackend = .all → OneLease s.coordinator) ∧
        ∀ n target, (s.coordinator.chats n).granted = true →
          (s.coordinator.chats n).target = some target →
            s.coordinator.owner = .llm ∧ s.coordinator.restorePoint = some target ∧
              s.llm.active = some target := by
  refine ⟨fun RP Out BE _ cfg s hserialized hs ↦ oneLease_of_reachable hserialized hs,
    fun Out BE default cfg s hs ↦ leaseHolds_of_answers (eq_of_prismAcquire default) hs,
    fun Out BE kind cfg s hs ↦
      leaseHolds_of_answers (fun target _ ↦ (strata_loads kind target).of_yields) hs,
    fun P Out _ cfg s hs ↦ ?_⟩
  have hsound := Broker.sound_of_reachable hs
  refine ⟨fun hall ↦ oneLease_of_reachable ?_ hsound.reached.reachable,
    fun n target hn ht ↦ hsound.lease hn ht⟩
  exact BrokerConfig.serialized_of_reserves (by simp [BrokerConfig.reserves, hall])

/-! ## Granted leases -/

section
variable {RP : Type}

/-- A lease is asked for; ComfyUI is cleaned and the control endpoint validated for it. -/
def leaseRun (target : Option RP) : List (Action RP Unit Empty) :=
  [.startup, .chatLease target, .wake, .reply .done, .reply .done]

theorem answers_leaseRun {σ C E : Type} {R : C → Type} (acquire : RP → Async σ C R E RP)
    (target : Option RP) : ∀ a ∈ leaseRun target, ∀ s, Answers acquire s a := by
  intro a ha s n target r _ hr
  subst hr
  simp [leaseRun] at ha

theorem lease_reachable [DecidableEq RP] {σ C E : Type} {R : C → Type}
    {acquire : RP → Async σ C R E RP} {cfg : BrokerConfig} {s s' : State RP Unit Empty}
    {target : RP} {n : ℕ}
    (hs : (Coordinator.system RP Unit Empty cfg).exec .initial (leaseRun (some target)) = some s)
    (hpoint : s.point = .restoreAcquireTarget n target)
    (hs' : Coordinator.step cfg s (.reply (.acquired target)) = some s')
    (hyields : (acquire target).Yields target) :
    (Coordinator.system RP Unit Empty cfg).ReachableVia (Answers acquire) s' := by
  have hreached : (Coordinator.system RP Unit Empty cfg).ReachableVia (Answers acquire) s :=
    TransitionSystem.exec_reachableVia (.start rfl)
      (TransitionSystem.execOk_of_forall (answers_leaseRun acquire _) _) hs
  refine .next (a := .reply (.acquired target)) hreached (fun m t r hp hr ↦ ?_) hs'
  cases hr
  cases hpoint.symm.trans hp
  exact hyields

end

def routerLeaseState : State ℕ Unit Empty :=
  ((Coordinator.system ℕ Unit Empty Coordinator.routerConfig).exec .initial
    (leaseRun none ++ [.reply (.acquired 7)])).get (by decide)

def prismConfig : BrokerConfig :=
  { Coordinator.koboldConfig with llmBackend := .prism, router_koboldcpp := nofun }

def prismAcquiringState : State Prism.PrismRestorePoint Unit Empty :=
  ((Coordinator.system _ Unit Empty prismConfig).exec .initial
    (leaseRun (some ⟨"m"⟩))).get (by decide)

def prismLeaseState : State Prism.PrismRestorePoint Unit Empty :=
  (Coordinator.step prismConfig prismAcquiringState (.reply (.acquired ⟨"m"⟩))).get (by decide)

def strataConfig : BrokerConfig :=
  { Coordinator.koboldConfig with llmBackend := .orca, router_koboldcpp := nofun }

def strataAcquiringState : State Strata.StrataRestorePoint Unit Empty :=
  ((Coordinator.system _ Unit Empty strataConfig).exec .initial
    (leaseRun (some ⟨"m", .orca⟩))).get (by decide)

def strataLeaseState : State Strata.StrataRestorePoint Unit Empty :=
  (Coordinator.step strataConfig strataAcquiringState
    (.reply (.acquired ⟨"m", .orca⟩))).get (by decide)

theorem prismAcquire_yields : (prismAcquire "m" ⟨"m"⟩).Yields ⟨"m"⟩ :=
  Exists.intro ⟨false⟩ (Exists.intro (.ok ⟨200, .obj [("data", .arr [.obj [("id", .str "m"),
    ("status", .obj [("value", .str "loaded")])]])]⟩) rfl)

theorem strataAcquire_yields :
    (strataAcquire .orca ⟨"m", .orca⟩).Yields ⟨"m", .orca⟩ :=
  Exists.intro ⟨false⟩ (Exists.intro (.ok ⟨200, .obj [("service", .str "strata"),
    ("status", .str "ok"), ("loaded", .bool true), ("model", .str "m")]⟩)
    (Exists.intro ⟨false⟩ (Exists.intro (.ok ⟨200, .obj [("service", .str "strata"),
    ("status", .str "ok"), ("loaded", .bool true), ("model", .str "m")]⟩) rfl)))

def allConfig : BrokerConfig :=
  { Coordinator.koboldConfig with llmBackend := .all, router_koboldcpp := nofun }

/-- Adapters that find nothing loaded and do what they are asked. -/
def obliging : (c : Call (List ℕ)) → Answer c
  | .validateControl _ => .ok ()
  | .observeReady _ => .ok none
  | .releaseGpu _ target => (target, .ok ())
  | .requestTarget e model => .ok (.strata model e)
  | .acquireGpu _ target => .ok target

/-- A method that makes `n` calls. -/
def methodRun (n : ℕ) : List (Broker.Action (List ℕ) Unit) :=
  List.replicate n (.answer obliging) ++ [.returned]

/-- KoboldCpp loads the model of a lease. -/
def koboldRun : List (Broker.Action (List ℕ) Unit) :=
  [.coordinator .startup, .coordinator (.chatLease (some ⟨some .koboldcpp, "a"⟩)),
    .coordinator .wake, .coordinator (.reply .done)] ++ methodRun 7 ++ methodRun 7

def koboldLeaseState : Broker (List ℕ) Unit :=
  ((Broker.system (List ℕ) Unit allConfig).exec .initial koboldRun).get (by decide)

theorem one_model_at_a_time_leases :
    OneLease routerLeaseState ∧
      (prismLeaseState.owner = .llm ∧ prismLeaseState.restorePoint = some ⟨"m"⟩) ∧
      (strataLeaseState.owner = .llm ∧ strataLeaseState.restorePoint = some ⟨"m", .orca⟩) ∧
      OneLease koboldLeaseState.coordinator ∧
      koboldLeaseState.llm.active = some ⟨some .koboldcpp, "a"⟩ := by
  obtain ⟨hsingle, hprism, hstrata, hall⟩ := one_model_at_a_time
  have hkobold := hall (List ℕ) Unit allConfig koboldLeaseState
    (TransitionSystem.exec_get_reachable rfl (by decide))
  refine ⟨hsingle ℕ Unit Empty Coordinator.routerConfig routerLeaseState (by decide)
      (TransitionSystem.exec_get_reachable rfl (by decide)),
    hprism Unit Empty "m" prismConfig prismLeaseState ?_ 1 ⟨"m"⟩ (by decide) rfl,
    hstrata Unit Empty .orca strataConfig strataLeaseState ?_ 1 ⟨"m", .orca⟩ (by decide) rfl,
    hkobold.1 rfl, (hkobold.2 1 ⟨some .koboldcpp, "a"⟩ (by decide) rfl).2.2⟩
  · exact lease_reachable (s := prismAcquiringState) (n := 1) (Option.some_get _).symm rfl
      (Option.some_get _).symm prismAcquire_yields
  · exact lease_reachable (s := strataAcquiringState) (n := 1) (Option.some_get _).symm rfl
      (Option.some_get _).symm strataAcquire_yields

/-! ## An unload after a failed request -/

/-- After a failed request every grant follows an unload that was started after the failure
and was confirmed. -/
def ForcesUnload {RP Out BE : Type} (kind : Coordinator.Event RP Out BE → Option DutyEvent)
    (log : List (Coordinator.Event RP Out BE)) : Prop :=
  ∀ e rest n older, e.grants = true → e :: rest <:+ log → .routerFailed n :: older <:+ rest →
    Paid kind rest (.routerFailed n :: older)

theorem Broker.Sound.owing {P Out : Type} {cfg : BrokerConfig} {s : Broker P Out}
    (h : Broker.Sound cfg s) : Coordinator.Owing cfg Broker.Settled s.coordinator :=
  (((Coordinator.wellFormed_inductive.extend Coordinator.exclusive_inductive).extend
    (Coordinator.owing_inductive Broker.forgives_settled (fun _ hk ↦ hk.2)
      fun _ _ _ hok ↦ hok.2)).reachableVia h.reached).2.2

/-- A failed request to KoboldCpp forces a confirmed unload, in router mode and in mode `all`. -/
theorem failure_forces_unload :
    (∀ (RP Out BE : Type) [DecidableEq RP] (cfg : BrokerConfig) (s : State RP Out BE),
      cfg.koboldRouterMode = true → (Coordinator.system RP Out BE cfg).Reachable s →
        ForcesUnload Coordinator.Event.unloads s.log) ∧
    ∀ (P Out : Type) [EmptyCollection P] (cfg : BrokerConfig) (s : Broker P Out),
      (Broker.system P Out cfg).Reachable s → ForcesUnload Broker.owes s.coordinator.log := by
  refine ⟨fun RP Out BE _ cfg s hrouter hs e rest n older hgrants hgrant hfailed ↦ ?_,
    fun P Out _ cfg s hs e rest n older hgrants hgrant hfailed ↦ ?_⟩
  · have howing := Coordinator.owing_of_router hrouter hs
    exact howing.paid (fun _ ↦ rfl) hgrants hgrant hfailed
  · have howing := (Broker.sound_of_reachable hs).owing
    exact howing.paid (fun _ ↦ rfl) hgrants hgrant hfailed

/-- In router mode a request fails, and another lease is asked for. -/
def failedRouterRun : List (Action ℕ Unit Empty) :=
  leaseRun none ++ [.reply (.acquired 7), .chatWake 1, .routerRequestFailed 1, .chatExit 1,
    .chatLease none, .wake, .reply .done, .reply .done, .reply (.acquired 7)]

def regrantedRouterState : State ℕ Unit Empty :=
  ((Coordinator.system ℕ Unit Empty Coordinator.routerConfig).exec .initial
    failedRouterRun).get (by decide)

/-- A request to KoboldCpp fails, and a lease of TabbyAPI is asked for. -/
def failedKoboldRun : List (Broker.Action (List ℕ) Unit) :=
  koboldRun ++ [.coordinator (.chatWake 1), .requestFailed 1,
    .coordinator (.routerRequestFailed 1), .coordinator (.chatExit 1),
    .coordinator (.chatLease (some ⟨some .tabbyapi, "b"⟩)), .coordinator .wake] ++ methodRun 7

def tabbyLeaseState : Broker (List ℕ) Unit :=
  ((Broker.system (List ℕ) Unit allConfig).exec .initial failedKoboldRun).get (by decide)

theorem failure_forces_unload_regranted :
    Paid Coordinator.Event.unloads (regrantedRouterState.log.drop 2)
        (regrantedRouterState.log.drop 10) ∧
      Paid Broker.owes (tabbyLeaseState.coordinator.log.drop 2)
        (tabbyLeaseState.coordinator.log.drop 8) := by
  obtain ⟨hrouter, hall⟩ := failure_forces_unload
  constructor
  · exact hrouter ℕ Unit Empty Coordinator.routerConfig regrantedRouterState rfl
      (TransitionSystem.exec_get_reachable rfl (by decide)) (.chatGranted 2)
      (regrantedRouterState.log.drop 2) 1 (regrantedRouterState.log.drop 11) rfl
      ⟨regrantedRouterState.log.take 1, rfl⟩
      ⟨(regrantedRouterState.log.drop 2).take 8, rfl⟩
  · exact hall (List ℕ) Unit allConfig tabbyLeaseState
      (TransitionSystem.exec_get_reachable rfl (by decide)) (.chatGranted 2)
      (tabbyLeaseState.coordinator.log.drop 2) 1 (tabbyLeaseState.coordinator.log.drop 9) rfl
      ⟨tabbyLeaseState.coordinator.log.take 1, rfl⟩
      ⟨(tabbyLeaseState.coordinator.log.drop 2).take 6, rfl⟩

end StProxy.Multi
