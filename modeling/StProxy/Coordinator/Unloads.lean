import StProxy.Coordinator.Believed

/-!
# The unload after a failed request in router mode

The calls of the coordinator to the KoboldCpp adapter as attempts to pay the unload that a
failed request demands.
-/

namespace StProxy.Coordinator

open History

variable {RP Out BE : Type}

/-- What an event means for the unload that is owed. -/
def Event.unloads : Event RP Out BE → Option DutyEvent
  | .routerFailed _ => some .incurs
  | .started _ (.releaseGpu _) => some .starts
  | .finished _ (.releaseGpu _) .done => some .pays
  | .finished _ (.releaseGpu _) _ | .interrupted _ (.releaseGpu _) => some .fails
  | _ => none

/-- No unload is owed. -/
def Unloaded (log : List (Event RP Out BE)) : Prop := duty Event.unloads log = .clear

theorem forgives_unloaded : Forgives (Unloaded : List (Event RP Out BE) → Prop) where
  nil := rfl
  cons e log he h := by
    refine duty_cons_of_clear (fun hincurs ↦ ?_) h
    unfold Event.unloads at hincurs
    split at hincurs <;> simp [Event.isRouterFailure] at he hincurs

theorem unloads_of_meanwhile {e : Event RP Out BE} (he : e.meanwhile = true)
    (hfailure : e.isRouterFailure = false) : e.unloads = none := by
  cases e with
  | routerFailed n => cases hfailure
  | started by_ call | finished by_ call reply | interrupted by_ call => cases he
  | _ => rfl

/-- An unload that was started and returns pays. -/
theorem unloaded_of_release {s : State RP Out BE} (h : InFlight s) {by_ : Routine} {restore : RP}
    (hcall : s.point.call = some (by_, .releaseGpu restore)) :
    Unloaded (.finished by_ (.releaseGpu restore) .done :: s.log) := by
  obtain ⟨l, rest, hlog, hl⟩ := h by_ _ hcall
  have hnone : ∀ e ∈ l, e.unloads = none := fun e he ↦
    unloads_of_meanwhile (hl e he).1 ((hl e he).2 rfl)
  rw [Unloaded, duty, hlog, duty_append hnone, duty]
  cases duty Event.unloads rest <;> rfl

/-- In router mode every unload that returns was asked for by the coordinator. -/
theorem pays_of_router {cfg : BrokerConfig} (hrouter : cfg.koboldRouterMode = true)
    {s : State RP Out BE} (h : InFlight s) (a : Action RP Out BE) : Pays cfg Unloaded s a := by
  intro by_ call r hcall _ hconfirms
  unfold Confirms at hconfirms
  split at hconfirms
  · exact unloaded_of_release h hcall
  · exact absurd (hrouter.symm.trans hconfirms) Bool.false_ne_true.symm
  · exact absurd (hrouter.symm.trans hconfirms) Bool.false_ne_true.symm
  · exact hconfirms.elim

section
variable [DecidableEq RP] {cfg : BrokerConfig} {s : State RP Out BE}

theorem inFlight_of_reachable (hs : (system RP Out BE cfg).Reachable s) : InFlight s :=
  (((wellFormed_inductive.extend exclusive_inductive).extend
    inFlight_inductive).reachableVia hs).2.2

theorem believes_of_reachable (hs : (system RP Out BE cfg).Reachable s) : Believes s :=
  (((wellFormed_inductive.extend exclusive_inductive).extend
    believes_inductive).reachableVia hs).2.2

/-- Whatever is given the GPU in router mode, no unload is owed. -/
theorem owing_of_router (hrouter : cfg.koboldRouterMode = true)
    (hs : (system RP Out BE cfg).Reachable s) : Owing cfg Unloaded s :=
  ((((wellFormed_inductive.extend exclusive_inductive).extend inFlight_inductive).extend
    (owing_inductive forgives_unloaded (fun _ h ↦ h.1.2)
      fun _ a h _ ↦ pays_of_router hrouter h.2 a)).reachableVia hs).2.2

end

/-- A grant after a failed request follows an unload that was started after the failure. -/
theorem Owing.paid {cfg : BrokerConfig} {s : State RP Out BE}
    {kind : Event RP Out BE → Option DutyEvent}
    (h : Owing cfg (fun log ↦ duty kind log = .clear) s)
    (hkind : ∀ n, kind (.routerFailed n) = some .incurs) {e : Event RP Out BE}
    {rest older : List (Event RP Out BE)} {n : ℕ} (hgrants : e.grants = true)
    (hgrant : e :: rest <:+ s.log) (hfailed : .routerFailed n :: older <:+ rest) :
    Paid kind rest (.routerFailed n :: older) :=
  paid_of_clear (h.always e rest hgrant hgrants) (hkind n) hfailed

end StProxy.Coordinator
