import StProxy.Multi.Broker

/-!
# What holds in every run of the broker

The attributes of `MultiBackend` agree with the history of the coordinator: the active target
is the one that was reported last, and an unload that is owed is remembered.
-/

namespace StProxy.Multi.Broker

open Async History
open Coordinator (Faithful Pays InFlight Onward)

variable {P Out : Type}

abbrev Event (Out : Type) : Type := Coordinator.Event MultiTarget Out UnloadEvent

/-- The coordinator was reached with what is assumed of its adapter. -/
abbrev Reached (cfg : BrokerConfig) (c : Handoff Out) : Prop :=
  (Coordinator.system MultiTarget Out UnloadEvent cfg).ReachableVia
    (fun c a ↦ Faithful c a ∧ Pays cfg Settled c a) c

/-- The active target is the one that was reported last. -/
def Reported (log : List (Event Out)) (active : Option MultiTarget) : Prop :=
  ∀ t, Latest Coordinator.Event.isLifecycle (Coordinator.Event.reports t) log →
    active.getD ⟨none, ""⟩ = t

/-- What holds of the method in flight. -/
def Aloft (c : Handoff Out) (llm : MultiBackend P) : Flight P Out → Prop
  | .idle => ∀ by_ asked, c.point.call = some (by_, asked) → methodOf asked = none
  | .awaiting op a k => ∃ by_ asked active, c.point.call = some (by_, asked) ∧
      methodOf asked = some op ∧ Awaits (unloading P) (Unfinished op active) (Finished op active)
        a k llm (duty owes c.log)
  | .ended reply => ∃ by_ asked op r, c.point.call = some (by_, asked) ∧
      methodOf asked = some op ∧ reply = replyOf op r ∧ Promised op r llm (duty owes c.log)

structure Sound (cfg : BrokerConfig) (s : Broker P Out) : Prop where
  reached : Reached cfg s.coordinator
  remembers : Owes s.llm (duty owes s.coordinator.log)
  reported : Reported s.coordinator.log s.llm.active
  targets : ∀ n t, (s.coordinator.chats n).target = some t → t.engine ≠ none
  flight : Aloft s.coordinator s.llm s.flight

/-! ## The history -/

section Log

variable {cfg : BrokerConfig} {c c' : Handoff Out} {l : List (Event Out)} {e : Event Out}

theorem forgives_settled :
    Coordinator.Forgives (Settled : List (Event Out) → Prop) where
  nil := rfl
  cons e log he h := by
    refine duty_cons_of_clear (fun hincurs ↦ ?_) h
    cases e with
    | routerFailed n => cases he
    | backend e => cases e <;> cases hincurs
    | _ => cases hincurs

theorem owes_eq_none (he : e.foreign = false) : owes e = none := by
  cases e with
  | routerFailed n => cases he
  | backend e => cases he
  | _ => rfl

theorem duty_onward (h : Onward c c') : duty owes c'.log = duty owes c.log := by
  obtain ⟨l, hlog, hl⟩ := h.log
  rw [hlog]
  refine duty_append fun e he ↦ owes_eq_none ?_
  have honward := hl e he
  cases e <;> first | rfl | cases honward

theorem reported_onward {active : Option MultiTarget} (h : Onward c c')
    (hc : Reported c.log active) : Reported c'.log active := by
  intro t ht
  obtain ⟨l, hlog, hl⟩ := h.log
  rw [hlog] at ht
  rcases latest_of_append ht with ⟨e, he, -, hreports⟩ | ht
  · have honward := hl e he
    cases e with
    | finished by_ asked r => cases honward
    | _ => cases hreports
  · exact hc t ht

/-- The latest event of the lifecycle is the start of the call in flight. -/
theorem reported_inFlight {active : Option MultiTarget} (h : InFlight c) {by_ : Coordinator.Routine}
    {asked : Coordinator.Call MultiTarget} (hcall : c.point.call = some (by_, asked))
    (hlife : asked.isLifecycle = true) : Reported c.log active := by
  intro t ht
  obtain ⟨l, rest, hlog, hl⟩ := h by_ asked hcall
  rw [hlog] at ht
  have hstarted : Coordinator.Event.isLifecycle (.started by_ asked : Event Out) = true := hlife
  have ht := (latest_append fun e he ↦
    Coordinator.Event.not_lifecycle_of_meanwhile (hl e he).1).mp ht
  cases (latest_cons_of_pos hstarted).mp ht

/-! ## Records -/

theorem record_point (e : Option UnloadEvent) : (record e c).point = c.point := by
  cases e <;> rfl

theorem record_chats (e : Option UnloadEvent) : (record e c).chats = c.chats := by
  cases e <;> rfl

theorem duty_record (e : Option UnloadEvent) :
    duty owes (record e c).log = nextDuty e (duty owes c.log) := by
  cases e <;> rfl

theorem reported_record {active : Option MultiTarget} (e : Option UnloadEvent)
    (h : Reported c.log active) : Reported (record e c).log active := by
  cases e with
  | none => exact h
  | some e => exact fun t ht ↦ h t ((latest_cons_of_neg rfl).mp ht)

/-- An action other than a reply meets what is assumed of the adapter. -/
theorem assumed {a : HandoffAction Out} (ha : ∀ r, a ≠ .reply r) :
    Faithful c a ∧ Pays cfg Settled c a :=
  ⟨fun _ _ _ _ h ↦ absurd h (ha _), fun _ _ _ _ h ↦ absurd h (ha _)⟩

theorem reached_record (e : Option UnloadEvent) (h : Reached cfg c) :
    Reached cfg (record e c) := by
  cases e with
  | none => exact h
  | some e => exact .next (a := .backend e) h (assumed nofun) rfl

theorem inFlight_of_reached (h : Reached cfg c) : InFlight c :=
  Coordinator.inFlight_of_reachable h.reachable

end Log

/-! ## The methods -/

section Methods

variable {cfg : BrokerConfig} {c c' : Handoff Out} {llm : MultiBackend P}
  {by_ : Coordinator.Routine} {asked : Coordinator.Call MultiTarget} {op : Op}

theorem lifecycle_of_not_reads (hop : methodOf asked = some op) (hreads : op.reads = false) :
    asked.isLifecycle = true := by
  cases asked <;> first | rfl | (cases hop <;> cases hreads)

theorem isLlm_of_method (hop : methodOf asked = some op) : asked.isLlm = true := by
  cases asked <;> first | rfl | cases hop

theorem stop_sound {active : Option MultiTarget} (hreached : Reached cfg c)
    (htargets : ∀ n t, (c.chats n).target = some t → t.engine ≠ none)
    (hcall : c.point.call = some (by_, asked)) (hop : methodOf asked = some op)
    (hreported : op.reads = true → Reported c.log active) {p : Method P op.Ret}
    (hp : p.wp (unloading P) (Unfinished op active) (Finished op active) llm (duty owes c.log)) :
    Sound cfg (stop c op (p.resume llm)) := by
  have hlatest (llm' : MultiBackend P) (hactive : op.reads = true → llm'.active = active) :
      Reported c.log llm'.active := by
    cases hreads : op.reads with
    | true =>
        rw [hactive hreads]
        exact hreported hreads
    | false =>
        exact reported_inFlight (inFlight_of_reached hreached) hcall
          (lifecycle_of_not_reads hop hreads)
  have h := wp_resume hp
  generalize p.resume llm = x at h
  obtain ⟨llm', r | ⟨a, k⟩⟩ := x
  · obtain ⟨howes, hactive, hpromised⟩ := h
    exact ⟨hreached, howes, hlatest llm' hactive, htargets,
      by_, asked, op, r, hcall, hop, rfl, hpromised⟩
  · obtain ⟨⟨howes, hactive⟩, -⟩ := h _ rfl
    have hrecord := (duty_record (c := c) a.starting).symm
    refine ⟨reached_record _ hreached, ?_, reported_record _ (hlatest llm' hactive), ?_, ?_⟩
    · exact hrecord ▸ howes
    · exact fun n t ht ↦ htargets n t (by rwa [stop, record_chats] at ht)
    · refine ⟨by_, asked, active, (congrArg Coordinator.Point.call (record_point _)).trans hcall,
        hop, ?_⟩
      exact hrecord ▸ h

variable [EmptyCollection P]

theorem launch_sound (hreached : Reached cfg c) (howes : Owes llm (duty owes c.log))
    (hreported : Reported c.log llm.active)
    (htargets : ∀ n t, (c.chats n).target = some t → t.engine ≠ none) :
    Sound cfg (launch c llm) := by
  unfold launch
  split
  · next op hop =>
      obtain ⟨⟨by_, asked⟩, hcall, hop⟩ := Option.bind_eq_some_iff.mp hop
      exact stop_sound hreached htargets hcall hop (fun _ ↦ hreported) (wp_method op howes)
  · next hnone =>
      refine ⟨hreached, howes, hreported, htargets, fun by_ asked hcall ↦ ?_⟩
      rwa [hcall] at hnone

theorem dispatch_sound {a : HandoffAction Out} (hreached : Reached cfg c)
    (howes : Owes llm (duty owes c.log)) (hreported : Reported c.log llm.active)
    (htargets : ∀ n t, (c.chats n).target = some t → t.engine ≠ none)
    (ha : a.resumes = true) (hok : Faithful c a ∧ Pays cfg Settled c a)
    (hreply : ∀ by_ asked r t, c.point.call = some (by_, asked) → a = .reply r →
      asked.isLifecycle = true → (Coordinator.Event.finished by_ asked r : Event Out).reports t →
        llm.active.getD ⟨none, ""⟩ = t)
    (hs : Coordinator.step cfg c a = some c') : Sound cfg (launch c' llm) := by
  have hreached' : Reached cfg c' := .next hreached hok hs
  rcases Onward.of_step ha hs with honward | ⟨by_, asked, e, hcall, he, honward⟩
  · refine launch_sound hreached' ?_ (reported_onward honward hreported)
      fun n t ht ↦ htargets n t ((honward.target n).symm.trans ht)
    rwa [duty_onward honward]
  · refine launch_sound hreached' ?_ (reported_onward honward fun t ht ↦ ?_)
      fun n t ht ↦ htargets n t ((honward.target n).symm.trans ht)
    · have hnone : owes e = none := by
        rcases he with rfl | ⟨r, -, rfl⟩ <;> rfl
      rwa [duty_onward honward, duty_cons_of_none hnone]
    · cases hlife : e.isLifecycle with
      | false => exact hreported t ((latest_cons_of_neg hlife).mp ht)
      | true =>
          have hreports := (latest_cons_of_pos hlife).mp ht
          rcases he with rfl | ⟨r, rfl, rfl⟩
          · cases hreports
          · exact hreply by_ asked r t hcall rfl hlife hreports

end Methods

/-! ## The leases -/

section Leases

variable {cfg : BrokerConfig} {s s' : Broker P Out} {n : ℕ}

/-- While a lease is held no method is in flight. -/
theorem Sound.idle (h : Sound cfg s) (hn : (s.coordinator.chats n).granted = true) :
    s.flight = .idle := by
  have hex := Coordinator.exclusive_of_reachable h.reached.reachable
  have hnone {by_ : Coordinator.Routine} {asked : Coordinator.Call MultiTarget} {op : Op}
      (hcall : s.coordinator.point.call = some (by_, asked)) (hop : methodOf asked = some op) :
      False :=
    (hex.active_of_granted hn).ne' (hex.drained_of_call hcall (isLlm_of_method hop))
  have hflight := h.flight
  cases hf : s.flight with
  | idle => rfl
  | awaiting op a k =>
      rw [hf] at hflight
      obtain ⟨by_, asked, active, hcall, hop, -⟩ := hflight
      exact (hnone hcall hop).elim
  | ended reply =>
      rw [hf] at hflight
      obtain ⟨by_, asked, op, r, hcall, hop, -⟩ := hflight
      exact (hnone hcall hop).elim

/-- The target of a lease is what the coordinator and `MultiBackend` believe to be loaded. -/
theorem Sound.lease (h : Sound cfg s) {t : MultiTarget}
    (hn : (s.coordinator.chats n).granted = true)
    (ht : (s.coordinator.chats n).target = some t) :
    s.coordinator.owner = .llm ∧ s.coordinator.restorePoint = some t ∧ s.llm.active = some t := by
  obtain ⟨howner, htarget⟩ :=
    Coordinator.lease_onTarget (h.reached.mono fun _ _ hok ↦ hok.1) hn
  have hrestore := htarget t ht
  obtain ⟨r, hr, hlatest⟩ := (Coordinator.believes_of_reachable h.reached.reachable).owner howner
  obtain rfl : r = t := Option.some.inj (hr.symm.trans hrestore)
  refine ⟨howner, hrestore, ?_⟩
  have hactive := h.reported r hlatest
  cases ha : s.llm.active with
  | none =>
      rw [ha] at hactive
      exact absurd (hactive ▸ rfl : r.engine = none) (h.targets n r ht)
  | some t' =>
      rw [ha] at hactive
      exact congrArg some hactive

theorem forwarding_eq_some {c : Handoff Out} {t : MultiTarget} (h : forwarding c n = some t) :
    (c.chats n).granted = true ∧ (c.chats n).target = some t := by
  unfold forwarding at h
  split at h
  · next hheld => exact ⟨hheld.2, h⟩
  · cases h

end Leases

/-! ## The steps -/

section Steps

variable {cfg : BrokerConfig} {s s' : Broker P Out}

theorem Aloft.congr {c c' : Handoff Out} {llm : MultiBackend P} {flight : Flight P Out}
    (h : Aloft c llm flight) (hpoint : c'.point = c.point)
    (hduty : duty owes c'.log = duty owes c.log) : Aloft c' llm flight := by
  cases flight with
  | idle => exact fun by_ asked hcall ↦ h by_ asked (hpoint ▸ hcall)
  | awaiting op a k =>
      unfold Aloft
      rwa [hpoint, hduty]
  | ended reply =>
      unfold Aloft
      rwa [hpoint, hduty]

theorem Sound.client (h : Sound cfg s) {a : HandoffAction Out} {c : Handoff Out}
    (ha : a.resumes = false) (halters : a.alters = false)
    (hs : Coordinator.step cfg s.coordinator a = some c) :
    Sound cfg { s with coordinator := c } := by
  have hframe := Coordinator.client_frame ha halters hs
  obtain ⟨l, hlog, hl⟩ := Coordinator.client_log ha halters hs
  have hduty : duty owes c.log = duty owes s.coordinator.log := by
    rw [hlog]
    exact duty_append fun e he ↦ owes_eq_none (hl e he).2
  refine ⟨.next h.reached (assumed fun r hr ↦ ?_) hs, hduty ▸ h.remembers, fun t ht ↦ ?_,
    fun n t ht ↦ ?_, h.flight.congr (congrArg (·.1) hframe) hduty⟩
  · subst hr
    cases ha
  · rw [hlog] at ht
    exact h.reported t ((latest_append fun e he ↦
      Coordinator.Event.not_lifecycle_of_meanwhile (hl e he).1).mp ht)
  · exact h.targets n t ((congrFun (congrArg (·.2.1) hframe) n).symm.trans ht)

/-- A lease is asked for, with a target of some engine. -/
theorem Sound.chatLease (h : Sound cfg s) {target : Option MultiTarget} {c : Handoff Out}
    {e : Engine} (htarget : target.bind MultiTarget.engine = some e)
    (hs : Coordinator.step cfg s.coordinator (.chatLease target) = some c) :
    Sound cfg { s with coordinator := c } := by
  have hreached : Reached cfg c := .next h.reached (assumed (a := .chatLease target) nofun) hs
  obtain ⟨t, rfl, he⟩ := Option.bind_eq_some_iff.mp htarget
  simp only [Coordinator.step] at hs
  split at hs
  · cases hs
  · cases hs
    obtain ⟨error, heq⟩ | ⟨-, heq⟩ := Coordinator.chatLease_call s.coordinator (some t)
    · rw [heq]
      exact h
    rw [heq] at hreached ⊢
    refine ⟨hreached, h.remembers, fun t' ht' ↦ h.reported t' ((latest_cons_of_neg rfl).mp ht'), ?_,
      h.flight.congr rfl rfl⟩
    intro n t' ht'
    by_cases hn : n = s.coordinator.sequence + 1
    · subst hn
      obtain rfl : t = t' := by simpa [Coordinator.appendQueued] using ht'
      simp [he]
    · exact h.targets n t' (by simpa [Coordinator.appendQueued, hn] using ht')

/-- A request to KoboldCpp has failed. -/
theorem Sound.routerRequestFailed (h : Sound cfg s) {n : ℕ} {t : MultiTarget} {c : Handoff Out}
    (ht : forwarding s.coordinator n = some t) (he : t.engine = some .koboldcpp)
    (hs : Coordinator.step cfg s.coordinator (.routerRequestFailed n) = some c) :
    Sound cfg { s with coordinator := c, llm := requestFailed t s.llm } := by
  obtain ⟨hn, htarget⟩ := forwarding_eq_some ht
  have hreached : Reached cfg c := .next h.reached (assumed (a := .routerRequestFailed n) nofun) hs
  obtain ⟨-, -, hactive⟩ := h.lease hn htarget
  have hidle := h.idle hn
  simp only [Coordinator.step, Coordinator.routerRequestFailed] at hs
  split at hs <;> cases hs
  refine ⟨hreached, h.remembers.incurs hactive he, fun t' ht' ↦ ?_, h.targets, ?_⟩
  · have hkeeps : (requestFailed t s.llm).active = s.llm.active := by
      rw [requestFailed, if_pos he]
    rw [hkeeps]
    exact h.reported t' ((latest_cons_of_neg rfl).mp ht')
  · have hflight := h.flight
    rw [hidle] at hflight
    rwa [hidle]

theorem Sound.requestFailed (h : Sound cfg s) {n : ℕ} {t : MultiTarget}
    (ht : forwarding s.coordinator n = some t) :
    Sound cfg { s with llm := requestFailed t s.llm } := by
  obtain ⟨hn, -⟩ := forwarding_eq_some ht
  have hactive : (Multi.requestFailed t s.llm).active = s.llm.active := by
    unfold Multi.requestFailed
    split <;> rfl
  refine ⟨h.reached, h.remembers.requestFailed t, hactive ▸ h.reported, h.targets, ?_⟩
  have hflight := h.flight
  rw [h.idle hn] at hflight
  rwa [h.idle hn]

theorem Sound.answer (h : Sound cfg s) {op : Op} {a : Call P} {k : Answer a → Method P op.Ret}
    (hf : s.flight = .awaiting op a k) (r : Answer a) :
    Sound cfg (stop (record (a.ending r) s.coordinator) op ((k r).resume s.llm)) := by
  have hflight := h.flight
  rw [hf] at hflight
  obtain ⟨by_, asked, active, hcall, hop, hawaits⟩ := hflight
  obtain ⟨⟨-, hactive⟩, hk⟩ := hawaits _ rfl
  refine stop_sound (reached_record _ h.reached) (fun n t ht ↦ h.targets n t ?_)
    ((congrArg Coordinator.Point.call (record_point _)).trans hcall) hop (fun hreads ↦ ?_)
    (hk r _ (duty_record _))
  · rwa [record_chats] at ht
  · exact reported_record _ (hactive hreads ▸ h.reported)

variable [EmptyCollection P]

/-- A method returns to the dispatcher. -/
theorem Sound.returned (h : Sound cfg s) {reply : Coordinator.Reply MultiTarget Out}
    (hf : s.flight = .ended reply) {c : Handoff Out}
    (hs : Coordinator.step cfg s.coordinator (.reply reply) = some c) :
    Sound cfg (launch c s.llm) := by
  have hflight := h.flight
  rw [hf] at hflight
  obtain ⟨by_, asked, op, r, hcall, hop, rfl, hpromised⟩ := hflight
  refine dispatch_sound h.reached h.remembers h.reported h.targets rfl ⟨?_, ?_⟩ ?_ hs
  · intro n target t hp ht
    rw [hp] at hcall
    cases hcall
    cases hop
    cases r with
    | error e => cases ht
    | ok t' =>
        cases ht
        exact (Option.some.inj hpromised.1).symm
  · intro by' asked' reply' hcall' hreply hconfirms
    cases hcall.symm.trans hcall'
    cases hreply
    refine (duty_cons_of_none rfl).trans ?_
    cases asked <;> cases hop <;> cases r <;> first
      | exact hconfirms.elim
      | exact hpromised
      | exact hpromised.2.2
      | skip
    case observeReady.refl.ok o =>
      cases o with
      | none => exact hpromised
      | some t => exact hconfirms.elim
  · intro by' asked' reply' t hcall' hreply _ hreports
    cases hcall.symm.trans hcall'
    cases hreply
    cases asked <;> cases hop <;> cases r <;> first
      | cases hreports
      | skip
    case observeReady.refl.ok o =>
      cases o with
      | none => cases hreports
      | some t' => exact hpromised.symm.trans (Coordinator.Event.reports_observed.mp hreports)
    case snapshotReady.refl.ok t' =>
      exact hpromised.symm.trans ((@Coordinator.Event.reports_acquired MultiTarget Out UnloadEvent
        _ by_ .snapshotReady t t').mp hreports)
    case acquireGpu.refl.ok t' =>
      rw [hpromised.2.1]
      exact Coordinator.Event.reports_acquired.mp hreports

theorem Sound.dispatch (h : Sound cfg s) {a : HandoffAction Out} {c : Handoff Out}
    (e : Option UnloadEvent) (hs : Coordinator.step cfg (record e s.coordinator) a = some c)
    (ha : a.resumes = true) (hreply : ∀ r, a ≠ .reply r) : Sound cfg (launch c s.llm) := by
  have hnext : duty owes s.coordinator.log = .clear →
      duty owes (record e s.coordinator).log = .clear := fun hclear ↦ by
    rw [duty_record, hclear, nextDuty_clear]
  refine dispatch_sound (reached_record e h.reached) (h.remembers.mono hnext)
    (reported_record e h.reported) (fun n t ht ↦ h.targets n t ?_) ha (assumed hreply) ?_ hs
  · rwa [record_chats] at ht
  · exact fun _ _ r _ _ hr ↦ absurd hr (hreply r)

theorem Sound.reply (h : Sound cfg s) (hf : s.flight = .idle)
    {r : Coordinator.Reply MultiTarget Out} {c : Handoff Out}
    (hs : Coordinator.step cfg s.coordinator (.reply r) = some c) :
    Sound cfg (launch c s.llm) := by
  have hnone : ∀ by_ asked, s.coordinator.point.call = some (by_, asked) →
      methodOf asked = none := by
    have hflight := h.flight
    rwa [hf] at hflight
  refine dispatch_sound h.reached h.remembers h.reported h.targets rfl ⟨?_, ?_⟩ ?_ hs
  · intro n target t hp _
    cases hnone _ _ (congrArg Coordinator.Point.call hp)
  · intro by_ asked r' hcall _ hconfirms
    have hmethod := hnone by_ asked hcall
    cases asked <;> first | exact hconfirms.elim | cases hmethod
  · intro by_ asked r' t hcall _ hlife
    have hmethod := hnone by_ asked hcall
    cases asked <;> first | (cases hmethod; done) | cases hlife

theorem Sound.initialize (h : Sound cfg s) {a : HandoffAction Out} {c : Handoff Out}
    (ha : a = .startup ∨ a = .cancelStartup)
    (hs : Coordinator.step cfg s.coordinator a = some c) : Sound cfg (launch c s.llm) := by
  have hreached : Reached cfg c := by
    refine .next h.reached (assumed fun r hr ↦ ?_) hs
    subst hr
    rcases ha with ha | ha <;> cases ha
  have hrecords (e : Event Out) (he : owes e = none) (hreports : ∀ t, e.reports t = false)
      (hchats : c.chats = s.coordinator.chats) (hlog : c.log = e :: s.coordinator.log) :
      Sound cfg (launch c s.llm) := by
    refine launch_sound hreached ?_ (fun t ht ↦ ?_) (hchats ▸ h.targets)
    · rw [hlog, duty_cons_of_none he]
      exact h.remembers
    · rw [hlog] at ht
      cases hlife : e.isLifecycle with
      | false => exact h.reported t ((latest_cons_of_neg hlife).mp ht)
      | true => cases (hreports t).symm.trans ((latest_cons_of_pos hlife).mp ht)
  rcases ha with rfl | rfl
  · simp only [Coordinator.step, Coordinator.startup] at hs
    split at hs <;> cases hs
    unfold Coordinator.initializeStart at hreached hrecords ⊢
    split
    · next hdriven =>
        rw [if_pos hdriven] at hreached
        exact launch_sound hreached h.remembers h.reported h.targets
    · next hdriven =>
        rw [if_neg hdriven] at hrecords
        exact hrecords _ rfl (fun _ ↦ rfl) rfl rfl
  · simp only [Coordinator.step, Coordinator.cancelStartup] at hs
    split at hs
    · obtain ⟨call, -, rfl⟩ := Option.map_eq_some_iff.mp hs
      exact hrecords (.interrupted call.1 call.2) rfl (fun _ ↦ rfl) rfl rfl
    · cases hs

/-- Each step keeps the broker sound. -/
theorem Sound.coordinate (h : Sound cfg s) {a : HandoffAction Out}
    (hs : coordinate cfg s a = some s') : Sound cfg s' := by
  cases a with
  | backend e => cases hs
  | reply r =>
      simp only [Broker.coordinate] at hs
      split at hs
      · next hf =>
          obtain ⟨c, hc, rfl⟩ := Option.map_eq_some_iff.mp hs
          exact h.reply hf hc
      · cases hs
  | wake | timeout | fault e =>
      obtain ⟨c, hc, rfl⟩ := Option.map_eq_some_iff.mp hs
      exact h.dispatch none hc rfl nofun
  | deliverCancel =>
      obtain ⟨c, hc, rfl⟩ := Option.map_eq_some_iff.mp hs
      exact h.dispatch _ hc rfl nofun
  | startup =>
      obtain ⟨c, hc, rfl⟩ := Option.map_eq_some_iff.mp hs
      exact h.initialize (.inl rfl) hc
  | cancelStartup =>
      obtain ⟨c, hc, rfl⟩ := Option.map_eq_some_iff.mp hs
      exact h.initialize (.inr rfl) hc
  | chatLease target =>
      simp only [Broker.coordinate] at hs
      split at hs
      · next e htarget =>
          obtain ⟨c, hc, rfl⟩ := Option.map_eq_some_iff.mp hs
          exact h.chatLease htarget hc
      · cases hs
  | routerRequestFailed n =>
      simp only [Broker.coordinate] at hs
      split at hs
      · next t ht =>
          split at hs
          · next he =>
              obtain ⟨c, hc, rfl⟩ := Option.map_eq_some_iff.mp hs
              exact h.routerRequestFailed ht he hc
          · cases hs
      · cases hs
  | refreshRestorePoint r =>
      obtain ⟨c, hc, rfl⟩ := Option.map_eq_some_iff.mp hs
      have hreached := TransitionSystem.ReachableVia.next h.reached
        (assumed (a := .refreshRestorePoint r) nofun) hc
      simp only [Coordinator.step, Coordinator.refreshRestorePoint] at hc
      split at hc
      · split at hc <;> cases hc
        exact ⟨hreached, h.remembers, h.reported, h.targets, h.flight.congr rfl rfl⟩
      · cases hc
  | _ =>
      simp only [Broker.coordinate] at hs
      obtain ⟨c, hc, rfl⟩ := Option.map_eq_some_iff.mp hs
      exact h.client rfl rfl hc

theorem Sound.step (h : Sound cfg s) {a : Action P Out} (hs : step cfg s a = some s') :
    Sound cfg s' := by
  cases a with
  | coordinator a => exact h.coordinate hs
  | requestFailed n =>
      obtain ⟨t, ht, rfl⟩ := Option.map_eq_some_iff.mp hs
      exact h.requestFailed ht
  | answer r =>
      simp only [Broker.step] at hs
      split at hs
      · next op a k hf =>
          split at hs <;> cases hs
          exact h.answer hf (r a)
      · cases hs
  | returned =>
      simp only [Broker.step] at hs
      split at hs
      · next reply hf =>
          obtain ⟨c, hc, rfl⟩ := Option.map_eq_some_iff.mp hs
          exact h.returned hf hc
      · cases hs

end Steps

/-- Every run of the broker is sound. -/
theorem sound_of_reachable [EmptyCollection P] {cfg : BrokerConfig} {s : Broker P Out}
    (hs : (system P Out cfg).Reachable s) : Sound cfg s := by
  refine hs.invariant ?_ fun _ _ _ _ h _ hstep ↦ h.step hstep
  rintro _ rfl
  exact ⟨.start rfl, .initial, fun _ ht ↦ absurd ht not_latest_nil, nofun, nofun⟩

end StProxy.Multi.Broker
