import StProxy.Coordinator.Frames

/-!
# What the other tasks can do

The steps of the clients, of `initialize` and of `close`, one constructor for
each with everything that its guards have tested.
-/

namespace StProxy.Coordinator

variable {RP Out BE : Type}

/-- The actions that resume the dispatcher. -/
def Action.resumes : Action RP Out BE → Bool
  | .wake | .timeout | .fault _ | .reply _ | .deliverCancel => true
  | _ => false

/-- The steps of the other tasks. -/
inductive Clients (cfg : BrokerConfig) (s : State RP Out BE) : State RP Out BE → Prop
  | refused : Clients cfg s s
  | startup (hp : s.point = .unstarted) : Clients cfg s (initializeStart cfg s)
  | cancelStartup (by_ : Routine) (call : Call RP) (hp : s.point.isInitializing = true)
      (hcall : s.point.call = some (by_, call)) :
      Clients cfg s ((s.emit (.interrupted by_ call)).goto .initFailed)
  | chatLease (target : Option RP)
      (htarget : target.isSome = true → cfg.llmBackend.isManaged = true)
      (hclosing : s.closing = false) (hfatal : truthy s.fatalError = false) :
      Clients cfg s ((appendQueued ({ s with sequence := s.sequence + 1 }.setChat (s.sequence + 1)
        ⟨none, false, false, target, .waiting⟩) (.chat (s.sequence + 1))).emit
          (.chatAccepted (s.sequence + 1)))
  | chatEnter (n : ℕ) (error : Option String) (hclient : (s.chats n).client = .waiting)
      (hready : (s.chats n).ready = some error) (herror : truthy error = false) :
      Clients cfg s (s.setChat n { s.chats n with client := .inBody })
  | chatLeave (n : ℕ) (entered : Bool)
      (hclient : (s.chats n).client = if entered then .inBody else .waiting) :
      Clients cfg s (chatLeave s n entered)
  | routerFailed (n : ℕ) (hreserves : cfg.reserves = true)
      (hclient : (s.chats n).client = .inBody) (hgranted : (s.chats n).granted = true) :
      Clients cfg s ((markRecoverable s "KoboldCpp router request did not complete reliably").emit
        (.routerFailed n))
  | passiveEnter (hallowed : passiveAllowed cfg s = true) :
      Clients cfg s { s with
        activeLlmMetadata := s.activeLlmMetadata + 1
        passiveLeases := s.passiveLeases + 1 }
  | passiveExit (hheld : s.passiveLeases ≠ 0) :
      Clients cfg s { s with
        activeLlmMetadata := s.activeLlmMetadata - 1
        passiveLeases := s.passiveLeases - 1 }
  | routerControl (abort : Bool) (hallowed : routerControlAllowed s abort = true) :
      Clients cfg s { s with
        activeLlmMetadata := s.activeLlmMetadata + 1
        routerControls := s.routerControls + 1 }
  | routerControlExit (hheld : s.routerControls ≠ 0) :
      Clients cfg s { s with
        activeLlmMetadata := s.activeLlmMetadata - 1
        routerControls := s.routerControls - 1 }
  | control (hclosing : s.closing = false) (howner : s.owner = .comfy)
      (hstate : s.state = .comfyReady ∨ s.state = .imageActive) :
      Clients cfg s ({ s with activeComfyControls := s.activeComfyControls + 1 }.emit
        .controlGranted)
  | controlExit (hheld : s.activeComfyControls ≠ 0) :
      Clients cfg s ({ s with activeComfyControls := s.activeComfyControls - 1 }.emit
        .controlReleased)
  | submitImage (request : WorkflowRequest) (wantsCompletion : Bool)
      (hclosing : s.closing = false) (hfatal : truthy s.fatalError = false)
      (hcapacity : checkImageCapacity cfg s [request.body] = .ok ()) :
      Clients cfg s ((appendQueued ({ s with sequence := s.sequence + 1 }.setImage
        (s.sequence + 1) ⟨request, none, if wantsCompletion then some none else none, false,
          .waiting⟩) (.image (s.sequence + 1))).emit (.imagesAccepted [s.sequence + 1]))
  | imageWake (n : ℕ) (hclient : (s.images n).client = .waiting)
      (hsubmitted : (s.images n).submitted ≠ none) :
      Clients cfg s (s.setImage n { s.images n with client := .gone })
  | imageCancel (n : ℕ) (hclient : (s.images n).client = .waiting) :
      Clients cfg s (withdrawImage (s.setImage n { s.images n with client := .gone }) n
        "image request was cancelled")
  | imageBatch (bodies : List (List UInt8)) (hclosing : s.closing = false)
      (hfatal : truthy s.fatalError = false)
      (hcapacity : checkImageCapacity cfg s bodies = .ok ()) :
      Clients cfg s ({ appendBatch bodies s with
        batches := List.range' (s.sequence + 1) bodies.length :: (appendBatch bodies s).batches
        }.emit (.imagesAccepted (List.range' (s.sequence + 1) bodies.length)))
  | batchExit (works : List ℕ) (hworks : works ∈ s.batches) :
      Clients cfg s (works.foldl leaveBatchWork { s with batches := s.batches.erase works })
  | close : Clients cfg s (close s)
  | cancelClose (hclosing : s.closing = true) (halive : dispatcherAlive s = true) :
      Clients cfg s { s with cancelRequested := true }
  | refreshRestorePoint (n : ℕ) (restore r : RP) (hp : s.point = .activateRelease n restore)
      (hkind : cfg.llmBackend = .tabbyapi) : Clients cfg s { s with restorePoint := some r }
  | backend (e : BE) : Clients cfg s (s.emit (.backend e))

section
variable [DecidableEq RP] {cfg : BrokerConfig} {s s' : State RP Out BE}

theorem client_cases {a : Action RP Out BE} (ha : a.resumes = false)
    (hs : step cfg s a = some s') : Clients cfg s s' := by
  cases a with
  | wake | timeout | fault _ | reply _ | deliverCancel => cases ha
  | startup =>
      simp only [step, startup] at hs
      split at hs
      · next hp =>
          cases hs
          exact .startup hp
      · cases hs
  | cancelStartup =>
      simp only [step, cancelStartup] at hs
      split at hs
      · next hp =>
          obtain ⟨c, hcall, rfl⟩ := Option.map_eq_some_iff.mp hs
          exact .cancelStartup c.1 c.2 hp hcall
      · cases hs
  | chatLease target =>
      simp only [step] at hs
      split at hs
      · cases hs
      · next htarget =>
          cases hs
          obtain ⟨error, heq⟩ | ⟨⟨hclosing, hfatal⟩, heq⟩ := chatLease_call s target <;> rw [heq]
          · exact .refused
          · exact .chatLease target (by simpa using htarget) hclosing hfatal
  | chatWake n =>
      simp only [step, chatWake] at hs
      split at hs
      · next error hclient hready =>
          split at hs
          · cases hs
            exact .chatLeave n false hclient
          · next herror =>
              cases hs
              exact .chatEnter n error hclient hready (by simpa using herror)
      · cases hs
  | chatCancel n =>
      simp only [step, chatCancel] at hs
      split at hs
      · next hclient =>
          cases hs
          exact .chatLeave n false hclient
      · next hclient =>
          cases hs
          exact .chatLeave n true hclient
      · cases hs
  | chatExit n =>
      simp only [step, chatExit] at hs
      split at hs
      · next hclient =>
          cases hs
          exact .chatLeave n true hclient
      · cases hs
  | routerRequestFailed n =>
      simp only [step, routerRequestFailed] at hs
      split at hs
      · next hfailed =>
          cases hs
          simp only [Bool.and_eq_true, beq_iff_eq] at hfailed
          exact .routerFailed n hfailed.1.1 hfailed.1.2 hfailed.2
      · cases hs
  | passiveEnter =>
      simp only [step, passiveEnter] at hs
      cases hs
      split
      · next hallowed => exact .passiveEnter hallowed
      · exact .refused
  | passiveExit =>
      simp only [step, passiveExit] at hs
      split at hs
      · cases hs
      · next hheld =>
          cases hs
          exact .passiveExit hheld
  | routerControl abort =>
      simp only [step, routerControl] at hs
      cases hs
      split
      · next hallowed => exact .routerControl abort hallowed
      · exact .refused
  | routerControlExit =>
      simp only [step, routerControlExit] at hs
      split at hs
      · cases hs
      · next hheld =>
          cases hs
          exact .routerControlExit hheld
  | comfyControlLease =>
      cases hs
      obtain ⟨error, heq⟩ | ⟨hopen, howner, hstate, heq⟩ := comfyControlLease_call s <;> rw [heq]
      · exact .refused
      · exact .control hopen.1 howner hstate
  | comfyControlExit =>
      simp only [step, comfyControlExit] at hs
      split at hs
      · cases hs
      · next hheld =>
          cases hs
          exact .controlExit hheld
  | submitImage request wantsCompletion =>
      cases hs
      obtain ⟨error, heq⟩ | ⟨⟨hclosing, hfatal⟩, hcapacity, heq⟩ :=
        submitImage_call cfg s request wantsCompletion <;> rw [heq]
      · exact .refused
      · exact .submitImage request wantsCompletion hclosing hfatal hcapacity
  | imageWake n =>
      simp only [step, imageWake] at hs
      split at hs
      · next outcome hclient hsubmitted =>
          cases hs
          exact .imageWake n hclient (by simp [hsubmitted])
      · cases hs
  | imageCancel n =>
      simp only [step, imageCancel] at hs
      split at hs
      · next hclient =>
          cases hs
          exact .imageCancel n hclient
      · cases hs
  | imageBatch bodies =>
      cases hs
      obtain ⟨error, heq⟩ | ⟨⟨hclosing, hfatal⟩, hcapacity, heq⟩ :=
        imageBatch_call cfg s bodies <;> rw [heq]
      · exact .refused
      · exact .imageBatch bodies hclosing hfatal hcapacity
  | batchExit works =>
      simp only [step, batchExit] at hs
      split at hs
      · next hworks =>
          cases hs
          exact .batchExit works hworks
      · cases hs
  | close =>
      cases hs
      exact .close
  | cancelClose =>
      simp only [step] at hs
      split at hs
      · next halive =>
          cases hs
          rw [Bool.and_eq_true] at halive
          exact .cancelClose halive.1 halive.2
      · cases hs
  | refreshRestorePoint r =>
      simp only [step, refreshRestorePoint] at hs
      split at hs
      · next n restore hp =>
          split at hs
          · next hkind =>
              cases hs
              exact .refreshRestorePoint n restore r hp hkind
          · cases hs
      · cases hs
  | backend e =>
      cases hs
      exact .backend e

end

/-! ## What the dispatcher alone changes -/

/-- The events of clients and of futures, control leases apart. -/
def Event.byClient : Event RP Out BE → Bool
  | .chatAccepted _ | .imagesAccepted _ | .chatReleased _ | .imageCancelled _ | .routerFailed _
  | .resolved _ | .backend _ => true
  | _ => false

/-- A step taken beside the dispatcher. -/
structure Beside (s s' : State RP Out BE) : Prop where
  point : s'.point = s.point
  owner : s'.owner = s.owner
  fatalError : s'.fatalError = s.fatalError
  recoverable : s'.recoverableError = s.recoverableError ∨ truthy s'.recoverableError = true
  restorePoint : s'.restorePoint = s.restorePoint ∨
    ∃ n restore, s.point = .activateRelease n restore
  sequence : s.sequence ≤ s'.sequence
  queue : ∀ w ∈ s'.queue, w ∈ s.queue ∨ s.sequence < w.sequence
  ready : ∀ n r, n ≤ s.sequence → (s.chats n).ready = some r → (s'.chats n).ready = some r
  log : ∃ es, s'.log = es ++ s.log ∧ ∀ e ∈ es, e.byClient = true

namespace Beside

variable {s t u : State RP Out BE}

theorem refl (s : State RP Out BE) : Beside s s where
  point := rfl
  owner := rfl
  fatalError := rfl
  recoverable := .inl rfl
  restorePoint := .inl rfl
  sequence := Nat.le_refl _
  queue _ := .inl
  ready _ _ _ := id
  log := ⟨[], rfl, List.forall_mem_nil _⟩

theorem trans (h : Beside s t) (h' : Beside t u) : Beside s u where
  point := h'.point.trans h.point
  owner := h'.owner.trans h.owner
  fatalError := h'.fatalError.trans h.fatalError
  recoverable := by
    rcases h'.recoverable with heq | herror
    · rw [heq]
      exact h.recoverable
    · exact .inr herror
  restorePoint := by
    rcases h'.restorePoint with heq | hpoint
    · rw [heq]
      exact h.restorePoint
    · rw [h.point] at hpoint
      exact .inr hpoint
  sequence := Nat.le_trans h.sequence h'.sequence
  queue w hw := by
    rcases h'.queue w hw with hw | hw
    · exact h.queue w hw
    · exact .inr (Nat.lt_of_le_of_lt h.sequence hw)
  ready n r hn hr := h'.ready n r (Nat.le_trans hn h.sequence) (h.ready n r hn hr)
  log := by
    obtain ⟨es, hlog, hes⟩ := h.log
    obtain ⟨es', hlog', hes'⟩ := h'.log
    refine ⟨es' ++ es, by rw [hlog', hlog, List.append_assoc], fun e he ↦ ?_⟩
    exact (List.mem_append.mp he).elim (hes' e) (hes e)

theorem emit {e : Event RP Out BE} (h : Beside s t) (he : e.byClient = true) :
    Beside s (t.emit e) :=
  h.trans { Beside.refl t with log := ⟨[e], rfl, by simpa using he⟩ }

end Beside

theorem Resolved.beside {s s' : State RP Out BE} (h : Resolved s s')
    (hq : ∀ w ∈ s'.queue, w ∈ s.queue) : Beside s s' where
  point := h.point
  owner := h.field State.owner fun _ ↦ rfl
  fatalError := h.field State.fatalError fun _ ↦ rfl
  recoverable := .inl (h.field State.recoverableError fun _ ↦ rfl)
  restorePoint := .inl (h.field State.restorePoint fun _ ↦ rfl)
  sequence := Nat.le_of_eq (h.field State.sequence fun _ ↦ rfl).symm
  queue w hw := .inl (hq w hw)
  ready n r _ := h.ready n r
  log := by
    obtain ⟨fs, hlog, -⟩ := h.log
    refine ⟨fs.map .resolved, hlog, fun e he ↦ ?_⟩
    obtain ⟨f, -, rfl⟩ := List.mem_map.mp he
    rfl

/-- A new work at the end of the queue has the next sequence number. -/
theorem mem_append_next {queue : List QueuedWork} {w v : QueuedWork} {sequence : ℕ}
    (hv : v.sequence = sequence + 1) (hw : w ∈ queue ++ [v]) :
    w ∈ queue ∨ sequence < w.sequence := by
  refine (List.mem_append.mp hw).imp_right fun hw ↦ ?_
  rw [List.mem_singleton.mp hw, hv]
  exact Nat.lt_succ_self _

theorem appendImage_beside (s : State RP Out BE) (w : ImageWork Out) :
    Beside s (appendQueued ({ s with sequence := s.sequence + 1 }.setImage (s.sequence + 1) w)
      (.image (s.sequence + 1))) :=
  { Beside.refl s with
    sequence := Nat.le_succ _
    queue := fun _ ↦ mem_append_next rfl }

theorem appendBatch_beside (bodies : List (List UInt8)) :
    ∀ s : State RP Out BE, Beside s (appendBatch bodies s) := by
  induction bodies with
  | nil => exact .refl
  | cons body bodies ih => exact fun s ↦ (appendImage_beside s _).trans (ih _)

theorem chatLease_beside (s : State RP Out BE) (target : Option RP) :
    Beside s ((appendQueued ({ s with sequence := s.sequence + 1 }.setChat (s.sequence + 1)
      ⟨none, false, false, target, .waiting⟩) (.chat (s.sequence + 1))).emit
        (.chatAccepted (s.sequence + 1))) :=
  { (Beside.refl s).emit (e := .chatAccepted (s.sequence + 1)) rfl with
    sequence := Nat.le_succ _
    queue := fun _ ↦ mem_append_next rfl
    ready := fun n r hn hr ↦ by
      simpa [appendQueued, Nat.ne_of_lt (Nat.lt_succ_of_le hn)] using hr }

theorem setChat_beside (s : State RP Out BE) {n : ℕ} {w : ChatWork RP}
    (hready : w.ready = (s.chats n).ready) : Beside s (s.setChat n w) :=
  { Beside.refl s with
    ready := fun m r _ hr ↦ by
      by_cases hm : m = n
      · subst hm
        simpa [hready] using hr
      · simpa [hm] using hr }

theorem chatLeave_beside (s : State RP Out BE) (n : ℕ) (entered : Bool) :
    Beside s (chatLeave s n entered) := by
  have hset : Beside s (s.setChat n { s.chats n with
      cancelled := (s.chats n).cancelled || !entered
      granted := false
      client := .gone }) := setChat_beside s rfl
  rw [chatLeave_eq]
  refine { hset with
    queue := fun w hw ↦ .inl ?_
    log := ⟨_, rfl, fun e he ↦ ?_⟩ }
  · dsimp only at hw
    split at hw
    · exact hw
    · exact List.mem_of_mem_erase hw
  · split at he
    · cases List.mem_singleton.mp he
      rfl
    · cases he

theorem withdrawImage_beside (s : State RP Out BE) (n : ℕ) (error : String) :
    Beside s (withdrawImage s n error) := by
  have hset : Beside s
      ((s.setImage n { s.images n with cancelled := true }).emit (.imageCancelled n)) :=
    { (Beside.refl s).emit (e := .imageCancelled n) rfl with }
  rw [withdrawImage_eq]
  dsimp only
  split
  · refine hset.trans (Resolved.beside
      ((removeQueued_resolved _ _).trans (resolveImageError_resolved _ n error)) fun w hw ↦ ?_)
    rw [resolveImageError_queue, removeQueued_queue] at hw
    exact List.mem_of_mem_erase hw
  · exact hset

theorem leaveBatch_beside (works : List ℕ) :
    ∀ s : State RP Out BE, Beside s (works.foldl leaveBatchWork s) := by
  induction works with
  | nil => exact .refl
  | cons n works ih =>
      intro s
      refine .trans ?_ (ih _)
      unfold leaveBatchWork
      split
      · exact withdrawImage_beside s n _
      · exact .refl s

theorem close_beside (s : State RP Out BE) : Beside s (close s) := by
  cases h : s.closing with
  | true => simpa [close, h] using .refl s
  | false => exact { (close_resolved h).beside (by simp [close_queue h]) with }

/-- The other tasks start `initialize` or cancel it, take or give back a control
lease, or take their step beside the dispatcher. -/
theorem Clients.own {cfg : BrokerConfig} {s s' : State RP Out BE} (h : Clients cfg s s') :
    (s.point = .unstarted ∧ s' = initializeStart cfg s) ∨
    (s.point.isInitializing = true ∧ ∃ by_ call, s.point.call = some (by_, call) ∧
      s' = (s.emit (.interrupted by_ call)).goto .initFailed) ∨
    (∃ e k, (e = .controlGranted ∧ s.owner = .comfy ∨
        e = .controlReleased ∧ s.activeComfyControls ≠ 0) ∧
      s' = { s with activeComfyControls := k }.emit e) ∨
    Beside s s' := by
  cases h
  case startup hp => exact .inl ⟨hp, rfl⟩
  case cancelStartup by_ call hp hcall => exact .inr (.inl ⟨hp, by_, call, hcall, rfl⟩)
  case control hclosing howner hstate => exact .inr (.inr (.inl ⟨_, _, .inl ⟨rfl, howner⟩, rfl⟩))
  case controlExit hheld => exact .inr (.inr (.inl ⟨_, _, .inr ⟨rfl, hheld⟩, rfl⟩))
  all_goals refine .inr (.inr (.inr ?_))
  case chatLease target htarget hclosing hfatal =>
    exact chatLease_beside s target
  case chatEnter n error hclient hready herror => exact setChat_beside s rfl
  case chatLeave n entered hclient => exact chatLeave_beside s n entered
  case routerFailed n hreserves hclient hgranted =>
    have herror : truthy (some "KoboldCpp router request did not complete reliably") = true := by
      simp
    exact { (Beside.refl s).emit (e := .routerFailed n) rfl with recoverable := .inr herror }
  case submitImage request wantsCompletion hclosing hfatal hcapacity =>
    exact (appendImage_beside s _).emit rfl
  case imageCancel n hclient => exact { withdrawImage_beside (s.setImage n _) n _ with }
  case imageBatch bodies hclosing hfatal hcapacity =>
    have hbatch := appendBatch_beside bodies s
    exact Beside.emit { hbatch with } rfl
  case batchExit works hworks =>
    exact { leaveBatch_beside works { s with batches := s.batches.erase works } with }
  case close => exact close_beside s
  case refreshRestorePoint n restore r hp hkind =>
    exact { Beside.refl s with restorePoint := .inr ⟨n, restore, hp⟩ }
  case backend e => exact (Beside.refl s).emit rfl
  all_goals exact { Beside.refl s with }

end StProxy.Coordinator
