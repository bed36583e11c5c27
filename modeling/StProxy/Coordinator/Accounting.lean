import Mathlib.Data.Set.Card
import StProxy.Coordinator.Leases
import StProxy.Lib.Tally

/-!
# The accounts of the queue

The counters of waiting chats, of waiting images and of queued bytes are kept
apart from the queue.  They agree with it in every state, and the queue stays
within its limits.
-/

namespace StProxy.Coordinator

variable {RP Out BE : Type}

def QueuedWork.isChat : QueuedWork → Bool
  | .chat _ => true
  | .image _ => false

def QueuedWork.isImage : QueuedWork → Bool
  | .chat _ => false
  | .image _ => true

/-- The queue, the counters beside it, and the bodies of the image works. -/
structure Ledger where
  queue : List QueuedWork
  waitingChats : ℕ
  waitingImages : ℕ
  queuedWorkflowBytes : ℕ
  body : ℕ → List UInt8

def State.ledger (s : State RP Out BE) : Ledger where
  queue := s.queue
  waitingChats := s.waitingChats
  waitingImages := s.waitingImages
  queuedWorkflowBytes := s.queuedWorkflowBytes
  body n := (s.images n).request.body

namespace Ledger

/-- The body length of an image work; chats have no body. -/
def size (l : Ledger) : QueuedWork → ℕ
  | .chat _ => 0
  | .image n => (l.body n).length

/-- The bodies of the queued image works, in the order of the queue. -/
def bodies (l : Ledger) : List (List UInt8) :=
  l.queue.filterMap fun
    | .chat _ => none
    | .image n => some (l.body n)

/-- The counters are the totals of the queue, which is within its limits. -/
structure Balanced (cfg : BrokerConfig) (l : Ledger) : Prop where
  chats : Tallies (fun w ↦ w.isChat.toNat) l.queue l.waitingChats
  images : Tallies (fun w ↦ w.isImage.toNat) l.queue l.waitingImages
  bytes : Tallies l.size l.queue l.queuedWorkflowBytes
  images_le : l.waitingImages ≤ cfg.maxQueuedImages
  bytes_le : l.queuedWorkflowBytes ≤ cfg.maxQueuedWorkflowBytes
  body_le : ∀ n, .image n ∈ l.queue → (l.body n).length ≤ cfg.maxWorkflowBodyBytes

/-- The ledger without an entry that has left the queue. -/
def release (l : Ledger) (queue : List QueuedWork) (w : QueuedWork) : Ledger :=
  { l with
    queue := queue
    waitingChats := l.waitingChats - w.isChat.toNat
    waitingImages := l.waitingImages - w.isImage.toNat
    queuedWorkflowBytes := l.queuedWorkflowBytes - l.size w }

/-- The ledger with a new entry. -/
def enter (l : Ledger) (w : QueuedWork) : Ledger :=
  { l with
    queue := l.queue ++ [w]
    waitingChats := l.waitingChats + w.isChat.toNat
    waitingImages := l.waitingImages + w.isImage.toNat
    queuedWorkflowBytes := l.queuedWorkflowBytes + l.size w }

/-- Another body for a work outside the queue. -/
def write (l : Ledger) (n : ℕ) (body : List UInt8) : Ledger :=
  { l with body := Function.update l.body n body }

theorem sum_bodies (l : Ledger) : (l.bodies.map List.length).sum = (l.queue.map l.size).sum := by
  obtain ⟨queue, _, _, _, body⟩ := l
  induction queue with
  | nil => rfl
  | cons w queue ih =>
      cases w with
      | chat n => exact ih.trans (Nat.zero_add _).symm
      | image n => exact congrArg ((body n).length + ·) ih

theorem mem_bodies {l : Ledger} {body : List UInt8} :
    body ∈ l.bodies ↔ ∃ n, .image n ∈ l.queue ∧ l.body n = body := by
  unfold bodies
  rw [List.mem_filterMap]
  constructor
  · rintro ⟨w, hw, hbody⟩
    cases w with
    | chat n => cases hbody
    | image n => exact ⟨n, hw, Option.some.inj hbody⟩
  · rintro ⟨n, hn, rfl⟩
    exact ⟨.image n, hn, rfl⟩

namespace Balanced

variable {cfg : BrokerConfig} {l : Ledger} {w : QueuedWork}

theorem empty (body : ℕ → List UInt8) : Balanced cfg ⟨[], 0, 0, 0, body⟩ where
  chats := .nil _
  images := .nil _
  bytes := .nil _
  images_le := Nat.zero_le _
  bytes_le := Nat.zero_le _
  body_le := nofun

theorem release_head {rest : List QueuedWork} (h : Balanced cfg l) (hq : l.queue = w :: rest) :
    Balanced cfg (l.release rest w) where
  chats := (hq ▸ h.chats).tail
  images := (hq ▸ h.images).tail
  bytes := (hq ▸ h.bytes : Tallies l.size (w :: rest) _).tail
  images_le := Nat.le_trans (Nat.sub_le _ _) h.images_le
  bytes_le := Nat.le_trans (Nat.sub_le _ _) h.bytes_le
  body_le n hn := h.body_le n (hq ▸ List.mem_cons_of_mem w hn)

theorem release_mem (h : Balanced cfg l) (hw : w ∈ l.queue) :
    Balanced cfg (l.release (l.queue.erase w) w) where
  chats := h.chats.erase hw
  images := h.images.erase hw
  bytes := Tallies.erase (f := l.size) h.bytes hw
  images_le := Nat.le_trans (Nat.sub_le _ _) h.images_le
  bytes_le := Nat.le_trans (Nat.sub_le _ _) h.bytes_le
  body_le n hn := h.body_le n (List.mem_of_mem_erase hn)

theorem enter (h : Balanced cfg l)
    (himages : l.waitingImages + w.isImage.toNat ≤ cfg.maxQueuedImages)
    (hbytes : l.queuedWorkflowBytes + l.size w ≤ cfg.maxQueuedWorkflowBytes)
    (hbody : l.size w ≤ cfg.maxWorkflowBodyBytes) : Balanced cfg (l.enter w) where
  chats := h.chats.append w
  images := h.images.append w
  bytes := Tallies.append (f := l.size) h.bytes w
  images_le := himages
  bytes_le := hbytes
  body_le n hn := by
    rcases List.mem_append.mp hn with hn | hn
    · exact h.body_le n hn
    · cases List.mem_singleton.mp hn
      exact hbody

theorem write {n : ℕ} {body : List UInt8} (h : Balanced cfg l) (hn : .image n ∉ l.queue) :
    Balanced cfg (l.write n body) := by
  have hbody (m : ℕ) (hm : .image m ∈ l.queue) : (l.write n body).body m = l.body m := by
    have hne : m ≠ n := by
      rintro rfl
      exact hn hm
    exact Function.update_of_ne hne _ _
  exact { h with
    bytes := h.bytes.congr fun w hw ↦ by
      cases w with
      | chat m => rfl
      | image m => exact congrArg List.length (hbody m hw)
    body_le := fun m hm ↦ by
      rw [hbody m hm]
      exact h.body_le m hm }

end Balanced

end Ledger

/-! ## The ledger after a move -/

section
variable (s : State RP Out BE)

@[simp] theorem resolveChat_ledger (n : ℕ) (error : Option String) :
    (resolveChat s n error).ledger = s.ledger := by
  unfold resolveChat
  split <;> rfl

/-- The futures of an image work are no part of the ledger. -/
theorem setImage_ledger {n : ℕ} {w : ImageWork Out} (hw : w.request = (s.images n).request) :
    (s.setImage n w).ledger = s.ledger := by
  unfold State.ledger
  congr 1
  funext m
  by_cases hm : m = n
  · subst hm
    simp [hw]
  · simp [hm]

@[simp] theorem resolveSubmitted_ledger (n : ℕ) (outcome : SubmissionOutcome) :
    (resolveSubmitted s n outcome).ledger = s.ledger := by
  unfold resolveSubmitted
  split
  · exact setImage_ledger s rfl
  · rfl

@[simp] theorem resolveCompletion_ledger (n : ℕ) (outcome : ImageOutcome Out) :
    (resolveCompletion s n outcome).ledger = s.ledger := by
  unfold resolveCompletion
  split
  · exact setImage_ledger s rfl
  · rfl

@[simp] theorem resolveImageError_ledger (n : ℕ) (error : String) :
    (resolveImageError s n error).ledger = s.ledger := by
  simp [resolveImageError]

@[simp] theorem resolveWork_ledger (w : QueuedWork) (error : String) :
    (resolveWork s w error).ledger = s.ledger := by
  cases w <;> simp [resolveWork]

@[simp] theorem clearRequest_ledger (n : ℕ) :
    (clearRequest s n).ledger = s.ledger.write n [] := by
  unfold State.ledger Ledger.write
  congr 1
  funext m
  by_cases hm : m = n
  · subst hm
    simp [clearRequest]
  · simp [clearRequest, hm]

@[simp] theorem releaseQueueAccounting_ledger (queue : List QueuedWork) (w : QueuedWork) :
    (releaseQueueAccounting { s with queue := queue } w).ledger = s.ledger.release queue w := by
  cases w <;> rfl

@[simp] theorem appendQueued_ledger (w : QueuedWork) :
    (appendQueued s w).ledger = s.ledger.enter w := by
  cases w <;> rfl

end

/-- The books of the coordinator are balanced. -/
def Accounted (cfg : BrokerConfig) (s : State RP Out BE) : Prop :=
  s.ledger.Balanced cfg

namespace Accounted

variable {cfg : BrokerConfig} {s s' : State RP Out BE}

theorem congr (h : Accounted cfg s) (hl : s'.ledger = s.ledger) : Accounted cfg s' := by
  unfold Accounted
  rw [hl]
  exact h

theorem removeQueued (h : Accounted cfg s) (w : QueuedWork) :
    Accounted cfg (removeQueued s w).2 := by
  unfold Coordinator.removeQueued
  split
  · next hw =>
      unfold Accounted
      rw [releaseQueueAccounting_ledger]
      exact Ledger.Balanced.release_mem h hw
  · exact h

theorem failQueuedLoop (error : String) (works : List QueuedWork) : ∀ s : State RP Out BE,
    s.queue = works → Accounted cfg s → Accounted cfg (failQueuedLoop error works s) := by
  induction works with
  | nil => exact fun s _ h ↦ h
  | cons w rest ih =>
      intro s hq h
      refine ih _ (by simp) ?_
      unfold Accounted
      rw [resolveWork_ledger, releaseQueueAccounting_ledger]
      exact Ledger.Balanced.release_head h hq

theorem failQueued (h : Accounted cfg s) (error : String) : Accounted cfg (failQueued s error) :=
  failQueuedLoop error s.queue s rfl h

theorem dispatcherFailed (h : Accounted cfg s) (w : Option QueuedWork) (e : Exn) :
    Accounted cfg (dispatcherFailed s w e) := by
  have hfail (t : State RP Out BE) (ht : t.ledger = s.ledger) (error : String) :
      Accounted cfg (markFatal t error) := by
    have hmarked : Accounted cfg { t with fatalError := some error, state := .error } := h.congr ht
    exact failQueued hmarked error
  cases w with
  | none => exact hfail { s with lastError := some e.str } rfl _
  | some w =>
      exact hfail (resolveWork { s with lastError := some e.str } w _) (resolveWork_ledger _ w _) _

/-- Only an unexpected exception changes the books inside a segment. -/
theorem advance [DecidableEq RP] (h : Accounted cfg s) : Accounted cfg (advance cfg s) := by
  unfold Coordinator.advance
  cases hp : s.point <;> dsimp only
  case dispatcherFailed w e => exact h.dispatcherFailed w e
  case dispatch w => cases w <;> exact h
  all_goals refine h.congr ?_
  all_goals
    try simp only [dispatcherCancelled, chatStart, chatDrainCheck, chatRestore, chatDenied,
      chatGrant, restoreStart, restoreControlsCheck, cleanupFailed, restoreOwn, restoreBranch,
      restoreReload, restoreRaised, restoreDone, imageStart, imageActivated, imageSubmitted,
      imageRaised, imageCancelled, imageShutdown, activateDrainCheck, activateDrained,
      activateRouter, activateRouterUnload, activateUnload, activateDone, activateWithdrawn,
      imageWithdrawn]
  all_goals repeat' split
  all_goals first
    | rfl
    | exact resolveChat_ledger _ _ _
    | exact resolveSubmitted_ledger _ _ _
    | exact resolveImageError_ledger _ _ _
    | exact resolveWork_ledger _ _ _

theorem clearRequest {n : ℕ} {request : WorkflowRequest} (h : Accounted cfg s)
    (hcur : ∀ w, s.point.current = some w → w ∉ s.queue) (hp : s.point = .submit n request) :
    Accounted cfg (clearRequest s n) := by
  unfold Accounted
  rw [clearRequest_ledger]
  exact Ledger.Balanced.write h (hcur (.image n) (by rw [hp]; rfl))

theorem onWake (h : Accounted cfg s) (hs : onWake s = some s') : Accounted cfg s' := by
  unfold Coordinator.onWake at hs
  cases hp : s.point <;> rw [hp] at hs <;> dsimp only at hs <;> cases hs
  case nextWork.refl =>
    unfold nextWork
    split
    · exact h
    · split
      · exact h
      · next w rest hq =>
          unfold Accounted
          exact (releaseQueueAccounting_ledger s rest w).symm ▸ Ledger.Balanced.release_head h hq
  case chatDrain.refl n =>
    unfold chatDrainWake
    split <;> exact h
  all_goals exact h

theorem onTimeout (h : Accounted cfg s) (hs : onTimeout s = some s') : Accounted cfg s' := by
  unfold Coordinator.onTimeout at hs
  cases hp : s.point <;> rw [hp] at hs <;> cases hs <;> exact h

theorem onFault {e : Exn} (h : Accounted cfg s) (hs : onFault s e = some s') :
    Accounted cfg s' := by
  unfold Coordinator.onFault at hs
  cases hp : s.point <;> rw [hp] at hs <;> cases hs <;> exact h

theorem onReply {r : Reply RP Out} (h : Accounted cfg s)
    (hcur : ∀ w, s.point.current = some w → w ∉ s.queue) (hs : onReply s r = some s') :
    Accounted cfg s' := by
  generalize hp : s.point = p
  cases onReply_returns hs hp
  case submitSubmitted n request result =>
    exact (h.clearRequest hcur hp).congr rfl
  case submitRaised n request e =>
    exact (h.clearRequest hcur hp).congr rfl
  case monitorOutputs n promptId o =>
    exact h.congr (resolveCompletion_ledger _ _ _)
  case interruptDone n =>
    exact h.congr (resolveImageError_ledger _ _ _)
  all_goals exact h

theorem onCancel (h : Accounted cfg s) (hcur : ∀ w, s.point.current = some w → w ∉ s.queue)
    (hs : onCancel s = some s') : Accounted cfg s' := by
  unfold Coordinator.onCancel at hs
  cases hp : s.point <;> rw [hp] at hs <;> dsimp only at hs <;> cases hs
  case submit.refl n request => exact (h.clearRequest hcur hp).congr rfl
  all_goals exact h

theorem resumes {a : Action RP Out BE} (hwf : WellFormed s) (h : Accounted cfg s)
    (hr : Resumes s a s') : Accounted cfg s' := by
  have hcur : ∀ w, s.point.current = some w → w ∉ s.queue := fun w hw hmem ↦
    absurd (hwf.current_lt w hw w hmem) (Nat.lt_irrefl _)
  cases hr with
  | wake hc hs => exact h.onWake hs
  | timeout hc hs => exact h.onTimeout hs
  | fault hc hs => exact h.onFault hs
  | reply hc hcall hs => exact onReply (s := s.emit _) h hcur hs
  | cancelCall hc hcall hs =>
      exact onCancel (s := { s.emit _ with cancelRequested := false }) h hcur hs
  | cancelWait hc hcall hs => exact onCancel (s := { s with cancelRequested := false }) h hcur hs

/-! ## Clients -/

theorem capacity_ok {bodies : List (List UInt8)} (h : checkImageCapacity cfg s bodies = .ok ()) :
    (∀ body ∈ bodies, body.length ≤ cfg.maxWorkflowBodyBytes) ∧
      s.waitingImages + bodies.length ≤ cfg.maxQueuedImages ∧
      s.queuedWorkflowBytes + (bodies.map List.length).sum ≤ cfg.maxQueuedWorkflowBytes := by
  unfold checkImageCapacity at h
  split_ifs at h with hbody himages hbytes
  refine ⟨fun body hb ↦ ?_, Nat.not_lt.mp himages, Nat.not_lt.mp hbytes⟩
  by_contra hlt
  exact hbody (List.any_eq_true.mpr ⟨body, hb, by simpa using hlt⟩)

theorem appendImage {w : ImageWork Out} (hwf : WellFormed s) (h : Accounted cfg s)
    (himages : s.waitingImages + 1 ≤ cfg.maxQueuedImages)
    (hbytes : s.queuedWorkflowBytes + w.request.body.length ≤ cfg.maxQueuedWorkflowBytes)
    (hbody : w.request.body.length ≤ cfg.maxWorkflowBodyBytes) :
    Accounted cfg (appendQueued
      ({ s with sequence := s.sequence + 1 }.setImage (s.sequence + 1) w)
      (.image (s.sequence + 1))) := by
  have hnew : .image (s.sequence + 1) ∉ s.ledger.queue := fun hn ↦
    absurd (hwf.bound _ hn) (Nat.not_succ_le_self _)
  have hledger : ({ s with sequence := s.sequence + 1 }.setImage (s.sequence + 1) w).ledger =
      s.ledger.write (s.sequence + 1) w.request.body := by
    unfold State.ledger Ledger.write
    congr 1
    funext m
    by_cases hm : m = s.sequence + 1
    · subst hm
      simp
    · simp [hm]
  have hsize : (s.ledger.write (s.sequence + 1) w.request.body).size (.image (s.sequence + 1)) =
      w.request.body.length := by
    simp [Ledger.size, Ledger.write]
  unfold Accounted
  rw [appendQueued_ledger, hledger]
  exact (Ledger.Balanced.write h hnew).enter himages (hsize ▸ hbytes) (hsize ▸ hbody)

theorem appendBatch (bodies : List (List UInt8)) : ∀ s : State RP Out BE, WellFormed s →
    Accounted cfg s → s.closing = false → truthy s.fatalError = false →
    (∀ body ∈ bodies, body.length ≤ cfg.maxWorkflowBodyBytes) →
    s.waitingImages + bodies.length ≤ cfg.maxQueuedImages →
    s.queuedWorkflowBytes + (bodies.map List.length).sum ≤ cfg.maxQueuedWorkflowBytes →
      Accounted cfg (Coordinator.appendBatch bodies s) := by
  induction bodies with
  | nil => exact fun s _ h _ _ _ _ _ ↦ h
  | cons body bodies ih =>
      intro s hwf h hclosing hfatal hbody himages hbytes
      rw [List.length_cons] at himages
      rw [List.map_cons, List.sum_cons] at hbytes
      refine ih _ ?_ ?_ hclosing hfatal (fun b hb ↦ hbody b (List.mem_cons_of_mem _ hb)) ?_ ?_
      · exact hwf.append (w := .image (s.sequence + 1)) rfl hclosing hfatal rfl (fun _ _ ↦ rfl)
          (hwf.fresh _ (Nat.lt_succ_self _)).2 rfl rfl rfl
      · exact h.appendImage hwf (by omega) (by dsimp only; omega) (hbody body List.mem_cons_self)
      · dsimp only [appendQueued]
        omega
      · simp only [appendQueued, Function.update_self]
        omega

theorem withdrawImage (h : Accounted cfg s) (n : ℕ) (error : String) :
    Accounted cfg (withdrawImage s n error) := by
  have hset : Accounted cfg
      ((s.setImage n { s.images n with cancelled := true }).emit (.imageCancelled n)) :=
    h.congr (setImage_ledger s rfl)
  rw [withdrawImage_eq]
  dsimp only
  split
  · exact (hset.removeQueued (.image n)).congr (resolveImageError_ledger _ n error)
  · exact hset

theorem leaveBatch (works : List ℕ) : ∀ s : State RP Out BE, Accounted cfg s →
    Accounted cfg (works.foldl leaveBatchWork s) := by
  induction works with
  | nil => exact fun s h ↦ h
  | cons n works ih =>
      intro s h
      refine ih _ ?_
      unfold leaveBatchWork
      split
      · exact h.withdrawImage n _
      · exact h

theorem chatLeave (h : Accounted cfg s) (n : ℕ) (entered : Bool) :
    Accounted cfg (chatLeave s n entered) := by
  rw [chatLeave_eq]
  cases entered with
  | true => exact h.congr (by simp [State.ledger])
  | false =>
      by_cases hn : .chat n ∈ s.queue
      · refine congr (s := (Coordinator.removeQueued s (.chat n)).2) (h.removeQueued _) ?_
        simp [State.ledger, Coordinator.removeQueued, releaseQueueAccounting, hn]
      · exact h.congr (by simp [State.ledger, hn, List.erase_of_not_mem])

theorem close (h : Accounted cfg s) : Accounted cfg (close s) := by
  cases hc : s.closing with
  | true => simpa [Coordinator.close, hc] using h
  | false =>
      rw [close_eq hc]
      exact failQueued (s := { s with closing := true, state := .shuttingDown }) h _

theorem client (hwf : WellFormed s) (h : Accounted cfg s) (hs : Clients cfg s s') :
    Accounted cfg s' := by
  cases hs with
  | startup hp =>
      unfold initializeStart
      split <;> exact h
  | chatLease target htarget hclosing hfatal =>
      refine Ledger.Balanced.enter (w := .chat (s.sequence + 1)) h ?_ ?_ ?_
      · exact h.images_le
      · exact h.bytes_le
      · exact Nat.zero_le _
  | chatLeave n entered hclient => exact h.chatLeave n entered
  | submitImage request wantsCompletion hclosing hfatal hcapacity =>
      obtain ⟨hbody, himages, hbytes⟩ := capacity_ok hcapacity
      exact h.appendImage hwf himages (by simpa using hbytes) (hbody _ List.mem_cons_self)
  | imageWake n hclient hsubmitted => exact h.congr (setImage_ledger s rfl)
  | imageCancel n hclient =>
      have hgone : Accounted cfg (s.setImage n { s.images n with client := .gone }) :=
        h.congr (setImage_ledger s rfl)
      exact hgone.withdrawImage n _
  | imageBatch bodies hclosing hfatal hcapacity =>
      obtain ⟨hbody, himages, hbytes⟩ := capacity_ok hcapacity
      exact (appendBatch bodies s hwf h hclosing hfatal hbody himages hbytes).congr rfl
  | batchExit works hworks =>
      exact leaveBatch works { s with batches := s.batches.erase works } h
  | close => exact h.close
  | _ => exact h

end Accounted

/-- The books are balanced in every reachable state. -/
theorem accounted_inductive [DecidableEq RP] {cfg : BrokerConfig}
    {ok : State RP Out BE → Action RP Out BE → Prop} :
    InductiveOver cfg ok WellFormed (Accounted cfg : State RP Out BE → Prop) where
  initial := .empty _
  advance _ _ h := h.advance
  resumes _ _ _ hwf h _ hr := h.resumes hwf hr
  client _ _ _ hwf h _ _ hs := h.client hwf hs

/-! ## Refused requests -/

variable {cfg : BrokerConfig} {s : State RP Out BE}

/-- The bodies do not fit beside the queue. -/
def OverLimit (cfg : BrokerConfig) (s : State RP Out BE) (bodies : List (List UInt8)) : Prop :=
  (∃ body ∈ bodies, cfg.maxWorkflowBodyBytes < body.length) ∨
    cfg.maxQueuedImages < s.waitingImages + bodies.length ∨
    cfg.maxQueuedWorkflowBytes < s.queuedWorkflowBytes + (bodies.map List.length).sum

theorem refused_of_overLimit {bodies : List (List UInt8)} (h : OverLimit cfg s bodies) :
    checkImageCapacity cfg s bodies ≠ .ok () := by
  intro hok
  obtain ⟨hbody, himages, hbytes⟩ := Accounted.capacity_ok hok
  rcases h with ⟨body, hb, hlt⟩ | hlt | hlt
  · exact absurd hlt (Nat.not_lt.mpr (hbody body hb))
  · omega
  · omega

/-- A call of `submit_image` that raises changes nothing, and it raises over the limits. -/
theorem submitImage_refused (cfg : BrokerConfig) (s : State RP Out BE)
    (request : WorkflowRequest) (wantsCompletion : Bool) :
    (OverLimit cfg s [request.body] →
      ∃ error, ((submitImage cfg request wantsCompletion).call s).1 = .error error) ∧
    ∀ error, ((submitImage cfg request wantsCompletion).call s).1 = .error error →
      ((submitImage cfg request wantsCompletion).call s).2 = s := by
  obtain ⟨e, heq⟩ | ⟨-, hcapacity, heq⟩ := submitImage_call cfg s request wantsCompletion
  · rw [heq]
    exact ⟨fun _ ↦ ⟨e, rfl⟩, fun _ _ ↦ rfl⟩
  · rw [heq]
    exact ⟨fun h ↦ absurd hcapacity (refused_of_overLimit h), fun _ h ↦ by cases h⟩

theorem imageBatch_refused (cfg : BrokerConfig) (s : State RP Out BE)
    (bodies : List (List UInt8)) :
    (OverLimit cfg s bodies → ∃ error, ((imageBatch cfg bodies).call s).1 = .error error) ∧
    ∀ error, ((imageBatch cfg bodies).call s).1 = .error error →
      ((imageBatch cfg bodies).call s).2 = s := by
  obtain ⟨e, heq⟩ | ⟨-, hcapacity, heq⟩ := imageBatch_call cfg s bodies
  · rw [heq]
    exact ⟨fun _ ↦ ⟨e, rfl⟩, fun _ _ ↦ rfl⟩
  · rw [heq]
    exact ⟨fun h ↦ absurd hcapacity (refused_of_overLimit h), fun _ h ↦ by cases h⟩

/-- Queue accounting and bounds are exact: the counters are the totals of the
queue, the queue is within its limits and in order, the active chats are the
granted and unreleased ones, and a refused request changes nothing. -/
theorem queue_accounting [DecidableEq RP] (hs : (system RP Out BE cfg).Reachable s) :
    s.waitingChats = s.queue.countP QueuedWork.isChat ∧
    s.waitingImages = s.queue.countP QueuedWork.isImage ∧
    s.queuedWorkflowBytes = (s.ledger.bodies.map List.length).sum ∧
    s.waitingImages ≤ cfg.maxQueuedImages ∧
    s.queuedWorkflowBytes ≤ cfg.maxQueuedWorkflowBytes ∧
    (∀ body ∈ s.ledger.bodies, body.length ≤ cfg.maxWorkflowBodyBytes) ∧
    (s.queue.map QueuedWork.sequence).Pairwise (· < ·) ∧
    {n | (s.chats n).granted = true}.encard = s.activeChats ∧
    (∀ request wantsCompletion,
      (OverLimit cfg s [request.body] →
        ∃ error, ((submitImage cfg request wantsCompletion).call s).1 = .error error) ∧
      ∀ error, ((submitImage cfg request wantsCompletion).call s).1 = .error error →
        step cfg s (.submitImage request wantsCompletion) = some s) ∧
    (∀ bodies,
      (OverLimit cfg s bodies → ∃ error, ((imageBatch cfg bodies).call s).1 = .error error) ∧
      ∀ error, ((imageBatch cfg bodies).call s).1 = .error error →
        step cfg s (.imageBatch bodies) = some s) := by
  have hinv := (wellFormed_inductive.extend accounted_inductive).reachableVia hs
  have hwf : WellFormed s := hinv.2.1
  have h : s.ledger.Balanced cfg := hinv.2.2
  refine ⟨h.chats.eq_countP, h.images.eq_countP, ?_, h.images_le, h.bytes_le, ?_, ?_, ?_,
    fun request wantsCompletion ↦ ?_, fun bodies ↦ ?_⟩
  · rw [Ledger.sum_bodies]
    exact h.bytes.symm
  · intro body hbody
    obtain ⟨n, hn, rfl⟩ := Ledger.mem_bodies.mp hbody
    exact h.body_le n hn
  · exact List.pairwise_map.mpr hwf.sorted
  · obtain ⟨granted, hmem, hcard⟩ := (exclusive_of_reachable hs).counted
    have hset : {n | (s.chats n).granted = true} = (granted : Set ℕ) :=
      Set.ext fun n ↦ (hmem n).symm
    rw [hset, Set.encard_coe_eq_coe_finsetCard, hcard]
  · obtain ⟨hover, hrefused⟩ := submitImage_refused cfg s request wantsCompletion
    exact ⟨hover, fun error herror ↦ congrArg some (hrefused error herror)⟩
  · obtain ⟨hover, hrefused⟩ := imageBatch_refused cfg s bodies
    exact ⟨hover, fun error herror ↦ congrArg some (hrefused error herror)⟩

/-- An image and a chat wait in the queue, and a batch that is too long is refused. -/
def queuedRun : List (Action ℕ Unit Empty) :=
  [.startup, .chatLease none, .imageBatch [[1, 2], [3]], .imageBatch [[], [], []]]

def queuedState : State ℕ Unit Empty :=
  ((system ℕ Unit Empty koboldConfig).exec .initial queuedRun).get (by decide)

theorem queue_accounting_queued :
    queuedState.waitingImages = 2 ∧
      queuedState.queuedWorkflowBytes = (queuedState.ledger.bodies.map List.length).sum :=
  ⟨by decide, (queue_accounting (TransitionSystem.exec_get_reachable (M := system ℕ Unit Empty
    koboldConfig) rfl (by decide) : (system ℕ Unit Empty koboldConfig).Reachable
      queuedState)).2.2.1⟩

end StProxy.Coordinator
