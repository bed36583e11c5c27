import Mathlib.Data.Finset.Card
import StProxy.Coordinator.WellFormed

/-!
# Leases and the owner of the GPU

Who may hold a lease under which owner.  The facts at each point of the
dispatcher say how far a handoff has come: whether the leases of the old owner
are gone and whether the state still admits new ones.
-/

namespace StProxy.Coordinator

variable {RP Out BE : Type}

/-- The states in which a metadata or control lease may be granted without an
active chat. -/
def HandoffState.admits : HandoffState → Bool
  | .awaitingRequest | .llmReserved | .llmReady | .comfyReady | .imageActive => true
  | _ => false

/-- No metadata lease can be granted unless a chat is active, and no control
lease at all. -/
def NoEntry (s : State RP Out BE) : Prop :=
  s.closing = true ∨ s.state.admits = false

/-- The LLM is drained and stays so while other tasks run. -/
def Still (s : State RP Out BE) : Prop :=
  s.activeChats = 0 ∧ s.activeLlmMetadata = 0 ∧ NoEntry s

/-- The points at which the LLM has just been found on the GPU and an old error
is still recorded. -/
def Point.confirming : Point RP → Bool
  | .restoreReload _ | .restoreDone _ | .activateUnload _ => true
  | _ => false

/-- What holds of owner, state and leases at a point of the dispatcher. -/
def PointFacts (cfg : BrokerConfig) (s : State RP Out BE) : Point RP → Prop
  | .unstarted | .initValidate | .initFree | .initSnapshot =>
      s.owner = .unknown ∧ truthy s.recoverableError = false
  | .chatRestore _ => cfg.serialized = true → Still s
  | .chatGrant _ => s.owner = .llm ∧ (cfg.serialized = true → s.activeChats = 0)
  | .restoreStart _ =>
      (cfg.serialized = true → Still s) ∧ (cfg.serialized = false → s.owner ≠ .llm)
  | .restoreControlsCheck _ | .restoreControls _ =>
      NoEntry s ∧ (cfg.serialized = true → s.activeChats = 0 ∧ s.activeLlmMetadata = 0) ∧
        (cfg.serialized = false → s.owner ≠ .llm)
  | .restoreFree _ | .restoreOwn _ =>
      NoEntry s ∧ (cfg.serialized = true → s.activeChats = 0 ∧ s.activeLlmMetadata = 0) ∧
        (cfg.serialized = false → s.owner ≠ .llm) ∧ s.activeComfyControls = 0
  | .cleanupFailed _ _ => cfg.serialized = false → s.owner ≠ .llm
  | .restoreValidate _ | .restoreBranch _ | .restoreAcquireTarget _ _
  | .restoreRouterRelease _ _ | .restoreRouterAcquire _ | .restoreObserve _
  | .restoreAcquire _ _ | .restoreRaised _ _ | .activateRouterRelease _ _
  | .activateRelease _ _ | .activateDone _ => s.owner = .unknown
  | .restoreReload _ | .restoreDone _ => s.owner ≠ .comfy ∧ s.activeChats = 0
  | .imageActivated _ | .submit _ _ | .submitted _ _ | .monitor _ _ => s.owner = .comfy
  | .activateDrainCheck _ | .activateDrain _ => s.owner ≠ .comfy ∧ NoEntry s
  | .activateDrained _ | .activateRouterValidate _ | .activateRouter _
  | .activateRouterAcquire _ | .activateRouterUnload _ _ | .activateValidate _
  | .activateObserve _ | .activateUnload _ => s.owner ≠ .comfy ∧ Still s
  | _ => True

/-- Leases are held only under the owner they belong to. -/
structure Exclusive (cfg : BrokerConfig) (s : State RP Out BE) : Prop where
  metadata : s.activeLlmMetadata = s.passiveLeases + s.routerControls
  counted : ∃ granted : Finset ℕ, (∀ n, n ∈ granted ↔ (s.chats n).granted = true) ∧
    granted.card = s.activeChats
  llm : s.owner ≠ .llm → s.activeChats = 0 ∧ s.passiveLeases = 0
  comfy : s.owner ≠ .comfy → s.activeComfyControls = 0
  /-- An LLM owner that is not serialized never carries an error. -/
  unserialized : cfg.serialized = false → s.owner = .llm → s.point.confirming = false →
    truthy s.recoverableError = false
  target : ∀ n, (s.chats n).target.isSome = true → cfg.llmBackend.isManaged = true
  single : cfg.serialized = true → s.activeChats ≤ 1
  cancelled : ∀ n, (s.chats n).cancelled = true → (s.chats n).granted = false
  point : PointFacts cfg s s.point

namespace Exclusive

variable {cfg : BrokerConfig} {s s' : State RP Out BE}

theorem initial : Exclusive cfg (.initial : State RP Out BE) where
  metadata := rfl
  counted := ⟨∅, by simp [State.initial, ChatWork.absent], rfl⟩
  llm _ := ⟨rfl, rfl⟩
  comfy _ := rfl
  unserialized := nofun
  target := nofun
  single _ := Nat.zero_le 1
  cancelled := nofun
  point := ⟨rfl, rfl⟩

theorem active_of_granted (h : Exclusive cfg s) {n : ℕ} (hn : (s.chats n).granted = true) :
    0 < s.activeChats := by
  obtain ⟨granted, hmem, hcard⟩ := h.counted
  rw [← hcard]
  exact Finset.card_pos.mpr ⟨n, (hmem n).mpr hn⟩

theorem owner_of_granted (h : Exclusive cfg s) {n : ℕ} (hn : (s.chats n).granted = true) :
    s.owner = .llm := by
  by_contra hne
  have := h.active_of_granted hn
  rw [(h.llm hne).1] at this
  exact absurd this (Nat.lt_irrefl 0)

/-! ## Moves -/

theorem pointFacts_core {p : Point RP} : PointFacts cfg s.core p = PointFacts cfg s p := by
  cases p <;> rfl

theorem resolved (h : Exclusive cfg s) (hr : Resolved s s') : Exclusive cfg s' := by
  have hpoint : PointFacts cfg s' s'.point := by
    rw [hr.point, ← pointFacts_core, hr.core, pointFacts_core]
    exact h.point
  have howner : s'.owner = s.owner := hr.field State.owner fun _ ↦ rfl
  have hactive : s'.activeChats = s.activeChats := hr.field State.activeChats fun _ ↦ rfl
  have hmeta : s'.activeLlmMetadata = s.activeLlmMetadata :=
    hr.field State.activeLlmMetadata fun _ ↦ rfl
  have hpassive : s'.passiveLeases = s.passiveLeases := hr.field State.passiveLeases fun _ ↦ rfl
  have hrouter : s'.routerControls = s.routerControls := hr.field State.routerControls fun _ ↦ rfl
  have hcontrols : s'.activeComfyControls = s.activeComfyControls :=
    hr.field State.activeComfyControls fun _ ↦ rfl
  have hrec : s'.recoverableError = s.recoverableError :=
    hr.field State.recoverableError fun _ ↦ rfl
  constructor
  · simpa [hmeta, hpassive, hrouter] using h.metadata
  · simpa [hr.granted, hactive] using h.counted
  · simpa [howner, hactive, hpassive] using h.llm
  · simpa [howner, hcontrols] using h.comfy
  · simpa [howner, hrec, hr.point] using h.unserialized
  · simpa [hr.target] using h.target
  · simpa [hactive] using h.single
  · simpa [hr.cancelled, hr.granted] using h.cancelled
  · exact hpoint

/-- A change of the dispatcher's own attributes.  The owner is changed only
when the leases of the old one are gone. -/
theorem scalar (h : Exclusive cfg s) (hs : s'.shared = s.shared)
    (hllm : s'.owner = .llm ∨ s'.owner = s.owner ∨ s.activeChats = 0 ∧ s.passiveLeases = 0)
    (hcomfy : s'.owner = .comfy ∨ s'.owner = s.owner ∨ s.activeComfyControls = 0)
    (hrec : s'.owner ≠ .llm ∨ cfg.serialized = true ∨ s'.point.confirming = true ∨
      truthy s'.recoverableError = false)
    (hpoint : PointFacts cfg s' s'.point) : Exclusive cfg s' := by
  have hactive : s'.activeChats = s.activeChats := congrArg Shared.activeChats hs
  have hmeta : s'.activeLlmMetadata = s.activeLlmMetadata := congrArg Shared.activeLlmMetadata hs
  have hpassive : s'.passiveLeases = s.passiveLeases := congrArg Shared.passiveLeases hs
  have hrouter : s'.routerControls = s.routerControls := congrArg Shared.routerControls hs
  have hcontrols : s'.activeComfyControls = s.activeComfyControls :=
    congrArg Shared.activeComfyControls hs
  have hchats : s'.chats = s.chats := congrArg Shared.chats hs
  constructor
  · simpa [hmeta, hpassive, hrouter] using h.metadata
  · simpa [hchats, hactive] using h.counted
  · intro hne
    rw [hactive, hpassive]
    rcases hllm with hllm | hllm | hllm
    · exact absurd hllm hne
    · exact h.llm (hllm ▸ hne)
    · exact hllm
  · intro hne
    rw [hcontrols]
    rcases hcomfy with hcomfy | hcomfy | hcomfy
    · exact absurd hcomfy hne
    · exact h.comfy (hcomfy ▸ hne)
    · exact hcomfy
  · intro hser howner hconf
    rcases hrec with hrec | hrec | hrec | hrec
    · exact absurd howner hrec
    · rw [hser] at hrec
      cases hrec
    · rw [hconf] at hrec
      cases hrec
    · exact hrec
  · simpa [hchats] using h.target
  · simpa [hactive] using h.single
  · simpa [hchats] using h.cancelled
  · exact hpoint

theorem recorded {p : Point RP} (h : Exclusive cfg s) (hp : s.point = p)
    (hconf : p.confirming = false) :
    s.owner ≠ .llm ∨ cfg.serialized = true ∨ truthy s.recoverableError = false := by
  subst hp
  by_cases howner : s.owner = .llm
  · cases hser : cfg.serialized with
    | false => exact .inr (.inr (h.unserialized hser howner hconf))
    | true => exact .inr (.inl rfl)
  · exact .inl howner

theorem goto {p : Point RP} (h : Exclusive cfg s) (hp : s.point = p)
    (hconf : p.confirming = false) (hs : s'.shared = s.shared) (howner : s'.owner = s.owner)
    (hrec : s'.recoverableError = s.recoverableError) (hpoint : PointFacts cfg s' s'.point) :
    Exclusive cfg s' := by
  refine h.scalar hs (.inr (.inl howner)) (.inr (.inl howner)) ?_ hpoint
  rw [howner, hrec]
  rcases h.recorded hp hconf with hne | hser | hfalse
  · exact .inl hne
  · exact .inr (.inl hser)
  · exact .inr (.inr (.inr hfalse))

theorem owner_unknown {owner : GpuOwner} (hcomfy : owner ≠ .comfy) (hllm : owner ≠ .llm) :
    owner = .unknown := by
  cases owner <;> first | rfl | contradiction

theorem not_busy (h : s.llmBusy = false) : s.activeChats = 0 ∧ s.activeLlmMetadata = 0 := by
  simpa [State.llmBusy] using h

theorem passive_of_metadata (h : Exclusive cfg s) (hmeta : s.activeLlmMetadata = 0) :
    s.passiveLeases = 0 := by
  have := h.metadata
  omega

/-- The leases of the LLM are gone when a cleanup starts. -/
theorem released (h : Exclusive cfg s)
    (hdrained : cfg.serialized = true → s.activeChats = 0 ∧ s.activeLlmMetadata = 0)
    (hplain : cfg.serialized = false → s.owner ≠ .llm) :
    s.activeChats = 0 ∧ s.passiveLeases = 0 := by
  cases hser : cfg.serialized with
  | false => exact h.llm (hplain hser)
  | true => exact ⟨(hdrained hser).1, h.passive_of_metadata (hdrained hser).2⟩

/-- An error may be recorded unless an unserialized LLM is the owner. -/
theorem record (hplain : cfg.serialized = false → s.owner ≠ .llm) :
    s.owner ≠ .llm ∨ cfg.serialized = true := by
  cases hser : cfg.serialized with
  | false => exact .inl (hplain hser)
  | true => exact .inr rfl

theorem serialized_of_target (h : Exclusive cfg s) {n : ℕ}
    (hn : (s.chats n).target.isSome = true) : cfg.serialized = true := by
  simp [BrokerConfig.serialized, h.target n hn]

/-- An unserialized LLM owner needs no restoration. -/
theorem owner_of_needsRestore [DecidableEq RP] (h : Exclusive cfg s) {n : ℕ}
    (hp : s.point = .chatRestore n) (hneeds : needsRestore s n = true)
    (hser : cfg.serialized = false) : s.owner ≠ .llm := by
  intro howner
  have hrec := h.unserialized hser howner (by rw [hp]; rfl)
  have htarget : (s.chats n).target.isSome = true := by
    simp only [needsRestore, howner, hrec, bne_self_eq_false, Bool.or_false, Bool.false_or,
      Bool.and_eq_true] at hneeds
    exact hneeds.1
  rw [h.serialized_of_target htarget] at hser
  cases hser

theorem owner_of_not_needsRestore [DecidableEq RP] {n : ℕ} (hneeds : needsRestore s n = false) :
    s.owner = .llm := by
  simp only [needsRestore, Bool.or_eq_false_iff, bne_eq_false_iff_eq] at hneeds
  exact hneeds.1.1

theorem withdrawn (h : Exclusive cfg (s.goto .nextWork)) (n : ℕ) :
    Exclusive cfg (imageWithdrawn s n) :=
  have hr := (resolveImageError_resolved s n "image request was cancelled").goto .nextWork
  (h.resolved hr).goto hr.point rfl rfl rfl rfl trivial

theorem raised {n : ℕ} {e : Exn} (hwf : WellFormed s) (h : Exclusive cfg s)
    (hp : s.point = .imageRaised n e) : Exclusive cfg (imageRaised s n e) := by
  have hopen : s.closing = false := hwf.open_of_running hp rfl rfl
  have hfatal : truthy s.fatalError = false := hwf.not_fatal (by rw [hp]; rfl)
  have hdone (t : State RP Out BE) (ht : Exclusive cfg (t.goto .nextWork)) :
      Exclusive cfg ((imageFinally (resolveImageError t n e.message) [e.message]).goto
        .nextWork) :=
    have hr := (resolveImageError_resolved t n e.message).goto .nextWork
    (ht.resolved hr).goto hr.point rfl rfl rfl rfl trivial
  simp only [imageRaised]
  refine hdone _ ?_
  split_ifs with hcomfy hllm
  · exact h.goto hp rfl rfl rfl rfl trivial
  · exact h.goto hp rfl rfl rfl rfl trivial
  · exact h.goto hp rfl rfl rfl rfl trivial
  · have hne : s.owner ≠ .llm := by
      rintro howner
      simp [howner, hfatal] at hllm
    exact h.scalar rfl (.inr (.inl rfl)) (.inr (.inl rfl)) (.inl hne) trivial

theorem grant {n : ℕ} (hwf : WellFormed s) (h : Exclusive cfg s) (hp : s.point = .chatGrant n) :
    Exclusive cfg (chatGrant cfg s n) := by
  have hnext : Exclusive cfg (s.goto .nextWork) := h.goto hp rfl rfl rfl rfl trivial
  have hf : PointFacts cfg s (.chatGrant n) := hp ▸ h.point
  have hfree : (s.chats n).granted = false := hwf.waiting n (.inr (by rw [hp]; rfl))
  unfold chatGrant
  split_ifs with hc
  · exact hnext
  · exact hnext.resolved ((resolveChat_resolved s n _).goto .nextWork)
  · exact hnext.resolved ((resolveChat_resolved s n _).goto .nextWork)
  · refine Exclusive.resolved ?_ ((resolveChat_resolved _ n none).goto .nextWork)
    refine { hnext with
      counted := ?_, llm := ?_, target := ?_, single := ?_, cancelled := ?_, point := trivial }
    · obtain ⟨granted, hmem, hcard⟩ := h.counted
      have hn : n ∉ granted := by simp [hmem, hfree]
      refine ⟨insert n granted, fun m ↦ ?_, by simp [hn, hcard]⟩
      by_cases hm : m = n <;> simp [hm, hmem]
    · exact fun hne ↦ absurd hf.1 hne
    · intro m
      by_cases hm : m = n
      · simpa [hm] using h.target n
      · simpa [hm] using h.target m
    · intro hser
      simp [hf.2 hser]
    · intro m
      by_cases hm : m = n
      · simp [hm, hc]
      · simpa [hm] using h.cancelled m

theorem advance [DecidableEq RP] (hwf : WellFormed s) (h : Exclusive cfg s) :
    Exclusive cfg (advance cfg s) := by
  have hf := h.point
  unfold Coordinator.advance
  cases hp : s.point <;> rw [hp] at hf <;> dsimp only
  case dispatch work => cases work <;> exact h.goto hp rfl rfl rfl rfl trivial
  case dispatcherCancelled work =>
    exact (h.resolved (resolveWork_resolved s work _)).goto
      ((resolveWork_resolved s work _).point.trans hp) rfl rfl rfl rfl trivial
  case dispatcherFailed work e =>
    refine Exclusive.resolved ?_ (dispatcherFailed_resolved s work e)
    exact h.goto hp rfl rfl rfl rfl trivial
  case chatStart n =>
    unfold chatStart
    split_ifs with hc hser
    · exact h.goto hp rfl rfl rfl rfl trivial
    · exact h.goto hp rfl rfl rfl rfl trivial
    · exact h.goto hp rfl rfl rfl rfl fun hser' ↦ absurd hser' hser
  case chatDrainCheck n =>
    unfold chatDrainCheck
    split_ifs with hbusy
    · exact h.goto hp rfl rfl rfl rfl trivial
    · obtain ⟨hchats, hmeta⟩ := not_busy (by simpa using hbusy)
      exact h.goto hp rfl rfl rfl rfl fun _ ↦ ⟨hchats, hmeta, .inr rfl⟩
  case chatRestore n =>
    unfold chatRestore
    split_ifs with hneeds
    · exact h.goto hp rfl rfl rfl rfl ⟨hf, h.owner_of_needsRestore hp hneeds⟩
    · have howner := owner_of_not_needsRestore (Bool.eq_false_iff.mpr hneeds)
      exact h.goto hp rfl rfl rfl rfl ⟨howner, fun hser ↦ (hf hser).1⟩
  case chatDenied n =>
    exact (h.resolved (resolveChat_resolved s n _)).goto
      ((resolveChat_resolved s n _).point.trans hp) rfl rfl rfl rfl trivial
  case chatGrant n => exact h.grant hwf hp
  case restoreStart n =>
    simp only [restoreStart]
    split_ifs with hready hclean
    · have howner : s.owner = .llm := by
        simp only [Bool.and_eq_true, beq_iff_eq] at hready
        exact hready.1.1
      exact h.goto hp rfl rfl rfl rfl ⟨howner, fun hser ↦ (hf.1 hser).1⟩
    · exact h.goto hp rfl rfl rfl rfl
        ⟨.inr rfl, fun hser ↦ ⟨(hf.1 hser).1, (hf.1 hser).2.1⟩, hf.2⟩
    · have howner : s.owner = .llm := by
        simp only [Bool.or_eq_true, not_or, bne_iff_ne, not_not] at hclean
        exact hclean.1
      have hser : cfg.serialized = true := by
        cases hser : cfg.serialized with
        | false => exact absurd howner (hf.2 hser)
        | true => rfl
      exact h.goto hp rfl rfl rfl rfl
        ⟨(hf.1 hser).2.2, fun _ ↦ ⟨(hf.1 hser).1, (hf.1 hser).2.1⟩, hf.2,
          h.comfy (by simp [howner])⟩
  case restoreControlsCheck n =>
    unfold restoreControlsCheck
    split_ifs with hcontrols
    · exact h.goto hp rfl rfl rfl rfl hf
    · exact h.goto hp rfl rfl rfl rfl ⟨hf.1, hf.2.1, hf.2.2, by simpa using hcontrols⟩
  case cleanupFailed n error =>
    simp only [cleanupFailed]
    split_ifs
    · exact h.goto hp rfl rfl rfl rfl trivial
    · exact h.scalar rfl (.inr (.inl rfl)) (.inr (.inl rfl)) ((record hf).imp_right .inl) trivial
  case restoreOwn n =>
    have hgone := h.released hf.2.1 hf.2.2.1
    simp only [restoreOwn]
    split_ifs <;>
      exact h.scalar rfl (.inr (.inr hgone)) (.inr (.inr hf.2.2.2)) (.inl (by rintro ⟨⟩)) rfl
  case restoreBranch n =>
    have hreload : s.owner ≠ .comfy ∧ s.activeChats = 0 :=
      ⟨by simp [show s.owner = .unknown from hf],
        (h.llm (by simp [show s.owner = .unknown from hf])).1⟩
    unfold restoreBranch
    repeat' split
    all_goals first
      | exact h.goto hp rfl rfl rfl rfl hf
      | exact h.goto hp rfl rfl rfl rfl hreload
  case restoreReload n =>
    unfold restoreReload
    split_ifs with howner
    · exact h.scalar rfl (.inr (.inl rfl)) (.inr (.inl rfl)) (.inr (.inr (.inl rfl))) hf
    · have hunknown := owner_unknown hf.1 (by simpa using howner)
      exact h.scalar rfl (.inr (.inl rfl)) (.inr (.inl rfl)) (.inl (by simp [hunknown])) hunknown
  case restoreRaised n e =>
    have hne : s.owner ≠ .llm := by simp [show s.owner = .unknown from hf]
    simp only [restoreRaised]
    split_ifs
    · exact h.goto hp rfl rfl rfl rfl trivial
    · exact h.scalar rfl (.inr (.inl rfl)) (.inr (.inl rfl)) (.inl hne) trivial
  case restoreDone n =>
    have hopen : s.closing = false := hwf.open_of_running hp rfl rfl
    simp only [restoreDone]
    split
    · next hclosing => exact absurd (show s.closing = true from hclosing) (by simp [hopen])
    · exact h.scalar rfl (.inl rfl) (.inr (.inr (h.comfy hf.1)))
        (.inr (.inr (.inr rfl))) ⟨rfl, fun _ ↦ hf.2⟩
  case imageStart n =>
    simp only [imageStart]
    split_ifs with hc howner
    · refine withdrawn ?_ n
      exact h.goto hp rfl rfl rfl rfl trivial
    · exact h.goto hp rfl rfl rfl rfl ⟨by simpa using howner, .inr rfl⟩
    · exact h.goto hp rfl rfl rfl rfl (show s.owner = .comfy by simpa using howner)
  case imageActivated n =>
    unfold imageActivated
    split_ifs
    · exact withdrawn (h.goto hp rfl rfl rfl rfl trivial) n
    · exact h.goto hp rfl rfl rfl rfl hf
  case submitted n result =>
    have hr := resolveSubmitted_resolved s n ⟨some result.response, none⟩
    have howner : (resolveSubmitted s n ⟨some result.response, none⟩).owner = .comfy :=
      (hr.field State.owner fun _ ↦ rfl).trans hf
    simp only [imageSubmitted]
    repeat' split
    · exact (h.resolved hr).goto (hr.point.trans hp) rfl rfl rfl rfl trivial
    · exact (h.resolved hr).goto (hr.point.trans hp) rfl rfl rfl rfl trivial
    · exact (h.resolved hr).goto (hr.point.trans hp) rfl rfl rfl rfl trivial
    · exact (h.resolved hr).goto (hr.point.trans hp) rfl rfl rfl rfl howner
  case imageRaised n e => exact h.raised hwf hp
  case imageCancelled n =>
    unfold imageCancelled
    split_ifs
    · exact h.goto hp rfl rfl rfl rfl trivial
    · exact (h.resolved (resolveImageError_resolved s n _)).goto
        ((resolveImageError_resolved s n _).point.trans hp) rfl rfl rfl rfl trivial
  case activateDrainCheck n =>
    unfold activateDrainCheck
    split_ifs with hc hbusy
    · unfold activateWithdrawn
      refine withdrawn ?_ n
      exact h.goto hp rfl rfl rfl rfl trivial
    · exact h.goto hp rfl rfl rfl rfl hf
    · obtain ⟨hchats, hmeta⟩ := not_busy (Bool.eq_false_iff.mpr hbusy)
      exact h.goto hp rfl rfl rfl rfl ⟨hf.1, hchats, hmeta, hf.2⟩
  case activateDrained n =>
    unfold activateDrained
    split_ifs <;> exact h.goto hp rfl rfl rfl rfl hf
  case activateRouter n =>
    unfold activateRouter
    split <;> exact h.goto hp rfl rfl rfl rfl hf
  case activateRouterUnload n restore =>
    exact h.scalar rfl (.inr (.inr ⟨hf.2.1, h.passive_of_metadata hf.2.2.1⟩))
      (.inr (.inr (h.comfy hf.1))) (.inl (by rintro ⟨⟩)) rfl
  case activateUnload n =>
    simp only [activateUnload]
    split_ifs with howner
    · split
      · exact h.scalar rfl (.inr (.inr ⟨hf.2.1, h.passive_of_metadata hf.2.2.1⟩))
          (.inr (.inr (h.comfy hf.1))) (.inl (by rintro ⟨⟩)) trivial
      · exact h.scalar rfl (.inr (.inr ⟨hf.2.1, h.passive_of_metadata hf.2.2.1⟩))
          (.inr (.inr (h.comfy hf.1))) (.inl (by rintro ⟨⟩)) rfl
    · have hunknown := owner_unknown hf.1 (by simpa using howner)
      exact h.scalar rfl (.inr (.inl rfl)) (.inr (.inl rfl)) (.inl (by simp [hunknown])) hunknown
  case activateDone n =>
    have hgone := h.llm (by simp [show s.owner = .unknown from hf])
    exact h.scalar rfl (.inr (.inr hgone)) (.inl rfl) (.inl (by rintro ⟨⟩)) rfl
  all_goals exact h

theorem setImage (h : Exclusive cfg s) (n : ℕ) (w : ImageWork Out) :
    Exclusive cfg (s.setImage n w) :=
  { h with }

/-- The LLM is found on the GPU. -/
theorem confirmed (h : Exclusive cfg s) (howner : s.owner ≠ .comfy) (hs : s'.shared = s.shared)
    (howner' : s'.owner = .llm) (hconf : s'.point.confirming = true)
    (hpoint : PointFacts cfg s' s'.point) : Exclusive cfg s' :=
  h.scalar hs (.inl howner') (.inr (.inr (h.comfy howner))) (.inr (.inr (.inl hconf))) hpoint

theorem onReply {by_ : Routine} {call : Call RP} {r : Reply RP Out} (h : Exclusive cfg s)
    (hcall : s.point.call = some (by_, call))
    (hs : onReply (s.emit (.finished by_ call r)) r = some s') : Exclusive cfg s' := by
  have hf := h.point
  generalize hp : s.point = p at hcall hf
  cases onReply_returns hs hp <;> cases hcall
  case initValidateRaised.refl e | initFreeRaised.refl e | initSnapshotRaised.refl e =>
    exact h.scalar rfl (.inr (.inr (h.llm (by simp [hf.1]))))
      (.inr (.inr (h.comfy (by simp [hf.1])))) (.inl nofun) trivial
  case initSnapshotAcquired.refl restore =>
    exact h.scalar rfl (.inl rfl) (.inr (.inr (h.comfy (by simp [hf.1]))))
      (.inr (.inr (.inr hf.2))) trivial
  case restoreFreeRaised.refl n e =>
    exact h.goto hp rfl rfl rfl rfl hf.2.2.1
  case restoreAcquireTargetAcquired.refl | restoreRouterAcquireAcquired.refl |
      restoreObserveSome.refl =>
    have howner : s.owner = .unknown := hf
    exact h.confirmed (by simp [howner]) rfl rfl rfl ⟨nofun, (h.llm (by simp [howner])).1⟩
  case restoreAcquireAcquired.refl | restoreObserveNone.refl =>
    have howner : s.owner = .unknown := hf
    exact h.goto hp rfl rfl rfl rfl ⟨by simp [howner], (h.llm (by simp [howner])).1⟩
  case activateObserveSome.refl =>
    exact h.confirmed hf.1 rfl rfl rfl ⟨nofun, hf.2⟩
  case submitSubmitted.refl n request result =>
    exact (h.setImage n _).goto hp rfl rfl rfl rfl hf
  case submitRaised.refl n request e =>
    exact (h.setImage n _).goto hp rfl rfl rfl rfl trivial
  case monitorOutputs.refl n promptId outputs =>
    have hr := resolveCompletion_resolved (s.emit (.finished (.dispatchImage n)
      (.waitForPrompt promptId) (.outputs outputs))) n ⟨some outputs, none⟩
    exact (Exclusive.resolved (s := s.emit _) { h with } hr).goto (hr.point.trans hp) rfl rfl rfl
      rfl trivial
  case interruptDone.refl n =>
    have hr := resolveImageError_resolved (s.emit (.finished (.dispatchImage n) .interrupt .done))
      n "broker is shutting down"
    exact (Exclusive.resolved (s := s.emit _) { h with } hr).goto (hr.point.trans hp) rfl rfl rfl
      rfl trivial
  all_goals first
    | exact h.goto hp rfl rfl rfl rfl trivial
    | exact h.goto hp rfl rfl rfl rfl hf

theorem onCancel (h : Exclusive cfg s) (hs : onCancel s = some s') : Exclusive cfg s' := by
  unfold Coordinator.onCancel at hs
  cases hp : s.point <;> rw [hp] at hs <;> cases hs <;>
    first
      | exact h.goto hp rfl rfl rfl rfl trivial
      | exact (h.setImage _ _).goto hp rfl rfl rfl rfl trivial

theorem resumes {a : Action RP Out BE} (h : Exclusive cfg s)
    (hr : Resumes s a s') : Exclusive cfg s' := by
  have hf := h.point
  cases hr with
  | wake hc hs =>
      unfold onWake at hs
      cases hp : s.point <;> rw [hp] at hs hf <;> cases hs
      case nextWork.refl =>
        unfold nextWork
        split
        · exact h.goto hp rfl rfl rfl rfl trivial
        · split
          · exact h
          · next w rest hq =>
              have hr := dequeue_resolved s rest w
              exact (h.resolved hr).goto (hr.point.trans hp) rfl rfl rfl rfl trivial
      case chatDrain.refl n =>
        unfold chatDrainWake
        split <;> exact h.goto hp rfl rfl rfl rfl trivial
      all_goals exact h.goto hp rfl rfl rfl rfl hf
  | timeout hc hs =>
      unfold onTimeout at hs
      cases hp : s.point <;> rw [hp] at hs hf <;> cases hs
      · exact h.goto hp rfl rfl rfl rfl hf.2.2
      · exact h.goto hp rfl rfl rfl rfl trivial
  | fault hc hs =>
      unfold onFault at hs
      cases hp : s.point <;> rw [hp] at hs <;> cases hs <;>
        exact h.goto hp rfl rfl rfl rfl trivial
  | reply hc hcall hs => exact h.onReply hcall hs
  | cancelCall hc hcall hs =>
      exact Exclusive.onCancel (s := { s.emit _ with cancelRequested := false }) { h with } hs
  | cancelWait hc hcall hs =>
      exact Exclusive.onCancel (s := { s with cancelRequested := false }) { h with } hs

/-! ## Clients -/

/-- What the other tasks may do while the dispatcher is suspended. -/
structure Calm (s s' : State RP Out BE) : Prop where
  owner : s'.owner = s.owner
  recorded : s'.recoverableError = s.recoverableError ∨ s.owner = .llm
  noEntry : NoEntry s → NoEntry s'
  chats : s.activeChats = 0 → s'.activeChats = 0
  metadata : Still s → s'.activeLlmMetadata = 0
  controls : NoEntry s → s.activeComfyControls = 0 → s'.activeComfyControls = 0

theorem Calm.still (hc : Calm s s') (h : Still s) : Still s' :=
  ⟨hc.chats h.1, hc.metadata h, hc.noEntry h.2.2⟩

theorem Calm.pointFacts (hc : Calm s s') {p : Point RP} (h : PointFacts cfg s p) :
    PointFacts cfg s' p := by
  have hdrained (hentry : NoEntry s) (hd : s.activeChats = 0 ∧ s.activeLlmMetadata = 0) :
      s'.activeChats = 0 ∧ s'.activeLlmMetadata = 0 :=
    have hstill := hc.still ⟨hd.1, hd.2, hentry⟩
    ⟨hstill.1, hstill.2.1⟩
  have howner := hc.owner
  cases p <;> simp only [PointFacts, howner] at h ⊢
  case unstarted | initValidate | initFree | initSnapshot =>
    refine ⟨h.1, ?_⟩
    rcases hc.recorded with hrec | hown
    · exact hrec ▸ h.2
    · rw [h.1] at hown
      cases hown
  case chatRestore => exact fun hser ↦ hc.still (h hser)
  case chatGrant => exact ⟨h.1, fun hser ↦ hc.chats (h.2 hser)⟩
  case restoreStart => exact ⟨fun hser ↦ hc.still (h.1 hser), h.2⟩
  case restoreControlsCheck | restoreControls =>
    exact ⟨hc.noEntry h.1, fun hser ↦ hdrained h.1 (h.2.1 hser), h.2.2⟩
  case restoreFree | restoreOwn =>
    exact ⟨hc.noEntry h.1, fun hser ↦ hdrained h.1 (h.2.1 hser), h.2.2.1,
      hc.controls h.1 h.2.2.2⟩
  case restoreReload | restoreDone => exact ⟨h.1, hc.chats h.2⟩
  case activateDrainCheck | activateDrain => exact ⟨h.1, hc.noEntry h.2⟩
  case activateDrained | activateRouterValidate | activateRouter | activateRouterAcquire |
      activateRouterUnload | activateValidate | activateObserve | activateUnload =>
    exact ⟨h.1, hc.still h.2⟩
  all_goals trivial

/-- The part of the invariant that speaks of single chats. -/
theorem setChat {n : ℕ} {w : ChatWork RP} (h : Exclusive cfg s)
    (hgranted : w.granted = (s.chats n).granted)
    (htarget : w.target.isSome = true → cfg.llmBackend.isManaged = true)
    (hcancelled : w.cancelled = true → w.granted = false) : Exclusive cfg (s.setChat n w) := by
  refine { h with counted := ?_, target := ?_, cancelled := ?_ }
  · obtain ⟨granted, hmem, hcard⟩ := h.counted
    refine ⟨granted, fun m ↦ ?_, hcard⟩
    by_cases hm : m = n
    · subst hm
      simp [hmem, hgranted]
    · simp [hm, hmem]
  · intro m
    by_cases hm : m = n
    · subst hm
      simpa using htarget
    · simpa [hm] using h.target m
  · intro m
    by_cases hm : m = n
    · subst hm
      simpa using hcancelled
    · simpa [hm] using h.cancelled m

theorem release {n : ℕ} {w : ChatWork RP} (h : Exclusive cfg s)
    (hgranted : (s.chats n).granted = true) (hw : w.granted = false)
    (htarget : w.target = (s.chats n).target) :
    Exclusive cfg { s.setChat n w with activeChats := s.activeChats - 1 } := by
  have hcalm : Calm s { s.setChat n w with activeChats := s.activeChats - 1 } :=
    ⟨rfl, .inl rfl, id, fun h0 ↦ by simp [h0], fun hs ↦ hs.2.1, fun _ h0 ↦ h0⟩
  refine { h with
    counted := ?_, llm := ?_, target := ?_, single := ?_, cancelled := ?_
    point := hcalm.pointFacts h.point }
  · obtain ⟨granted, hmem, hcard⟩ := h.counted
    refine ⟨granted.erase n, fun m ↦ ?_, ?_⟩
    · by_cases hm : m = n <;> simp [hm, hmem, hw]
    · rw [Finset.card_erase_of_mem ((hmem n).mpr hgranted), hcard]
  · intro hne
    exact absurd (h.owner_of_granted hgranted) hne
  · intro m
    by_cases hm : m = n
    · subst hm
      simpa [htarget] using h.target m
    · simpa [hm] using h.target m
  · exact fun hser ↦ (Nat.sub_le _ 1).trans (h.single hser)
  · intro m
    by_cases hm : m = n
    · simp [hm, hw]
    · simpa [hm] using h.cancelled m

theorem chatLeave (h : Exclusive cfg s) (n : ℕ) (entered : Bool) :
    Exclusive cfg (chatLeave s n entered) := by
  let w : ChatWork RP := { s.chats n with
    cancelled := (s.chats n).cancelled || !entered
    granted := false
    client := .gone }
  rw [chatLeave_eq]
  cases hg : (s.chats n).granted with
  | true => exact { h.release (w := w) hg rfl rfl with }
  | false => exact { h.setChat (w := w) hg.symm (h.target n) (fun _ ↦ rfl) with }

theorem withdrawImage (h : Exclusive cfg s) (n : ℕ) (error : String) :
    Exclusive cfg (withdrawImage s n error) := by
  have h' : Exclusive cfg ((s.setImage n { s.images n with cancelled := true }).emit
    (.imageCancelled n)) := { h with }
  rw [withdrawImage_eq]
  dsimp only
  split
  · exact h'.resolved ((removeQueued_resolved _ _).trans (resolveImageError_resolved _ n error))
  · exact h'

theorem leaveBatch (works : List ℕ) : ∀ s : State RP Out BE, Exclusive cfg s →
    Exclusive cfg (works.foldl leaveBatchWork s) := by
  induction works with
  | nil => exact fun s h ↦ h
  | cons n works ih =>
      intro s h
      refine ih _ ?_
      unfold leaveBatchWork
      split
      · exact h.withdrawImage n _
      · exact h

theorem appendBatch (bodies : List (List UInt8)) : ∀ s : State RP Out BE, Exclusive cfg s →
    Exclusive cfg (appendBatch bodies s) := by
  induction bodies with
  | nil => exact fun s h ↦ h
  | cons body bodies ih => exact fun s h ↦ ih _ { h with }

theorem close (h : Exclusive cfg s) : Exclusive cfg (close s) := by
  cases hc : s.closing with
  | true => simpa [Coordinator.close, hc] using h
  | false =>
      have hcalm : Calm s { s with
          closing := true
          state := .shuttingDown
          cancelRequested := dispatcherAlive s } :=
        ⟨rfl, .inl rfl, fun _ ↦ .inl rfl, id, fun hstill ↦ hstill.2.1, fun _ ↦ id⟩
      refine Exclusive.resolved ?_ (close_resolved hc)
      exact { h with point := hcalm.pointFacts h.point }

/-- A lease that is granted contradicts a drained LLM. -/
theorem not_noEntry (hclosing : s.closing = false) (hadmits : s.state.admits = true) :
    ¬NoEntry s := by
  rintro (hc | hs)
  · rw [hclosing] at hc
    cases hc
  · rw [hadmits] at hs
    cases hs

theorem passiveEnter (h : Exclusive cfg s) (hallowed : passiveAllowed cfg s = true) :
    Exclusive cfg { s with
      activeLlmMetadata := s.activeLlmMetadata + 1
      passiveLeases := s.passiveLeases + 1 } := by
  simp only [passiveAllowed, Bool.and_eq_true, Bool.not_eq_true', beq_iff_eq,
    Bool.or_eq_true] at hallowed
  obtain ⟨⟨⟨⟨⟨hclosing, -⟩, -⟩, howner⟩, hstate⟩, -⟩ := hallowed
  have hentry : ¬NoEntry s :=
    not_noEntry hclosing (by rcases hstate with hstate | hstate <;> rw [hstate] <;> rfl)
  have hcalm : Calm s { s with
      activeLlmMetadata := s.activeLlmMetadata + 1
      passiveLeases := s.passiveLeases + 1 } :=
    ⟨rfl, .inl rfl, id, id, fun hstill ↦ absurd hstill.2.2 hentry, fun _ ↦ id⟩
  exact { h with
    metadata := by have := h.metadata; dsimp only; omega
    llm := fun hne ↦ absurd howner hne
    point := hcalm.pointFacts h.point }

theorem routerControl {abort : Bool} (h : Exclusive cfg s)
    (hallowed : routerControlAllowed s abort = true) :
    Exclusive cfg { s with
      activeLlmMetadata := s.activeLlmMetadata + 1
      routerControls := s.routerControls + 1 } := by
  have hdrained : ¬Still s := by
    intro hstill
    simp only [routerControlAllowed, Bool.and_eq_true, Bool.or_eq_true, Bool.not_eq_true',
      bne_iff_ne, beq_iff_eq] at hallowed
    obtain ⟨hclosing, ⟨-, hactive⟩ | ⟨-, hstate⟩⟩ := hallowed
    · exact hactive hstill.1
    · refine not_noEntry hclosing ?_ hstill.2.2
      rcases hstate with (((hstate | hstate) | hstate) | hstate) | hstate <;>
        rw [hstate] <;> rfl
  have hcalm : Calm s { s with
      activeLlmMetadata := s.activeLlmMetadata + 1
      routerControls := s.routerControls + 1 } :=
    ⟨rfl, .inl rfl, id, id, fun hstill ↦ absurd hstill hdrained, fun _ ↦ id⟩
  exact { h with
    metadata := by have := h.metadata; dsimp only; omega
    point := hcalm.pointFacts h.point }

theorem control (h : Exclusive cfg s) (hclosing : s.closing = false) (howner : s.owner = .comfy)
    (hstate : s.state = .comfyReady ∨ s.state = .imageActive) :
    Exclusive cfg
      ({ s with activeComfyControls := s.activeComfyControls + 1 }.emit .controlGranted) := by
  have hentry : ¬NoEntry s :=
    not_noEntry hclosing (by rcases hstate with hstate | hstate <;> rw [hstate] <;> rfl)
  have hcalm : Calm s ({ s with activeComfyControls := s.activeComfyControls + 1 }.emit
      .controlGranted) :=
    ⟨rfl, .inl rfl, id, id, fun hstill ↦ hstill.2.1, fun hno _ ↦ absurd hno hentry⟩
  exact { h with
    comfy := fun hne ↦ absurd howner hne
    point := hcalm.pointFacts h.point }

theorem routerFailed {n : ℕ} {error : String} (h : Exclusive cfg s)
    (hreserves : cfg.reserves = true) (hgranted : (s.chats n).granted = true) :
    Exclusive cfg ((markRecoverable s error).emit (.routerFailed n)) := by
  have hser : cfg.serialized = true := cfg.serialized_of_reserves hreserves
  have hcalm : Calm s (markRecoverable s error) :=
    ⟨rfl, .inr (h.owner_of_granted hgranted), fun _ ↦ .inr rfl, id, fun hstill ↦ hstill.2.1,
      fun _ ↦ id⟩
  exact { h with
    unserialized := fun hser' ↦ absurd hser (by simp [hser'])
    point := hcalm.pointFacts h.point }

theorem metadataExit {passive controls : ℕ} (h : Exclusive cfg s)
    (hcount : s.activeLlmMetadata - 1 = passive + controls) (hle : passive ≤ s.passiveLeases) :
    Exclusive cfg { s with
      activeLlmMetadata := s.activeLlmMetadata - 1
      passiveLeases := passive
      routerControls := controls } := by
  have hcalm : Calm s { s with
      activeLlmMetadata := s.activeLlmMetadata - 1
      passiveLeases := passive
      routerControls := controls } :=
    ⟨rfl, .inl rfl, id, id, fun hstill ↦ by simp [hstill.2.1], fun _ ↦ id⟩
  exact { h with
    metadata := hcount
    llm := fun hne ↦ ⟨(h.llm hne).1, Nat.le_zero.mp ((h.llm hne).2 ▸ hle)⟩
    point := hcalm.pointFacts h.point }

theorem controlExit (h : Exclusive cfg s) : Exclusive cfg
    ({ s with activeComfyControls := s.activeComfyControls - 1 }.emit .controlReleased) := by
  have hcalm : Calm s ({ s with activeComfyControls := s.activeComfyControls - 1 }.emit
      .controlReleased) :=
    ⟨rfl, .inl rfl, id, id, fun hstill ↦ hstill.2.1, fun _ h0 ↦ by simp [h0]⟩
  exact { h with
    comfy := fun hne ↦ by simp [h.comfy hne]
    point := hcalm.pointFacts h.point }

theorem client (hwf : WellFormed s) (h : Exclusive cfg s) (hs : Clients cfg s s') :
    Exclusive cfg s' := by
  cases hs with
  | refused => exact h
  | startup hp =>
      have hf : PointFacts cfg s .unstarted := hp ▸ h.point
      unfold initializeStart
      split_ifs
      · exact h.goto hp rfl rfl hf.1.symm rfl trivial
      · exact h.goto hp rfl rfl rfl rfl hf
  | cancelStartup by_ call hinit hcall =>
      cases hp : s.point <;> rw [hp] at hinit <;> cases hinit <;>
        exact h.goto hp rfl rfl rfl rfl trivial
  | chatLease target htarget hclosing hfatal =>
      have hfresh := (hwf.fresh (s.sequence + 1) (Nat.lt_succ_self _)).2
      exact { h.setChat (n := s.sequence + 1) (w := ⟨none, false, false, target, .waiting⟩)
        hfresh.symm htarget nofun with }
  | chatEnter n error hclient hready herror => exact h.setChat rfl (h.target n) (h.cancelled n)
  | chatLeave n entered hclient => exact h.chatLeave n entered
  | routerFailed n hreserves hclient hgranted => exact h.routerFailed hreserves hgranted
  | passiveEnter hallowed => exact h.passiveEnter hallowed
  | passiveExit hheld =>
      have := h.metadata
      exact h.metadataExit (by omega) (Nat.sub_le _ 1)
  | routerControl abort hallowed => exact h.routerControl hallowed
  | routerControlExit hheld =>
      have := h.metadata
      exact h.metadataExit (by omega) (le_refl _)
  | control hclosing howner hstate => exact h.control hclosing howner hstate
  | controlExit hheld => exact h.controlExit
  | imageWake n hclient hsubmitted => exact h.setImage n _
  | imageCancel n hclient => exact (h.setImage n _).withdrawImage n _
  | imageBatch bodies hclosing hfatal => exact { h.appendBatch bodies with }
  | batchExit works hworks => exact leaveBatch works _ { h with }
  | close => exact h.close
  | submitImage | cancelClose | refreshRestorePoint | backend => exact { h with }

end Exclusive

/-- The lease invariant holds in every reachable state. -/
theorem exclusive_inductive [DecidableEq RP] {cfg : BrokerConfig}
    {ok : State RP Out BE → Action RP Out BE → Prop} :
    InductiveOver cfg ok WellFormed (Exclusive cfg : State RP Out BE → Prop) where
  initial := .initial
  advance _ hwf h := h.advance hwf
  resumes _ _ _ _ h _ hr := h.resumes hr
  client _ _ _ hwf h _ _ hs := h.client hwf hs

/-! ## Exclusivity -/

variable {cfg : BrokerConfig} {s : State RP Out BE}

theorem exclusive_of_reachable [DecidableEq RP] (hs : (system RP Out BE cfg).Reachable s) :
    Exclusive cfg s :=
  ((wellFormed_inductive.extend exclusive_inductive).reachableVia hs).2.2

theorem Exclusive.comfy_of_call (h : Exclusive cfg s) {by_ : Routine} {call : Call RP}
    (hcall : s.point.call = some (by_, call)) (hwork : call.isWorkflow = true) :
    s.owner = .comfy := by
  have hf := h.point
  cases hp : s.point <;> rw [hp] at hcall hf <;> cases hcall <;>
    first
      | exact hf
      | cases hwork

/-- While a model is loaded or unloaded, nobody holds the GPU. -/
theorem Exclusive.free_of_call (h : Exclusive cfg s) {by_ : Routine} {call : Call RP}
    (hcall : s.point.call = some (by_, call)) (hload : call.isLoading = true) :
    s.activeChats = 0 ∧ s.passiveLeases = 0 ∧ s.activeComfyControls = 0 := by
  have hunknown (howner : s.owner = .unknown) :
      s.activeChats = 0 ∧ s.passiveLeases = 0 ∧ s.activeComfyControls = 0 :=
    have hllm := h.llm (by simp [howner])
    ⟨hllm.1, hllm.2, h.comfy (by simp [howner])⟩
  have hf := h.point
  cases hp : s.point <;> rw [hp] at hcall hf <;> cases hcall <;>
    first
      | exact hunknown hf
      | exact ⟨hf.2.1, h.passive_of_metadata hf.2.2.1, h.comfy hf.1⟩
      | cases hload

/-- GPU exclusivity in every reachable state: chat and metadata leases are held
only while the LLM owns the GPU, control leases and workflows only while
ComfyUI does, and during a load or an unload there are none of them. -/
theorem gpu_exclusive [DecidableEq RP] (hs : (system RP Out BE cfg).Reachable s) :
    ((∃ n, (s.chats n).granted = true) ∨ 0 < s.passiveLeases → s.owner = .llm) ∧
    (0 < s.activeComfyControls ∨
        (∃ by_ call, s.point.call = some (by_, call) ∧ call.isWorkflow = true) →
      s.owner = .comfy) ∧
    ((∃ by_ call, s.point.call = some (by_, call) ∧ call.isLoading = true) →
      (∀ n, (s.chats n).granted = false) ∧ s.passiveLeases = 0 ∧ s.activeComfyControls = 0) ∧
    ((∃ n, (s.chats n).granted = true) → s.activeComfyControls = 0 ∧
      ∀ by_ call, s.point.call = some (by_, call) → call.isWorkflow = false) := by
  have h := exclusive_of_reachable hs
  have hllm : (∃ n, (s.chats n).granted = true) ∨ 0 < s.passiveLeases → s.owner = .llm := by
    rintro (⟨n, hn⟩ | hpassive)
    · exact h.owner_of_granted hn
    · by_contra hne
      rw [(h.llm hne).2] at hpassive
      exact absurd hpassive (Nat.lt_irrefl 0)
  refine ⟨hllm, ?_, ?_, ?_⟩
  · rintro (hcontrols | ⟨by_, call, hcall, hwork⟩)
    · by_contra hne
      rw [h.comfy hne] at hcontrols
      exact absurd hcontrols (Nat.lt_irrefl 0)
    · exact h.comfy_of_call hcall hwork
  · rintro ⟨by_, call, hcall, hload⟩
    obtain ⟨hchats, hpassive, hcontrols⟩ := h.free_of_call hcall hload
    refine ⟨fun n ↦ ?_, hpassive, hcontrols⟩
    by_contra hn
    have hactive := h.active_of_granted (by simpa using hn)
    rw [hchats] at hactive
    exact absurd hactive (Nat.lt_irrefl 0)
  · intro hgranted
    have howner := hllm (.inl hgranted)
    refine ⟨h.comfy (by simp [howner]), fun by_ call hcall ↦ ?_⟩
    by_contra hwork
    have := h.comfy_of_call hcall (by simpa using hwork)
    rw [howner] at this
    cases this

/-- A KoboldCpp broker without router mode. -/
def koboldConfig : BrokerConfig where
  llmBackend := .koboldcpp
  koboldRouterMode := false
  maxWorkflowBodyBytes := 8
  maxQueuedImages := 4
  maxQueuedWorkflowBytes := 32
  router_koboldcpp := nofun
  body_pos := by decide
  images_pos := by decide
  body_le_queue := by decide

/-- A chat is granted after cleanup and observation. -/
def grantedChatRun : List (Action ℕ Unit Empty) :=
  [.startup, .chatLease none, .wake, .reply .done, .reply .done, .reply (.observed (some 7))]

def grantedChatState : State ℕ Unit Empty :=
  ((system ℕ Unit Empty koboldConfig).exec .initial grantedChatRun).get (by decide)

theorem gpu_exclusive_grantedChat :
    (grantedChatState.chats 1).granted = true ∧ grantedChatState.owner = .llm :=
  ⟨by decide, (gpu_exclusive (TransitionSystem.exec_get_reachable (M := system ℕ Unit Empty
    koboldConfig) rfl (by decide))).1 (.inl ⟨1, by decide⟩)⟩

end StProxy.Coordinator
