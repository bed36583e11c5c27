import StProxy.Coordinator.Leases
import StProxy.Lib.History

/-!
# The order of service

A work is served when its chat lease is granted or its workflow is submitted.
The numbers of the served works, newest first, decrease along the history.
-/

namespace StProxy.Coordinator

variable {RP Out BE : Type}

/-- The work that an event serves. -/
def Event.served : Event RP Out BE → Option ℕ
  | .chatGranted n => some n
  | .started (.dispatchImage n) (.submit _) => some n
  | _ => none

/-- ComfyUI accepted the workflow and named a prompt. -/
def PromptResult.isAccepted (result : PromptResult) : Bool :=
  decide (result.response.status < 400) && truthy result.promptId

/-- The work whose prompt an event ends: the submission failed, was rejected or
named no prompt, or `wait_for_prompt` returned or raised. -/
def Event.terminal : Event RP Out BE → Option ℕ
  | .finished (.dispatchImage n) (.submit _) (.raised _) => some n
  | .finished (.dispatchImage n) (.submit _) (.submitted result) =>
      if result.isAccepted then none else some n
  | .finished (.dispatchImage n) (.waitForPrompt _) _ => some n
  | _ => none

def Terminal (log : List (Event RP Out BE)) (n : ℕ) : Prop :=
  ∃ e ∈ log, e.terminal = some n

/-- Every prompt submitted so far has a terminal result. -/
def AllTerminal (log : List (Event RP Out BE)) : Prop :=
  ∀ n request, .started (.dispatchImage n) (.submit request) ∈ log → Terminal log n

/-- What an event requires of the history before it. -/
def Ordered (e : Event RP Out BE) (rest : List (Event RP Out BE)) : Prop :=
  match e with
  | .chatGranted _ => AllTerminal rest
  | .started (.dispatchImage _) (.submit _) =>
      AllTerminal rest ∧ ∀ m, .chatGranted m ∈ rest → .chatReleased m ∈ rest
  | _ => True

theorem Terminal.append {log : List (Event RP Out BE)} {n : ℕ} (h : Terminal log n)
    (l : List (Event RP Out BE)) : Terminal (l ++ log) n := by
  obtain ⟨e, he, hn⟩ := h
  exact ⟨e, List.mem_append_right l he, hn⟩

theorem ordered_of_not_served {e : Event RP Out BE} (he : e.served = none)
    (rest : List (Event RP Out BE)) : Ordered e rest := by
  unfold Ordered
  split
  · cases he
  · cases he
  · trivial

theorem Point.not_prompting {p : Point RP} {w : QueuedWork} (hlate : p.late = false)
    (hcur : p.current = some w) : p.prompting = false := by
  cases p <;> first | rfl | (cases hlate; done) | cases hcur

/-- The order of service along a run. -/
structure Fifo (s : State RP Out BE) : Prop where
  decreasing : (s.log.filterMap Event.served).Pairwise (· > ·)
  bound : ∀ m ∈ s.log.filterMap Event.served, m ≤ s.sequence
  queue : ∀ m ∈ s.log.filterMap Event.served, ∀ w ∈ s.queue, m < w.sequence
  current_le : ∀ w, s.point.current = some w →
    ∀ m ∈ s.log.filterMap Event.served, m ≤ w.sequence
  current_lt : ∀ w, s.point.current = some w → s.point.late = false →
    ∀ m ∈ s.log.filterMap Event.served, m < w.sequence
  released : ∀ n, .chatGranted n ∈ s.log →
    (s.chats n).granted = true ∨ .chatReleased n ∈ s.log
  terminal : ∀ n request, .started (.dispatchImage n) (.submit request) ∈ s.log →
    Terminal s.log n ∨
      s.point.prompting = true ∧ ∀ w, s.point.current = some w → w = .image n
  result : ∀ n result, s.point = .submitted n result →
    ∃ request, .finished (.dispatchImage n) (.submit request) (.submitted result) ∈ s.log
  ordered : History.Always Ordered s.log
  batches : ∀ works, .imagesAccepted works ∈ s.log →
    ∃ first, works = List.range' first works.length

namespace Fifo

variable {s s' : State RP Out BE}

theorem initial : Fifo (.initial : State RP Out BE) where
  decreasing := .nil
  bound := nofun
  queue := nofun
  current_le := nofun
  current_lt := nofun
  released := nofun
  terminal := nofun
  result := nofun
  ordered := History.always_nil _
  batches := nofun

theorem allTerminal (h : Fifo s) (hp : s.point.prompting = false) : AllTerminal s.log := by
  intro n request hn
  refine (h.terminal n request hn).resolve_right ?_
  rintro ⟨hp', -⟩
  rw [hp] at hp'
  cases hp'

/-- Events that serve nobody are added. -/
theorem extend {l : List (Event RP Out BE)} (h : Fifo s) (hlog : s'.log = l ++ s.log)
    (hserved : ∀ e ∈ l, e.served = none)
    (hbatch : ∀ works, .imagesAccepted works ∈ l →
      ∃ first, works = List.range' first works.length)
    (hseq : s.sequence ≤ s'.sequence)
    (hqueue : ∀ w ∈ s'.queue, w ∈ s.queue ∨ s.sequence < w.sequence)
    (hcur : ∀ w, s'.point.current = some w →
      s.point.current = some w ∧ (s'.point.late = false → s.point.late = false) ∨ w ∈ s.queue)
    (hgranted : ∀ n, (s.chats n).granted = true →
      (s'.chats n).granted = true ∨ .chatReleased n ∈ l)
    (hterminal : ∀ n request, .started (.dispatchImage n) (.submit request) ∈ s.log →
      Terminal s'.log n ∨
        s'.point.prompting = true ∧ ∀ w, s'.point.current = some w → w = .image n)
    (hresult : ∀ n result, s'.point = .submitted n result →
      ∃ request, .finished (.dispatchImage n) (.submit request) (.submitted result) ∈ s'.log) :
    Fifo s' := by
  have hfilter : s'.log.filterMap Event.served = s.log.filterMap Event.served := by
    rw [hlog, List.filterMap_append, List.filterMap_eq_nil_iff.mpr hserved, List.nil_append]
  have hmem {e : Event RP Out BE} (he : e.served ≠ none) (hin : e ∈ s'.log) : e ∈ s.log := by
    rw [hlog, List.mem_append] at hin
    exact hin.resolve_left fun hin ↦ he (hserved e hin)
  constructor
  · rw [hfilter]
    exact h.decreasing
  · rw [hfilter]
    exact fun m hm ↦ (h.bound m hm).trans hseq
  · rw [hfilter]
    intro m hm w hw
    rcases hqueue w hw with hw | hw
    · exact h.queue m hm w hw
    · exact (h.bound m hm).trans_lt hw
  · rw [hfilter]
    intro w hw m hm
    rcases hcur w hw with ⟨hw, -⟩ | hw
    · exact h.current_le w hw m hm
    · exact (h.queue m hm w hw).le
  · rw [hfilter]
    intro w hw hlate m hm
    rcases hcur w hw with ⟨hw, hlate'⟩ | hw
    · exact h.current_lt w hw (hlate' hlate) m hm
    · exact h.queue m hm w hw
  · intro n hn
    rw [hlog]
    rcases h.released n (hmem nofun hn) with hg | hr
    · exact (hgranted n hg).imp_right fun hr ↦ List.mem_append_left _ hr
    · exact .inr (List.mem_append_right _ hr)
  · exact fun n request hn ↦ hterminal n request (hmem nofun hn)
  · exact hresult
  · rw [hlog]
    exact h.ordered.append fun e he ↦ ordered_of_not_served (hserved e he)
  · intro works hw
    rw [hlog, List.mem_append] at hw
    rcases hw with hw | hw
    · exact hbatch works hw
    · exact h.batches works hw

/-- The dispatcher moves on with the same work, or ends it. -/
theorem advance {l : List (Event RP Out BE)} {p : Point RP} (h : Fifo s) (hp : s.point = p)
    (hlog : s'.log = l ++ s.log)
    (hes : ∀ e ∈ l, e.served = none ∧ ∀ works, e ≠ .imagesAccepted works)
    (hseq : s'.sequence = s.sequence) (hqueue : ∀ w ∈ s'.queue, w ∈ s.queue)
    (hgranted : ∀ n, (s'.chats n).granted = (s.chats n).granted)
    (hcur : s'.point.current = p.current ∨ s'.point.current = none)
    (hlate : (!p.late || s'.point.late || s'.point.current.isNone) = true)
    (hterminal : AllTerminal s'.log ∨ (p.prompting && s'.point.prompting) = true)
    (hresult : ∀ n result, s'.point = .submitted n result →
      ∃ request, .finished (.dispatchImage n) (.submit request) (.submitted result) ∈ s'.log) :
    Fifo s' := by
  subst hp
  have hcur' : ∀ w, s'.point.current = some w → s.point.current = some w := by
    intro w hw
    rcases hcur with hcur | hcur
    · exact hcur ▸ hw
    · rw [hcur] at hw
      cases hw
  refine h.extend hlog (fun e he ↦ (hes e he).1)
    (fun works hw ↦ absurd rfl ((hes _ hw).2 works)) hseq.ge (fun w hw ↦ .inl (hqueue w hw))
    (fun w hw ↦ .inl ⟨hcur' w hw, fun hl ↦ ?_⟩) (fun n hn ↦ .inl ((hgranted n).trans hn)) ?_ hresult
  · simpa [hw, hl] using hlate
  · intro n request hn
    rcases hterminal with hall | hprompt
    · exact .inl (hall n request (hlog ▸ List.mem_append_right l hn))
    · rw [Bool.and_eq_true] at hprompt
      rcases h.terminal n request hn with hterm | ⟨-, hw⟩
      · exact .inl (hlog ▸ hterm.append l)
      · exact .inr ⟨hprompt.2, fun w hw' ↦ hw w (hcur' w hw')⟩

theorem resolved_events {fs : List FutureId} {e : Event RP Out BE}
    (he : e ∈ fs.map (Event.resolved : FutureId → Event RP Out BE)) :
    e.served = none ∧ (∀ works, e ≠ .imagesAccepted works) := by
  obtain ⟨f, -, rfl⟩ := List.mem_map.mp he
  exact ⟨rfl, nofun⟩

theorem neutral_events {e : Event RP Out BE} (he : e.neutral = true) :
    e.served = none ∧ (∀ works, e ≠ .imagesAccepted works) := by
  cases e with
  | started by_ call =>
      cases call <;> first | (cases he; done) | exact ⟨by cases by_ <;> rfl, nofun⟩
  | controlsTimedOut n | comfyGranted n | finished by_ call r | interrupted by_ call =>
      exact ⟨rfl, nofun⟩
  | _ => cases he

/-- A history without new submissions stays terminal. -/
theorem allTerminal_append {l log : List (Event RP Out BE)} (h : AllTerminal log)
    (hes : ∀ e ∈ l, e.served = none) : AllTerminal (l ++ log) := by
  intro n request hn
  rcases List.mem_append.mp hn with hn | hn
  · cases hes _ hn
  · exact (h n request hn).append l

theorem plain (h : Fifo s) (hm : Plain s s') : Fifo s' := by
  obtain ⟨l, hlog, hes⟩ := hm.log
  have hseq : s'.sequence = s.sequence := congrArg Shared.sequence hm.shared
  have hq : s'.queue = s.queue := congrArg Shared.queue hm.shared
  have hchats : s'.chats = s.chats := congrArg Shared.chats hm.shared
  have hevents e (he : e ∈ l) := neutral_events (hes e he)
  refine h.advance rfl hlog hevents hseq (fun w hw ↦ hq ▸ hw) (fun n ↦ by rw [hchats])
    (.inl hm.follows.current) ?_ ?_ ?_
  · simp [hm.follows.late]
  · cases hp : s.point.prompting with
    | false =>
        rw [hlog]
        exact .inl (allTerminal_append (h.allTerminal hp) fun e he ↦ (hevents e he).1)
    | true =>
        have := hm.follows.prompting
        rw [hp] at this
        exact .inr this
  · intro n result hp
    have := hm.follows.submitted
    rw [hp] at this
    cases this

theorem resolved (h : Fifo s) (hr : Resolved s s') (hq : ∀ w ∈ s'.queue, w ∈ s.queue) :
    Fifo s' := by
  obtain ⟨fs, hlog, -⟩ := hr.log
  have hpoint := hr.point
  refine h.advance rfl hlog (fun e he ↦ resolved_events he) (hr.field State.sequence fun _ ↦ rfl)
    hq hr.granted (.inl (by rw [hpoint])) (by simp [hpoint]) ?_ ?_
  · cases hp : s.point.prompting with
    | false =>
        rw [hlog]
        exact .inl (allTerminal_append (h.allTerminal hp) fun e he ↦ (resolved_events he).1)
    | true => exact .inr (by rw [hpoint, hp]; rfl)
  · intro n result hp
    obtain ⟨request, hmem⟩ := h.result n result (hpoint ▸ hp)
    exact ⟨request, hlog ▸ List.mem_append_right _ hmem⟩

theorem silent {p : Point RP} (h : Fifo s) (hp : s.point = p) (hs : s'.shared = s.shared)
    (hlog : s'.log = s.log) (hcur : s'.point.current = p.current ∨ s'.point.current = none)
    (hlate : (!p.late || s'.point.late || s'.point.current.isNone) = true)
    (hprompt : AllTerminal s.log ∨ (p.prompting && s'.point.prompting) = true)
    (hresult : s'.point.isSubmitted = false) : Fifo s' := by
  have hq : s'.queue = s.queue := congrArg Shared.queue hs
  have hchats : s'.chats = s.chats := congrArg Shared.chats hs
  refine h.advance (l := []) hp hlog (by simp) (congrArg Shared.sequence hs)
    (fun w hw ↦ hq ▸ hw) (fun n ↦ by rw [hchats]) hcur hlate (by rwa [hlog]) ?_
  intro n result hp'
  rw [hp'] at hresult
  cases hresult

theorem nextWork (h : Fifo s) (hprompt : s.point.prompting = false) :
    Fifo (s.goto .nextWork) :=
  h.silent rfl rfl rfl (.inr rfl) (by simp [Point.current]) (.inl (h.allTerminal hprompt)) rfl

/-- A work is served. -/
theorem serve {e : Event RP Out BE} {n : ℕ} (h : Fifo s) (he : e.served = some n)
    (hbatch : ∀ works, e ≠ .imagesAccepted works) (hlog : s'.log = e :: s.log)
    (hseq : s'.sequence = s.sequence) (hq : s'.queue = s.queue) (hn : n ≤ s.sequence)
    (hlt : ∀ m ∈ s.log.filterMap Event.served, m < n)
    (hahead : ∀ w ∈ s.queue, n < w.sequence)
    (hcur : ∀ w, s'.point.current = some w → w.sequence = n ∧ s'.point.late = true)
    (hordered : Ordered e s.log)
    (hreleased : ∀ m, .chatGranted m ∈ e :: s.log →
      (s'.chats m).granted = true ∨ .chatReleased m ∈ s.log)
    (hterminal : ∀ m request, .started (.dispatchImage m) (.submit request) ∈ e :: s.log →
      Terminal s.log m ∨
        s'.point.prompting = true ∧ ∀ w, s'.point.current = some w → w = .image m)
    (hresult : s'.point.isSubmitted = false) : Fifo s' := by
  have hfilter : s'.log.filterMap Event.served = n :: s.log.filterMap Event.served := by
    rw [hlog, List.filterMap_cons_some he]
  have hle : ∀ m ∈ s'.log.filterMap Event.served, m ≤ n := by
    rw [hfilter]
    intro m hm
    rcases List.mem_cons.mp hm with rfl | hm
    · exact le_refl _
    · exact (hlt m hm).le
  constructor
  · rw [hfilter, List.pairwise_cons]
    exact ⟨hlt, h.decreasing⟩
  · exact fun m hm ↦ hseq ▸ (hle m hm).trans hn
  · exact fun m hm w hw ↦ (hle m hm).trans_lt (hahead w (hq ▸ hw))
  · exact fun w hw m hm ↦ (hcur w hw).1 ▸ hle m hm
  · intro w hw hlate
    rw [(hcur w hw).2] at hlate
    cases hlate
  · intro m hm
    rw [hlog] at hm ⊢
    exact (hreleased m hm).imp_right (List.mem_cons_of_mem e)
  · intro m request hm
    rw [hlog] at hm ⊢
    exact (hterminal m request hm).imp_left fun ht ↦ ht.append [e]
  · intro m result hp
    rw [hp] at hresult
    cases hresult
  · rw [hlog, History.always_cons]
    exact ⟨hordered, h.ordered⟩
  · intro works hw
    rw [hlog] at hw
    rcases List.mem_cons.mp hw with hw | hw
    · exact absurd hw.symm (hbatch works)
    · exact h.batches works hw

theorem grant {cfg : BrokerConfig} {n : ℕ} (hwf : WellFormed s) (h : Fifo s)
    (hp : s.point = .chatGrant n) : Fifo (chatGrant cfg s n) := by
  have hcur : s.point.current = some (.chat n) := by rw [hp]; rfl
  have hall : AllTerminal s.log := h.allTerminal (by rw [hp]; rfl)
  have hnext : Fifo (s.goto .nextWork) := h.nextWork (by rw [hp]; rfl)
  unfold chatGrant
  split_ifs
  · exact hnext
  · exact hnext.resolved ((resolveChat_resolved s n _).goto .nextWork) (by simp)
  · exact hnext.resolved ((resolveChat_resolved s n _).goto .nextWork) (by simp)
  · refine Fifo.resolved ?_ ((resolveChat_resolved _ n none).goto .nextWork) (by simp)
    refine h.serve (e := .chatGranted n) rfl nofun rfl rfl rfl (hwf.current_le _ hcur)
      (h.current_lt _ hcur (by rw [hp]; rfl)) (hwf.current_lt _ hcur) nofun hall ?_ ?_ rfl
    · intro m hm
      by_cases hmn : m = n
      · simp [hmn]
      · have hm' : .chatGranted m ∈ s.log := by simpa [hmn] using hm
        simpa [hmn] using h.released m hm'
    · intro m request hm
      exact .inl (hall m request (by simpa using hm))

theorem submit {n : ℕ} (hwf : WellFormed s) (h : Fifo s) (hp : s.point = .imageActivated n)
    (hfree : ∀ m, (s.chats m).granted = false) :
    Fifo ((s.setState .imageActive).await (.submit n (s.images n).request) (.dispatchImage n)
      (.submit (s.images n).request)) := by
  have hcur : s.point.current = some (.image n) := by rw [hp]; rfl
  have hall : AllTerminal s.log := h.allTerminal (by rw [hp]; rfl)
  have hreleased : ∀ m, .chatGranted m ∈ s.log → .chatReleased m ∈ s.log := by
    intro m hm
    refine (h.released m hm).resolve_left ?_
    rw [hfree m]
    simp
  refine h.serve (e := .started (.dispatchImage n) (.submit (s.images n).request)) rfl (by simp) rfl
    rfl rfl (hwf.current_le _ hcur) (h.current_lt _ hcur (by rw [hp]; rfl))
    (hwf.current_lt _ hcur) ?_ ⟨hall, hreleased⟩ ?_ ?_ rfl
  · rintro w ⟨⟩
    exact ⟨rfl, rfl⟩
  · intro m hm
    exact .inr (hreleased m (by simpa using hm))
  · intro m request hm
    rcases List.mem_cons.mp hm with heq | hm
    · cases heq
      exact .inr ⟨rfl, by rintro w ⟨⟩; rfl⟩
    · exact .inl (hall m request hm)

/-- The prompt of the current work ends. -/
theorem ends {e : Event RP Out BE} {n : ℕ} (h : Fifo s) (he : e.terminal = some n)
    (hserved : e.served = none) (hcur : s.point.current = some (.image n)) :
    AllTerminal (e :: s.log) := by
  intro m request hm
  rcases List.mem_cons.mp hm with rfl | hm
  · cases hserved
  · rcases h.terminal m request hm with hterm | ⟨-, hw⟩
    · exact hterm.append [e]
    · cases hw _ hcur
      exact ⟨e, List.mem_cons_self, he⟩

theorem rejected {n : ℕ} {result : PromptResult} (h : Fifo s)
    (hp : s.point = .submitted n result) (hrejected : result.isAccepted = false) :
    AllTerminal s.log := by
  obtain ⟨request, hfinished⟩ := h.result n result hp
  intro m request' hm
  rcases h.terminal m request' hm with hterm | ⟨-, hw⟩
  · exact hterm
  · cases hw (.image n) (by rw [hp]; rfl)
    exact ⟨_, hfinished, by simp [Event.terminal, hrejected]⟩

theorem submitted {n : ℕ} {result : PromptResult} (h : Fifo s)
    (hp : s.point = .submitted n result) : Fifo (imageSubmitted s n result) := by
  have hr := resolveSubmitted_resolved s n ⟨some result.response, none⟩
  have h' := h.resolved hr (by simp)
  have hp' := hr.point.trans hp
  have hraised (e : Exn) (hrejected : result.isAccepted = false) :
      Fifo ((resolveSubmitted s n ⟨some result.response, none⟩).goto (.imageRaised n e)) :=
    h'.silent hp' rfl rfl (.inl rfl) rfl (.inl (h'.rejected hp' hrejected)) rfl
  simp only [imageSubmitted]
  split_ifs with hstatus
  · exact hraised _ (by simp [PromptResult.isAccepted, Nat.not_lt.mpr hstatus])
  · split
    · next hnone => exact hraised _ (by simp [PromptResult.isAccepted, hnone])
    · next promptId hsome =>
        split_ifs with hempty
        · exact hraised _ (by simp [PromptResult.isAccepted, hsome, hempty, truthy])
        · refine h'.advance (l := [.started (.dispatchImage n) (.waitForPrompt promptId)]) hp' rfl
            ?_ rfl (fun _ ↦ id) (fun _ ↦ rfl) (.inl rfl) rfl (.inr rfl) (by rintro _ _ ⟨⟩)
          rintro e he
          cases List.mem_singleton.mp he
          exact ⟨rfl, by simp⟩

theorem imageShutdown {n : ℕ} {p : Point RP} (h : Fifo s) (hp : s.point = p)
    (hcur : p.current = some (.image n)) (hprompt : p.prompting = true) :
    Fifo (imageShutdown s n) := by
  have hr := resolveImageError_resolved s n "broker is shutting down"
  exact (h.resolved hr (by simp)).silent (hr.point.trans hp) rfl rfl (.inl hcur.symm)
    (by simp [Coordinator.imageShutdown, Point.late]) (.inr (by rw [hprompt]; rfl)) rfl

theorem goto_ended (h : Fifo s) : Fifo (s.goto .ended) := by
  refine h.advance (l := []) rfl rfl (by simp) rfl (fun _ ↦ id) (fun _ ↦ rfl) (.inr rfl)
    (by simp [Point.current]) ?_ nofun
  cases hp : s.point.prompting with
  | false => exact .inl (h.allTerminal hp)
  | true => exact .inr rfl

theorem withdraw {n : ℕ} (h : Fifo s) (hp : s.point.late = false)
    (hcur : s.point.current = some (.image n)) : Fifo (imageWithdrawn s n) :=
  have hr := (resolveImageError_resolved s n "image request was cancelled").goto .nextWork
  { (h.nextWork (Point.not_prompting hp hcur)).resolved hr (by simp) with }

theorem moves {cfg : BrokerConfig} (hwf : WellFormed s) (hex : Exclusive cfg s) (h : Fifo s)
    (hm : Moves cfg s s') : Fifo s' := by
  cases hm with
  | stay => exact h
  | plain hsusp hm => exact h.plain hm
  | skip n hp hc => exact h.nextWork (by rw [hp]; rfl)
  | deny n hp =>
      exact (h.nextWork (by rw [hp]; rfl)).resolved ((resolveChat_resolved s n _).goto .nextWork)
        (by simp [chatDenied])
  | grant n hp => exact h.grant hwf hp
  | withdraw n st err hp hcur hc =>
      exact Fifo.withdraw (s := { s with state := st, lastError := err }) { h with } hp hcur
  | submit n hp hc =>
      refine h.submit hwf hp fun m ↦ ?_
      have howner : s.owner = .comfy := by
        have hf := hex.point
        rwa [hp] at hf
      by_contra hm
      have hllm := hex.owner_of_granted (by simpa using hm)
      rw [howner] at hllm
      cases hllm
  | submitted n result hp => exact h.submitted hp
  | raised n e hp =>
      have hnext : Fifo (s.goto .nextWork) := h.nextWork (by rw [hp]; rfl)
      have hr (t : State RP Out BE) := (resolveImageError_resolved t n e.message).goto .nextWork
      simp only [imageRaised]
      split_ifs
      · exact { Fifo.resolved (s := (s.setState .comfyReady).goto .nextWork) { hnext with }
          (hr _) (by simp) with }
      · exact { Fifo.resolved (s := (s.setState .llmReady).goto .nextWork) { hnext with }
          (hr _) (by simp) with }
      · exact { hnext.resolved (hr _) (by simp) with }
      · exact { Fifo.resolved (s := (markRecoverable s _).goto .nextWork) { hnext with }
          (hr _) (by simp) with }
  | shutdown n hp => exact h.imageShutdown hp rfl rfl
  | cancelled w hp =>
      exact h.goto_ended.resolved ((resolveWork_resolved s w _).goto .ended)
        (by simp [dispatcherCancelled])
  | failed w e hp =>
      refine Fifo.resolved ?_ (dispatcherFailed_resolved s w e)
        (by simp [dispatcherFailed, markFatal])
      exact { h.goto_ended with }

theorem emit {e : Event RP Out BE} (h : Fifo s) (he : e.served = none)
    (hbatch : ∀ works, e ≠ .imagesAccepted works) : Fifo (s.emit e) := by
  refine h.extend (l := [e]) rfl (by simpa)
    (by simpa using fun works hw ↦ absurd hw.symm (hbatch works))
    (le_refl _) (fun _ ↦ .inl) (fun w hw ↦ .inl ⟨hw, id⟩) (fun _ ↦ .inl) ?_ ?_
  · exact fun n request hn ↦ (h.terminal n request hn).imp_left fun ht ↦ ht.append [e]
  · intro n result hp
    obtain ⟨request, hmem⟩ := h.result n result hp
    exact ⟨request, List.mem_cons_of_mem e hmem⟩

theorem starts (h : Fifo s) (hs : Starts s s') : Fifo s' := by
  cases hs with
  | stay => exact h
  | plain hc hm => exact h.plain hm
  | pop w rest hp hc hq hclosing hfatal =>
      have hall : AllTerminal s.log := h.allTerminal (by rw [hp]; rfl)
      have hr := (dequeue_resolved s rest w).goto (.dispatch w)
      refine Fifo.resolved (s := { s with queue := rest }.goto (.dispatch w)) ?_
        ⟨hr.core, hr.chats, hr.images, hr.ready, hr.log⟩ (by simp)
      refine h.extend (l := []) rfl (by simp) (by simp) (le_refl _) ?_ ?_ (fun _ ↦ .inl) ?_
        (by rintro _ _ ⟨⟩)
      · exact fun v hv ↦ .inl (hq ▸ List.mem_cons_of_mem w hv)
      · rintro _ ⟨⟩
        exact .inr (hq ▸ List.mem_cons_self)
      · exact fun n request hn ↦ .inl (hall n request hn)
  | finish hp hp' hc hc' hs hfatal hlog =>
      have hall : AllTerminal s.log := h.allTerminal (by rw [hp]; rfl)
      exact h.silent hp hs hlog (.inr (by rw [hp']; rfl)) rfl (.inl hall) (by rw [hp']; rfl)
  | leave n hp hc hl => exact h.nextWork (by rw [hp]; rfl)
  | initFailed by_ call e hp hcall =>
      have hemit : Fifo (s.emit (.finished by_ call (.raised e))) := h.emit rfl (by simp)
      refine hemit.silent rfl rfl rfl (.inr rfl) (by simp [initRaised, Point.current])
        (.inl (hemit.allTerminal ?_)) rfl
      cases hp' : s.point <;> rw [hp'] at hp <;> first | rfl | cases hp
  | submitReturned n request result hp hc =>
      have hemit : Fifo (s.emit (.finished (.dispatchImage n) (.submit request)
        (.submitted result))) := h.emit rfl (by simp)
      refine hemit.advance (l := []) hp rfl (by simp) rfl (fun _ ↦ id) (fun _ ↦ rfl) (.inl rfl) rfl
        (.inr rfl) ?_
      rintro m result' ⟨⟩
      exact ⟨request, List.mem_cons_self⟩
  | submitRaised n request e hp hc =>
      have hall := h.ends (e := .finished (.dispatchImage n) (.submit request) (.raised e)) rfl rfl
        (by rw [hp]; rfl)
      exact (h.emit (e := .finished (.dispatchImage n) (.submit request) (.raised e)) rfl
        (by simp)).advance (l := []) hp rfl (by simp) rfl (fun _ ↦ id) (fun _ ↦ rfl) (.inl rfl) rfl
          (.inl hall) (by rintro _ _ ⟨⟩)
  | promptCompleted n promptId outputs hp hc =>
      let e : Event RP Out BE :=
        .finished (.dispatchImage n) (.waitForPrompt promptId) (.outputs outputs)
      have hall := h.ends (e := e) rfl rfl (by rw [hp]; rfl)
      have hnext : Fifo ((s.emit e).goto .nextWork) :=
        (h.emit (e := e) rfl (by simp)).silent hp rfl rfl (.inr rfl) rfl (.inl hall) rfl
      exact { hnext.resolved ((resolveCompletion_resolved (s.emit e) n
        ⟨some outputs, none⟩).goto .nextWork) (by simp) with }
  | promptRaised n promptId e hp hc =>
      have hall := h.ends (e := .finished (.dispatchImage n) (.waitForPrompt promptId) (.raised e))
        rfl rfl (by rw [hp]; rfl)
      exact (h.emit (e := .finished (.dispatchImage n) (.waitForPrompt promptId) (.raised e)) rfl
        (by simp)).silent hp rfl rfl (.inl rfl) rfl (.inl hall) rfl
  | interruptDone n hp hc =>
      exact (h.emit (e := .finished (.dispatchImage n) .interrupt .done) rfl
        (by simp)).imageShutdown hp rfl rfl
  | cancel hc hc' hs hfatal hp hcur hlog =>
      obtain ⟨-, hlate, hprompt, -, -, hsub⟩ := hp
      have hend {t : State RP Out BE} (ht : Fifo t) (hpt : t.point = s.point) :
          AllTerminal t.log ∨ (s.point.prompting && s'.point.prompting) = true := by
        cases hb : s.point.prompting with
        | false => exact .inl (ht.allTerminal (hpt ▸ hb))
        | true => exact .inr (by rw [hprompt]; rfl)
      rcases hlog with hlog | ⟨by_, call, hlog⟩
      · exact h.silent rfl hs hlog (.inl hcur) (by simp [hlate]) (hend h rfl) hsub
      · have hemit : Fifo (s.emit (.interrupted by_ call)) := h.emit rfl (by simp)
        exact hemit.silent (p := s.point) rfl hs hlog (.inl hcur) (by simp [hlate])
          (hend hemit rfl) hsub
  | cancelSubmit n request hp hc =>
      exact (h.emit (e := .interrupted (.dispatchImage n) (.submit request)) rfl (by simp)).advance
        (l := []) hp rfl (by simp) rfl (fun _ ↦ id) (fun _ ↦ rfl) (.inl rfl) rfl (.inr rfl)
        (by rintro _ _ ⟨⟩)

/-! ## Clients -/

theorem append {l : List (Event RP Out BE)} (h : Fifo s) (hlog : s'.log = l ++ s.log)
    (hserved : ∀ e ∈ l, e.served = none)
    (hbatch : ∀ works, .imagesAccepted works ∈ l →
      ∃ first, works = List.range' first works.length)
    (hseq : s.sequence ≤ s'.sequence)
    (hqueue : ∀ w ∈ s'.queue, w ∈ s.queue ∨ s.sequence < w.sequence)
    (hgranted : ∀ n, (s.chats n).granted = true →
      (s'.chats n).granted = true ∨ .chatReleased n ∈ l)
    (hp : s'.point = s.point) : Fifo s' := by
  refine h.extend hlog hserved hbatch hseq hqueue (fun w hw ↦ .inl ⟨hp ▸ hw, fun hl ↦ hp ▸ hl⟩)
    hgranted ?_ ?_
  · intro n request hn
    rw [hlog, hp]
    exact (h.terminal n request hn).imp_left fun ht ↦ ht.append l
  · intro n result hp'
    obtain ⟨request, hmem⟩ := h.result n result (hp ▸ hp')
    exact ⟨request, hlog ▸ List.mem_append_right l hmem⟩

theorem setImage (h : Fifo s) (n : ℕ) (w : ImageWork Out) : Fifo (s.setImage n w) :=
  { h with }

theorem withdrawImage (h : Fifo s) (n : ℕ) (error : String) :
    Fifo (withdrawImage s n error) := by
  have h' : Fifo ((s.setImage n { s.images n with cancelled := true }).emit (.imageCancelled n)) :=
    { h.emit (e := .imageCancelled n) rfl nofun with }
  rw [withdrawImage_eq]
  dsimp only
  split
  · exact h'.resolved ((removeQueued_resolved _ _).trans (resolveImageError_resolved _ n error))
      fun w hw ↦ List.mem_of_mem_erase (by simpa using hw)
  · exact h'

theorem leaveBatch (works : List ℕ) : ∀ s : State RP Out BE, Fifo s →
    Fifo (works.foldl leaveBatchWork s) := by
  induction works with
  | nil => exact fun s h ↦ h
  | cons n works ih =>
      intro s h
      refine ih _ ?_
      unfold leaveBatchWork
      split
      · exact h.withdrawImage n _
      · exact h

theorem appendBatch (bodies : List (List UInt8)) : ∀ s : State RP Out BE, Fifo s →
    Fifo (appendBatch bodies s) := by
  induction bodies with
  | nil => exact fun s h ↦ h
  | cons body bodies ih =>
      intro s h
      refine ih _ ?_
      refine h.append (l := []) rfl (by simp) (by simp) (Nat.le_succ _) ?_ (fun _ ↦ .inl) rfl
      intro w hw
      rcases List.mem_append.mp hw with hw | hw
      · exact .inl hw
      · cases List.mem_singleton.mp hw
        exact .inr (Nat.lt_succ_self _)

/-- The works of a batch are numbered in a row. -/
theorem acceptImages {first count : ℕ} {batches : List (List ℕ)} (h : Fifo s) :
    Fifo ({ s with batches := batches }.emit (.imagesAccepted (List.range' first count))) := by
  refine h.append (l := [.imagesAccepted (List.range' first count)]) rfl (by simp [Event.served])
    ?_ (le_refl _) (fun _ ↦ .inl) (fun _ ↦ .inl) rfl
  intro works hw
  cases List.mem_singleton.mp hw
  exact ⟨first, by rw [List.length_range']⟩

theorem submitImage {w : ImageWork Out} (h : Fifo s) :
    Fifo ((appendQueued ({ s with sequence := s.sequence + 1 }.setImage (s.sequence + 1) w)
      (.image (s.sequence + 1))).emit (.imagesAccepted [s.sequence + 1])) := by
  refine h.append (l := [.imagesAccepted [s.sequence + 1]]) rfl (by simp [Event.served]) ?_
    (Nat.le_succ _) ?_ (fun _ ↦ .inl) rfl
  · intro works hw
    cases List.mem_singleton.mp hw
    exact ⟨s.sequence + 1, rfl⟩
  · intro w hw
    rcases List.mem_append.mp hw with hw | hw
    · exact .inl hw
    · cases List.mem_singleton.mp hw
      exact .inr (Nat.lt_succ_self _)

theorem chatLease {target : Option RP} (hwf : WellFormed s) (h : Fifo s) :
    Fifo ((appendQueued ({ s with sequence := s.sequence + 1 }.setChat (s.sequence + 1)
      ⟨none, false, false, target, .waiting⟩) (.chat (s.sequence + 1))).emit
        (.chatAccepted (s.sequence + 1))) := by
  refine h.append (l := [.chatAccepted (s.sequence + 1)]) rfl (by simp [Event.served]) (by simp)
    (Nat.le_succ _) ?_ ?_ rfl
  · intro w hw
    rcases List.mem_append.mp hw with hw | hw
    · exact .inl hw
    · cases List.mem_singleton.mp hw
      exact .inr (Nat.lt_succ_self _)
  · intro n hn
    have hne : n ≠ s.sequence + 1 := by
      rintro rfl
      rw [(hwf.fresh _ (Nat.lt_succ_self _)).2] at hn
      cases hn
    simpa [appendQueued, hne] using hn

theorem chatLeave (h : Fifo s) (n : ℕ) (entered : Bool) : Fifo (chatLeave s n entered) := by
  rw [chatLeave_eq]
  refine h.append rfl ?_ ?_ (le_refl _) ?_ ?_ rfl
  · intro e he
    split at he
    · cases List.mem_singleton.mp he
      rfl
    · cases he
  · intro works hw
    split at hw <;> simp at hw
  · intro w hw
    cases entered
    · exact .inl (List.mem_of_mem_erase hw)
    · exact .inl hw
  · intro m hm
    by_cases hmn : m = n
    · subst hmn
      exact .inr (by simp [hm])
    · exact .inl (by simpa [hmn] using hm)

theorem close (h : Fifo s) : Fifo (close s) := by
  cases hc : s.closing with
  | true => simpa [Coordinator.close, hc] using h
  | false =>
      refine Fifo.resolved ?_ (close_resolved hc) (by simp [close_queue hc])
      exact { h with }

theorem client {cfg : BrokerConfig} (hwf : WellFormed s) (h : Fifo s) (hs : Clients cfg s s') :
    Fifo s' := by
  cases hs with
  | refused => exact h
  | startup hp =>
      have hall : AllTerminal s.log := h.allTerminal (by rw [hp]; rfl)
      unfold initializeStart
      split_ifs
      · exact h.silent hp rfl rfl (.inl rfl) rfl (.inl hall) rfl
      · refine Fifo.silent (s := s.emit (.started .startup .validateControl))
          (h.emit (e := .started .startup .validateControl) rfl (by simp)) hp rfl rfl (.inl rfl) rfl
            (.inl ?_) rfl
        exact (h.emit (e := .started .startup .validateControl) rfl (by simp)).allTerminal
          (by dsimp only; rw [hp]; rfl)
  | cancelStartup by_ call hinit hcall =>
      have hemit : Fifo (s.emit (.interrupted by_ call)) := h.emit rfl (by simp)
      refine hemit.silent rfl rfl rfl (.inr rfl) (by simp [Point.current])
        (.inl (hemit.allTerminal ?_)) rfl
      cases hp' : s.point <;> rw [hp'] at hinit <;> first | rfl | cases hinit
  | chatLease target htarget hclosing hfatal => exact h.chatLease hwf
  | chatEnter n error hclient hready herror =>
      refine h.append (l := []) rfl (by simp) (by simp) (le_refl _) (fun _ ↦ .inl) ?_ rfl
      intro m hm
      by_cases hmn : m = n
      · subst hmn
        exact .inl (by simpa using hm)
      · exact .inl (by simpa [hmn] using hm)
  | chatLeave n entered hclient => exact h.chatLeave n entered
  | routerFailed n hreserves hclient hgranted =>
      exact { h.emit (e := .routerFailed n) rfl (by simp) with }
  | control hclosing howner hstate => exact { h.emit (e := .controlGranted) rfl (by simp) with }
  | controlExit hheld => exact { h.emit (e := .controlReleased) rfl (by simp) with }
  | submitImage request wantsCompletion hclosing hfatal => exact h.submitImage
  | imageCancel n hclient => exact (h.setImage n _).withdrawImage n _
  | imageBatch bodies hclosing hfatal => exact (appendBatch bodies s h).acceptImages
  | batchExit works hworks => exact leaveBatch works _ { h with }
  | close => exact h.close
  | backend e => exact h.emit rfl (by simp)
  | _ => exact { h with }

end Fifo

theorem fifo_inductive [DecidableEq RP] {cfg : BrokerConfig}
    {ok : State RP Out BE → Action RP Out BE → Prop} :
    InductiveOver cfg ok (fun s ↦ WellFormed s ∧ Exclusive cfg s)
      (Fifo : State RP Out BE → Prop) where
  initial := .initial
  advance s hk h := h.moves hk.1 hk.2 (advance_moves s)
  resumes _ _ _ _ h _ hr := h.starts (resumes_starts hr)
  client _ _ _ hk h _ _ hs := h.client hk.1 hs

theorem fifo_of_reachable [DecidableEq RP] {cfg : BrokerConfig} {s : State RP Out BE}
    (hs : (system RP Out BE cfg).Reachable s) : Fifo s :=
  (((wellFormed_inductive.extend exclusive_inductive).extend fifo_inductive).reachableVia hs).2.2

/-! ## Strict order -/

theorem mem_range'_of_between {first count a x b : ℕ} (ha : a ∈ List.range' first count)
    (hb : b ∈ List.range' first count) (hax : a < x) (hxb : x < b) :
    x ∈ List.range' first count := by
  rw [List.mem_range'_1] at *
  omega

/-- Works are served in the order of their arrival, chats and images alike.  An
image is submitted after every lease granted before is released and every
prompt submitted before has ended, a chat is granted after every such prompt
has ended, and nothing is served between two works of a batch. -/
theorem fifo_service [DecidableEq RP] {cfg : BrokerConfig} {s : State RP Out BE}
    (hs : (system RP Out BE cfg).Reachable s) :
    (s.log.reverse.filterMap Event.served).Pairwise (· < ·) ∧
    (∀ n rest, .chatGranted n :: rest <:+ s.log →
      ∀ m request, .started (.dispatchImage m) (.submit request) ∈ rest → Terminal rest m) ∧
    (∀ n request rest, .started (.dispatchImage n) (.submit request) :: rest <:+ s.log →
      (∀ m, .chatGranted m ∈ rest → .chatReleased m ∈ rest) ∧
      ∀ m request', .started (.dispatchImage m) (.submit request') ∈ rest → Terminal rest m) ∧
    (∀ works, .imagesAccepted works ∈ s.log →
      (∃ first, works = List.range' first works.length) ∧
      ∀ a x b, a ∈ works → b ∈ works →
        [a, x, b].Sublist (s.log.reverse.filterMap Event.served) → x ∈ works) := by
  have h := fifo_of_reachable hs
  have hincreasing : (s.log.reverse.filterMap Event.served).Pairwise (· < ·) := by
    rw [List.filterMap_reverse, List.pairwise_reverse]
    exact h.decreasing
  refine ⟨hincreasing, ?_, ?_, ?_⟩
  · exact fun n rest hrest ↦ h.ordered _ rest hrest
  · intro n request rest hrest
    obtain ⟨hall, hreleased⟩ := h.ordered _ rest hrest
    exact ⟨hreleased, hall⟩
  · intro works hworks
    obtain ⟨first, hfirst⟩ := h.batches works hworks
    refine ⟨⟨first, hfirst⟩, fun a x b ha hb hsub ↦ ?_⟩
    have hpair := hincreasing.sublist hsub
    simp only [List.pairwise_cons, List.mem_cons] at hpair
    rw [hfirst] at ha hb ⊢
    exact mem_range'_of_between ha hb (hpair.1 x (.inl rfl)) (hpair.2.1 b (.inl rfl))

/-- A chat that is granted while an image waits behind it. -/
def chatThenImageRun : List (Action ℕ Unit Empty) :=
  [.startup, .chatLease none, .submitImage ⟨"/prompt", "", [], []⟩ false, .wake, .reply .done,
    .reply .done, .reply (.observed (some 7)), .chatWake 1, .chatExit 1, .wake, .reply .done]

def chatThenImageState : State ℕ Unit Empty :=
  ((system ℕ Unit Empty koboldConfig).exec .initial chatThenImageRun).get (by decide)

theorem fifo_service_chatThenImage :
    chatThenImageState.log.reverse.filterMap Event.served = [1, 2] ∧
      (chatThenImageState.log.reverse.filterMap Event.served).Pairwise (· < ·) :=
  ⟨by decide, (fifo_service (TransitionSystem.exec_get_reachable (M := system ℕ Unit Empty
    koboldConfig) rfl (by decide))).1⟩

end StProxy.Coordinator
