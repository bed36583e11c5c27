import StProxy.Comfy.Client
import StProxy.Lib.Lists

/-!
# The monitoring of a prompt

`wait_for_prompt` on a sequence of history polls: up to the limit of failures in a row,
failing polls do not count, unless one of them raises what the client does not handle.
-/

namespace StProxy.Comfy

open Async Llm

/-- An exception that the client handles. -/
inductive Failure
  | client (typeName : String)
  | timeout

def Failure.raised : Failure → Raised
  | .client typeName => .client typeName
  | .timeout => .timeout

/-- An exception that the client does not handle, as the `RecursionError` of `response.json`
for a body that is nested too deeply. -/
structure Unhandled where
  typeName : String
  text : String
  other : typeName ≠ "UpstreamError"

def Unhandled.raised (e : Unhandled) : Raised := .exn (.error e.typeName e.text)

/-- The result of a history poll.  A payload that is no JSON is a failure; a payload that
cannot be read for another reason is unhandled. -/
inductive Poll
  | transport (failure : Failure)
  | reply (response : Response)
  | unhandled (e : Unhandled)

def Poll.answer : Poll → Except Raised Response
  | .transport failure => .error failure.raised
  | .reply response => .ok response
  | .unhandled e => .error e.raised

def isHistory : (c : Call) × Answer c → Bool
  | ⟨.history _, _⟩ => true
  | _ => false

def isInterrupt : (c : Call) × Answer c → Bool
  | ⟨.interrupt, _⟩ => true
  | _ => false

/-- ComfyUI as it answers the polls one after another until the deadline, and an
interrupt. -/
def environment (polls : List Poll) (interrupted : Except Failure ℕ) (log : Log) :
    (c : Call) → Answer c
  | .history _ => ((polls[log.countP isHistory]?).map Poll.answer).getD (.error .timeout)
  | .interrupt => interrupted.mapError Failure.raised
  | .polls => polls.length
  | .sleep | .sleepFive => .ok ()
  | .free | .status _ => .error .timeout

section

variable (cfg : Settings) (promptId : String)

/-- The poll reports nothing: a transport failure, an HTTP error or an invalid payload. -/
def Failing : Poll → Prop
  | .transport _ | .unhandled _ => True
  | .reply response => 400 ≤ response.status ∨ response.payload.isDict = false

instance (poll : Poll) : Decidable (Failing poll) :=
  match poll with
  | .transport _ | .unhandled _ => Decidable.isTrue True.intro
  | .reply _ => inferInstanceAs (Decidable (_ ∨ _ = _))

/-- The entry says how the job ended. -/
inductive Ended (entry : Json.Fields) : Except Raised Json → Prop
  /-- A failure or a cancellation. -/
  | failure {status} (hstatus : Json.get entry "status" = .obj status)
      (hname : statusName cfg status ∈ failureStatuses) :
      Ended entry (.error (failed "image job" (statusName cfg status)))
  | success {status} (hstatus : Json.get entry "status" = .obj status)
      (hname : statusName cfg status ∈ successStatuses)
      (hcompleted : Json.get status "completed" = .bool true) :
      Ended entry (.ok ((entry.lookup "outputs").getD (.obj [])))
  /-- Completion with an unknown status. -/
  | unknown {status} (hstatus : Json.get entry "status" = .obj status)
      (hfailure : statusName cfg status ∉ failureStatuses)
      (hsuccess : statusName cfg status ∉ successStatuses)
      (hcompleted : Json.get status "completed" = .bool true) :
      Ended entry (.error (failed "image job" (orUnknown (statusName cfg status))))
  /-- Outputs without a status. -/
  | outputs (hname : ∀ status, Json.get entry "status" = .obj status →
        statusName cfg status ∉ failureStatuses)
      (hstatus : (Json.get entry "status").truthy = false)
      (houtputs : (Json.get entry "outputs").truthy = true) :
      Ended entry (.ok (Json.get entry "outputs"))

/-- A valid payload whose entry for the prompt says how the job ended. -/
def Terminal (poll : Poll) (r : Except Raised Json) : Prop :=
  ∃ response history entry, poll = .reply response ∧ response.status < 400 ∧
    response.payload = .obj history ∧ Json.get history promptId = .obj entry ∧
    Ended cfg entry r

/-- Some `limit` polls in a row fail. -/
def FailingRun (limit : ℕ) (polls : List Poll) : Prop :=
  ∃ run, run <:+: polls ∧ run.length = limit ∧ ∀ poll ∈ run, Failing poll

/-- `wait_for_prompt` on a sequence of polls. -/
def monitor (polls : List Poll) (interrupted : Except Failure ℕ) :
    Except Raised Json × Unit × Log :=
  (waitForPrompt cfg promptId).play (environment polls interrupted) () []

def outcome (polls : List Poll) (interrupted : Except Failure ℕ) : Except Raised Json :=
  (monitor cfg promptId polls interrupted).1

/-- The number of interrupts that were sent. -/
def interrupts (polls : List Poll) (interrupted : Except Failure ℕ) : ℕ :=
  (monitor cfg promptId polls interrupted).2.2.countP isInterrupt

def NotTerminal (polls : List Poll) : Prop := ∀ poll ∈ polls, ∀ r, ¬Terminal cfg promptId poll r

def monitoringError (failure : String) (failures : ℕ) : Raised :=
  failed "history monitoring"
    (failure ++ " after " ++ toString failures ++ " consecutive failures")

/-- Failures below the limit do not count. -/
structure MonitorsExactly (polls : List Poll) (interrupted : Except Failure ℕ) : Prop where
  decided : ∀ before poll rest r, polls = before ++ poll :: rest →
    NotTerminal cfg promptId before → Terminal cfg promptId poll r →
    ¬FailingRun cfg.comfyPollFailureLimit before →
      outcome cfg promptId polls interrupted = r ∧ interrupts cfg promptId polls interrupted = 0 ∧
        outcome cfg promptId (polls.filter fun poll ↦ ¬Failing poll) interrupted = r
  aborted : ∀ before rest, polls = before ++ rest → NotTerminal cfg promptId before →
    FailingRun cfg.comfyPollFailureLimit before →
      (∃ failure, outcome cfg promptId polls interrupted =
        .error (monitoringError failure cfg.comfyPollFailureLimit)) ∧
        interrupts cfg promptId polls interrupted = 1
  timedOut : NotTerminal cfg promptId polls → ¬FailingRun cfg.comfyPollFailureLimit polls →
    outcome cfg promptId polls interrupted = .error (failed "image job" "timed out") ∧
      interrupts cfg promptId polls interrupted = 1

/-- What the client does not handle comes too late to be seen: after the terminal poll, or
after the failures that end the monitoring. -/
def Unseen (polls : List Poll) : Prop :=
  ∀ before e rest, polls = before ++ .unhandled e :: rest →
    ¬NotTerminal cfg promptId before ∨ FailingRun cfg.comfyPollFailureLimit before

end

variable {cfg : Settings} {promptId : String} {poll : Poll} {polls : List Poll}
  {interrupted : Except Failure ℕ}

/-! ## One poll -/

/-- What a poll shows.  An exception that is not handled ends the monitoring. -/
def seen (cfg : Settings) (promptId : String) : Poll → Seen
  | .transport (.client typeName) => .failed typeName
  | .transport .timeout => .failed "TimeoutError"
  | .reply response => checkHistory cfg promptId response
  | .unhandled e => .final (.error e.raised)

lemma checkOutputs_eq_final_iff {entry : Json.Fields} {status : Json} {r : Except Raised Json} :
    checkOutputs entry status = .final r ↔ status.truthy = false ∧
      (Json.get entry "outputs").truthy = true ∧ r = .ok (Json.get entry "outputs") := by
  unfold checkOutputs
  split_ifs with h
  · simp only [Bool.and_eq_true, Bool.not_eq_true'] at h
    simp [h, eq_comm]
  · simp only [Bool.and_eq_true, Bool.not_eq_true', not_and] at h
    simp only [false_iff, not_and]
    exact fun hstatus houtputs ↦ absurd hstatus (h houtputs)

lemma isTrue_iff {v : Json} : isTrue v = true ↔ v = .bool true := by
  constructor
  · intro h
    unfold isTrue at h
    split at h
    · rfl
    · cases h
  · rintro rfl
    rfl

lemma not_failure_of_success {name : String} (h : name ∈ successStatuses) :
    name ∉ failureStatuses := by
  simp only [successStatuses, List.mem_cons, List.not_mem_nil, or_false] at h
  rcases h with rfl | rfl <;> decide

lemma ended_of_checkEntry {entry : Json.Fields} {r : Except Raised Json}
    (h : checkEntry cfg entry = .final r) : Ended cfg entry r := by
  unfold checkEntry at h
  split at h
  · next status hstatus =>
      dsimp only at h
      split_ifs at h with hfailure hcompleted hsuccess
      · cases h
        exact .failure hstatus hfailure
      · cases h
        exact .success hstatus hsuccess (isTrue_iff.mp hcompleted)
      · cases h
        exact .unknown hstatus hfailure hsuccess (isTrue_iff.mp hcompleted)
      · obtain ⟨hfalsy, houtputs, rfl⟩ := checkOutputs_eq_final_iff.mp h
        refine .outputs (fun status' hstatus' ↦ ?_) (hstatus ▸ hfalsy) houtputs
        rw [hstatus] at hstatus'
        cases hstatus'
        exact hfailure
  · next hne =>
      obtain ⟨hfalsy, houtputs, rfl⟩ := checkOutputs_eq_final_iff.mp h
      exact .outputs (fun status' hstatus' ↦ absurd hstatus' (hne status')) hfalsy houtputs

lemma checkEntry_of_ended {entry : Json.Fields} {r : Except Raised Json}
    (h : Ended cfg entry r) : checkEntry cfg entry = .final r := by
  unfold checkEntry
  cases h with
  | failure hstatus hname => simp [hstatus, hname]
  | success hstatus hname hcompleted =>
      simp [hstatus, hname, not_failure_of_success hname, isTrue_iff.mpr hcompleted]
  | unknown hstatus hfailure hsuccess hcompleted =>
      simp [hstatus, hfailure, hsuccess, isTrue_iff.mpr hcompleted]
  | outputs hname hstatus houtputs =>
      have hfinal : checkOutputs entry (Json.get entry "status") =
          .final (.ok (Json.get entry "outputs")) :=
        checkOutputs_eq_final_iff.mpr ⟨hstatus, houtputs, rfl⟩
      cases hdict : Json.get entry "status" with
      | obj status =>
          rw [hdict] at hfinal hstatus
          have hempty : status = [] := by simpa [Json.truthy] using hstatus
          have hcompleted : isTrue (Json.get status "completed") = false := by
            rw [hempty]
            rfl
          simp [hname status hdict, hcompleted, hfinal]
      | _ =>
          rw [hdict] at hfinal
          exact hfinal

/-- The exceptions of the poll are handled. -/
def Handled (poll : Poll) : Prop := ∀ e, poll ≠ .unhandled e

lemma seen_eq_final_iff (hhandled : Handled poll) {r : Except Raised Json} :
    seen cfg promptId poll = .final r ↔ Terminal cfg promptId poll r := by
  obtain (typeName | _) | ⟨status, payload⟩ | e := poll
  · exact ⟨nofun, by rintro ⟨_, _, _, ⟨⟩, -⟩⟩
  · exact ⟨nofun, by rintro ⟨_, _, _, ⟨⟩, -⟩⟩
  · simp only [seen, checkHistory, Terminal, Poll.reply.injEq]
    constructor
    · intro h
      split_ifs at h with hstatus
      split at h
      · next history =>
          split at h
          · next entry hentry =>
              exact ⟨_, history, entry, rfl, by simpa using hstatus, rfl, hentry,
                ended_of_checkEntry h⟩
          · cases h
      · cases h
    · rintro ⟨_, history, entry, rfl, hstatus, hpayload, hentry, hended⟩
      simp only at hstatus hpayload
      rw [if_neg (by omega), hpayload]
      simp only [hentry]
      exact checkEntry_of_ended hended
  · exact absurd rfl (hhandled e)

lemma Terminal.handled {r : Except Raised Json} (h : Terminal cfg promptId poll r) :
    Handled poll := by
  obtain ⟨response, _, _, rfl, -⟩ := h
  rintro e ⟨⟩

lemma Terminal.seen {r : Except Raised Json} (h : Terminal cfg promptId poll r) :
    seen cfg promptId poll = .final r :=
  (seen_eq_final_iff h.handled).mpr h

/-- A job does not end with an exception that is not handled. -/
lemma Terminal.ne_unhandled {r : Except Raised Json} (h : Terminal cfg promptId poll r)
    (e : Unhandled) : r ≠ .error e.raised := by
  obtain ⟨_, _, entry, -, -, -, -, hended⟩ := h
  rintro rfl
  generalize hr : (.error e.raised : Except Raised Json) = r at hended
  cases hended with
  | failure | unknown =>
      injection hr with hraised
      injection hraised with hexn
      injection hexn with hname
      exact e.other hname
  | success | outputs => cases hr

lemma isFailed_checkEntry {entry : Json.Fields} : (checkEntry cfg entry).isFailed = false := by
  have houtputs (status : Json) : (checkOutputs entry status).isFailed = false := by
    unfold checkOutputs
    split_ifs <;> rfl
  unfold checkEntry
  split
  · dsimp only
    split_ifs
    · rfl
    · rfl
    · rfl
    · exact houtputs _
  · exact houtputs _

lemma isFailed_seen (cfg : Settings) (promptId : String) {poll : Poll} (h : Handled poll) :
    (seen cfg promptId poll).isFailed = true ↔ Failing poll := by
  obtain (typeName | _) | ⟨status, payload⟩ | e := poll
  · exact ⟨fun _ ↦ trivial, fun _ ↦ rfl⟩
  · exact ⟨fun _ ↦ trivial, fun _ ↦ rfl⟩
  · simp only [seen, checkHistory, Failing]
    split_ifs with hstatus
    · simp [hstatus, Retry.Seen.isFailed]
    · cases payload with
      | obj history =>
          simp only [Json.isDict, hstatus]
          split
          · simp [isFailed_checkEntry]
          · simp [Retry.Seen.isFailed]
      | _ => simp [Json.isDict, Retry.Seen.isFailed]
  · exact absurd rfl (h e)

lemma isFinal_seen (h : Handled poll) : (seen cfg promptId poll).isFinal = false ↔
    ∀ r, ¬Terminal cfg promptId poll r := by
  simp only [← seen_eq_final_iff h]
  cases seen cfg promptId poll <;> simp [Retry.Seen.isFinal]

/-! ## The loop -/

/-- How `wait_for_prompt` ends a watch. -/
def finish : Retry.Outcome String (Except Raised Json) → Except Raised Json
  | .final r => r
  | .gaveUp failure failures => .error (monitoringError failure failures)
  | .exhausted => .error (failed "image job" "timed out")

/-- The interrupts that end a watch. -/
def cost : Retry.Outcome String (Except Raised Json) → ℕ
  | .final _ => 0
  | _ => 1

lemma play_interrupt (polls : List Poll) (interrupted : Except Failure ℕ) (log : Log) :
    ∃ a : Except Raised ℕ, interrupt.play (environment polls interrupted) () log =
      (.ok (), (), ⟨.interrupt, a⟩ :: log) := by
  refine ⟨interrupted.mapError Failure.raised, ?_⟩
  obtain (typeName | _) | status := interrupted <;> rfl

lemma play_sleep {log : Log} : sleep.play (environment polls interrupted) () log =
    (.ok (), (), ⟨.sleep, .ok ()⟩ :: log) := rfl

/-- What the `try` statement makes of a poll. -/
def shown (cfg : Settings) (promptId : String) : Poll → Except Raised Seen
  | .unhandled e => .error e.raised
  | poll => .ok (seen cfg promptId poll)

lemma shown_of_handled (h : Handled poll) :
    shown cfg promptId poll = .ok (seen cfg promptId poll) := by
  cases poll with
  | unhandled e => exact absurd rfl (h e)
  | _ => rfl

lemma play_observe {log : Log} (h : polls[log.countP isHistory]? = some poll) :
    (observe cfg promptId).play (environment polls interrupted) () log =
      (shown cfg promptId poll, (), ⟨.history promptId, poll.answer⟩ :: log) := by
  have hanswer : environment polls interrupted log (.history promptId) = poll.answer := by
    change ((polls[log.countP isHistory]?).map Poll.answer).getD (.error .timeout) = _
    rw [h]
    rfl
  unfold observe
  rw [play_bind, play_await, hanswer]
  obtain (typeName | _) | response | e := poll <;> rfl

/-- The loop ends as the watch of what the polls show. -/
lemma play_pollHistory (cfg : Settings) (promptId : String) (interrupted : Except Failure ℕ)
    (rest : List Poll) (failures : ℕ) (log : Log)
    (hlog : polls.drop (log.countP isHistory) = rest) :
    ∃ log', (pollHistory cfg promptId rest.length failures).play (environment polls interrupted) ()
        log = (finish (Retry.watch cfg.comfyPollFailureLimit failures
          (rest.map (seen cfg promptId))), (), log') ∧
      log'.countP isInterrupt = log.countP isInterrupt +
        cost (Retry.watch cfg.comfyPollFailureLimit failures (rest.map (seen cfg promptId))) := by
  induction rest generalizing failures log with
  | nil =>
      obtain ⟨a, hinterrupt⟩ := play_interrupt polls interrupted log
      refine ⟨⟨.interrupt, a⟩ :: log, ?_, ?_⟩
      · rw [List.length_nil, pollHistory, play_bind, hinterrupt, List.map_nil, Retry.watch]
        rfl
      · rw [List.countP_cons_of_pos rfl, List.map_nil, Retry.watch]
        rfl
  | cons poll rest ih =>
      have hget : polls[log.countP isHistory]? = some poll := by
        rw [← List.head?_drop, hlog]
        rfl
      have hdrop : polls.drop (log.countP isHistory + 1) = rest := by
        rw [← List.drop_drop, hlog]
        rfl
      -- The record after a poll, and after the sleep that follows it.
      have hnext (a : Except Raised Unit) : polls.drop (List.countP isHistory
          (⟨.sleep, a⟩ :: ⟨.history promptId, poll.answer⟩ :: log)) = rest := by
        rw [List.countP_cons_of_neg Bool.false_ne_true, List.countP_cons_of_pos rfl]
        exact hdrop
      have hpolled (a : Except Raised Unit) : List.countP isInterrupt
          (⟨.sleep, a⟩ :: ⟨.history promptId, poll.answer⟩ :: log) = log.countP isInterrupt := by
        rw [List.countP_cons_of_neg Bool.false_ne_true, List.countP_cons_of_neg Bool.false_ne_true]
      rw [List.length_cons, pollHistory, play_bind, play_observe hget, List.map_cons]
      by_cases hhandled : Handled poll
      case neg =>
        obtain ⟨e, rfl⟩ : ∃ e, poll = .unhandled e := by simpa [Handled] using hhandled
        refine ⟨⟨.history promptId, .error e.raised⟩ :: log, rfl, ?_⟩
        rw [List.countP_cons_of_neg Bool.false_ne_true]
        rfl
      rw [shown_of_handled hhandled]
      cases hseen : seen cfg promptId poll with
      | final r =>
          refine ⟨⟨.history promptId, poll.answer⟩ :: log, ?_, ?_⟩
          · rw [Retry.watch]
            exact play_result r
          · rw [List.countP_cons_of_neg Bool.false_ne_true, Retry.watch]
            rfl
      | pending =>
          obtain ⟨log', hplay, hcount⟩ := ih 0 _ (hnext (.ok ()))
          rw [Retry.watch]
          refine ⟨log', ?_, hcount.trans (by rw [hpolled])⟩
          dsimp only
          rw [play_bind, play_sleep]
          exact hplay
      | failed failure =>
          rw [Retry.watch]
          dsimp only
          split_ifs with hlimit
          · obtain ⟨a, hinterrupt⟩ := play_interrupt polls interrupted
              (⟨.history promptId, poll.answer⟩ :: log)
            refine ⟨⟨.interrupt, a⟩ :: ⟨.history promptId, poll.answer⟩ :: log, ?_, ?_⟩
            · rw [play_bind, hinterrupt]
              rfl
            · rw [List.countP_cons_of_pos rfl, List.countP_cons_of_neg Bool.false_ne_true]
              rfl
          · obtain ⟨log', hplay, hcount⟩ := ih (failures + 1) _ (hnext (.ok ()))
            refine ⟨log', ?_, hcount.trans (by rw [hpolled])⟩
            rw [play_bind, play_sleep]
            exact hplay

/-- `wait_for_prompt` ends as the watch of what the polls show. -/
lemma play_waitForPrompt (cfg : Settings) (promptId : String) (polls : List Poll)
    (interrupted : Except Failure ℕ) : ∃ log, monitor cfg promptId polls interrupted =
    (finish (Retry.watch cfg.comfyPollFailureLimit 0 (polls.map (seen cfg promptId))), (), log) ∧
      log.countP isInterrupt =
        cost (Retry.watch cfg.comfyPollFailureLimit 0 (polls.map (seen cfg promptId))) := by
  obtain ⟨log, hplay, hcount⟩ := play_pollHistory cfg promptId interrupted polls 0
    [⟨.polls, polls.length⟩] rfl
  exact ⟨log, hplay, hcount.trans (Nat.zero_add _)⟩

lemma outcome_eq : outcome cfg promptId polls interrupted =
    finish (Retry.watch cfg.comfyPollFailureLimit 0 (polls.map (seen cfg promptId))) := by
  obtain ⟨log, hplay, -⟩ := play_waitForPrompt cfg promptId polls interrupted
  rw [outcome, hplay]

lemma interrupts_eq : interrupts cfg promptId polls interrupted =
    cost (Retry.watch cfg.comfyPollFailureLimit 0 (polls.map (seen cfg promptId))) := by
  obtain ⟨log, hplay, hcount⟩ := play_waitForPrompt cfg promptId polls interrupted
  rw [interrupts, hplay]
  exact hcount

lemma failingRun_iff (cfg : Settings) (promptId : String) {limit : ℕ}
    (h : ∀ poll ∈ polls, Handled poll) :
    FailingRun limit polls ↔ Retry.HasRun limit (polls.map (seen cfg promptId)) := by
  constructor
  · rintro ⟨run, hrun, hlength, hfailing⟩
    refine ⟨run.map (seen cfg promptId), hrun.map _, by simpa using hlength, ?_⟩
    rw [List.forall_mem_map]
    exact fun poll hpoll ↦
      (isFailed_seen cfg promptId (h poll (hrun.subset hpoll))).mpr (hfailing poll hpoll)
  · rintro ⟨run, hrun, hlength, hfailed⟩
    obtain ⟨run', hrun', rfl⟩ := List.infix_map_iff.mp hrun
    rw [List.forall_mem_map] at hfailed
    exact ⟨run', hrun', by simpa using hlength, fun poll hpoll ↦
      (isFailed_seen cfg promptId (h poll (hrun'.subset hpoll))).mp (hfailed poll hpoll)⟩

lemma FailingRun.append {limit : ℕ} {before : List Poll} (h : FailingRun limit before)
    (rest : List Poll) : FailingRun limit (before ++ rest) := by
  obtain ⟨run, hrun, hlength, hfailing⟩ := h
  exact ⟨run, hrun.trans (List.prefix_append _ _).isInfix, hlength, hfailing⟩

lemma NotTerminal.of_append {before rest : List Poll}
    (h : NotTerminal cfg promptId (before ++ rest)) : NotTerminal cfg promptId before :=
  fun poll hpoll ↦ h poll (List.mem_append_left _ hpoll)

lemma NotTerminal.isFinal (h : NotTerminal cfg promptId polls)
    (hhandled : ∀ poll ∈ polls, Handled poll) :
    ∀ s ∈ polls.map (seen cfg promptId), s.isFinal = false := by
  rw [List.forall_mem_map]
  exact fun poll hpoll ↦ (isFinal_seen (hhandled poll hpoll)).mpr (h poll hpoll)

/-! ## Handled polls -/

section Handled

variable {before rest : List Poll}

lemma decided_of_handled {r : Except Raised Json} (hhandled : ∀ poll ∈ before, Handled poll)
    (hbefore : NotTerminal cfg promptId before)
    (hrun : ¬FailingRun cfg.comfyPollFailureLimit before)
    (hseen : seen cfg promptId poll = .final r) :
    outcome cfg promptId (before ++ poll :: rest) interrupted = r ∧
      interrupts cfg promptId (before ++ poll :: rest) interrupted = 0 := by
  rw [failingRun_iff cfg promptId hhandled] at hrun
  have hwatch := Retry.watch_final (rest.map (seen cfg promptId)) cfg.limit_pos hrun
    (hbefore.isFinal hhandled) r
  rw [outcome_eq, interrupts_eq, List.map_append, List.map_cons, hseen, hwatch]
  exact ⟨rfl, rfl⟩

/-- The polls that do not fail are handled, and no run of failures is among them. -/
lemma decided_filter {r : Except Raised Json} (hbefore : NotTerminal cfg promptId before)
    (hterminal : Terminal cfg promptId poll r) :
    outcome cfg promptId ((before ++ poll :: rest).filter fun poll ↦ ¬Failing poll)
      interrupted = r := by
  have hpoll : ¬Failing poll := by
    rw [← isFailed_seen cfg promptId hterminal.handled, hterminal.seen]
    exact Bool.false_ne_true
  have hkept : (before ++ poll :: rest).filter (fun poll ↦ ¬Failing poll) =
      before.filter (fun poll ↦ ¬Failing poll) ++
        poll :: rest.filter fun poll ↦ ¬Failing poll := by
    simp [hpoll]
  have hnone : ∀ poll ∈ before.filter fun poll ↦ ¬Failing poll, ¬Failing poll :=
    fun poll hpoll ↦ of_decide_eq_true (List.mem_filter.mp hpoll).2
  rw [hkept]
  refine (decided_of_handled ?_ ?_ ?_ hterminal.seen).1
  · rintro poll hpoll e rfl
    exact hnone _ hpoll trivial
  · exact fun poll hpoll ↦ hbefore poll (List.mem_filter.mp hpoll).1
  · rintro ⟨run, hrun, hlength, hfailing⟩
    cases run with
    | nil => exact absurd hlength cfg.limit_pos.ne
    | cons poll run =>
        exact hnone poll (hrun.subset List.mem_cons_self) (hfailing poll List.mem_cons_self)

lemma aborted_of_handled (hhandled : ∀ poll ∈ before, Handled poll)
    (hbefore : NotTerminal cfg promptId before)
    (hrun : FailingRun cfg.comfyPollFailureLimit before) :
    (∃ failure, outcome cfg promptId (before ++ rest) interrupted =
      .error (monitoringError failure cfg.comfyPollFailureLimit)) ∧
      interrupts cfg promptId (before ++ rest) interrupted = 1 := by
  rw [failingRun_iff cfg promptId hhandled] at hrun
  obtain ⟨failure, hwatch⟩ := Retry.watch_gaveUp (rest.map (seen cfg promptId)) cfg.limit_pos
    hrun (hbefore.isFinal hhandled)
  rw [outcome_eq, interrupts_eq, List.map_append, hwatch]
  exact ⟨⟨failure, rfl⟩, rfl⟩

lemma timedOut_of_handled (hhandled : ∀ poll ∈ polls, Handled poll)
    (hpolls : NotTerminal cfg promptId polls)
    (hrun : ¬FailingRun cfg.comfyPollFailureLimit polls) :
    outcome cfg promptId polls interrupted = .error (failed "image job" "timed out") ∧
      interrupts cfg promptId polls interrupted = 1 := by
  rw [failingRun_iff cfg promptId hhandled] at hrun
  rw [outcome_eq, interrupts_eq,
    Retry.watch_exhausted cfg.limit_pos hrun (hpolls.isFinal hhandled)]
  exact ⟨rfl, rfl⟩

end Handled

/-! ## All polls -/

/-- The first poll that is not handled. -/
lemma exists_first_unhandled (h : ¬∀ poll ∈ polls, Handled poll) :
    ∃ before e rest, polls = before ++ .unhandled e :: rest ∧ ∀ poll ∈ before, Handled poll := by
  have hexists : ∃ poll ∈ polls, ¬Handled poll := by simpa using h
  obtain ⟨before, poll, rest, hpolls, hpoll, hbefore⟩ := Lists.exists_first hexists
  obtain ⟨e, rfl⟩ : ∃ e, poll = .unhandled e := by simpa [Handled] using hpoll
  exact ⟨before, e, rest, hpolls, fun poll hmem ↦ not_not.mp (hbefore poll hmem)⟩

/-- As long as the monitoring goes on, what it saw was handled. -/
lemma Unseen.handled (h : Unseen cfg promptId polls) {before rest : List Poll}
    (hpolls : polls = before ++ rest) (hbefore : NotTerminal cfg promptId before)
    (hrun : ¬FailingRun cfg.comfyPollFailureLimit before) : ∀ poll ∈ before, Handled poll := by
  by_contra hnot
  obtain ⟨first, e, middle, rfl, -⟩ := exists_first_unhandled hnot
  rcases h first e (middle ++ rest) (by rw [hpolls, List.append_assoc]; rfl) with hfirst | hfirst
  · exact hfirst hbefore.of_append
  · exact hrun (hfirst.append _)

/-- The failures that end the monitoring come before what is not handled. -/
lemma Unseen.exists_handled (h : Unseen cfg promptId polls) {before rest : List Poll}
    (hpolls : polls = before ++ rest) (hbefore : NotTerminal cfg promptId before)
    (hrun : FailingRun cfg.comfyPollFailureLimit before) :
    ∃ first later, polls = first ++ later ∧ (∀ poll ∈ first, Handled poll) ∧
      NotTerminal cfg promptId first ∧ FailingRun cfg.comfyPollFailureLimit first := by
  by_cases hhandled : ∀ poll ∈ before, Handled poll
  · exact ⟨before, rest, hpolls, hhandled, hbefore, hrun⟩
  · obtain ⟨first, e, middle, rfl, hfirst⟩ := exists_first_unhandled hhandled
    rw [List.append_assoc] at hpolls
    refine ⟨first, _, hpolls, hfirst, hbefore.of_append, ?_⟩
    exact (h first e (middle ++ rest) hpolls).resolve_left (not_not.mpr hbefore.of_append)

/-- An exception that is seen ends the monitoring, without an interrupt. -/
lemma outcome_of_seen (h : ¬Unseen cfg promptId polls) : ∃ e : Unhandled,
    outcome cfg promptId polls interrupted = .error e.raised ∧
      interrupts cfg promptId polls interrupted = 0 := by
  simp only [Unseen, not_forall, not_or, not_not] at h
  obtain ⟨before, e, rest, rfl, hbefore, hrun⟩ := h
  by_cases hhandled : ∀ poll ∈ before, Handled poll
  · exact ⟨e, decided_of_handled hhandled hbefore hrun rfl⟩
  · obtain ⟨first, e', middle, rfl, hfirst⟩ := exists_first_unhandled hhandled
    rw [List.append_assoc]
    exact ⟨e', decided_of_handled hfirst hbefore.of_append (fun h ↦ hrun (h.append _)) rfl⟩

/-- The monitoring of a prompt tolerates failures below the limit, and only these, exactly
when no poll that it sees raises what the client does not handle. -/
theorem waitForPrompt_monitors_iff (cfg : Settings) (promptId : String) (polls : List Poll)
    (interrupted : Except Failure ℕ) :
    MonitorsExactly cfg promptId polls interrupted ↔ Unseen cfg promptId polls := by
  constructor
  · intro h
    by_contra hseen
    obtain ⟨e, houtcome, hinterrupts⟩ := @outcome_of_seen cfg promptId polls interrupted hseen
    -- A monitoring that gives up or times out sends an interrupt.
    have hsent : interrupts cfg promptId polls interrupted ≠ 1 := by simp [hinterrupts]
    by_cases hpolls : NotTerminal cfg promptId polls
    · by_cases hrun : FailingRun cfg.comfyPollFailureLimit polls
      · exact hsent (h.aborted polls [] (List.append_nil _).symm hpolls hrun).2
      · exact hsent (h.timedOut hpolls hrun).2
    · have hexists : ∃ poll ∈ polls, ∃ r, Terminal cfg promptId poll r := by
        simpa [NotTerminal] using hpolls
      obtain ⟨before, poll, rest, rfl, ⟨r, hterminal⟩, hfirst⟩ := Lists.exists_first hexists
      have hbefore : NotTerminal cfg promptId before := fun poll hpoll r hr ↦
        hfirst poll hpoll ⟨r, hr⟩
      by_cases hrun : FailingRun cfg.comfyPollFailureLimit before
      · exact hsent (h.aborted before (poll :: rest) rfl hbefore hrun).2
      · have hdecided := (h.decided before poll rest r rfl hbefore hterminal hrun).1
        exact hterminal.ne_unhandled e (hdecided.symm.trans houtcome)
  · intro h
    refine ⟨?_, ?_, ?_⟩
    · rintro before poll rest r rfl hbefore hterminal hrun
      have hhandled := h.handled rfl hbefore hrun
      obtain ⟨houtcome, hinterrupts⟩ :=
        decided_of_handled hhandled hbefore hrun hterminal.seen
      exact ⟨houtcome, hinterrupts, decided_filter hbefore hterminal⟩
    · intro before rest hpolls hbefore hrun
      obtain ⟨first, later, rfl, hhandled, hfirst, hrun⟩ :=
        h.exists_handled hpolls hbefore hrun
      exact aborted_of_handled hhandled hfirst hrun
    · intro hpolls hrun
      exact timedOut_of_handled (h.handled (List.append_nil _).symm hpolls hrun) hpolls hrun

/-! ## A nested body -/

/-- What `response.json` raises for a body of 100000 nested arrays. -/
def nestedBody : Unhandled where
  typeName := "RecursionError"
  text := "maximum recursion depth exceeded while decoding a JSON array from a unicode string"
  other := by decide

/-- The prompt succeeded, without outputs. -/
def succeeded : Response :=
  ⟨200, .obj [("p", .obj [("status", .obj [("status_str", .str "success"),
    ("completed", .bool true)]), ("outputs", .obj [])])]⟩

/-- A client that gives up after three failures in a row. -/
def patientClient : Settings :=
  ⟨.koboldcpp, 3, Nat.zero_lt_succ 2, ⟨id, id, fun _ ↦ none, fun _ ↦ false⟩, fun _ ↦ ""⟩

/-- One nested body ends the monitoring of a prompt that succeeds. -/
theorem waitForPrompt_monitors_fails_nested :
    ¬MonitorsExactly patientClient "p" [.unhandled nestedBody, .reply succeeded] (.ok 200) := by
  intro h
  have hbefore : NotTerminal patientClient "p" [.unhandled nestedBody] := by
    refine List.forall_mem_singleton.mpr fun r hr ↦ ?_
    exact hr.handled nestedBody rfl
  have hterminal : Terminal patientClient "p" (.reply succeeded) (.ok (.obj [])) :=
    ⟨succeeded, _, _, rfl, by decide, rfl, rfl, .success rfl (by decide) rfl⟩
  have hrun : ¬FailingRun 3 [Poll.unhandled nestedBody] := by
    rintro ⟨run, hrun, hlength, -⟩
    have hle := hrun.length_le
    rw [hlength] at hle
    exact absurd hle (by decide)
  obtain ⟨houtcome, -⟩ := h.decided [.unhandled nestedBody] _ [] _ rfl hbefore hterminal hrun
  cases houtcome

end StProxy.Comfy
