import StProxy.Tabby.Backend

/-!
# What the stream of a load tells

`_load` reads the stream of a load line by line.  Its outcome in terms of the whole
stream: the events that the lines form, and how the stream ends.
-/

namespace StProxy.Tabby

open Async Llm

/-! ## The events of a stream -/

/-- The data of the events of a stream, after the lines `data` of the next event. -/
def eventData : List String → List (Option String) → List String
  | _, [] => []
  | data, none :: lines => eventData data lines
  | data, some raw :: lines =>
      match dataOf (stripEnd raw) with
      | some line => eventData (data ++ [line]) lines
      | none =>
          if stripEnd raw = "" ∧ data ≠ [] then "\n".intercalate data :: eventData [] lines
          else eventData data lines

/-- The data lines after the last event. -/
def pendingData : List String → List String → List String
  | data, [] => data
  | data, raw :: lines =>
      match dataOf (stripEnd raw) with
      | some line => pendingData (data ++ [line]) lines
      | none => if stripEnd raw = "" ∧ data ≠ [] then pendingData [] lines
          else pendingData data lines

/-- The data of the events of a decoded stream. -/
def eventsOf (lines : List String) : List String := eventData [] (lines.map some)

def NoErrorLine (lines : List String) : Prop :=
  ∀ line ∈ lines, isErrorLine (stripEnd line) = false

/-- The stream ended by itself, between two events. -/
def EndsCleanly (lines : List String) (broken : Option Raised) : Prop :=
  broken = none ∧ pendingData [] lines = []

section Events

variable (cfg : Settings)

def IsObject (data : String) : Prop := ∃ event, cfg.loads data = some (.obj event)

instance (data : String) : Decidable (IsObject cfg data) :=
  decidable_of_iff ((match cfg.loads data with
    | some (.obj _) => true
    | _ => false) = true) (by unfold IsObject; split <;> simp_all)

/-- The data of an event that reports an error. -/
def isErrorEvent (data : String) : Bool :=
  match cfg.loads data with
  | some (.obj event) => Json.has event "error"
  | _ => false

/-- The event says that the model is loaded. -/
def isFinished (data : String) : Bool :=
  match cfg.loads data with
  | some (.obj event) => (Json.get event "model_type").eq (.str "model") &&
      (Json.get event "status").eq (.str "finished")
  | _ => false

/-- The text of an error event. -/
def errorMessage (data : String) : Option String :=
  match cfg.loads data with
  | some (.obj event) =>
      match Json.get event "error" with
      | .obj error =>
          match Json.get error "message" with
          | .str message => some message
          | _ => none
      | _ => none
  | _ => none

/-- The stream reports a finished load. -/
structure ReportsLoaded (lines : List String) (broken : Option Raised) : Prop where
  clean : EndsCleanly lines broken
  noErrorLine : NoErrorLine lines
  objects : ∀ data ∈ eventsOf lines, IsObject cfg data
  noError : ∀ data ∈ eventsOf lines, isErrorEvent cfg data = false
  finished : ∃ data ∈ eventsOf lines, isFinished cfg data = true

/-- The stream reports a failed load, and that it is over. -/
structure ReportsFailed (lines : List String) (broken : Option Raised) : Prop where
  clean : EndsCleanly lines broken
  noErrorLine : NoErrorLine lines
  objects : ∀ data ∈ eventsOf lines, IsObject cfg data
  error : ∃ data ∈ eventsOf lines, isErrorEvent cfg data = true
  wellFormed : ∀ data ∈ eventsOf lines, isErrorEvent cfg data = true →
    (errorMessage cfg data).isSome = true
  noProgress : (eventsOf lines).Pairwise fun first later ↦
    isErrorEvent cfg first = true → isErrorEvent cfg later = true

/-- Some error says that the memory of the GPU is too small. -/
def ReportsOutOfVram (lines : List String) : Prop :=
  ∃ data ∈ eventsOf lines, isErrorEvent cfg data = true ∧
    ∃ message, errorMessage cfg data = some message ∧ outOfVram message = true

end Events

/-! ## The loop over the lines -/

section Loop

variable {cfg : Settings} {st st' : Stream}

/-- The event may follow what was read so far. -/
structure Admits (cfg : Settings) (failed : Bool) (data : String) : Prop where
  object : IsObject cfg data
  wellFormed : isErrorEvent cfg data = true → (errorMessage cfg data).isSome = true
  noProgress : failed = true → isErrorEvent cfg data = true

/-- What an event changes. -/
def absorb (cfg : Settings) (st : Stream) (data : String) : Stream :=
  { st with
    finished := st.finished || (!isErrorEvent cfg data && isFinished cfg data)
    failed := st.failed || isErrorEvent cfg data
    insufficientVram := st.insufficientVram ||
      (isErrorEvent cfg data && (errorMessage cfg data).any outOfVram) }

lemma onEvent_ok_iff {data : String} {event : Json} (hevent : cfg.loads data = some event) :
    onEvent st event = .ok st' ↔ Admits cfg st.failed data ∧ st' = absorb cfg st data := by
  have hadmits : Admits cfg st.failed data ↔ IsObject cfg data ∧
      (isErrorEvent cfg data = true → (errorMessage cfg data).isSome = true) ∧
      (st.failed = true → isErrorEvent cfg data = true) :=
    ⟨fun h ↦ ⟨h.object, h.wellFormed, h.noProgress⟩, fun h ↦ ⟨h.1, h.2.1, h.2.2⟩⟩
  rw [hadmits]
  unfold absorb
  obtain ⟨pending, finished, failed, insufficientVram⟩ := st
  cases event with
  | obj event =>
      have hobject : IsObject cfg data := ⟨event, hevent⟩
      have herror : isErrorEvent cfg data = Json.has event "error" := by
        simp only [isErrorEvent, hevent]
      have hfinished : isFinished cfg data = ((Json.get event "model_type").eq (.str "model") &&
          (Json.get event "status").eq (.str "finished")) := by
        simp only [isFinished, hevent]
      rw [herror, hfinished]
      simp only [hobject, true_and, onEvent]
      cases hhas : Json.has event "error" with
      | true =>
          have hmessage : errorMessage cfg data = match Json.get event "error" with
              | .obj error => match Json.get error "message" with
                | .str message => some message
                | _ => none
              | _ => none := by
            simp only [errorMessage, hevent]
          rw [hmessage, if_pos rfl]
          cases Json.get event "error" with
          | obj error =>
              dsimp only
              cases Json.get error "message" with
              | str message => simp [eq_comm (b := st')]
              | _ => simp
          | _ => simp
      | false =>
          rw [if_neg Bool.false_ne_true]
          cases failed with
          | true => simp
          | false =>
              rw [if_neg Bool.false_ne_true]
              split_ifs with hfinal
              · simp [hfinal, eq_comm (b := st')]
              · rw [Bool.not_eq_true] at hfinal
                simp [hfinal, eq_comm (b := st')]
  | _ =>
      have hobject : ¬IsObject cfg data := by
        rintro ⟨event, hobject⟩
        rw [hevent] at hobject
        cases hobject
      simp [hobject, onEvent]

lemma dispatch_ok_iff : dispatch cfg st = .ok st' ↔
    Admits cfg st.failed ("\n".intercalate st.data) ∧
      st' = absorb cfg { st with data := [] } ("\n".intercalate st.data) := by
  unfold dispatch
  cases hevent : cfg.loads ("\n".intercalate st.data) with
  | none =>
      refine ⟨nofun, fun ⟨hadmits, _⟩ ↦ ?_⟩
      obtain ⟨event, hobject⟩ := hadmits.object
      rw [hevent] at hobject
      cases hobject
  | some event => exact onEvent_ok_iff hevent

/-- Every event may follow those before it. -/
def AdmitsAll (cfg : Settings) : Stream → List String → Prop
  | _, [] => True
  | st, data :: rest => Admits cfg st.failed data ∧ AdmitsAll cfg (absorb cfg st data) rest

lemma absorb_data (data : List String) (event : String) :
    absorb cfg { st with data := data } event = { absorb cfg st event with data := data } := rfl

lemma foldl_absorb_data (data events : List String) :
    events.foldl (absorb cfg) { st with data := data } =
      { events.foldl (absorb cfg) st with data := data } := by
  induction events generalizing st with
  | nil => rfl
  | cons event events ih =>
      rw [List.foldl_cons, absorb_data, ih, List.foldl_cons]

lemma admitsAll_data (data events : List String) :
    AdmitsAll cfg { st with data := data } events ↔ AdmitsAll cfg st events := by
  induction events generalizing st with
  | nil => exact Iff.rfl
  | cons event events ih =>
      unfold AdmitsAll
      rw [absorb_data, ih]

/-- The lines, by induction: what precedes the next blank line is pending. -/
lemma readStream_ok_iff (lines : List String) : readStream cfg st (lines.map some) = .ok st' ↔
    NoErrorLine lines ∧ AdmitsAll cfg st (eventData st.data (lines.map some)) ∧
      st' = { (eventData st.data (lines.map some)).foldl (absorb cfg) st with
        data := pendingData st.data lines } := by
  induction lines generalizing st with
  | nil =>
      have hnone : NoErrorLine [] := List.forall_mem_nil _
      simp only [List.map_nil, readStream, eventData, pendingData, AdmitsAll, List.foldl_nil,
        hnone, true_and, Except.ok.injEq]
      exact eq_comm
  | cons raw lines ih =>
      have hbind {x : Except Raised Stream} :
          (x.bind fun st ↦ readStream cfg st (lines.map some)) = .ok st' ↔
            ∃ next, x = .ok next ∧ readStream cfg next (lines.map some) = .ok st' := by
        cases x <;> simp [Except.bind]
      have hlines : NoErrorLine (raw :: lines) ↔
          isErrorLine (stripEnd raw) = false ∧ NoErrorLine lines := List.forall_mem_cons
      rw [List.map_cons, readStream, hbind, hlines]
      unfold onLine eventData pendingData
      dsimp only
      cases herror : isErrorLine (stripEnd raw) with
      | true => simp
      | false =>
          rw [if_neg Bool.false_ne_true]
          cases hdata : dataOf (stripEnd raw) with
          | some line =>
              simp only [Except.ok.injEq, exists_eq_left', ih, admitsAll_data, foldl_absorb_data,
                true_and]
          | none =>
              dsimp only
              split_ifs with hblank
              · simp only [dispatch_ok_iff, and_assoc, exists_and_left, exists_eq_left, ih,
                  true_and]
                simp only [absorb_data, admitsAll_data, foldl_absorb_data, AdmitsAll,
                  List.foldl_cons]
                rw [and_left_comm, and_assoc]
              · simp only [Except.ok.injEq, exists_eq_left', ih, true_and]

lemma foldl_absorb (events : List String) :
    (events.foldl (absorb cfg) st).finished =
        (st.finished || events.any fun data ↦ !isErrorEvent cfg data && isFinished cfg data) ∧
      (events.foldl (absorb cfg) st).failed = (st.failed || events.any (isErrorEvent cfg)) ∧
      (events.foldl (absorb cfg) st).insufficientVram = (st.insufficientVram ||
        events.any fun data ↦ isErrorEvent cfg data && (errorMessage cfg data).any outOfVram) := by
  induction events generalizing st with
  | nil => simp
  | cons data events ih =>
      obtain ⟨hfinished, hfailed, hvram⟩ := @ih (absorb cfg st data)
      rw [List.foldl_cons, hfinished, hfailed, hvram]
      simp only [absorb, List.any_cons, Bool.or_assoc, and_self]

/-- All events are admitted: an error, if there is one, is followed by errors only. -/
lemma admitsAll_iff (events : List String) : AdmitsAll cfg st events ↔
    (∀ data ∈ events, IsObject cfg data) ∧
      (∀ data ∈ events, isErrorEvent cfg data = true → (errorMessage cfg data).isSome = true) ∧
      (events.Pairwise fun first later ↦
        isErrorEvent cfg first = true → isErrorEvent cfg later = true) ∧
      (st.failed = true → ∀ data ∈ events, isErrorEvent cfg data = true) := by
  induction events generalizing st with
  | nil => simp [AdmitsAll]
  | cons data events ih =>
      have hfailed : (absorb cfg st data).failed = true ↔
          st.failed = true ∨ isErrorEvent cfg data = true := by
        simp [absorb]
      unfold AdmitsAll
      rw [ih, hfailed, List.forall_mem_cons, List.forall_mem_cons, List.pairwise_cons]
      constructor
      · rintro ⟨hadmits, hobjects, hmessages, hpairs, herrors⟩
        refine ⟨⟨hadmits.object, hobjects⟩, ⟨hadmits.wellFormed, hmessages⟩, ⟨?_, hpairs⟩, ?_⟩
        · exact fun later hlater herror ↦ herrors (.inr herror) later hlater
        · exact fun h ↦ List.forall_mem_cons.mpr ⟨hadmits.noProgress h, herrors (.inl h)⟩
      · rintro ⟨⟨hobject, hobjects⟩, ⟨hmessage, hmessages⟩, ⟨hfirst, hpairs⟩, herrors⟩
        refine ⟨⟨hobject, hmessage, fun h ↦ herrors h data List.mem_cons_self⟩, hobjects,
          hmessages, hpairs, ?_⟩
        rintro (h | h) later hlater
        · exact herrors h later (List.mem_cons_of_mem _ hlater)
        · exact hfirst later hlater h

end Loop

/-! ## `_load` -/

section Load

variable {cfg : Settings} {lines : List String} {broken : Option Raised}

/-- The response to a load whose stream has these lines. -/
def streamed (lines : List String) (broken : Option Raised) : LoadResponse :=
  ⟨200, "text/event-stream", lines.map some, broken⟩

/-- The stream was read to its end. -/
lemma loadStream_ok_iff {st : Stream} : loadStream cfg (streamed lines broken) = .ok st ↔
    broken = none ∧ NoErrorLine lines ∧ AdmitsAll cfg .start (eventsOf lines) ∧
      st = { (eventsOf lines).foldl (absorb cfg) .start with data := pendingData [] lines } := by
  have hread (next : Stream) := @readStream_ok_iff cfg .start next lines
  have hfinish (next : Stream) : finishStream broken next = .ok st ↔ broken = none ∧ next = st := by
    cases broken <;> simp [finishStream]
  have hstream : loadStream cfg (streamed lines broken) =
      (readStream cfg .start (lines.map some)).bind (finishStream broken) := by
    simp [loadStream, streamed]
  rw [hstream]
  constructor
  · intro h
    cases hr : readStream cfg .start (lines.map some) with
    | error e =>
        rw [hr] at h
        cases h
    | ok next =>
        rw [hr] at h
        obtain ⟨hbroken, rfl⟩ := (hfinish next).mp h
        exact ⟨hbroken, (hread next).mp hr⟩
  · rintro ⟨hbroken, h⟩
    rw [(hread st).mpr h]
    exact (hfinish st).mpr ⟨hbroken, rfl⟩

/-- The stream was read to its end, between two events. -/
def Complete (cfg : Settings) (lines : List String) (broken : Option Raised) : Prop :=
  broken = none ∧ NoErrorLine lines ∧ AdmitsAll cfg .start (eventsOf lines) ∧
    pendingData [] lines = []

lemma reportsFailed_iff : ReportsFailed cfg lines broken ↔ Complete cfg lines broken ∧
    (eventsOf lines).any (isErrorEvent cfg) = true := by
  unfold Complete
  rw [admitsAll_iff, List.any_eq_true]
  constructor
  · rintro ⟨⟨hbroken, hpending⟩, hlines, hobjects, herror, hmessages, hpairs⟩
    exact ⟨⟨hbroken, hlines, ⟨hobjects, hmessages, hpairs, nofun⟩, hpending⟩, herror⟩
  · rintro ⟨⟨hbroken, hlines, ⟨hobjects, hmessages, hpairs, -⟩, hpending⟩, herror⟩
    exact ⟨⟨hbroken, hpending⟩, hlines, hobjects, herror, hmessages, hpairs⟩

lemma reportsLoaded_iff : ReportsLoaded cfg lines broken ↔ Complete cfg lines broken ∧
    (eventsOf lines).any (isErrorEvent cfg) = false ∧
    ((eventsOf lines).any fun data ↦ !isErrorEvent cfg data && isFinished cfg data) = true := by
  unfold Complete
  rw [admitsAll_iff, List.any_eq_true, List.any_eq_false]
  simp only [Bool.not_eq_true, Bool.and_eq_true, Bool.not_eq_true']
  constructor
  · rintro ⟨⟨hbroken, hpending⟩, hlines, hobjects, hnone, data, hdata, hfinished⟩
    refine ⟨⟨hbroken, hlines, ⟨hobjects, fun d hd herror ↦ ?_, ?_, nofun⟩, hpending⟩, hnone, data,
      hdata, hnone data hdata, hfinished⟩
    · rw [hnone d hd] at herror
      cases herror
    · refine List.pairwise_of_forall_mem_list fun first hfirst _ _ herror ↦ ?_
      rw [hnone first hfirst] at herror
      cases herror
  · rintro ⟨⟨hbroken, hlines, ⟨hobjects, -, -, -⟩, hpending⟩, hnone, data, hdata, -, hfinished⟩
    exact ⟨⟨hbroken, hpending⟩, hlines, hobjects, hnone, data, hdata, hfinished⟩

lemma reportsOutOfVram_iff : ReportsOutOfVram cfg lines ↔ ((eventsOf lines).any fun data ↦
    isErrorEvent cfg data && (errorMessage cfg data).any outOfVram) = true := by
  simp only [ReportsOutOfVram, List.any_eq_true, Bool.and_eq_true, Option.any_eq_true]

lemma onEvent_error {st : Stream} {event : Json} {e : Raised} (h : onEvent st event = .error e) :
    e ≠ .exn .insufficientVram := by
  rintro rfl
  unfold onEvent at h
  split at h
  · split_ifs at h
    · split at h
      · split at h <;> cases h
      · cases h
    · cases h
  · cases h

/-- The loop itself never raises `InsufficientVram`. -/
lemma readStream_error {st : Stream} {lines : List (Option String)} {e : Raised}
    (h : readStream cfg st lines = .error e) : e ≠ .exn .insufficientVram := by
  induction lines generalizing st with
  | nil => cases h
  | cons line lines ih =>
      unfold readStream at h
      cases hline : onLine cfg st line with
      | ok next =>
          rw [hline] at h
          exact ih h
      | error e' =>
          rw [hline] at h
          obtain rfl : e' = e := Except.error.inj h
          rintro rfl
          cases line with
          | none => cases hline
          | some raw =>
              simp only [onLine] at hline
              split_ifs at hline
              · cases hline
              · split at hline
                · cases hline
                · unfold dispatch at hline
                  split at hline
                  · cases hline
                  · exact onEvent_error hline rfl
              · split at hline <;> cases hline

lemma loadStream_error {e : Raised} (h : loadStream cfg (streamed lines broken) = .error e)
    (hbroken : broken ≠ some (.exn .insufficientVram)) : e ≠ .exn .insufficientVram := by
  have hstream : loadStream cfg (streamed lines broken) =
      (readStream cfg .start (lines.map some)).bind (finishStream broken) := by
    simp [loadStream, streamed]
  rw [hstream] at h
  cases hr : readStream cfg .start (lines.map some) with
  | error e' =>
      rw [hr] at h
      obtain rfl : e' = e := Except.error.inj h
      exact readStream_error hr
  | ok next =>
      rw [hr] at h
      cases broken with
      | none => cases h
      | some e' =>
          obtain rfl : e' = e := Except.error.inj h
          exact fun he ↦ hbroken (congrArg some he)

variable {s : TabbyApiBackend}

/-- How `_load` ends, once its request is answered. -/
def afterStream (cfg : Settings) (r : LoadResponse) (s : TabbyApiBackend) :
    Except Raised Unit × TabbyApiBackend :=
  match loadStream cfg r with
  | .error e => (.error e, s)
  | .ok st =>
      if st.data ≠ [] ∨ (st.finished = false ∧ st.failed = false) then
        (.error (failure "load" "incomplete SSE response"), s)
      else if st.failed then (.error (loadError st), { s with loadFailed := true })
      else (.ok (), s)

lemma play_load {restore expected : TabbyApiRestorePoint} {log : Log} {r : LoadResponse}
    {answers : Log → (c : Call) → Answer c}
    (h : answers log (.load (loadPayload restore) expected) = .ok r) :
    ((load cfg restore expected).play answers s log).1 = (afterStream cfg r s).1 ∧
      ((load cfg restore expected).play answers s log).2.1 = (afterStream cfg r s).2 := by
  unfold load afterStream
  rw [play_bind, play_await]
  dsimp only
  rw [h, play_bind, play_result]
  dsimp only
  rw [play_bind, play_result]
  cases loadStream cfg r with
  | error e => exact ⟨rfl, rfl⟩
  | ok st =>
      dsimp only
      unfold endLoad
      split_ifs <;> exact ⟨rfl, rfl⟩

/-- The outcome of a stream, by what it reports. -/
lemma afterStream_cases (hbroken : broken ≠ some (.exn .insufficientVram)) :
    let r := afterStream cfg (streamed lines broken) s
    (r.1 = .ok () ↔ ReportsLoaded cfg lines broken) ∧
      (r.2.loadFailed = true ↔ s.loadFailed = true ∨ ReportsFailed cfg lines broken) ∧
      (r.1 = .error (.exn .insufficientVram) ↔
        ReportsFailed cfg lines broken ∧ ReportsOutOfVram cfg lines) ∧
      (broken ≠ none → r.2 = s) := by
  intro r
  rw [reportsLoaded_iff, reportsFailed_iff, reportsOutOfVram_iff]
  cases hstream : loadStream cfg (streamed lines broken) with
  | error e =>
      have hr : r = (.error e, s) := by simp only [r, afterStream, hstream]
      have hnot : ¬Complete cfg lines broken := by
        rintro ⟨hnone, hlines, hadmits, -⟩
        have hok := loadStream_ok_iff.mpr ⟨hnone, hlines, hadmits, rfl⟩
        rw [hstream] at hok
        cases hok
      have he : ¬(Except.error e : Except Raised Unit) = .error (.exn .insufficientVram) :=
        fun h ↦ loadStream_error hstream hbroken (Except.error.inj h)
      rw [hr]
      simp only [hnot, he, false_and, or_false, iff_self, reduceCtorEq, implies_true, and_self]
  | ok st =>
      obtain ⟨hnone, hlines, hadmits, hst⟩ := loadStream_ok_iff.mp hstream
      obtain ⟨hfinished, hfailed, hvram⟩ := @foldl_absorb cfg .start (eventsOf lines)
      have hcomplete : Complete cfg lines broken ↔ st.data = [] := by
        rw [hst]
        exact ⟨fun h ↦ h.2.2.2, fun h ↦ ⟨hnone, hlines, hadmits, h⟩⟩
      have hfinished : ((eventsOf lines).any fun data ↦
          !isErrorEvent cfg data && isFinished cfg data) = st.finished := by
        rw [hst]
        exact hfinished.symm
      have hfailed : (eventsOf lines).any (isErrorEvent cfg) = st.failed := by
        rw [hst]
        exact hfailed.symm
      have hvram : ((eventsOf lines).any fun data ↦
          isErrorEvent cfg data && (errorMessage cfg data).any outOfVram) =
            st.insufficientVram := by
        rw [hst]
        exact hvram.symm
      rw [hcomplete, hfinished, hfailed, hvram]
      have hr : r = if st.data ≠ [] ∨ (st.finished = false ∧ st.failed = false) then
          (.error (failure "load" "incomplete SSE response"), s)
        else if st.failed then (.error (loadError st), { s with loadFailed := true })
        else (.ok (), s) := by simp only [r, afterStream, hstream]
      have herror : loadError st = .exn .insufficientVram ↔ st.insufficientVram = true := by
        unfold loadError
        split_ifs with h <;> simp [h, failure, backendError]
      rw [hr]
      split_ifs with hincomplete hfail
      · have hnot : ¬(Except.error (failure "load" "incomplete SSE response") :
            Except Raised Unit) = .error (.exn .insufficientVram) := nofun
        simp only [hnot, false_iff, implies_true, and_true]
        rcases hincomplete with hdata | ⟨hfinished, hfailed⟩
        · simp [hdata]
        · simp [hfinished, hfailed]
      · rw [not_or, not_not] at hincomplete
        simp [hincomplete.1, hfail, herror, hnone]
      · rw [not_or, not_not] at hincomplete
        rw [Bool.not_eq_true] at hfail
        have hdone : st.finished = true := by
          cases h : st.finished with
          | true => rfl
          | false => exact absurd ⟨h, hfail⟩ hincomplete.2
        simp [hincomplete.1, hfail, hdone]

end Load

/-- The outcome of the stream of a load that was accepted, for every stream that ends
by itself or is broken off at any point. -/
theorem load_classified (cfg : Settings) (restore expected : TabbyApiRestorePoint)
    (lines : List String) (broken : Option Raised) (s : TabbyApiBackend) (log : Log)
    (answers : Log → (c : Call) → Answer c) (hbroken : broken ≠ some (.exn .insufficientVram))
    (hanswer : answers log (.load (loadPayload restore) expected) = .ok (streamed lines broken)) :
    let r := (load cfg restore expected).play answers s log
    (r.1 = .ok () ↔ ReportsLoaded cfg lines broken) ∧
      (r.2.1.loadFailed = true ↔ s.loadFailed = true ∨ ReportsFailed cfg lines broken) ∧
      (r.1 = .error (.exn .insufficientVram) ↔
        ReportsFailed cfg lines broken ∧ ReportsOutOfVram cfg lines) ∧
      (broken ≠ none → r.2.1 = s) := by
  intro r
  obtain ⟨hresult, hstate⟩ := @play_load cfg s _ _ _ _ _ hanswer
  have hcases := @afterStream_cases cfg lines _ s hbroken
  simp only [r, hresult, hstate]
  exact hcases

/-- Progress, then an error event that says that memory ran out. -/
theorem load_classified_outOfVram :
    let progress := "\x7b\"model_type\":\"model\",\"status\":\"processing\"\x7d"
    let failed := "\x7b\"error\":\x7b\"message\":\"CUDA out of memory\"\x7d\x7d"
    let cfg : Settings := ⟨some "exl3", 4096, fun s ↦
      if s = progress then
        some (.obj [("model_type", .str "model"), ("status", .str "processing")])
      else if s = failed then
        some (.obj [("error", .obj [("message", .str "CUDA out of memory")])])
      else none⟩
    let lines := ["data: " ++ progress, "", "data: " ++ failed, ""]
    let answers : Log → (c : Call) → Answer c := fun _ c ↦ match c with
      | .load _ _ => .ok (streamed lines none)
      | .get _ | .unload => .error .timeout
      | .sleep => .ok ()
      | .polls _ => (0 : ℕ)
    let r := (load cfg ⟨"exl3", []⟩ ⟨"exl3", []⟩).play answers .initial []
    r.1 = .error (.exn .insufficientVram) ∧ r.2.1.loadFailed = true := by
  intro progress failed cfg lines answers r
  obtain ⟨-, hfailed, hvram, -⟩ := load_classified cfg ⟨"exl3", []⟩ ⟨"exl3", []⟩ lines none .initial
    [] answers nofun rfl
  have hevents : eventsOf lines = [progress, failed] := by decide +kernel
  have hreports : ReportsFailed cfg lines none := by
    refine ⟨⟨rfl, by decide +kernel⟩, ?_, ?_, ?_, ?_, ?_⟩
    · unfold NoErrorLine
      decide +kernel
    · rw [hevents]
      decide +kernel
    · rw [hevents]
      decide +kernel
    · rw [hevents]
      decide +kernel
    · rw [hevents]
      decide +kernel
  rw [hvram, hfailed]
  refine ⟨⟨hreports, failed, ?_, ?_, "CUDA out of memory", ?_, ?_⟩, .inr hreports⟩
  · rw [hevents]
    decide +kernel
  · decide +kernel
  · decide +kernel
  · decide +kernel

end StProxy.Tabby
