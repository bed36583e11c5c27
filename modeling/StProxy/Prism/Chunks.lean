import StProxy.Prism.Diagnostics

/-!
# The observer does not see the chunks

Feeding a chunk is feeding its bytes, since a line ends only at a line feed and the
size check of a line is decided by its last byte.  The bytes that are kept are bounded.
-/

namespace StProxy.Prism.PrismDiagnostics

variable {loads : Bytes → Option Json} {s : PrismDiagnostics}

/-- The bytes that are kept. -/
def retained (s : PrismDiagnostics) : ℕ := s.buffer.length + s.dataSize

def feedByte (loads : Bytes → Option Json) (s : PrismDiagnostics) (b : UInt8) :
    PrismDiagnostics :=
  if s.valid then s.feedPiece loads [b] else s

/-! ## Pieces -/

/-- A line feed ends the piece, or there is none. -/
def OneLine (piece : Bytes) : Prop := ∃ line rest, piece = line ++ rest ∧ lineFeed ∉ line ∧
  rest.length ≤ 1

lemma splitlines_flatten (line chunk : Bytes) :
    (splitlines line chunk).flatten = line ++ chunk := by
  fun_induction splitlines line chunk with
  | case1 => simp_all
  | case2 => simp_all
  | _ => simp_all

lemma oneLine_append {line : Bytes} (h : lineFeed ∉ line) (b : UInt8) : OneLine (line ++ [b]) :=
  ⟨line, [b], rfl, h, le_rfl⟩

lemma notMem_append {line : Bytes} (h : lineFeed ∉ line) {b : UInt8} (hb : b ≠ lineFeed) :
    lineFeed ∉ line ++ [b] := by
  simp [h, hb.symm]

/-- Every piece holds at most one line feed, at its end. -/
lemma splitlines_oneLine (line chunk : Bytes) (h : lineFeed ∉ line) :
    ∀ piece ∈ splitlines line chunk, OneLine piece := by
  fun_induction splitlines line chunk with
  | case1 => exact List.forall_mem_nil _
  | case2 line => exact List.forall_mem_singleton.mpr ⟨line, [], by simp, h, by simp⟩
  | case3 line rest ih =>
      exact List.forall_mem_cons.mpr ⟨oneLine_append h _, ih List.not_mem_nil⟩
  | case4 line others hne ih =>
      have hcr : lineFeed ∉ line ++ [carriageReturn] := notMem_append h hne
      have hsplit : line ++ [carriageReturn, lineFeed] =
          (line ++ [carriageReturn]) ++ [lineFeed] := by
        simp
      rw [hsplit]
      exact List.forall_mem_cons.mpr ⟨oneLine_append hcr lineFeed, ih List.not_mem_nil⟩
  | case5 line c others _ _ ih =>
      exact List.forall_mem_cons.mpr ⟨oneLine_append h carriageReturn, ih List.not_mem_nil⟩
  | case6 line => exact List.forall_mem_singleton.mpr (oneLine_append h carriageReturn)
  | case7 line b rest hb _ ih => exact ih (notMem_append h hb)

lemma OneLine.tail {b : UInt8} {rest : Bytes} (h : OneLine (b :: rest)) (hne : rest ≠ []) :
    b ≠ lineFeed ∧ OneLine rest := by
  obtain ⟨line, last, heq, hline, hlast⟩ := h
  cases line with
  | nil =>
      rw [List.nil_append] at heq
      subst heq
      simp only [List.length_cons] at hlast
      exact absurd (List.eq_nil_of_length_eq_zero (by omega)) hne
  | cons c line =>
      obtain ⟨rfl, rfl⟩ := List.cons.inj heq
      exact ⟨fun e ↦ hline (e ▸ List.mem_cons_self), line, last, rfl,
        fun hmem ↦ hline (List.mem_cons_of_mem _ hmem), hlast⟩

/-! ## What an event leaves alone -/

/-- The fields that frame the stream are the same. -/
structure SameFrame (s s' : PrismDiagnostics) : Prop where
  sse : s'.sse = s.sse
  buffer : s'.buffer = s.buffer
  data : s'.data = s.data
  dataSize : s'.dataSize = s.dataSize

lemma SameFrame.refl (s : PrismDiagnostics) : SameFrame s s := ⟨rfl, rfl, rfl, rfl⟩

lemma SameFrame.trans {s s' s'' : PrismDiagnostics} (h : SameFrame s s') (h' : SameFrame s' s'') :
    SameFrame s s'' :=
  ⟨h'.sse.trans h.sse, h'.buffer.trans h.buffer, h'.data.trans h.data,
    h'.dataSize.trans h.dataSize⟩

/-- The state that a computation ends in, by an exception or not. -/
def final : Except PrismDiagnostics PrismDiagnostics → PrismDiagnostics
  | .ok s => s
  | .error s => s

lemma addReason_frame (s : PrismDiagnostics) (reason : Json) :
    SameFrame s (s.addReason reason) := by
  unfold addReason
  dsimp only
  split_ifs
  · exact .refl s
  · exact ⟨rfl, rfl, rfl, rfl⟩

lemma onChoice_frame (s : PrismDiagnostics) (choice : Json) :
    SameFrame s (final (s.onChoice choice)) := by
  cases choice with
  | obj choice =>
      unfold onChoice
      dsimp only
      repeat' split
      -- A null reason leaves the state as it is.
      all_goals first
        | exact ⟨rfl, rfl, rfl, rfl⟩
        | exact (addReason_frame s _).trans ⟨rfl, rfl, rfl, rfl⟩
  | _ => exact .refl s

lemma onChoices_frame (s : PrismDiagnostics) (choices : List Json) :
    SameFrame s (final (s.onChoices choices)) := by
  induction choices generalizing s with
  | nil => exact .refl s
  | cons choice choices ih =>
      have hfirst := onChoice_frame s choice
      unfold onChoices
      cases h : s.onChoice choice with
      | error s' =>
          rw [h] at hfirst
          exact hfirst
      | ok s' =>
          rw [h] at hfirst
          exact hfirst.trans (ih s')

lemma readEvent_frame (s : PrismDiagnostics) (event : Json) :
    SameFrame s (final (s.readEvent event)) := by
  cases event with
  | obj event =>
      unfold readEvent
      dsimp only
      split_ifs
      · exact .refl s
      · split
        · next choices _ =>
            have hchoices := onChoices_frame s choices
            cases h : s.onChoices choices with
            | error s' =>
                rw [h] at hchoices
                exact hchoices
            | ok s' =>
                rw [h] at hchoices
                refine hchoices.trans ?_
                unfold onUsage
                simp only [Except.map, final]
                split
                · exact ⟨rfl, rfl, rfl, rfl⟩
                · exact .refl s'
        · exact .refl s
  | _ => exact .refl s

/-- An event leaves the frame alone, or invalidates the observer. -/
lemma event_frame (raw : Bytes) (s : PrismDiagnostics) :
    SameFrame s (s.event loads raw) ∨
      (s.event loads raw).retained = 0 ∧ (s.event loads raw).sse = s.sse := by
  unfold event
  split
  · exact .inr ⟨rfl, rfl⟩
  · next event _ =>
      have hread := readEvent_frame s event
      split
      · next s' h =>
          rw [h] at hread
          exact .inl hread
      · next s' h =>
          rw [h] at hread
          exact .inr ⟨rfl, hread.sse⟩

lemma feedByte_invalid (h : s.valid = false) (b : UInt8) : s.feedByte loads b = s := by
  simp [feedByte, h]

lemma foldl_feedByte_invalid (h : s.valid = false) (bytes : Bytes) :
    bytes.foldl (feedByte loads) s = s := by
  induction bytes with
  | nil => rfl
  | cons b bytes ih => rw [List.foldl_cons, feedByte_invalid h, ih]

/-- A byte within a line is only kept. -/
lemma feedPiece_cons {b : UInt8} {rest : Bytes} (hs : s.valid = true)
    (hb : s.sse = true → b ≠ lineFeed) :
    s.feedPiece loads (b :: rest) = if (s.feedPiece loads [b]).valid
      then (s.feedPiece loads [b]).feedPiece loads rest else s.feedPiece loads [b] := by
  unfold feedPiece
  by_cases hbig : maxEventBytes < s.buffer.length + s.dataSize + [b].length
  · have hbigger : maxEventBytes < s.buffer.length + s.dataSize + (b :: rest).length := by
      simp only [List.length_cons, List.length_nil] at hbig ⊢
      omega
    rw [if_pos hbig, if_pos hbigger, if_neg]
    exact Bool.false_ne_true
  · have hopen : (!s.sse || !endsLine (s.buffer ++ [b])) = true := by
      cases hsse : s.sse with
      | false => rfl
      | true => simp [endsLine, hb hsse]
    have hlength : (s.buffer ++ [b]).length + s.dataSize + rest.length =
        s.buffer.length + s.dataSize + (b :: rest).length := by
      simp only [List.length_append, List.length_cons, List.length_nil]
      omega
    rw [if_neg hbig]
    simp only [hopen, if_true, hs, hlength, List.append_assoc, List.singleton_append]
    split_ifs <;> rfl

lemma dispatch_spec (s : PrismDiagnostics) (hbuffer : s.buffer = []) :
    (s.dispatch loads).retained = 0 ∧ (s.dispatch loads).sse = s.sse := by
  unfold dispatch
  dsimp only
  split_ifs
  · exact ⟨by simp [retained, hbuffer], rfl⟩
  · rcases @event_frame loads ([lineFeed].intercalate s.data)
      { s with data := [], dataSize := 0 } with h | h
    · refine ⟨?_, h.sse⟩
      rw [retained, h.buffer, h.dataSize, hbuffer]
      rfl
    · exact h

lemma dataOf_length {line value : Bytes} (h : dataOf line = some value) :
    value.length + 5 ≤ line.length := by
  unfold dataOf at h
  split_ifs at h with hprefix
  have hlength : 5 ≤ line.length := (List.isPrefixOf_iff_prefix.mp hprefix).length_le
  have hdrop : (line.drop 5).length = line.length - 5 := List.length_drop
  have hvalue := Option.some.inj h
  split at hvalue
  · next b rest hrest =>
      rw [hrest, List.length_cons] at hdrop
      split_ifs at hvalue
      · rw [← hvalue]
        omega
      · rw [← hvalue, List.length_cons]
        omega
  · rw [← hvalue, List.length_nil]
    omega

lemma stripEnd_length {line : Bytes} (h : endsLine line = true) :
    (stripEnd line).length + 1 ≤ line.length := by
  obtain ⟨first, rfl⟩ := List.getLast?_eq_some_iff.mp (beq_iff_eq.mp h)
  unfold stripEnd
  rw [List.rdropWhile_concat_pos _ _ _ rfl, List.length_append, List.length_singleton]
  exact Nat.succ_le_succ (List.rdropWhile_prefix _ _).length_le

/-- A line leaves at most as much as it was. -/
lemma onLine_spec (s : PrismDiagnostics) (h : endsLine s.buffer = true) :
    (s.onLine loads).retained ≤ s.retained ∧ (s.onLine loads).sse = s.sse := by
  have hstrip := stripEnd_length h
  unfold onLine
  dsimp only
  split
  · next value hvalue =>
      have hlength := dataOf_length hvalue
      refine ⟨?_, rfl⟩
      simp only [retained, List.length_nil]
      omega
  · split_ifs
    · obtain ⟨hretained, hsse⟩ := @dispatch_spec loads { s with buffer := [] } rfl
      exact ⟨hretained ▸ Nat.zero_le _, hsse⟩
    · refine ⟨?_, rfl⟩
      simp only [retained, List.length_nil]
      omega

lemma feedPiece_spec (s : PrismDiagnostics) (piece : Bytes) :
    (s.feedPiece loads piece).retained ≤ maxEventBytes ∧
      (s.feedPiece loads piece).sse = s.sse := by
  unfold feedPiece
  split_ifs with hbig
  · exact ⟨Nat.zero_le _, rfl⟩
  · have hsize : ({ s with buffer := s.buffer ++ piece } : PrismDiagnostics).retained ≤
        maxEventBytes := by
      simp only [retained, List.length_append]
      omega
    dsimp only
    split_ifs with hopen
    · exact ⟨hsize, rfl⟩
    · rw [Bool.or_eq_true, not_or, Bool.not_eq_true', Bool.not_eq_true', Bool.not_eq_false,
        Bool.not_eq_false] at hopen
      obtain ⟨hretained, hsse⟩ := @onLine_spec loads
        { s with buffer := s.buffer ++ piece } hopen.2
      exact ⟨hretained.trans hsize, hsse⟩

lemma feedPiece_eq {piece : Bytes} (hs : s.valid = true) (hne : piece ≠ [])
    (h : s.sse = true → OneLine piece) :
    s.feedPiece loads piece = piece.foldl (feedByte loads) s := by
  induction piece generalizing s with
  | nil => exact absurd rfl hne
  | cons b rest ih =>
      have hfirst : s.feedByte loads b = s.feedPiece loads [b] := if_pos hs
      rw [List.foldl_cons, hfirst]
      by_cases hrest : rest = []
      · rw [hrest, List.foldl_nil]
      · rw [feedPiece_cons hs fun hsse ↦ ((h hsse).tail hrest).1]
        split_ifs with hvalid
        · refine ih hvalid hrest fun hsse ↦ ((h ?_).tail hrest).2
          exact (feedPiece_spec s [b]).2.symm.trans hsse
        · exact (foldl_feedByte_invalid (Bool.eq_false_iff.mpr hvalid) rest).symm

lemma feedPieces_eq {pieces : List Bytes} (hs : s.valid = true)
    (h : ∀ piece ∈ pieces, piece ≠ [] ∧ (s.sse = true → OneLine piece)) :
    feedPieces loads s pieces = pieces.flatten.foldl (feedByte loads) s := by
  induction pieces generalizing s with
  | nil => rfl
  | cons piece pieces ih =>
      obtain ⟨⟨hne, hline⟩, hpieces⟩ := List.forall_mem_cons.mp h
      have hpiece := @feedPiece_eq loads s piece hs hne hline
      have hsse := (@feedPiece_spec loads s piece).2
      unfold feedPieces
      rw [List.flatten_cons, List.foldl_append, ← hpiece]
      split_ifs with hvalid
      · exact ih hvalid fun other hother ↦ ⟨(hpieces other hother).1,
          fun h ↦ (hpieces other hother).2 (hsse.symm.trans h)⟩
      · exact (foldl_feedByte_invalid (Bool.eq_false_iff.mpr hvalid) _).symm

lemma splitlines_ne_nil (line chunk : Bytes) : ∀ piece ∈ splitlines line chunk, piece ≠ [] := by
  fun_induction splitlines line chunk with
  | _ => simp_all

lemma feed_eq (h : s.retained ≤ maxEventBytes) (chunk : Bytes) :
    s.feed loads chunk = chunk.foldl (feedByte loads) s := by
  unfold feed
  split_ifs with hvalid hsse
  · rw [feedPieces_eq hvalid fun piece hpiece ↦ ⟨splitlines_ne_nil [] chunk piece hpiece,
      fun _ ↦ splitlines_oneLine [] chunk List.not_mem_nil piece hpiece⟩, splitlines_flatten,
      List.nil_append]
  · cases chunk with
    | nil =>
        have hsse : s.sse = false := Bool.eq_false_iff.mpr hsse
        have hpiece : s.feedPiece loads [] = s := by
          unfold feedPiece
          rw [if_neg (by simpa [retained] using h), List.append_nil]
          exact if_pos (by rw [hsse]; rfl)
        simp [feedPieces, hpiece]
    | cons b rest =>
        rw [feedPieces_eq hvalid, List.flatten_singleton]
        exact List.forall_mem_singleton.mpr ⟨List.cons_ne_nil b rest, fun h ↦ absurd h hsse⟩
  · exact (foldl_feedByte_invalid (Bool.eq_false_iff.mpr hvalid) chunk).symm

lemma feedByte_retained (h : s.retained ≤ maxEventBytes) (b : UInt8) :
    (s.feedByte loads b).retained ≤ maxEventBytes := by
  unfold feedByte
  split_ifs
  · exact (feedPiece_spec s [b]).1
  · exact h

lemma foldl_feedByte_retained (h : s.retained ≤ maxEventBytes) (bytes : Bytes) :
    (bytes.foldl (feedByte loads) s).retained ≤ maxEventBytes := by
  induction bytes generalizing s with
  | nil => exact h
  | cons b bytes ih => exact ih (feedByte_retained h b)

lemma foldl_feed_eq (h : s.retained ≤ maxEventBytes) (chunks : List Bytes) :
    chunks.foldl (feed loads) s = chunks.flatten.foldl (feedByte loads) s := by
  induction chunks generalizing s with
  | nil => rfl
  | cons chunk chunks ih =>
      rw [List.foldl_cons, List.flatten_cons, List.foldl_append, feed_eq h]
      exact ih (foldl_feedByte_retained h chunk)

/-- However the response is cut into chunks, the observer ends in the state in which
one chunk leaves it and reports the same, and it never keeps more than an event. -/
theorem feed_chunks (loads : Bytes → Option Json) (payload : Json.Fields) (status : ℕ)
    (contentType : String) (chunks : List Bytes) :
    let s := (init payload).start status contentType
    chunks.foldl (feed loads) s = s.feed loads chunks.flatten ∧
      (∀ upstreamComplete clientConnected,
        (chunks.foldl (feed loads) s).finish loads upstreamComplete clientConnected =
          (s.feed loads chunks.flatten).finish loads upstreamComplete clientConnected) ∧
      (chunks.foldl (feed loads) s).retained ≤ maxEventBytes := by
  intro s
  have hs : s.retained ≤ maxEventBytes := Nat.zero_le _
  have heq : chunks.foldl (feed loads) s = s.feed loads chunks.flatten := by
    rw [foldl_feed_eq hs, feed_eq hs]
  refine ⟨heq, fun _ _ ↦ by rw [heq], ?_⟩
  rw [foldl_feed_eq hs]
  exact foldl_feedByte_retained hs _

end StProxy.Prism.PrismDiagnostics
