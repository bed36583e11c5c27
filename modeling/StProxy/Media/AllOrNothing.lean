import StProxy.Media.Save

/-!
# Images are saved whole or not at all

`_save` leaves the published directory with the files that it lists, or no directory,
unless a cancellation arrives while the staging directory is removed after the rename.
-/

namespace StProxy.Media.Save

open Async Checked Workflows

/-- The contents of a file are all that its source delivered in the run. -/
inductive Delivered (log : Log) (name : String) (data : Bytes) : Prop
  | copied (path root : String) (facts : CopyFacts) (interrupt : Interrupt)
      (mem : ⟨.disk (.copyLocal path root name), facts, interrupt⟩ ∈ log)
      (ending : facts.ending = .ok ()) (body : data = facts.body)
  | downloaded (source : Source) (index : ℕ) (view : View) (extension : String)
      (mem : ⟨.view source index, .ok view⟩ ∈ log) (name_eq : name = toString index ++ extension)
      (ending : view.ending = .ok ()) (body : data = view.chunks.flatten)

/-- The files of a directory are those that are listed, and each is whole. -/
structure Saved (final : String) (images : List Image) (folder : Folder) (log : Log) : Prop where
  listed : images.map Image.path = folder.map fun file ↦ final ++ "/" ++ file.1
  nodup : (folder.map Prod.fst).Nodup
  nonempty : ∀ file ∈ folder, file.2 ≠ []
  bounded : ∀ file ∈ folder, file.2.length ≤ maxImageBytes
  complete : ∀ file ∈ folder, Delivered log file.1 file.2

/-- Either the list is returned and the directory is there, or neither. -/
structure AllOrNothing (final : String) (r : Except Raised (List Image)) (disk : Disk)
    (log : Log) : Prop where
  staging : disk.staging = none
  saved : ∀ images, r = .ok images → ∃ folder, disk.final = some folder ∧
    Saved final images folder log
  nothing : ∀ e, r = .error e → disk.final = none

/-- A cancellation was delivered while the staging directory was removed after the rename. -/
def Interrupted (log : Log) : Prop :=
  ∃ interrupt before, interrupt ≠ .none ∧
    log = ⟨.disk .removeStaging, (), interrupt⟩ :: ⟨.disk .replace, .ok (), .none⟩ :: before

/-- `_save` with its environment. -/
def saveRun (w : Workflow) (outputs : Json) (final : String)
    (answers : Log → (c : Call) → Answer c) : Except Raised (List Image) × Disk × Log :=
  (save w outputs final).play answers ⟨none, none⟩ []

def saveLog (w : Workflow) (outputs : Json) (final : String)
    (answers : Log → (c : Call) → Answer c) : Log := (saveRun w outputs final answers).2.2

/-- Every run from there ends in `Q`. -/
abbrev Runs {α : Type} (p : Method α) (d : Disk) (log : Log)
    (Q : Except Raised α → Disk → Log → Prop) : Prop :=
  p.wp (recording fun _ _ _ ↦ True) (fun _ _ _ ↦ True) Q d log

/-! ## Files -/

section Files

variable {name : String} {data more : Bytes} {folder : Folder} {d : Disk}

lemma append_new (h : name ∉ folder.map Prod.fst) :
    Folder.append name data folder = folder ++ [(name, data)] := by
  induction folder with
  | nil => rfl
  | cons file folder ih =>
      obtain ⟨hne, hfolder⟩ := not_or.mp fun hmem ↦ h (List.mem_cons.mpr hmem)
      rw [Folder.append, if_neg (Ne.symm hne), ih hfolder, List.cons_append]

lemma append_last (h : name ∉ folder.map Prod.fst) :
    Folder.append name more (folder ++ [(name, data)]) = folder ++ [(name, data ++ more)] := by
  induction folder with
  | nil => rw [List.nil_append, Folder.append, if_pos rfl, List.nil_append]
  | cons file folder ih =>
      obtain ⟨hne, hfolder⟩ := not_or.mp fun hmem ↦ h (List.mem_cons.mpr hmem)
      rw [List.cons_append, Folder.append, if_neg (Ne.symm hne), ih hfolder, List.cons_append]

lemma admits_iff : d.admits name = true ↔
    ∃ folder, d.staging = some folder ∧ name ∉ folder.map Prod.fst := by
  unfold Disk.admits
  cases d.staging with
  | none => simp
  | some folder => simp

lemma write_new {final : Option Folder} (h : name ∉ folder.map Prod.fst) :
    Disk.write name data ⟨some folder, final⟩ = ⟨some (folder ++ [(name, data)]), final⟩ := by
  rw [Disk.write, Option.map_some, append_new h]

end Files

/-! ## Threads -/

section Threads

variable {name : String} {d : Disk} {folder : Folder}

/-- What was read was written, up to the end. -/
lemma copyLoop_ok {ending : Except Raised Unit}
    {reads : List ({ chunk : Bytes // chunk ≠ [] } × Written)} {file : Bytes} {n : ℕ}
    (h : (copyLoop ending reads file.length file).2 = .ok n)
    (hfile : file.length ≤ maxImageBytes) :
    ending = .ok () ∧ n = (copyLoop ending reads file.length file).1.length ∧
      n ≤ maxImageBytes ∧ (copyLoop ending reads file.length file).1 =
        file ++ (reads.map fun read ↦ read.1.val).flatten := by
  induction reads generalizing file with
  | nil =>
      obtain ⟨u, hending, rfl⟩ := map_eq_ok.mp h
      exact ⟨hending, rfl, hfile, by simp [copyLoop]⟩
  | cons read reads ih =>
      obtain ⟨chunk, written⟩ := read
      unfold copyLoop at h ⊢
      split at h
      · cases h
      · next hlimit =>
          rw [if_neg hlimit]
          cases written with
          | error e => cases h
          | ok u =>
              dsimp only at h ⊢
              rw [← List.length_append] at h hlimit ⊢
              obtain ⟨hending, hn, hbound, hdata⟩ := ih h (not_lt.mp hlimit)
              refine ⟨hending, hn, hbound, ?_⟩
              rw [hdata, List.append_assoc, List.map_cons, List.flatten_cons]

lemma copyLocal_final {facts : CopyFacts} : (copyLocal name facts d).1.final = d.final := by
  unfold copyLocal
  split
  · rfl
  · rfl
  · rfl
  · split
    · rfl
    · rfl

/-- A copy that returns has made a whole file. -/
lemma copyLocal_ok {facts : CopyFacts} (h : (copyLocal name facts ⟨some folder, none⟩).2 = .ok ()) :
    name ∉ folder.map Prod.fst ∧ facts.ending = .ok () ∧ facts.body ≠ [] ∧
      facts.body.length ≤ maxImageBytes ∧
      (copyLocal name facts ⟨some folder, none⟩).1 =
        ⟨some (folder ++ [(name, facts.body)]), none⟩ := by
  unfold copyLocal at h ⊢
  split at h
  · cases h
  · cases h
  · cases h
  · split at h
    · next hadmits =>
        obtain ⟨folder', hfolder, hname⟩ := admits_iff.mp hadmits
        cases hfolder
        obtain ⟨n, hcopied, h⟩ := bind_eq_ok.mp h
        obtain ⟨hne, -⟩ := of_bind_unit h
        obtain ⟨hending, hn, hbound, hdata⟩ := @copyLoop_ok _ _ [] _ hcopied (Nat.zero_le _)
        have hbody : (copyLoop facts.ending facts.reads 0 []).1 = facts.body := hdata
        rw [if_pos hadmits]
        dsimp only
        rw [hbody, write_new hname]
        rw [List.length_nil, hbody] at hn
        rw [hn] at hbound hne
        exact ⟨hname, hending, fun h ↦ check_eq_ok.mp hne (by rw [h, List.length_nil]), hbound, rfl⟩
    · cases h

lemma writeChunk_final {chunk : Bytes} {first : Bool} {written : Written} :
    (writeChunk name chunk first written d).1.final = d.final := by
  unfold writeChunk
  generalize (if first then d.admits name else d.staging.isSome) = opens
  cases opens with
  | true =>
      rw [if_pos rfl]
      cases written <;> rfl
  | false => rfl

lemma writeChunk_ok {chunk : Bytes} {first : Bool} {written : Written}
    (h : (writeChunk name chunk first written d).2 = .ok ()) :
    (first = true → d.admits name = true) ∧
      (writeChunk name chunk first written d).1 = d.write name chunk := by
  unfold writeChunk at h ⊢
  generalize hopens : (if first then d.admits name else d.staging.isSome) = opens at h ⊢
  cases opens with
  | true =>
      cases written with
      | error e => cases h
      | ok u =>
          refine ⟨?_, rfl⟩
          rintro rfl
          exact hopens
  | false => cases h

/-- The file of a download after `received`. -/
inductive Receiving (folder : Folder) (name : String) : Disk → Bytes → Prop
  | start : Receiving folder name ⟨some folder, none⟩ []
  | empty : Receiving folder name ⟨some (folder ++ [(name, [])]), none⟩ []
  | going {received : Bytes} (ne : received ≠ []) (fresh : name ∉ folder.map Prod.fst) :
      Receiving folder name ⟨some (folder ++ [(name, received)]), none⟩ received

lemma Receiving.final {received : Bytes} (h : Receiving folder name d received) :
    d.final = none := by
  cases h <;> rfl

lemma Receiving.next {received chunk : Bytes} {written : Written}
    (h : Receiving folder name d received)
    (hok : (writeChunk name chunk (received.length == 0) written d).2 = .ok ()) :
    Receiving folder name (writeChunk name chunk (received.length == 0) written d).1
      (received ++ chunk) := by
  obtain ⟨hadmits, hwrite⟩ := writeChunk_ok hok
  rw [hwrite]
  cases h with
  | start =>
      obtain ⟨folder', hfolder, hname⟩ := admits_iff.mp (hadmits rfl)
      cases hfolder
      rw [write_new hname, List.nil_append]
      by_cases hchunk : chunk = []
      · rw [hchunk]
        exact .empty
      · exact .going hchunk hname
  | empty =>
      obtain ⟨folder', hfolder, hname⟩ := admits_iff.mp (hadmits rfl)
      cases hfolder
      simp at hname
  | going hne hfresh =>
      rw [Disk.write, Option.map_some, append_last hfresh]
      exact .going (List.append_ne_nil_of_left_ne_nil hne _) hfresh

lemma leave_eq_ok {r : Except Raised Unit} {interrupt : Interrupt} :
    interrupt.leave r = .ok () ↔ interrupt = .none ∧ r = .ok () := by
  cases interrupt with
  | none => simp [Interrupt.leave]
  | once e => cases r <;> simp [Interrupt.leave, Except.bind]
  | twice e => simp [Interrupt.leave]

lemma runs_disk {op : DiskOp} {log : Log} {Q : Except Raised Unit → Disk → Log → Prop}
    (h : ∀ facts interrupt, Q (interrupt.leave (perform op facts d).2) (perform op facts d).1
      (⟨.disk op, facts, interrupt⟩ :: log)) : Runs (disk op) d log Q := by
  refine wp_bind (wp_record trivial ?_)
  rintro ⟨facts, interrupt⟩ -
  exact wp_bind (wp_self (wp_bind_modify (wp_result (h facts interrupt))))

/-- The rule of `_disk`: it returns only if the thread does, and nothing was cancelled. -/
lemma runs_disk_then {α : Type} {op : DiskOp} {f : Unit → Method α} {log : Log}
    {Q : Except Raised α → Disk → Log → Prop}
    (hok : ∀ facts, (perform op facts d).2 = .ok () →
      Runs (f ()) (perform op facts d).1 (⟨.disk op, facts, .none⟩ :: log) Q)
    (herror : ∀ e facts interrupt,
      Q (.error e) (perform op facts d).1 (⟨.disk op, facts, interrupt⟩ :: log)) :
    Runs (disk op >>= f) d log Q := by
  refine wp_bind (runs_disk fun facts interrupt ↦ ?_)
  cases hleave : interrupt.leave (perform op facts d).2 with
  | error e => exact herror e facts interrupt
  | ok u =>
      obtain ⟨rfl, hperform⟩ := leave_eq_ok.mp hleave
      exact hok facts hperform

end Threads

/-! ## Transfers -/

section Transfers

variable {final name mime : String} {images : List Image} {d : Disk} {folder : Folder}
  {log log' : Log} {data received : Bytes}

lemma Delivered.later (h : Delivered log name data) (hlog : log ⊆ log') :
    Delivered log' name data := by
  cases h with
  | copied path root facts interrupt hmem hending hbody =>
      exact .copied path root facts interrupt (hlog hmem) hending hbody
  | downloaded source index view extension hmem hname hending hbody =>
      exact .downloaded source index view extension (hlog hmem) hname hending hbody

lemma Saved.later (h : Saved final images folder log) (hlog : log ⊆ log') :
    Saved final images folder log' :=
  { h with complete := fun file hfile ↦ (h.complete file hfile).later hlog }

lemma Saved.append (h : Saved final images folder log) (hname : name ∉ folder.map Prod.fst)
    (hnonempty : data ≠ []) (hbounded : data.length ≤ maxImageBytes)
    (hdelivered : Delivered log name data) :
    Saved final (images ++ [⟨final ++ "/" ++ name, mime⟩]) (folder ++ [(name, data)]) log where
  listed := by
    rw [List.map_append, List.map_append, h.listed]
    rfl
  nodup := by
    rw [List.map_append]
    refine List.nodup_append.mpr ⟨h.nodup, List.nodup_singleton _, fun a ha b hb hab ↦ hname ?_⟩
    rwa [hab, List.mem_singleton.mp hb] at ha
  nonempty := List.forall_mem_append.mpr ⟨h.nonempty, List.forall_mem_singleton.mpr hnonempty⟩
  bounded := List.forall_mem_append.mpr ⟨h.bounded, List.forall_mem_singleton.mpr hbounded⟩
  complete := List.forall_mem_append.mpr ⟨h.complete, List.forall_mem_singleton.mpr hdelivered⟩

/-- The transfers so far. -/
def Staged (final : String) (images : List Image) (d : Disk) (log : Log) : Prop :=
  ∃ folder, d = ⟨some folder, none⟩ ∧ Saved final images folder log

lemma runs_receive {chunks : List Bytes} (h : Receiving folder name d received)
    (hbound : received.length ≤ maxImageBytes) :
    Runs (receive name chunks received.length) d log fun r d log' ↦ d.final = none ∧
      ∀ total, r = .ok total → log ⊆ log' ∧ total = (received ++ chunks.flatten).length ∧
        total ≤ maxImageBytes ∧ Receiving folder name d (received ++ chunks.flatten) := by
  induction chunks generalizing received d log with
  | nil =>
      refine wp_pure ⟨h.final, ?_⟩
      rintro _ ⟨⟩
      rw [List.flatten_nil, List.append_nil]
      exact ⟨List.Subset.refl _, rfl, hbound, h⟩
  | cons chunk chunks ih =>
      refine wp_bind (wp_result ?_)
      cases hcheck : check (received.length + chunk.length ≤ maxImageBytes)
          (failed "image exceeds the transfer limit") with
      | error e => exact ⟨h.final, nofun⟩
      | ok u =>
          have hlimit := check_eq_ok.mp hcheck
          rw [← List.length_append] at hlimit ⊢
          refine runs_disk_then (fun written hok ↦ ?_)
            fun e written _ ↦ ⟨writeChunk_final.trans h.final, nofun⟩
          refine wp_mono (ih (h.next hok) hlimit) fun r d log' hr ↦ ⟨hr.1, fun total htotal ↦ ?_⟩
          obtain ⟨hlog, hrest⟩ := hr.2 total htotal
          rw [List.append_assoc] at hrest
          exact ⟨List.Subset.trans (List.subset_cons_self _ _) hlog, hrest⟩

lemma Receiving.saved (h : Receiving folder name d data) (hne : data ≠ []) :
    name ∉ folder.map Prod.fst ∧ d = ⟨some (folder ++ [(name, data)]), none⟩ := by
  cases h with
  | start => exact absurd rfl hne
  | empty => exact absurd rfl hne
  | going _ hfresh => exact ⟨hfresh, rfl⟩

lemma runs_download {source : Source} {index : ℕ} (h : Staged final images d log) :
    Runs (download source index) d log fun r d log ↦ d.final = none ∧ ∀ name mime,
      r = .ok (name, mime) → Staged final (images ++ [⟨final ++ "/" ++ name, mime⟩]) d log := by
  obtain ⟨folder, rfl, hsaved⟩ := h
  refine wp_bind (wp_record trivial fun answer _ ↦ wp_bind (wp_result ?_))
  cases answer with
  | error e => exact ⟨rfl, nofun⟩
  | ok view =>
      have hclosed {e : Raised} {d : Disk} {log' : Log} (hfinal : d.final = none) :
          Runs (result view.closed) d log' fun r d log' ↦ d.final = none ∧ ∀ name mime,
            r.bind (fun _ ↦ .error e) = .ok (name, mime) →
              Staged final (images ++ [⟨final ++ "/" ++ name, mime⟩]) d log' :=
        wp_result ⟨hfinal, by cases view.closed <;> exact nofun⟩
      refine wp_andFinally (wp_bind (wp_result ?_))
      cases extensionOf view with
      | error e => exact hclosed rfl
      | ok extension =>
          refine wp_bind (wp_mono (runs_receive (.start : Receiving folder
            (toString index ++ extension) _ []) (Nat.zero_le _)) ?_)
          rintro (e | total) d log' ⟨hfinal, hreceived⟩
          · exact hclosed hfinal
          · obtain ⟨hlog, htotal, hbound, hfile⟩ := hreceived total rfl
            refine wp_bind (wp_result ?_)
            cases hending : view.ending with
            | error e => exact hclosed hfinal
            | ok u =>
                refine wp_bind (wp_result ?_)
                cases hcheck : check (total ≠ 0) (failed "image is empty") with
                | error e => exact hclosed hfinal
                | ok u =>
                    rw [List.nil_append] at htotal hfile
                    have hne : view.chunks.flatten ≠ [] := fun h ↦
                      check_eq_ok.mp hcheck (by rw [htotal, h, List.length_nil])
                    obtain ⟨hname, rfl⟩ := hfile.saved hne
                    refine wp_pure (wp_result ⟨rfl, ?_⟩)
                    rintro name mime hresult
                    obtain ⟨u, -, hresult⟩ := bind_eq_ok.mp hresult
                    cases hresult
                    refine ⟨_, rfl, (hsaved.later ?_).append hname hne (htotal ▸ hbound) ?_⟩
                    · exact List.Subset.trans (List.subset_cons_self _ _) hlog
                    · exact .downloaded source index view extension (hlog List.mem_cons_self) rfl
                        hending rfl

lemma runs_transfer {entry : Source × ℕ} (h : Staged final images d log) :
    Runs (transfer final images entry) d log fun r d log ↦ d.final = none ∧
      ∀ images', r = .ok images' → Staged final images' d log := by
  have hdownload (source : Source) (index : ℕ) : Runs (do
        let file ← download source index
        pure (images ++ [⟨final ++ "/" ++ file.1, file.2⟩])) d log fun r d log ↦ d.final = none ∧
      ∀ images', r = .ok images' → Staged final images' d log := by
    refine wp_bind (wp_mono (runs_download h) ?_)
    rintro (e | ⟨name, mime⟩) d log ⟨hfinal, hstaged⟩
    · exact ⟨hfinal, by simp⟩
    · refine wp_pure ⟨hfinal, ?_⟩
      rintro _ ⟨⟩
      exact hstaged name mime rfl
  obtain ⟨source, index⟩ := entry
  cases source with
  | comfy filename subfolder type => exact hdownload _ index
  | helto path root =>
      obtain ⟨folder, rfl, hsaved⟩ := h
      refine runs_disk_then (fun facts hok ↦ ?_) fun e facts _ ↦ ⟨copyLocal_final, by simp⟩
      obtain ⟨hname, hending, hne, hbound, hdisk⟩ := copyLocal_ok hok
      refine wp_pure ⟨copyLocal_final, ?_⟩
      rintro _ ⟨⟩
      refine ⟨_, hdisk, (hsaved.later (List.subset_cons_self _ _)).append hname hne hbound ?_⟩
      exact .copied path root facts .none List.mem_cons_self hending rfl

/-- The published directory, right after the rename. -/
def Published (final : String) (images : List Image) (d : Disk) (log : Log) : Prop :=
  ∃ folder before, d = ⟨none, some folder⟩ ∧ Saved final images folder log ∧
    log = ⟨.disk .replace, .ok (), .none⟩ :: before

lemma runs_transferAll {sources : List Source} :
    Runs (transferAll final sources) ⟨none, none⟩ log fun r d log ↦
      ∀ images, r = .ok images → Published final images d log := by
  refine runs_disk_then (fun fact hok ↦ ?_) fun _ _ _ ↦ nofun
  have hmkdir : perform .mkdir fact ⟨none, none⟩ = (⟨some [], none⟩, .ok ()) := by
    cases fact with
    | error e => cases hok
    | ok u => rfl
  have hstart : Staged final [] (perform .mkdir fact ⟨none, none⟩).1
      (⟨.disk .mkdir, fact, .none⟩ :: log) := by
    rw [hmkdir]
    exact ⟨[], rfl, rfl, List.nodup_nil, nofun, nofun, nofun⟩
  refine wp_bind (wp_foldlM (fun _ images d log ↦ Staged final images d log) ?_ ?_ _ hstart)
  · intro entry entries images d log h
    refine wp_mono (runs_transfer h) ?_
    rintro (e | images) d log ⟨-, hstaged⟩
    · exact nofun
    · exact hstaged images rfl
  · rintro images d log ⟨folder, rfl, hsaved⟩
    refine runs_disk_then (fun fact hok ↦ ?_) fun _ _ _ ↦ nofun
    cases fact with
    | error e => cases hok
    | ok u =>
        refine wp_pure ?_
        rintro _ ⟨⟩
        exact ⟨folder, log, rfl, hsaved.later (List.subset_cons_self _ _), rfl⟩

/-- The directory is removed after every exception. -/
lemma runs_discarding {sources : List Source} :
    Runs (discarding (transferAll final sources)) ⟨none, none⟩ log fun r d log ↦
      (∀ images, r = .ok images → Published final images d log) ∧
      ∀ e, r = .error e → d.final = none ∧ ∃ interrupt before,
        log = ⟨.disk .removeFinal, (), interrupt⟩ :: before := by
  refine wp_handle (wp_mono runs_transferAll ?_)
  rintro (e | images) d log h
  · refine runs_disk_then (fun _ _ ↦ wp_raise ⟨nofun, fun _ _ ↦ ⟨rfl, _, _, rfl⟩⟩) ?_
    exact fun _ _ _ ↦ ⟨nofun, fun _ _ ↦ ⟨rfl, _, _, rfl⟩⟩
  · exact ⟨h, nofun⟩

end Transfers

/-! ## The whole method -/

section Save

variable {w : Workflow} {final : String} {d : Disk} {log : Log}

/-- Nothing was done to the disk. -/
def Resolving (d : Disk) (log : Log) : Prop :=
  d = ⟨none, none⟩ ∧ ∀ exchange ∈ log, ∃ token, exchange.1 = .resolve token

lemma runs_resolveRecord {output : Output} {record : Json} (h : Resolving d log) :
    Runs (resolveRecord w output record) d log fun _ d log ↦ Resolving d log := by
  unfold resolveRecord
  split
  · split
    · next token _ =>
        refine wp_bind (wp_result ?_)
        split
        · refine wp_bind (wp_record trivial fun answer _ ↦ wp_bind (wp_result ?_))
          have hnext : Resolving d (⟨.resolve token, answer⟩ :: log) :=
            ⟨h.1, List.forall_mem_cons.mpr ⟨⟨token, rfl⟩, h.2⟩⟩
          split
          · exact wp_result hnext
          · exact hnext
        · exact h
    · exact wp_raise h
  · exact wp_result h
  · exact wp_raise h

lemma runs_resolveOutput {outputs : Json.Fields} {sources : List Source} {output : Output}
    (h : Resolving d log) :
    Runs (resolveOutput w outputs sources output) d log fun _ d log ↦ Resolving d log := by
  refine wp_bind (wp_result ?_)
  split
  · next records _ =>
      refine wp_bind (wp_result ?_)
      split
      · refine wp_foldlM (fun _ _ d log ↦ Resolving d log) ?_ (fun _ _ _ ↦ id) records h
        intro record rest sources d log h
        refine wp_bind (wp_mono (runs_resolveRecord h) ?_)
        rintro (e | source) d log h
        · exact h
        · exact wp_pure h
      · exact h
  · exact h

lemma runs_resolveSources {outputs : Json} (h : Resolving d log) :
    Runs (resolveSources w outputs) d log fun _ d log ↦ Resolving d log := by
  unfold resolveSources
  split
  · next outputs =>
      refine wp_foldlM (fun _ _ d log ↦ Resolving d log) ?_ (fun _ _ _ ↦ id) _ h
      intro output rest sources d log h
      refine wp_mono (runs_resolveOutput h) ?_
      rintro (e | sources) d log h
      · exact h
      · exact h
  · exact wp_raise h

/-- What a run of `_save` ends with. -/
lemma runs_save {outputs : Json} : Runs (save w outputs final) ⟨none, none⟩ [] fun r d log ↦
    (Interrupted log → (∃ e, r = .error e) ∧ d.final ≠ none) ∧
      (¬Interrupted log → AllOrNothing final r d log) := by
  refine wp_bind (wp_mono (runs_resolveSources ⟨rfl, List.forall_mem_nil _⟩) ?_)
  rintro (e | sources) d log ⟨rfl, hlog⟩
  · refine ⟨?_, fun _ ↦ ⟨rfl, nofun, fun _ _ ↦ rfl⟩⟩
    rintro ⟨interrupt, before, -, rfl⟩
    obtain ⟨token, htoken⟩ := hlog _ List.mem_cons_self
    cases htoken
  · refine wp_andFinally (wp_mono runs_discarding ?_)
    rintro (e | images) d log ⟨hok, herror⟩
    · obtain ⟨hfinal, interrupt, before, rfl⟩ := herror e rfl
      refine runs_disk fun _ interrupt' ↦ ⟨?_, fun _ ↦ ⟨rfl, ?_, fun _ _ ↦ hfinal⟩⟩
      · rintro ⟨_, _, -, heq⟩
        cases heq
      · intro images himages
        obtain ⟨u, -, herror⟩ := bind_eq_ok.mp himages
        cases herror
    · obtain ⟨folder, before, rfl, hsaved, rfl⟩ := hok images rfl
      refine runs_disk fun _ interrupt ↦ ?_
      cases interrupt with
      | none =>
          refine ⟨?_, fun _ ↦ ⟨rfl, ?_, nofun⟩⟩
          · rintro ⟨interrupt, _, hne, heq⟩
            cases heq
            exact absurd rfl hne
          · rintro _ ⟨⟩
            exact ⟨folder, rfl, hsaved.later (List.subset_cons_self _ _)⟩
      | once e =>
          exact ⟨fun _ ↦ ⟨⟨e, rfl⟩, nofun⟩, fun h ↦ absurd ⟨.once e, before, nofun, rfl⟩ h⟩
      | twice e =>
          exact ⟨fun _ ↦ ⟨⟨e, rfl⟩, nofun⟩, fun h ↦ absurd ⟨.twice e, before, nofun, rfl⟩ h⟩

/-- The images are saved whole or not at all exactly if no cancellation arrives while the
staging directory is removed after the rename. -/
theorem allOrNothing_iff (w : Workflow) (outputs : Json) (final : String)
    (answers : Log → (c : Call) → Answer c) :
    AllOrNothing final (saveRun w outputs final answers).1 (saveRun w outputs final answers).2.1
        (saveRun w outputs final answers).2.2 ↔
      ¬Interrupted (saveLog w outputs final answers) := by
  have hrun := wp_play answers (@runs_save w final outputs) fun _ _ ↦ trivial
  refine ⟨fun h hinterrupted ↦ ?_, hrun.2⟩
  obtain ⟨⟨e, he⟩, hfinal⟩ := hrun.1 hinterrupted
  exact hfinal (h.nothing e he)

/-- A workflow with one output. -/
def lakeWorkflow : Workflow where
  id := "lake"
  declared := []
  nsfwLoras := none
  outputs := [⟨"1", .comfyImages⟩]
  references := none
  graph := []
  sourceRoots := []
  promptGuidance := none
  modes := none

def lakeOutputs : Json :=
  .obj [("1", .obj [("images", .arr [.obj [("filename", .str "lake.png")]])])]

/-- Everything succeeds, and the task is cancelled while the staging directory is removed. -/
def lateCancellation (_ : Log) : (c : Call) → Answer c
  | .resolve _ => .ok (200, .null)
  | .view .. => .ok ⟨200, "image/png", [[137, 80, 78, 71]], .ok (), .ok ()⟩
  | .disk .mkdir => (.ok (), .none)
  | .disk (.copyLocal ..) => (⟨.ok true, .ok (), [], .ok (), .ok ()⟩, .none)
  | .disk (.writeChunk ..) => (.ok (), .none)
  | .disk .replace => (.ok (), .none)
  | .disk .removeFinal => ((), .none)
  | .disk .removeStaging => ((), .once .cancelled)

/-- The call raises, and the directory of the image stays. -/
theorem allOrNothing_fails_late :
    (saveRun lakeWorkflow lakeOutputs "/images/a" lateCancellation).1 = .error .cancelled ∧
      (saveRun lakeWorkflow lakeOutputs "/images/a" lateCancellation).2.1 =
        ⟨none, some [("0.png", [137, 80, 78, 71])]⟩ ∧
      ¬AllOrNothing "/images/a" (saveRun lakeWorkflow lakeOutputs "/images/a" lateCancellation).1
        (saveRun lakeWorkflow lakeOutputs "/images/a" lateCancellation).2.1
        (saveRun lakeWorkflow lakeOutputs "/images/a" lateCancellation).2.2 := by
  have hraises : (saveRun lakeWorkflow lakeOutputs "/images/a" lateCancellation).1 =
      .error .cancelled := rfl
  have hdisk : (saveRun lakeWorkflow lakeOutputs "/images/a" lateCancellation).2.1 =
      ⟨none, some [("0.png", [137, 80, 78, 71])]⟩ := rfl
  refine ⟨hraises, hdisk, fun h ↦ ?_⟩
  have hnothing := h.nothing _ hraises
  rw [hdisk] at hnothing
  cases hnothing

end Save

end StProxy.Media.Save
