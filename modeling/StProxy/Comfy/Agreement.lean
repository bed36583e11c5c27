import StProxy.Comfy.Routes

/-!
# Classification and forwarding

The classifier reads the path of the request and the forwarder a rewritten path
without its leading slashes.  On which requests do two paths that are forwarded
alike get the same classification?
-/

namespace StProxy.Comfy

/-- The spellings that are guarded exactly as written. -/
def guardedPaths : List String :=
  "/api/jobs/cancel" ::
    (workflowRoutes ++ controlRoutes ++ lifecycleRoutes ++ blockedGpuRoutes).map Prod.snd

/-- The path starts with one slash and not with two. -/
def singleSlash (path : String) : Bool :=
  match path.toList with
  | '/' :: '/' :: _ => false
  | '/' :: _ => true
  | _ => false

/-- What the forwarder sends after the path of the origin. -/
def forwarded (path : String) : List Char := lstrip (comfyUpstreamPath path).toList

theorem lstrip_cons_slash (path : List Char) : lstrip ('/' :: path) = lstrip path := rfl

theorem eq_cons_lstrip {path : String} (h : singleSlash path = true) :
    path.toList = '/' :: lstrip path.toList := by
  unfold singleSlash at h
  split at h
  · cases h
  · next rest hne heq =>
      rw [heq, lstrip_cons_slash]
      cases rest with
      | nil => rfl
      | cons c rest =>
          have hc : c ≠ '/' := by
            rintro rfl
            exact hne rest rfl
          simp [lstrip, hc]
  · cases h

/-! ## Aliases -/

theorem rewritePrefix_cases (path : String) (aliases : List (String × String)) :
    rewritePrefix path aliases = path ∨ ∃ a ∈ aliases, ∃ rest,
      path.toList = a.1.toList ++ rest ∧
        (rewritePrefix path aliases).toList = a.2.toList ++ rest := by
  induction aliases with
  | nil => exact .inl rfl
  | cons a aliases ih =>
      simp only [rewritePrefix]
      split_ifs with heq hstart
      · exact .inr ⟨a, by simp, [], by simp [heq], by simp⟩
      · obtain ⟨rest, hrest⟩ := List.isPrefixOf_iff_prefix.mp hstart
        have hpath : path.toList = a.1.toList ++ '/' :: rest := by
          rw [← hrest]
          simp
        refine .inr ⟨a, by simp, '/' :: rest, hpath, ?_⟩
        rw [String.toList_ofList, hpath, List.drop_left]
      · refine ih.imp_right ?_
        rintro ⟨b, hb, rest, hpath, htarget⟩
        exact ⟨b, List.mem_cons_of_mem a hb, rest, hpath, htarget⟩

/-- A path is forwarded as it is, or an alias of it is. -/
theorem comfyUpstreamPath_cases (path : String) :
    comfyUpstreamPath path = path ∨
    (∃ a ∈ exactAliases, path = a.1 ∧ comfyUpstreamPath path = a.2) ∨
    ∃ a ∈ prefixAliases, ∃ rest, path.toList = a.1.toList ++ rest ∧
      (comfyUpstreamPath path).toList = a.2.toList ++ rest := by
  unfold comfyUpstreamPath
  split
  · next target htarget =>
      obtain ⟨l₁, l₂, heq, -⟩ := List.lookup_eq_some_iff.mp htarget
      exact .inr (.inl ⟨(path, target), by simp [heq], rfl, rfl⟩)
  · exact (rewritePrefix_cases path prefixAliases).imp_right .inr

/-! ## Cancellations of a job -/

theorem isCancelOfJob_congr {p q : String} (h : lstrip p.toList = lstrip q.toList) :
    isCancelOfJob p = isCancelOfJob q := by
  unfold isCancelOfJob
  rw [h]

theorem isPrefix_of_isCancelOfJob {path : String} (h : isCancelOfJob path = true) :
    "api/jobs/".toList <+: lstrip path.toList := by
  unfold isCancelOfJob at h
  split at h
  · next first second third fourth heq =>
      simp only [Bool.and_eq_true, beq_iff_eq] at h
      obtain ⟨⟨rfl, rfl⟩, rfl⟩ := h
      have hsplit := congrArg (List.map String.toList) heq
      simp only [segments, List.map_map, Function.comp_def, String.toList_ofList,
        List.map_id', List.map_cons, List.map_nil] at hsplit
      have hjoin : ['/'].intercalate ((rstrip (lstrip path.toList)).splitOn '/') = _ :=
        List.intercalate_splitOn '/'
      rw [hsplit] at hjoin
      refine List.IsPrefix.trans ⟨third.toList ++ "/cancel".toList, ?_⟩
        (List.rdropWhile_prefix (· == '/') (lstrip path.toList))
      exact Eq.trans (by simp [List.intercalate]) hjoin
  · cases h

theorem not_isPrefix_of_alias {path : String} (h : comfyUpstreamPath path ≠ path) :
    ¬"api/jobs/".toList <+: lstrip path.toList ∧ ¬"api/jobs/".toList <+: forwarded path := by
  unfold forwarded
  rcases comfyUpstreamPath_cases path with heq | ⟨a, ha, rfl, htarget⟩ |
    ⟨a, ha, rest, hpath, htarget⟩
  · exact absurd heq h
  · rw [htarget]
    clear h htarget
    revert a
    decide +kernel
  · rw [htarget, hpath]
    simp only [prefixAliases, List.mem_cons, List.not_mem_nil, or_false] at ha
    rcases ha with rfl | rfl
    all_goals
      constructor <;> rintro ⟨t, ht⟩ <;> cases ht

/-- Paths that are forwarded alike both cancel a job, or neither does. -/
theorem isCancelOfJob_of_forwarded {p q : String} (h : forwarded p = forwarded q)
    (hp : isCancelOfJob p = true) : isCancelOfJob q = true := by
  have hstart := isPrefix_of_isCancelOfJob hp
  have hp' : comfyUpstreamPath p = p := by
    by_contra hne
    exact (not_isPrefix_of_alias hne).1 hstart
  have hq' : comfyUpstreamPath q = q := by
    by_contra hne
    refine (not_isPrefix_of_alias hne).2 ?_
    rwa [← h, forwarded, hp']
  rw [forwarded, forwarded, hp', hq'] at h
  rwa [← isCancelOfJob_congr h]

/-! ## Classification -/

/-- The kinds of a POST that are not forwarded without a lease. -/
def guard (path : String) : Option ComfyRouteKind := (classifyComfyRoute "POST" path).guarded

theorem guarded_of_post {method path : String} (h : upper method = "POST") :
    (classifyComfyRoute method path).guarded = guard path := by
  have hpost : upper "POST" = "POST" := by decide
  unfold guard classifyComfyRoute
  rw [h, hpost]

theorem guarded_of_not_post {method path : String} (h : upper method ≠ "POST") :
    (classifyComfyRoute method path).guarded = none := by
  have hroutes : workflowRoutes.contains (upper method, path) = false ∧
      controlRoutes.contains (upper method, path) = false ∧
      lifecycleRoutes.contains (upper method, path) = false ∧
      blockedGpuRoutes.contains (upper method, path) = false := by
    simp [workflowRoutes, controlRoutes, lifecycleRoutes, blockedGpuRoutes, h]
  have hne : (upper method == "POST") = false := by simpa using h
  unfold classifyComfyRoute
  simp only [hroutes, hne, Bool.false_and, Bool.or_self, Bool.false_eq_true, if_false]
  split_ifs <;> rfl

/-- Other spellings are guarded only as the cancellation of a job. -/
theorem guard_of_not_mem {path : String} (h : path ∉ guardedPaths) :
    guard path = if isCancelOfJob path then some .control else none := by
  simp only [guardedPaths, workflowRoutes, controlRoutes, lifecycleRoutes, blockedGpuRoutes,
    List.cons_append, List.nil_append, List.map_cons, List.map_nil, List.mem_cons,
    List.not_mem_nil, or_false, not_or] at h
  have hupper : upper "POST" = "POST" := by decide
  unfold guard classifyComfyRoute
  simp only [hupper]
  have hroutes : workflowRoutes.contains ("POST", path) = false ∧
      controlRoutes.contains ("POST", path) = false ∧
      lifecycleRoutes.contains ("POST", path) = false ∧
      blockedGpuRoutes.contains ("POST", path) = false := by
    simp [workflowRoutes, controlRoutes, lifecycleRoutes, blockedGpuRoutes, h]
  have hjob : (path == "/api/jobs/cancel") = false := by simpa using h.1
  simp only [hroutes, isJobCancel, hjob, beq_self_eq_true, Bool.true_and, Bool.false_or]
  cases isCancelOfJob path with
  | true => rfl
  | false =>
      simp only [Bool.false_eq_true, if_false]
      split_ifs <;> rfl

/-! ## The guarded spellings -/

theorem singleSlash_of_mem {path : String} (h : path ∈ guardedPaths) :
    singleSlash path = true := by
  revert path
  decide +kernel

theorem guard_ne_none {path : String} (h : path ∈ guardedPaths) : guard path ≠ none := by
  revert path
  decide +kernel

theorem not_isCancelOfJob_of_mem {path : String} (h : path ∈ guardedPaths) :
    isCancelOfJob path = false := by
  revert path
  decide +kernel

/-- What is forwarded for a guarded path is the path of a guarded request. -/
theorem guard_forwarded {path : String} (h : path ∈ guardedPaths) :
    guard (String.ofList ('/' :: forwarded path)) = guard path := by
  revert path
  decide +kernel

theorem guard_exactAlias {path : String} (h : path ∈ guardedPaths) {a : String × String}
    (ha : a ∈ exactAliases) (heq : forwarded path = lstrip a.2.toList) :
    guard a.1 = guard path := by
  revert path a
  decide +kernel

theorem forwarded_ne_prefixAlias {path : String} (h : path ∈ guardedPaths)
    {a : String × String} (ha : a ∈ prefixAliases) (rest : List Char) :
    forwarded path ≠ lstrip (a.2.toList ++ rest) := by
  have hstart : ∀ p ∈ guardedPaths,
      ¬"settings".toList <+: forwarded p ∧ ¬"userdata".toList <+: forwarded p := by
    decide +kernel
  intro heq
  simp only [prefixAliases, List.mem_cons, List.not_mem_nil, or_false] at ha
  rcases ha with rfl | rfl
  · exact (hstart path h).1 ⟨rest, heq.symm⟩
  · exact (hstart path h).2 ⟨rest, heq.symm⟩

/-- A path with one leading slash that is forwarded as a guarded one is guarded. -/
theorem guard_eq_of_singleSlash {p q : String} (hp : p ∈ guardedPaths)
    (h : forwarded p = forwarded q) (hq : singleSlash q = true) : guard q = guard p := by
  rcases comfyUpstreamPath_cases q with heq | ⟨a, ha, rfl, htarget⟩ |
    ⟨a, ha, rest, -, htarget⟩
  · have hspell : q = String.ofList ('/' :: forwarded p) := by
      apply String.toList_inj.mp
      rw [String.toList_ofList, h, forwarded, heq]
      exact eq_cons_lstrip hq
    rw [hspell]
    exact guard_forwarded hp
  · apply guard_exactAlias hp ha
    rw [h, forwarded, htarget]
  · apply absurd _ (forwarded_ne_prefixAlias hp ha rest)
    rw [h, forwarded, htarget]

/-- Any other path that is forwarded as a guarded one is not guarded. -/
theorem guard_eq_none_of_forwarded {p q : String} (hp : p ∈ guardedPaths)
    (h : forwarded p = forwarded q) (hq : singleSlash q = false) : guard q = none := by
  have hmem : q ∉ guardedPaths := by
    intro hmem
    simp [singleSlash_of_mem hmem] at hq
  have hcancel : isCancelOfJob q = false := by
    by_contra hne
    have hp' := isCancelOfJob_of_forwarded h.symm (by simpa using hne)
    simp [not_isCancelOfJob_of_mem hp] at hp'
  rw [guard_of_not_mem hmem, hcancel]
  rfl

theorem guard_eq_iff_of_mem {p q : String} (hp : p ∈ guardedPaths)
    (h : forwarded p = forwarded q) : guard p = guard q ↔ singleSlash q = true := by
  constructor
  · intro heq
    by_contra hq
    have hnone := guard_eq_none_of_forwarded hp h (by simpa using hq)
    exact guard_ne_none hp (heq.trans hnone)
  · intro hq
    exact (guard_eq_of_singleSlash hp h hq).symm

theorem guard_eq_iff {p q : String} (h : forwarded p = forwarded q) :
    guard p = guard q ↔
      (p ∈ guardedPaths → singleSlash q = true) ∧
        (q ∈ guardedPaths → singleSlash p = true) := by
  by_cases hp : p ∈ guardedPaths
  · have hp' := singleSlash_of_mem hp
    simp [guard_eq_iff_of_mem hp h, hp, hp']
  by_cases hq : q ∈ guardedPaths
  · rw [eq_comm, guard_eq_iff_of_mem hq h.symm]
    simp [hp, hq]
  have hcancel : isCancelOfJob p = isCancelOfJob q := by
    rw [Bool.eq_iff_iff]
    exact ⟨isCancelOfJob_of_forwarded h, isCancelOfJob_of_forwarded h.symm⟩
  simp [guard_of_not_mem hp, guard_of_not_mem hq, hcancel, hp, hq]

/-- Paths that reach the same path of the server are classified alike unless one is a
guarded spelling and the other has not exactly one leading slash. -/
theorem classify_agrees_iff (base method p q : String)
    (h : upstreamUrlPath base (comfyUpstreamPath p) =
      upstreamUrlPath base (comfyUpstreamPath q)) :
    (classifyComfyRoute method p).guarded = (classifyComfyRoute method q).guarded ↔
      (upper method = "POST" →
        (p ∈ guardedPaths → singleSlash q = true) ∧
          (q ∈ guardedPaths → singleSlash p = true)) := by
  have hforwarded : forwarded p = forwarded q := by
    unfold upstreamUrlPath at h
    exact List.tail_eq_of_cons_eq (List.append_cancel_left h)
  by_cases hmethod : upper method = "POST"
  · rw [guarded_of_post hmethod, guarded_of_post hmethod, guard_eq_iff hforwarded]
    simp [hmethod]
  · rw [guarded_of_not_post hmethod, guarded_of_not_post hmethod]
    simp [hmethod]

theorem classify_agrees_iff_prompt :
    upstreamUrlPath "/" (comfyUpstreamPath "/api/prompt") =
        upstreamUrlPath "/" (comfyUpstreamPath "/prompt") ∧
      (classifyComfyRoute "post" "/api/prompt").guarded =
        (classifyComfyRoute "post" "/prompt").guarded := by
  constructor
  · decide
  · apply (classify_agrees_iff "/" "post" "/api/prompt" "/prompt" (by decide)).mpr
    decide

/-- `POST //prompt` reaches the server as `POST /prompt`, and is not taken for a
workflow. -/
theorem classify_disagrees :
    ¬∀ base method p q : String,
      upstreamUrlPath base (comfyUpstreamPath p) =
          upstreamUrlPath base (comfyUpstreamPath q) →
        (classifyComfyRoute method p).guarded = (classifyComfyRoute method q).guarded := by
  intro hagree
  have h := hagree "/" "POST" "//prompt" "/prompt" (by decide)
  revert h
  decide

end StProxy.Comfy
