import StProxy.Chat.Handlers
import StProxy.Comfy.Agreement

/-!
# Lifecycle endpoints and client requests

The refusals of the handlers read the path without its trailing slashes, and what
is sent upstream loses its leading slashes too.
-/

namespace StProxy.Chat

open Comfy Multi

/-- The endpoints that load and unload models. -/
def lifecyclePaths : Engine → List String
  | .koboldcpp => ["/api/admin/reload_config", "/noscript"]
  | .tabbyapi => ["/v1/model/load", "/v1/model/unload"]
  | .prism => ["/models/load", "/models/unload"]
  | _ => ["/v1/load", "/v1/unload"]

/-- A POST to a lifecycle endpoint of its engine. -/
def IsLifecycle (base : Engine → String) (f : Forward) : Prop :=
  f.method = "POST" ∧ ∃ p ∈ lifecyclePaths f.engine, f.path = upstreamUrlPath (base f.engine) p

/-- The path is a lifecycle endpoint up to slashes, with none or several in front. -/
def Bypasses (mode : Mode) (path : String) : Prop :=
  singleSlash path = false ∧ match mode with
    | .router => ∃ p ∈ lifecyclePaths .koboldcpp, lstrip (rstrip path.toList) = lstrip p.toList
    | .prism => ∃ p ∈ lifecyclePaths .prism, lstrip path.toList = lstrip p.toList
    | _ => False

/-! ## Slashes -/

theorem upstreamUrlPath_eq_iff {base p q : String} :
    upstreamUrlPath base p = upstreamUrlPath base q ↔ lstrip p.toList = lstrip q.toList := by
  simp [upstreamUrlPath]

/-- The path starts with one slash and something else. -/
def rooted (path : String) : Bool :=
  match path.toList with
  | '/' :: c :: _ => c != '/'
  | _ => false

theorem singleSlash_of_rooted {p path : String} (hp : rooted p = true)
    (h : p.toList <+: path.toList) : singleSlash path = true := by
  obtain ⟨t, ht⟩ := h
  unfold rooted at hp
  split at hp
  · next c rest heq =>
      have hc : c ≠ '/' := by simpa using hp
      rw [heq] at ht
      simp [singleSlash, ← ht, hc]
  · cases hp

theorem stripped_isPrefix (req : Request) : req.stripped.toList <+: req.path.toList := by
  rw [Request.stripped, String.toList_ofList]
  exact List.rdropWhile_prefix (· == '/') req.path.toList

/-- Slashes are taken from the front only while there are some. -/
theorem lstrip_append {l t : List Char} (h : lstrip l ≠ []) :
    lstrip (l ++ t) = lstrip l ++ t := by
  induction l with
  | nil => exact absurd rfl h
  | cons c l ih =>
      by_cases hc : c = '/'
      · subst hc
        rw [List.cons_append, lstrip_cons_slash, lstrip_cons_slash]
        exact ih h
      · simp [lstrip, hc]

theorem lstrip_eq_self {l t : List Char} (h : l <+: lstrip t) : lstrip l = l := by
  cases l with
  | nil => rfl
  | cons c l =>
      have hc : c ≠ '/' := by
        rintro rfl
        obtain ⟨u, hu⟩ := h
        have hhead := List.head?_dropWhile_not (· == '/') t
        rw [show t.dropWhile (· == '/') = _ from hu.symm] at hhead
        simp at hhead
      simp [lstrip, hc]

/-- Below one slash nothing but the path itself is a given endpoint. -/
theorem eq_of_singleSlash {path p : String} {r : List Char} (hpath : singleSlash path = true)
    (hr : r <+: path.toList) (hp : rooted p = true) (h : lstrip r = lstrip p.toList) :
    r = p.toList := by
  rw [eq_cons_lstrip hpath] at hr
  have hp' : p.toList = '/' :: lstrip p.toList :=
    eq_cons_lstrip (singleSlash_of_rooted hp (List.prefix_refl _))
  cases r with
  | nil =>
      rw [← h] at hp'
      simp [rooted, hp', lstrip] at hp
  | cons c r =>
      obtain ⟨rfl, hr'⟩ := List.cons_prefix_cons.mp hr
      rw [hp', ← h, lstrip_cons_slash, lstrip_eq_self hr']

/-! ## Methods -/

theorem upper_ne_post_of_mem {method : String} (h : method ∈ ["GET", "HEAD", "OPTIONS"]) :
    upper method ≠ "POST" := by
  revert method
  decide

theorem isPassive_eq_false {r : Request} (h : upper r.method = "POST") :
    r.isPassive = false := by
  rw [Bool.eq_false_iff]
  intro hpassive
  exact upper_ne_post_of_mem (List.contains_iff_mem.mp hpassive) h

theorem isRead_eq_false {r : Request} (h : upper r.method = "POST") :
    r.isRead = false := by
  have hpassive := isPassive_eq_false h
  simp only [Request.isPassive, Request.isRead, List.contains_cons, List.contains_nil,
    Bool.or_false, Bool.or_eq_false_iff] at hpassive ⊢
  exact ⟨hpassive.1, hpassive.2.1⟩

/-! ## What is forwarded -/

theorem rooted_of_mem {engine : Engine} {p : String} (h : p ∈ lifecyclePaths engine) :
    rooted p = true := by
  revert p
  cases engine <;> decide

theorem of_forward {base : Engine → String} {engine : Engine} {req : Request} {path : String}
    {f : Forward} (h : forward (base engine) engine req path = some f) (hf : IsLifecycle base f) :
    upper req.method = "POST" ∧
      ∃ p ∈ lifecyclePaths engine, lstrip path.toList = lstrip p.toList := by
  cases h
  obtain ⟨hmethod, p, hp, hpath⟩ := hf
  exact ⟨hmethod, p, hp, upstreamUrlPath_eq_iff.mp hpath⟩

theorem not_forward_of_prefix {engine : Engine} {req : Request} {x : String}
    (hx : ∀ p ∈ lifecyclePaths engine, ¬lstrip x.toList <+: lstrip p.toList)
    (hne : lstrip x.toList ≠ []) (hreq : x.toList <+: req.path.toList) :
    ¬∃ p ∈ lifecyclePaths engine, lstrip req.path.toList = lstrip p.toList := by
  rintro ⟨p, hp, heq⟩
  obtain ⟨t, ht⟩ := hreq
  apply hx p hp
  rw [← heq, ← ht, lstrip_append hne]
  exact List.prefix_append _ _

theorem not_forward_abort {engine : Engine} {req : Request} (h : req.isAbort = true) :
    ¬∃ p ∈ lifecyclePaths engine, lstrip req.path.toList = lstrip p.toList := by
  have hstripped : req.stripped = abortPath := by
    simp only [Request.isAbort, Bool.and_eq_true, beq_iff_eq] at h
    exact h.2
  refine not_forward_of_prefix ?_ ?_ (hstripped ▸ stripped_isPrefix req)
  · cases engine <;> decide
  · decide

section
variable {base : Engine → String} {req : Request} {w : World} {f : Forward}

theorem of_forward_raw {engine : Engine} (h : forward (base engine) engine req req.path = some f)
    (hf : IsLifecycle base f) : upper req.method = "POST" ∧
      ∃ p ∈ lifecyclePaths engine, lstrip req.path.toList = lstrip p.toList :=
  of_forward h hf

theorem textPaths_ne {x path : String} (h : textPaths.lookup x = some path) {engine : Engine}
    {p : String} (hp : p ∈ lifecyclePaths engine) : lstrip path.toList ≠ lstrip p.toList := by
  have hall : ∀ a ∈ textPaths, ∀ engine ∈ backends, ∀ p ∈ lifecyclePaths engine,
      lstrip a.2.toList ≠ lstrip p.toList := by
    decide
  obtain ⟨l₁, l₂, heq, -⟩ := List.lookup_eq_some_iff.mp h
  exact hall (x, path) (by simp [heq]) engine (mem_backends engine) p hp

/-! ## The router -/

theorem bypasses_of_routerChat (h : routerChat (base .koboldcpp) req w = some f)
    (hf : IsLifecycle base f) (hrefused : (startsWith req.stripped "/api/admin/reload_config" ||
      req.stripped == "/noscript") = false) :
    upper req.method = "POST" ∧ Bypasses .router req.path := by
  unfold routerChat at h
  split_ifs at h
  split at h
  · next path hlookup =>
      split at h
      · obtain ⟨-, p, hp, heq⟩ := of_forward h hf
        unfold textPath at hlookup
        split_ifs at hlookup
        exact absurd heq (textPaths_ne hlookup hp)
      · cases h
  · obtain ⟨hmethod, p, hp, heq⟩ := of_forward h hf
    refine ⟨hmethod, ?_, p, hp, by rwa [Request.stripped, String.toList_ofList] at heq⟩
    rw [Bool.eq_false_iff]
    intro hsingle
    -- with one slash the path is the endpoint, which is refused
    have hstripped : req.stripped = p := String.toList_inj.mp
      (eq_of_singleSlash hsingle (stripped_isPrefix req) (rooted_of_mem hp) heq)
    rw [hstripped] at hrefused
    simp only [lifecyclePaths, List.mem_cons, List.not_mem_nil, or_false] at hp
    rcases hp with rfl | rfl <;> revert hrefused <;> decide

theorem bypasses_of_router (h : routerHandler (base .koboldcpp) req w = some f)
    (hf : IsLifecycle base f) : upper req.method = "POST" ∧ Bypasses .router req.path := by
  unfold routerHandler at h
  split_ifs at h with hmodels hmodel havailable hrefused hcontrol havailable'
  · have hmethod := (of_forward_raw h hf).1
    rw [hmodel.1] at hmethod
    exact absurd hmethod (by decide)
  · obtain ⟨hmethod, hpath⟩ := of_forward_raw h hf
    simp only [isPassive_eq_false hmethod, Bool.false_or] at hcontrol
    exact absurd hpath (not_forward_abort hcontrol)
  · exact bypasses_of_routerChat h hf (by simpa using hrefused)

/-! ## The managed backends -/

theorem forward_of_managed {strata : Bool} {engine : Engine}
    (h : managedHandler strata (base engine) engine req w = some f) (hf : IsLifecycle base f) :
    (strata = true → strataAdmits req = true) ∧ managedRefuses req = false ∧
      upper req.method = "POST" ∧
        ∃ p ∈ lifecyclePaths engine, lstrip req.path.toList = lstrip p.toList := by
  unfold managedHandler at h
  split_ifs at h with hstrata hrefused hread hmetadata
  all_goals
    refine ⟨by simpa using hstrata, by simpa using hrefused, ?_⟩
  · exact of_forward_raw h hf
  · unfold managedMetadata at h
    split at h
    · cases h
    · split_ifs at h
      exact of_forward_raw h hf
  · unfold managedChat at h
    split at h
    · cases h
    · split_ifs at h
      exact of_forward_raw h hf

theorem bypasses_of_prism (h : managedHandler false (base .prism) .prism req w = some f)
    (hf : IsLifecycle base f) : upper req.method = "POST" ∧ Bypasses .prism req.path := by
  obtain ⟨-, hrefused, hmethod, p, hp, heq⟩ := forward_of_managed h hf
  refine ⟨hmethod, ?_, p, hp, heq⟩
  rw [Bool.eq_false_iff]
  intro hsingle
  have hpath : req.path = p := String.toList_inj.mp
    (eq_of_singleSlash hsingle (List.prefix_refl _) (rooted_of_mem hp) heq)
  simp only [managedRefuses, Bool.or_eq_false_iff, Request.stripped, hpath] at hrefused
  simp only [lifecyclePaths, List.mem_cons, List.not_mem_nil, or_false] at hp
  have hstarts := hrefused.1.2
  rcases hp with rfl | rfl <;> revert hstarts <;> decide

theorem strataTextPaths_ne {x : String} (h : x ∈ strataTextPaths) (engine : Engine) :
    lstrip x.toList ≠ [] ∧ ∀ p ∈ lifecyclePaths engine, ¬lstrip x.toList <+: lstrip p.toList := by
  have hall : ∀ x ∈ strataTextPaths, ∀ engine ∈ backends, lstrip x.toList ≠ [] ∧
      ∀ p ∈ lifecyclePaths engine, ¬lstrip x.toList <+: lstrip p.toList := by
    decide
  exact hall x h engine (mem_backends engine)

theorem not_lifecycle_of_strata {engine : Engine}
    (h : managedHandler true (base engine) engine req w = some f) : ¬IsLifecycle base f := by
  intro hf
  obtain ⟨hadmits, -, hmethod, hpath⟩ := forward_of_managed h hf
  have hmem : req.stripped ∈ strataTextPaths := by
    have hadmits' := hadmits rfl
    simp only [strataAdmits, isRead_eq_false hmethod, Bool.false_and, Bool.or_false,
      Bool.and_eq_true] at hadmits'
    exact List.contains_iff_mem.mp hadmits'.2
  obtain ⟨hne, hstart⟩ := strataTextPaths_ne hmem engine
  exact not_forward_of_prefix hstart hne (stripped_isPrefix req) hpath

/-! ## All backends -/

theorem multiPath_ne {engine : Engine} {x p : String} (hx : x ∈ activePaths engine)
    (hp : p ∈ lifecyclePaths engine) :
    lstrip (multiPath engine x).toList ≠ lstrip p.toList := by
  have hall : ∀ engine ∈ backends, ∀ x ∈ activePaths engine, ∀ p ∈ lifecyclePaths engine,
      lstrip (multiPath engine x).toList ≠ lstrip p.toList := by
    decide
  exact hall engine (mem_backends engine) x hx p hp

theorem of_multiChat {engine : Engine} (h : multiChat (base engine) engine req w = some f) :
    req.stripped ∈ activePaths engine ∧
      forward (base engine) engine req (multiPath engine req.stripped) = some f := by
  unfold multiChat at h
  split at h
  · cases h
  · next hpath =>
      refine ⟨by simpa using (not_or.mp hpath).2, ?_⟩
      split at h
      · split at h
        · exact h
        · cases h
      · cases h

theorem not_lifecycle_of_multi (h : multiHandler base req w = some f) : ¬IsLifecycle base f := by
  intro hf
  unfold multiHandler at h
  iterate 2
    split at h
    · cases h
  split at h
  · cases h
  · split at h
    · cases h
    unfold multiForward at h
    split at h
    · cases h
    · split at h
      · cases h
      · next engine hengine =>
          split_ifs at h with hcontrol
          · unfold multiControl at h
            split_ifs at h
            obtain ⟨hmethod, hpath⟩ := of_forward_raw h hf
            simp only [isPassive_eq_false hmethod, Bool.false_or] at hcontrol
            exact not_forward_abort hcontrol hpath
          · obtain ⟨hpath, hforward⟩ := of_multiChat h
            obtain ⟨-, p, hp, heq⟩ := of_forward hforward hf
            exact multiPath_ne hpath hp heq

end

/-! ## Requests that bypass the refusals -/

/-- Everything is granted. -/
def willing : World := ⟨none, fun _ ↦ some ⟨none, ""⟩, none, true, true, true⟩

theorem stripped_ne_of_bypass {r : Request} (h : singleSlash r.path = false) {x : String}
    (hx : rooted x = true) : ¬x.toList <+: r.stripped.toList := by
  intro hstart
  have hsingle := singleSlash_of_rooted hx (hstart.trans (stripped_isPrefix r))
  rw [h] at hsingle
  cases hsingle

theorem stripped_not_mem_of_bypass {r : Request} (h : singleSlash r.path = false)
    {l : List String} (hl : ∀ x ∈ l, rooted x = true) : r.stripped ∉ l := by
  intro hmem
  exact stripped_ne_of_bypass h (hl _ hmem) (List.prefix_refl _)

theorem router_bypassed (base : Engine → String) {method path p : String}
    (hmethod : upper method = "POST") (hsingle : singleSlash path = false)
    (hp : p ∈ lifecyclePaths .koboldcpp) (heq : lstrip (rstrip path.toList) = lstrip p.toList) :
    ∃ f, routerHandler (base .koboldcpp) ⟨method, path, [], .empty⟩ willing = some f ∧
      IsLifecycle base f := by
  set req : Request := ⟨method, path, [], .empty⟩ with hreq
  have hget : req.method ≠ "GET" := by
    rintro hget
    have hpassive := isPassive_eq_false (r := req) hmethod
    simp [Request.isPassive, hget] at hpassive
  have hrefused : (startsWith req.stripped "/api/admin/reload_config" ||
      req.stripped == "/noscript") = false := by
    rw [Bool.or_eq_false_iff]
    constructor
    · rw [Bool.eq_false_iff]
      intro hstarts
      exact stripped_ne_of_bypass hsingle (x := "/api/admin/reload_config") (by decide)
        (List.isPrefixOf_iff_prefix.mp hstarts)
    · have hne := stripped_not_mem_of_bypass (r := req) hsingle (l := ["/noscript"]) (by decide)
      simpa using hne
  have habort : req.isAbort = false := by
    have hne := stripped_not_mem_of_bypass (r := req) hsingle (l := [abortPath]) (by decide)
    simp only [List.mem_singleton] at hne
    simp [Request.isAbort, hne]
  have hlookup : textPaths.lookup req.stripped = none := by
    rw [List.lookup_eq_none_iff]
    intro a ha
    have hne := stripped_not_mem_of_bypass (r := req) hsingle (l := textPaths.map Prod.fst)
      (by decide)
    rw [bne_iff_ne]
    rintro heq
    exact hne (heq ▸ List.mem_map_of_mem ha)
  refine ⟨⟨.koboldcpp, upper method, upstreamUrlPath (base .koboldcpp) req.stripped⟩, ?_, hmethod,
    p, hp, ?_⟩
  · simp only [routerHandler, hget, hrefused, isPassive_eq_false (r := req) hmethod, habort,
      routerChat, willing, textPath, hlookup, ite_self]
    rfl
  · apply upstreamUrlPath_eq_iff.mpr
    rw [Request.stripped, String.toList_ofList]
    exact heq

theorem prism_bypassed (base : Engine → String) {method path p : String}
    (hmethod : upper method = "POST") (hsingle : singleSlash path = false)
    (hp : p ∈ lifecyclePaths .prism) (heq : lstrip path.toList = lstrip p.toList) :
    ∃ f, managedHandler false (base .prism) .prism ⟨method, path, [], .empty⟩ willing = some f ∧
      IsLifecycle base f := by
  set req : Request := ⟨method, path, [], .empty⟩ with hreq
  have hrefused : managedRefuses req = false := by
    have hstarts : startsWith req.stripped "/models/" = false := by
      rw [Bool.eq_false_iff]
      intro hstarts
      exact stripped_ne_of_bypass hsingle (x := "/models/") (by decide)
        (List.isPrefixOf_iff_prefix.mp hstarts)
    have hne := stripped_not_mem_of_bypass (r := req) hsingle
      (l := ["/models", "/v1/models", "/props"]) (by decide)
    have hcontains : ["/models", "/v1/models", "/props"].contains req.stripped = false := by
      rw [Bool.eq_false_iff]
      exact fun hmem ↦ hne (List.contains_iff_mem.mp hmem)
    simp only [managedRefuses, hstarts, hcontains]
    rfl
  refine ⟨⟨.prism, upper method, upstreamUrlPath (base .prism) path⟩, ?_, hmethod, p, hp,
    upstreamUrlPath_eq_iff.mpr heq⟩
  simp only [managedHandler, hrefused, isRead_eq_false (r := req) hmethod]
  rfl

/-! ## The result -/

/-- No client request becomes a lifecycle request, except those that bypass the
refusals of the router and of Prism with their leading slashes. -/
theorem lifecycle_unreachable_iff (mode : Mode) (base : Engine → String) (method path : String) :
    (∀ query body w f, chatHandler mode base ⟨method, path, query, body⟩ w = some f →
      ¬IsLifecycle base f) ↔ ¬(upper method = "POST" ∧ Bypasses mode path) := by
  constructor
  · rintro hnever ⟨hmethod, hbypass⟩
    have hstatus : path ≠ "/broker/status" := by
      rintro rfl
      exact absurd hbypass.1 (by decide)
    cases mode with
    | router =>
        obtain ⟨hsingle, p, hp, heq⟩ := hbypass
        obtain ⟨f, hf, hlifecycle⟩ := router_bypassed base hmethod hsingle hp heq
        exact hnever [] .empty willing f (by simp [chatHandler, hstatus, hf]) hlifecycle
    | prism =>
        obtain ⟨hsingle, p, hp, heq⟩ := hbypass
        obtain ⟨f, hf, hlifecycle⟩ := prism_bypassed base hmethod hsingle hp heq
        exact hnever [] .empty willing f (by simp [chatHandler, hstatus, hf]) hlifecycle
    | strata engine => exact hbypass.2
    | all => exact hbypass.2
  · intro hbypass query body w f hf hlifecycle
    unfold chatHandler at hf
    split at hf
    · cases hf
    · cases mode with
      | router => exact hbypass (bypasses_of_router hf hlifecycle)
      | prism => exact hbypass (bypasses_of_prism hf hlifecycle)
      | strata engine => exact not_lifecycle_of_strata hf hlifecycle
      | all => exact not_lifecycle_of_multi hf hlifecycle

/-- `POST //api/admin/reload_config` reaches KoboldCpp through the router. -/
theorem lifecycle_reachable :
    ¬∀ mode base (req : Request) w f, chatHandler mode base req w = some f →
      ¬IsLifecycle base f := by
  intro hnever
  have h := hnever .router (fun _ ↦ "/")
    ⟨"POST", "//api/admin/reload_config", [], .object [("filename", .str "unload_model")]⟩ willing
    ⟨.koboldcpp, "POST", "/api/admin/reload_config".toList⟩ (by decide)
  exact h ⟨rfl, "/api/admin/reload_config", by decide, by decide⟩

end StProxy.Chat
