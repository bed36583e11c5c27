import StProxy.Http.Forwarding

/-!
# Redirects through the proxy

A redirect to the upstream is rewritten to the host of the client, with the path that the
upstream gave.  The client comes back with that path, and the path of the origin is put before
it again.
-/

namespace StProxy.Http

open Url
open Comfy (lstrip rstrip)

/-- A URL lies under an origin, and its path starts with one slash. -/
structure Under (base target : SplitResult) : Prop where
  scheme : target.scheme = base.scheme
  netloc : target.netloc = base.netloc
  below : ∃ rest, target.path = base.path ++ rest ∧ ∀ x ∈ rest.head?, x = '/'
  slash : ∃ path, target.path = '/' :: path ∧ path.head? ≠ some '/'

variable (admits : Str → Bool)

/-- The request with which a client follows a URL. -/
def Requests (url : Str) (request : Request) : Prop :=
  ∃ c, urlsplit admits url = .ok c ∧
    request = ⟨c.scheme, c.netloc, if c.path = [] then ['/'] else c.path, c.query⟩

/-- The request is forwarded to the scheme, network location, path and query of the target. -/
def ForwardedTo (origin : Str) (request : Request) (target : SplitResult) : Prop :=
  ∃ url, upstreamUrl admits origin request none none = .ok url ∧
    urlsplit admits url = .ok { target with fragment := [] }

section
variable {admits} {value origin location url : Str} {base target : SplitResult}
  {headers : Headers} {client request : Request}

/-- The location of a response that is not empty is split, and so is the origin. -/
theorem downstreamResponseHeaders_eq (hlocation : headers.get locationHeader = some location)
    (hne : location ≠ []) :
    downstreamResponseHeaders admits headers origin client =
      (urlsplit admits origin).bind fun upstream ↦ (urlsplit admits location).map fun target ↦
        downstreamLocation client upstream target (filteredResponseHeaders headers) := by
  have hkept : (filteredResponseHeaders headers).get locationHeader = some location := by
    rw [get_filteredResponseHeaders (by decide), hlocation]
  unfold downstreamResponseHeaders
  dsimp only
  split
  · next hnone => cases hkept.symm.trans hnone
  · next hnil => exact absurd (Option.some.inj (hkept.symm.trans hnil)) hne
  · next location' _ hsome =>
      obtain rfl : location = location' := Option.some.inj (hkept.symm.trans hsome)
      cases urlsplit admits origin with
      | error e => rfl
      | ok upstream => cases urlsplit admits location <;> rfl

/-- The URL that the client is sent to. -/
def rewritten (client : Request) (target : SplitResult) : SplitResult :=
  ⟨client.scheme, client.host, target.path, target.query, target.fragment⟩

/-- A client that is sent to its own host asks for the path of the location. -/
theorem eq_of_requests (htarget : WellFormed admits target)
    (hslash : ∃ path, target.path = '/' :: path ∧ path.head? ≠ some '/')
    (hrequests : Requests admits (urlunsplit (rewritten client target)) request)
    (hscheme : request.scheme = client.scheme) (hhost : request.host = client.host) :
    request = ⟨client.scheme, client.host, target.path, target.query⟩ := by
  obtain ⟨c, hc, rfl⟩ := hrequests
  dsimp only at hscheme hhost
  have hwf := urlsplit_wellFormed hc
  have hrewritten : WellFormed admits (rewritten client target) :=
    { htarget with
      scheme := hscheme.subst (motive := IsScheme) hwf.scheme
      netloc := fun x hx ↦ hwf.netloc x (hhost ▸ hx)
      checked := (congrArg (checkNetloc admits) hhost).symm.trans hwf.checked
      rooted := fun _ ↦ Rooted.head_path (.inr hslash) }
  have hsplit := urlsplit_urlunsplit hrewritten (.inr hslash)
  obtain rfl : c = rewritten client target := Except.ok.inj (hc.symm.trans hsplit)
  obtain ⟨path, hpath, -⟩ := hslash
  simp [rewritten, hpath]

theorem lstrip_of_slash {path : Str} (h : path.head? ≠ some '/') : lstrip ('/' :: path) = path := by
  cases path with
  | nil => rfl
  | cons x path =>
      have hx : x ≠ '/' := fun hx ↦ h (congrArg some hx)
      simp [Comfy.lstrip, hx]

theorem joined_of_slash (hslash : ∃ path, target.path = '/' :: path ∧ path.head? ≠ some '/') :
    joined base target.path = rstrip base.path ++ target.path := by
  obtain ⟨path, hpath, hhead⟩ := hslash
  rw [joined, hpath, lstrip_of_slash hhead]

/-- The request with the path of the location comes back to it when nothing is put before that
path. -/
theorem forwardedTo_iff (hbase : urlsplit admits origin = .ok base) (hnetloc : base.netloc ≠ [])
    (htarget : WellFormed admits target) (hunder : Under base target)
    (hpath : request.rawPath = target.path) (hquery : request.rawQuery = target.query) :
    ForwardedTo admits origin request target ↔ rstrip base.path = [] := by
  have hwf := urlsplit_wellFormed hbase
  have hrooted : ∀ x ∈ (rstrip base.path ++ target.path).head?, x = '/' := by
    intro x hx
    rw [List.head?_append] at hx
    rcases Option.or_eq_some_iff.mp hx with hx | ⟨-, hx⟩
    · exact hwf.rooted hnetloc x (head_rstrip x hx)
    · exact Rooted.head_path (.inr hunder.slash) x hx
  have hurl : upstreamUrl admits origin request none none = .ok (urlunsplit
      ⟨base.scheme, base.netloc, rstrip base.path ++ target.path, target.query, []⟩) := by
    rw [upstreamUrl, hbase, ← joined_of_slash hunder.slash, ← hpath, ← hquery]
    rfl
  have hforwarded : WellFormed admits
      ⟨base.scheme, base.netloc, rstrip base.path ++ target.path, target.query, []⟩ :=
    { hwf with
      path := fun x hx ↦ (List.mem_append.mp hx).elim (fun hx ↦ hwf.path x (rstrip_subset _ hx))
        (htarget.path x)
      query := htarget.query
      fragment := nofun
      rooted := fun _ ↦ hrooted }
  have hsplit := urlsplit_urlunsplit hforwarded (.inl ⟨hnetloc, hrooted⟩)
  constructor
  · rintro ⟨url, hok, hforward⟩
    obtain rfl := Except.ok.inj (hurl.symm.trans hok)
    have hpath := congrArg SplitResult.path (Except.ok.inj (hsplit.symm.trans hforward))
    exact List.append_left_eq_self.mp hpath
  · intro hnil
    refine ⟨_, hurl, ?_⟩
    rw [hsplit, hnil, ← hunder.scheme, ← hunder.netloc]
    rfl

end

/-- A redirect under the origin comes back to the same URL exactly when the origin has no path
of its own.  Any other location is passed through. -/
theorem redirect_returns_iff {value origin location : Str} {base target : SplitResult}
    {headers : Headers} (client : Request) (horigin : normalizeOrigin admits value = .ok origin)
    (hbase : urlsplit admits origin = .ok base)
    (hlocation : headers.get locationHeader = some location)
    (htarget : urlsplit admits location = .ok target) :
    (Under base target → ∃ result url,
      downstreamResponseHeaders admits headers origin client = .ok result ∧
      result.get locationHeader = some url ∧
      ∀ request, Requests admits url request → request.scheme = client.scheme →
        request.host = client.host →
          (ForwardedTo admits origin request target ↔ base.path = [])) ∧
    (target.scheme ≠ base.scheme ∨ target.netloc ≠ base.netloc → ∃ result,
      downstreamResponseHeaders admits headers origin client = .ok result ∧
      result = filteredResponseHeaders headers ∧ result.get locationHeader = some location) := by
  obtain ⟨base', hbase', hcheck, hrstrip, -⟩ := urlsplit_origin horigin
  obtain rfl : base = base' := Except.ok.inj (hbase.symm.trans hbase')
  have hnetloc := netloc_ne_nil hcheck
  constructor
  · intro hunder
    have hne : location ≠ [] := by
      rintro rfl
      cases htarget
      exact hnetloc hunder.netloc.symm
    refine ⟨downstreamLocation client base target (filteredResponseHeaders headers),
      urlunsplit (rewritten client target), ?_, ?_, ?_⟩
    · rw [downstreamResponseHeaders_eq hlocation hne, hbase, htarget]
      rfl
    · rw [downstreamLocation, if_pos ⟨hunder.scheme, hunder.netloc⟩, Headers.get_set]
      rfl
    · intro request hrequests hscheme hhost
      have hwf := urlsplit_wellFormed htarget
      have hrequest := eq_of_requests hwf hunder.slash hrequests hscheme hhost
      rw [forwardedTo_iff hbase hnetloc hwf hunder (by rw [hrequest]) (by rw [hrequest]), hrstrip]
  · intro hother
    have hkept : (filteredResponseHeaders headers).get locationHeader = some location := by
      rw [get_filteredResponseHeaders (by decide), hlocation]
    refine ⟨_, ?_, rfl, hkept⟩
    cases hempty : location with
    | nil =>
        rw [downstreamResponseHeaders, hkept, hempty]
    | cons x rest =>
        rw [downstreamResponseHeaders_eq hlocation (by simp [hempty]), hbase, htarget]
        exact congrArg Except.ok (if_neg (by tauto))

/-! ## A redirect to the history of ComfyUI -/

/-- The test on a network location of ASCII characters without brackets. -/
def asciiNetloc (netloc : Str) : Bool := netloc.all fun c ↦ c.toNat < 128 && c != '[' && c != ']'

def comfyOrigin (path : String) : Str := ("http://127.0.0.1:8188" ++ path).toList

def comfyHeaders (path : String) : Headers :=
  [(locationHeader, comfyOrigin (path ++ "/history?from=upstream"))]

/-- A URL of ComfyUI that was split. -/
def comfyUrl (path query : String) : SplitResult :=
  ⟨"http".toList, "127.0.0.1:8188".toList, path.toList, query.toList, []⟩

/-- A request to the image port. -/
def imageRequest (path query : String) : Request :=
  ⟨"http".toList, "127.0.0.1:48188".toList, path.toList, query.toList⟩

theorem redirect_returns_history :
    ForwardedTo asciiNetloc (comfyOrigin "") (imageRequest "/history" "from=upstream")
      (comfyUrl "/history" "from=upstream") := by
  have horigin : normalizeOrigin asciiNetloc (comfyOrigin "/") = .ok (comfyOrigin "") := rfl
  have hbase : urlsplit asciiNetloc (comfyOrigin "") = .ok (comfyUrl "" "") := rfl
  have hlocation : (comfyHeaders "").get locationHeader =
      some (comfyOrigin "/history?from=upstream") := rfl
  have htarget : urlsplit asciiNetloc (comfyOrigin "/history?from=upstream") =
      .ok (comfyUrl "/history" "from=upstream") := rfl
  have hunder : Under (comfyUrl "" "") (comfyUrl "/history" "from=upstream") :=
    ⟨rfl, rfl, ⟨_, rfl, fun _ hx ↦ (Option.some.inj hx).symm⟩, ⟨_, rfl, by decide⟩⟩
  obtain ⟨result, url, hresult, hurl, hreturns⟩ := (redirect_returns_iff asciiNetloc
    (imageRequest "/redirect-to-history" "") horigin hbase hlocation htarget).1 hunder
  cases hresult
  cases hurl
  exact (hreturns _ ⟨_, rfl, rfl⟩ rfl rfl).mpr rfl

/-- Behind a base path the client comes back to another URL. -/
theorem redirect_returns_elsewhere :
    normalizeOrigin asciiNetloc (comfyOrigin "/base") = .ok (comfyOrigin "/base") ∧
      Under (comfyUrl "/base" "") (comfyUrl "/base/history" "from=upstream") ∧
      (∃ result url, downstreamResponseHeaders asciiNetloc (comfyHeaders "/base")
          (comfyOrigin "/base") (imageRequest "/redirect-to-history" "") = .ok result ∧
        result.get locationHeader = some url ∧
        Requests asciiNetloc url (imageRequest "/base/history" "from=upstream")) ∧
      upstreamUrl asciiNetloc (comfyOrigin "/base") (imageRequest "/base/history" "from=upstream")
        none none = .ok (comfyOrigin "/base/base/history?from=upstream") ∧
      ¬ForwardedTo asciiNetloc (comfyOrigin "/base")
        (imageRequest "/base/history" "from=upstream")
        (comfyUrl "/base/history" "from=upstream") := by
  have hbelow : ∀ x ∈ "/history".toList.head?, x = '/' := fun _ hx ↦ (Option.some.inj hx).symm
  refine ⟨rfl, ⟨rfl, rfl, ⟨_, rfl, hbelow⟩, ⟨_, rfl, by decide⟩⟩,
    ⟨_, _, rfl, rfl, _, rfl, rfl⟩, rfl, ?_⟩
  rintro ⟨url, hurl, hsplit⟩
  cases hurl
  have hpath := congrArg (fun r ↦ r.toOption.map SplitResult.path) hsplit
  revert hpath
  decide

end StProxy.Http
