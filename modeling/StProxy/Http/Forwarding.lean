import StProxy.Comfy.Routes
import StProxy.Lib.Url

/-!
# URLs and headers of forwarded requests

`normalize_origin` of `config.py`, and from `http.py` how the URL of a request is formed for an
upstream and how the headers of the response are rewritten.  Names of headers are ASCII.
-/

namespace StProxy.Http

open Url
open Comfy (lstrip rstrip)

/-! ## `normalize_origin` -/

/-- What `normalize_origin` raises: a `ValueError` or a `ConfigurationError`. -/
inductive OriginError
  | value (e : ValueError)
  | configuration (text : String)
  deriving DecidableEq, Repr

def schemes : List Str := ["http".toList, "https".toList]

def incompleteOrigin : OriginError :=
  .configuration "upstream URLs must include http(s), a host, and an explicit port"

def originCredentials : OriginError :=
  .configuration "credentials are not allowed in upstream URLs"

/-- The checks of `normalize_origin` on the URL that was split. -/
def checkOrigin (parsed : SplitResult) : Except OriginError Unit :=
  if parsed.scheme ∉ schemes ∨ (hostinfo parsed.netloc).1 = [] then .error incompleteOrigin
  else match port parsed.netloc with
    | .error e => .error (.value e)
    | .ok none => .error incompleteOrigin
    | .ok (some _) =>
        if credentials parsed.netloc = ([], []) then .ok () else .error originCredentials

variable (admits : Str → Bool)

def normalizeOrigin (value : Str) : Except OriginError Str :=
  match urlsplit admits value with
  | .error e => .error (.value e)
  | .ok parsed =>
      (checkOrigin parsed).map fun _ ↦
        urlunsplit ⟨parsed.scheme, parsed.netloc, rstrip parsed.path, [], []⟩

/-! ## Requests -/

/-- The parts of `web.Request` that are read: `scheme`, `host`, and of `rel_url` the `raw_path` and
the `raw_query_string`. -/
structure Request where
  scheme : Str
  host : Str
  rawPath : Str
  rawQuery : Str
  deriving DecidableEq, Repr

/-- The path that is joined to the path of the origin. -/
def joined (base : SplitResult) (path : Str) : Str := rstrip base.path ++ '/' :: lstrip path

def upstreamUrl (origin : Str) (request : Request) (rawPath rawQuery : Option Str) :
    Except ValueError Str := do
  let base ← urlsplit admits origin
  let path := joined base (rawPath.getD request.rawPath)
  return urlunsplit ⟨base.scheme, base.netloc, path, rawQuery.getD request.rawQuery, []⟩

/-! ## Headers -/

/-- `CIMultiDict[str]`, in the order of insertion. -/
abbrev Headers : Type := List (Str × Str)

def named (name : Str) (header : Str × Str) : Bool := lower header.1 == lower name

/-- `headers.get(name)`. -/
def Headers.get (headers : Headers) (name : Str) : Option Str :=
  (headers.find? (named name)).map Prod.snd

/-- `headers[name] = value`, which replaces the first of several values and drops the others. -/
def Headers.set (name value : Str) : Headers → Headers
  | [] => [(name, value)]
  | header :: headers =>
      if named name header then (name, value) :: headers.filter (!named name ·)
      else header :: Headers.set name value headers

/-- `HOP_BY_HOP_HEADERS`. -/
def hopByHopHeaders : List String :=
  ["connection", "keep-alive", "proxy-authenticate", "proxy-authorization", "te", "trailer",
    "transfer-encoding", "upgrade"]

def filteredResponseHeaders (headers : Headers) : Headers :=
  headers.filter fun header ↦ !hopByHopHeaders.contains (String.ofList (lower header.1))

def locationHeader : Str := "Location".toList

/-- The end of `downstream_response_headers`, after both URLs were split. -/
def downstreamLocation (request : Request) (upstream target : SplitResult) (headers : Headers) :
    Headers :=
  if target.scheme = upstream.scheme ∧ target.netloc = upstream.netloc then
    headers.set locationHeader
      (urlunsplit ⟨request.scheme, request.host, target.path, target.query, target.fragment⟩)
  else headers

def downstreamResponseHeaders (headers : Headers) (origin : Str) (request : Request) :
    Except ValueError Headers :=
  let result := filteredResponseHeaders headers
  match result.get locationHeader with
  | none | some [] => .ok result
  | some location => do
      let upstream ← urlsplit admits origin
      let target ← urlsplit admits location
      return downstreamLocation request upstream target result

/-! ## Origins -/

section
variable {admits} {value origin : Str} {parsed base c : SplitResult}

theorem rstrip_rstrip (path : Str) : rstrip (rstrip path) = rstrip path :=
  List.rdropWhile_idempotent _ _

theorem rstrip_subset (path : Str) : rstrip path ⊆ path :=
  (List.rdropWhile_prefix _ path).subset

theorem head_rstrip {path : Str} : ∀ x ∈ (rstrip path).head?, x ∈ path.head? := by
  intro x hx
  obtain ⟨rest, hrest⟩ := List.rdropWhile_prefix (· == '/') path
  rw [← hrest, List.head?_append]
  exact Option.or_eq_some_iff.mpr (.inl hx)

theorem netloc_ne_nil (h : checkOrigin c = .ok ()) : c.netloc ≠ [] := by
  intro hnetloc
  have hhost : (hostinfo c.netloc).1 = [] := by
    rw [hnetloc]
    rfl
  rw [checkOrigin, if_pos (.inr hhost)] at h
  cases h

/-- What an accepted origin consists of. -/
theorem normalizeOrigin_ok (h : normalizeOrigin admits value = .ok origin) :
    ∃ parsed, urlsplit admits value = .ok parsed ∧ checkOrigin parsed = .ok () ∧
      origin = urlunsplit ⟨parsed.scheme, parsed.netloc, rstrip parsed.path, [], []⟩ := by
  unfold normalizeOrigin at h
  split at h
  · cases h
  · next parsed hparsed =>
      cases hcheck : checkOrigin parsed with
      | error e =>
          rw [hcheck] at h
          cases h
      | ok u =>
          rw [hcheck] at h
          exact ⟨parsed, hparsed, hcheck, (Except.ok.inj h).symm⟩

theorem wellFormed_origin (h : WellFormed admits c) (hnetloc : c.netloc ≠ []) :
    WellFormed admits ⟨c.scheme, c.netloc, rstrip c.path, [], []⟩ ∧
      Rooted ⟨c.scheme, c.netloc, rstrip c.path, [], []⟩ := by
  have hrooted : ∀ x ∈ (rstrip c.path).head?, x = '/' :=
    fun x hx ↦ h.rooted hnetloc x (head_rstrip x hx)
  exact ⟨{ h with
    path := fun x hx ↦ h.path x (rstrip_subset _ hx)
    query := nofun
    fragment := nofun
    rooted := fun _ ↦ hrooted }, .inl ⟨hnetloc, hrooted⟩⟩

/-- An accepted origin is split into a scheme, a network location and a path without a slash at
its end. -/
theorem urlsplit_origin (h : normalizeOrigin admits value = .ok origin) :
    ∃ base, urlsplit admits origin = .ok base ∧ checkOrigin base = .ok () ∧
      rstrip base.path = base.path ∧ base.query = [] ∧ base.fragment = [] := by
  obtain ⟨parsed, hparsed, hcheck, rfl⟩ := normalizeOrigin_ok h
  obtain ⟨hwf, hrooted⟩ :=
    wellFormed_origin (urlsplit_wellFormed hparsed) (netloc_ne_nil hcheck)
  exact ⟨_, urlsplit_urlunsplit hwf hrooted, hcheck, rstrip_rstrip _, rfl, rfl⟩

/-! ## Headers -/

variable {name : Str} {headers : Headers}

theorem Headers.get_set (headers : Headers) (name v : Str) :
    (headers.set name v).get name = some v := by
  induction headers with
  | nil => simp [Headers.set, Headers.get, named]
  | cons header headers ih =>
      rw [Headers.set]
      split
      · simp [Headers.get, named]
      · next hnamed => simpa [Headers.get, hnamed] using ih

/-- A header that is no hop-by-hop header is kept. -/
theorem get_filteredResponseHeaders (hname : String.ofList (lower name) ∉ hopByHopHeaders) :
    (filteredResponseHeaders headers).get name = headers.get name := by
  unfold filteredResponseHeaders Headers.get
  rw [List.find?_filter]
  congr 2
  funext header
  cases hnamed : named name header with
  | false => simp
  | true =>
      rw [named, beq_iff_eq] at hnamed
      simp [hnamed, hname]

end

end StProxy.Http
