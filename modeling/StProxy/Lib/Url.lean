import Mathlib

/-!
# URLs

`urlsplit` and `urlunsplit` of Python's `urllib.parse`, and the parts of a network location.
A string is the list of its characters.  What `urlsplit` accepts as a network location depends
on tables of Unicode and on the grammar of IP addresses, so that test is a parameter.
-/

namespace Url

abbrev Str : Type := List Char

structure SplitResult where
  scheme : Str
  netloc : Str
  path : Str
  query : Str
  fragment : Str
  deriving DecidableEq, Repr

/-- The `ValueError`s: unbalanced brackets, a network location that the test rejects, and a port
that is no number, has too many digits for `int` or is out of range. -/
inductive ValueError
  | brackets | netloc | portNumber | portDigits | portRange
  deriving DecidableEq, Repr

/-! ## Characters -/

/-- `_WHATWG_C0_CONTROL_OR_SPACE`. -/
def isC0OrSpace (c : Char) : Bool := c.toNat ≤ 32

/-- `_UNSAFE_URL_BYTES_TO_REMOVE`. -/
def isUnsafe (c : Char) : Bool := c == '\t' || c == '\r' || c == '\n'

/-- `scheme_chars`. -/
def isSchemeChar (c : Char) : Bool := c.isAlphanum || c == '+' || c == '-' || c == '.'

/-- The characters that end a network location. -/
def isDelim (c : Char) : Bool := c == '/' || c == '?' || c == '#'

/-- `str.lower`, of ASCII characters. -/
def lower (s : Str) : Str := s.map Char.toLower

/-- Cut a string before its first character with `p`. -/
def cut (p : Char → Bool) (s : Str) : Str × Str := (s.takeWhile (!p ·), s.dropWhile (!p ·))

/-! ## `urlsplit` -/

/-- `uses_netloc`. -/
def usesNetloc : List String :=
  ["", "ftp", "http", "gopher", "nntp", "telnet", "imap", "wais", "file", "mms", "https", "shttp",
    "snews", "prospero", "rtsp", "rtsps", "rtspu", "rsync", "svn", "svn+ssh", "sftp", "nfs", "git",
    "git+ssh", "ws", "wss"]

/-- The characters that `urlsplit` removes first. -/
def strip (url : Str) : Str := (url.dropWhile isC0OrSpace).filter (!isUnsafe ·)

def splitScheme (url : Str) : Str × Str :=
  match cut (· == ':') url with
  | (c :: scheme, _ :: rest) =>
      if c.isAlpha && (c :: scheme).all isSchemeChar then (lower (c :: scheme), rest) else ([], url)
  | _ => ([], url)

/-- `_splitnetloc`, after `//`. -/
def splitNetloc : Str → Str × Str
  | '/' :: '/' :: rest => cut isDelim rest
  | url => ([], url)

variable (admits : Str → Bool)

/-- The tests on a network location; the second is that of `_check_bracketed_host` and
`_checknetloc`. -/
def checkNetloc (netloc : Str) : Except ValueError Unit :=
  if decide ('[' ∈ netloc) != decide (']' ∈ netloc) then .error .brackets
  else if netloc = [] ∨ admits netloc = true then .ok ()
  else .error .netloc

/-- The end of `urlsplit`, with its scheme and network location. -/
def splitRest (scheme netloc url : Str) : SplitResult :=
  let (url, fragment) := cut (· == '#') url
  let (path, query) := cut (· == '?') url
  ⟨scheme, netloc, path, query.tail, fragment.tail⟩

def urlsplit (url : Str) : Except ValueError SplitResult := do
  let (scheme, url) := splitScheme (strip url)
  let (netloc, url) := splitNetloc url
  checkNetloc admits netloc
  return splitRest scheme netloc url

/-! ## `urlunsplit` -/

/-- `url + mark + part`, if the part is not empty. -/
def marked (mark : Char) (part : Str) : Str := if part = [] then [] else mark :: part

def needsNetloc (c : SplitResult) : Bool :=
  c.netloc != [] || c.scheme != [] && usesNetloc.contains (String.ofList c.scheme) ||
    c.path.take 2 == ['/', '/']

/-- The path, with a slash after a network location. -/
def rooted : Str → Str
  | [] => []
  | c :: path => if c = '/' then c :: path else '/' :: c :: path

def urlunsplit (c : SplitResult) : Str :=
  let url := if needsNetloc c then '/' :: '/' :: (c.netloc ++ rooted c.path) else c.path
  let url := if c.scheme = [] then url else c.scheme ++ ':' :: url
  url ++ marked '?' c.query ++ marked '#' c.fragment

/-! ## The network location -/

/-- What stands before the last `@`. -/
def userinfo (netloc : Str) : Str := (netloc.rdropWhile (· != '@')).dropLast

/-- `username` and `password`, empty for `None`. -/
def credentials (netloc : Str) : Str × Str :=
  let (username, password) := cut (· == ':') (userinfo netloc)
  (username, password.tail)

/-- `_hostinfo`, with an empty port for `None`.  The property `hostname` is `None` when the host is
empty. -/
def hostinfo (netloc : Str) : Str × Str :=
  let info := netloc.rtakeWhile (· != '@')
  if '[' ∈ info then
    let (hostname, rest) := cut (· == ']') (cut (· == '[') info).2.tail
    (hostname, (cut (· == ':') rest.tail).2.tail)
  else
    let (hostname, port) := cut (· == ':') info
    (hostname, port.tail)

/-- `int` of ASCII digits. -/
def number (digits : Str) : ℕ := digits.foldl (fun n c ↦ 10 * n + (c.toNat - '0'.toNat)) 0

/-- The property `port`. -/
def port (netloc : Str) : Except ValueError (Option ℕ) :=
  match (hostinfo netloc).2 with
  | [] => .ok none
  | digits =>
      if !digits.all Char.isDigit then .error .portNumber
      else if 4300 < digits.length then .error .portDigits
      else if 65535 < number digits then .error .portRange
      else .ok (some (number digits))

/-! ## What `urlsplit` returns -/

section Cut
variable {p : Char → Bool} {s l rest : Str} {c : Char}

theorem cut_append (hl : ∀ c ∈ l, p c = false) (hrest : ∀ c ∈ rest.head?, p c = true) :
    cut p (l ++ rest) = (l, rest) := by
  have hkeep : ∀ c ∈ l, (!p c) = true := fun c hc ↦ by simp [hl c hc]
  cases rest with
  | nil => simpa [cut] using hl
  | cons c rest =>
      have hc : p c = true := hrest c rfl
      simp [cut, List.takeWhile_append_of_pos hkeep, List.dropWhile_append_of_pos hkeep, hc]

theorem of_mem_cut (hc : c ∈ (cut p s).1) : p c = false := by
  simpa using List.mem_takeWhile_imp hc

theorem cut_fst_subset : (cut p s).1 ⊆ s := (List.takeWhile_sublist _).subset

theorem cut_snd_subset : (cut p s).2 ⊆ s := (List.dropWhile_sublist _).subset

theorem of_head_cut (hc : c ∈ (cut p s).2.head?) : p c = true := by
  have h := List.head?_dropWhile_not (!p ·) s
  rw [cut, Option.mem_def] at hc
  rw [hc] at h
  simpa using h

/-- A string is empty before the cut, or starts with the same character. -/
theorem head_cut (hc : c ∈ (cut p s).1.head?) : c ∈ s.head? := by
  cases s with
  | nil => exact hc
  | cons d s =>
      rw [cut, List.takeWhile_cons] at hc
      split at hc
      · exact hc
      · cases hc

end Cut

/-- A scheme as `urlsplit` returns it. -/
structure IsScheme (scheme : Str) : Prop where
  alpha : ∀ c ∈ scheme.head?, c.isAlpha = true
  chars : ∀ c ∈ scheme, isSchemeChar c = true
  lower : lower scheme = scheme

/-- The components of a URL that was split. -/
structure WellFormed (c : SplitResult) : Prop where
  scheme : IsScheme c.scheme
  netloc : ∀ x ∈ c.netloc, isDelim x = false ∧ isUnsafe x = false
  checked : checkNetloc admits c.netloc = .ok ()
  path : ∀ x ∈ c.path, (x ≠ '?' ∧ x ≠ '#') ∧ isUnsafe x = false
  query : ∀ x ∈ c.query, x ≠ '#' ∧ isUnsafe x = false
  fragment : ∀ x ∈ c.fragment, isUnsafe x = false
  rooted : c.netloc ≠ [] → ∀ x ∈ c.path.head?, x = '/'

theorem isSchemeChar_toLower {c : Char} (h : isSchemeChar c = true) :
    isSchemeChar c.toLower = true := by
  cases hupper : c.isUpper with
  | true => simp [isSchemeChar, Char.isAlphanum, Char.isAlpha, hupper]
  | false => rwa [Char.toLower_eq_of_not_isUpper (by simp [hupper])]

theorem isScheme_splitScheme (url : Str) : IsScheme (splitScheme url).1 := by
  have hnil : IsScheme [] := ⟨nofun, nofun, rfl⟩
  unfold splitScheme
  split
  · next c scheme _ _ _ =>
      split
      · next hscheme =>
          rw [Bool.and_eq_true, List.all_eq_true] at hscheme
          obtain ⟨halpha, hchars⟩ := hscheme
          refine ⟨?_, fun x hx ↦ ?_, ?_⟩
          · rintro _ ⟨⟩
            rwa [Char.isAlpha_toLower_eq_isAlpha]
          · obtain ⟨y, hy, rfl⟩ := List.mem_map.mp hx
            exact isSchemeChar_toLower (hchars y hy)
          · simp [lower]
      · exact hnil
  · exact hnil

theorem splitScheme_subset (url : Str) : (splitScheme url).2 ⊆ url := by
  unfold splitScheme
  split
  · next hcut =>
      split
      · intro x hx
        exact cut_snd_subset (p := (· == ':')) (by rw [hcut]; exact List.mem_cons_of_mem _ hx)
      · exact List.Subset.refl _
  · exact List.Subset.refl _

theorem splitNetloc_eq (url : Str) :
    (∃ rest, url = '/' :: '/' :: rest ∧ splitNetloc url = cut isDelim rest) ∨
      splitNetloc url = ([], url) := by
  unfold splitNetloc
  split
  · next rest => exact .inl ⟨rest, rfl, rfl⟩
  · exact .inr rfl

theorem isUnsafe_of_mem_strip {url : Str} {c : Char} (hc : c ∈ strip url) :
    isUnsafe c = false := by
  simpa using (List.mem_filter.mp hc).2

section Split
variable {admits} {url scheme rest netloc tail : Str} {c : SplitResult}

theorem urlsplit_eq (hscheme : splitScheme (strip url) = (scheme, rest))
    (hnetloc : splitNetloc rest = (netloc, tail)) (hcheck : checkNetloc admits netloc = .ok ()) :
    urlsplit admits url = .ok (splitRest scheme netloc tail) := by
  unfold urlsplit
  rw [hscheme]
  dsimp only
  rw [hnetloc]
  dsimp only
  rw [hcheck]
  rfl

theorem urlsplit_ok (h : urlsplit admits url = .ok c) :
    ∃ scheme rest netloc tail, splitScheme (strip url) = (scheme, rest) ∧
      splitNetloc rest = (netloc, tail) ∧ checkNetloc admits netloc = .ok () ∧
      c = splitRest scheme netloc tail := by
  unfold urlsplit at h
  refine ⟨_, _, _, _, rfl, rfl, ?_⟩
  dsimp only at h
  cases hcheck : checkNetloc admits (splitNetloc (splitScheme (strip url)).2).1 with
  | error e =>
      rw [hcheck] at h
      cases h
  | ok u =>
      rw [hcheck] at h
      cases h
      exact ⟨hcheck, rfl⟩

/-- The network location ends before one of its delimiters. -/
theorem splitNetloc_spec (h : splitNetloc rest = (netloc, tail)) :
    (∀ x ∈ netloc, isDelim x = false) ∧ (netloc ≠ [] → ∀ x ∈ tail.head?, isDelim x = true) ∧
      netloc ⊆ rest ∧ tail ⊆ rest := by
  rcases splitNetloc_eq rest with ⟨rest', rfl, heq⟩ | heq
  · cases heq.symm.trans h
    refine ⟨fun x ↦ of_mem_cut, fun _ x ↦ of_head_cut, ?_, ?_⟩
    · exact fun x hx ↦ List.mem_cons_of_mem _ (List.mem_cons_of_mem _ (cut_fst_subset hx))
    · exact fun x hx ↦ List.mem_cons_of_mem _ (List.mem_cons_of_mem _ (cut_snd_subset hx))
  · cases heq.symm.trans h
    exact ⟨nofun, fun hne ↦ absurd rfl hne, List.nil_subset _, List.Subset.refl _⟩

/-- The components of a URL are well-formed. -/
theorem urlsplit_wellFormed (h : urlsplit admits url = .ok c) : WellFormed admits c := by
  obtain ⟨scheme, rest, netloc, tail, hscheme, hnetloc, hcheck, rfl⟩ := urlsplit_ok h
  obtain ⟨hdelim, hhead, hnetlocs, htails⟩ := splitNetloc_spec hnetloc
  have hrest : ∀ x ∈ rest, isUnsafe x = false := fun x hx ↦
    isUnsafe_of_mem_strip (splitScheme_subset _ (by rwa [hscheme]))
  have hpath : (cut (· == '?') (cut (· == '#') tail).1).1 ⊆ tail :=
    fun x hx ↦ cut_fst_subset (cut_fst_subset hx)
  have hquery : (cut (· == '?') (cut (· == '#') tail).1).2.tail ⊆ tail :=
    fun x hx ↦ cut_fst_subset (cut_snd_subset (List.mem_of_mem_tail hx))
  have hfragment : (cut (· == '#') tail).2.tail ⊆ tail :=
    fun x hx ↦ cut_snd_subset (List.mem_of_mem_tail hx)
  refine ⟨?_, fun x hx ↦ ⟨hdelim x hx, hrest x (hnetlocs hx)⟩, hcheck,
    fun x hx ↦ ⟨?_, hrest x (htails (hpath hx))⟩, fun x hx ↦ ⟨?_, hrest x (htails (hquery hx))⟩,
    fun x hx ↦ hrest x (htails (hfragment hx)), ?_⟩
  · have := isScheme_splitScheme (strip url)
    rwa [hscheme] at this
  · have hq := of_mem_cut hx
    have hf := of_mem_cut (cut_fst_subset hx)
    simp only [beq_eq_false_iff_ne] at hq hf
    exact ⟨hq, hf⟩
  · have hf := of_mem_cut (cut_snd_subset (List.mem_of_mem_tail hx))
    simpa using hf
  · intro hne x hx
    have htail := hhead hne x (head_cut (head_cut hx))
    have hq := of_mem_cut (List.mem_of_mem_head? hx)
    have hf := of_mem_cut (cut_fst_subset (List.mem_of_mem_head? hx))
    simp only [isDelim, Bool.or_eq_true, beq_iff_eq] at htail
    simp only [beq_eq_false_iff_ne] at hq hf
    exact (htail.resolve_right hf).resolve_right hq

end Split

/-! ## `urlsplit` after `urlunsplit` -/

/-- A URL is joined without another slash, and its path is not read as a network location. -/
def Rooted (c : SplitResult) : Prop :=
  c.netloc ≠ [] ∧ (∀ x ∈ c.path.head?, x = '/') ∨ ∃ p, c.path = '/' :: p ∧ p.head? ≠ some '/'

/-- What follows the network location. -/
def tailOf (c : SplitResult) : Str := c.path ++ (marked '?' c.query ++ marked '#' c.fragment)

section RoundTrip
variable {admits} {url scheme rest : Str} {c : SplitResult}

theorem head_marked {mark : Char} {part : Str} {x : Char} (h : x ∈ (marked mark part).head?) :
    x = mark := by
  unfold marked at h
  split at h
  · cases h
  · exact (Option.some.inj h).symm

theorem tail_marked (mark : Char) (part : Str) : (marked mark part).tail = part := by
  unfold marked
  split
  · next h => exact h.symm
  · rfl

theorem of_mem_marked {mark : Char} {part : Str} {x : Char} (h : x ∈ marked mark part) :
    x = mark ∨ x ∈ part := by
  unfold marked at h
  split at h
  · cases h
  · exact List.mem_cons.mp h

/-- The head of the query or of the fragment. -/
theorem head_marked_append {query fragment : Str} {x : Char}
    (h : x ∈ (marked '?' query ++ marked '#' fragment).head?) : x = '?' ∨ x = '#' := by
  unfold marked at h
  split at h
  · exact .inr (head_marked h)
  · exact .inl (Option.some.inj h).symm

theorem splitRest_tailOf (h : WellFormed admits c) :
    splitRest c.scheme c.netloc (tailOf c) = c := by
  have hbefore : ∀ x ∈ c.path ++ marked '?' c.query, (x == '#') = false := by
    intro x hx
    rw [beq_eq_false_iff_ne]
    rcases List.mem_append.mp hx with hx | hx
    · exact (h.path x hx).1.2
    · rcases of_mem_marked hx with rfl | hx
      · decide
      · exact (h.query x hx).1
  have hfragment : cut (· == '#') (tailOf c) =
      (c.path ++ marked '?' c.query, marked '#' c.fragment) := by
    rw [tailOf, ← List.append_assoc]
    exact cut_append hbefore fun x hx ↦ by simp [head_marked hx]
  have hquery : cut (· == '?') (c.path ++ marked '?' c.query) = (c.path, marked '?' c.query) :=
    cut_append (fun x hx ↦ by simp [(h.path x hx).1.1]) fun x hx ↦ by simp [head_marked hx]
  unfold splitRest
  rw [hfragment]
  dsimp only
  rw [hquery]
  simp only [tail_marked]

theorem strip_eq (hsafe : ∀ x ∈ url, isUnsafe x = false)
    (hhead : ∀ x ∈ url.head?, isC0OrSpace x = false) : strip url = url := by
  have hdrop : url.dropWhile isC0OrSpace = url := by
    cases url with
    | nil => rfl
    | cons x url => simp [hhead x rfl]
  rw [strip, hdrop]
  exact List.filter_eq_self.mpr fun x hx ↦ by simp [hsafe x hx]

theorem not_isC0OrSpace_of_isAlpha {x : Char} (h : x.isAlpha = true) :
    isC0OrSpace x = false := by
  simp only [Char.isAlpha, Char.isUpper, Char.isLower, ge_iff_le, Bool.or_eq_true,
    Bool.and_eq_true, decide_eq_true_eq, UInt32.le_iff_toNat_le] at h
  have : 'A'.val.toNat = 65 := rfl
  have : 'a'.val.toNat = 97 := rfl
  have : x.toNat = x.val.toNat := rfl
  simp only [isC0OrSpace, decide_eq_false_iff_not, not_le]
  omega

theorem splitScheme_append (h : IsScheme scheme) (hne : scheme ≠ []) (rest : Str) :
    splitScheme (scheme ++ ':' :: rest) = (scheme, rest) := by
  have hcut : cut (· == ':') (scheme ++ ':' :: rest) = (scheme, ':' :: rest) := by
    refine cut_append (fun x hx ↦ ?_) fun x hx ↦ ?_
    · have hx := h.chars x hx
      rw [beq_eq_false_iff_ne]
      rintro rfl
      revert hx
      decide
    · cases hx
      rfl
  obtain ⟨c, scheme, rfl⟩ := List.exists_cons_of_ne_nil hne
  have hchars : (c.isAlpha && (c :: scheme).all isSchemeChar) = true := by
    rw [Bool.and_eq_true, List.all_eq_true]
    exact ⟨h.alpha c rfl, h.chars⟩
  unfold splitScheme
  rw [hcut]
  dsimp only
  rw [if_pos hchars, h.lower]

theorem splitScheme_slash (rest : Str) : splitScheme ('/' :: rest) = ([], '/' :: rest) := by
  unfold splitScheme
  split
  · next c scheme d rest' hcut =>
      have hc : c = '/' := by
        have hhead : c ∈ (cut (· == ':') ('/' :: rest)).1.head? := by
          rw [hcut]
          rfl
        exact (Option.some.inj (head_cut hhead)).symm
      subst hc
      rfl
  · rfl

/-- The URL after the scheme and its colon. -/
def bodyOf (c : SplitResult) : Str :=
  if needsNetloc c then '/' :: '/' :: (c.netloc ++ tailOf c) else tailOf c

theorem Rooted.head_path (h : Rooted c) : ∀ x ∈ c.path.head?, x = '/' := by
  rcases h with ⟨-, h⟩ | ⟨p, hp, -⟩
  · exact h
  · rw [hp]
    rintro _ ⟨⟩
    rfl

theorem urlunsplit_eq (h : Rooted c) : urlunsplit c =
    if c.scheme = [] then bodyOf c else c.scheme ++ ':' :: bodyOf c := by
  have hrooted : rooted c.path = c.path := by
    have hhead := h.head_path
    cases hpath : c.path with
    | nil => rfl
    | cons x path =>
        rw [hpath] at hhead
        rw [rooted, if_pos (hhead x rfl)]
  unfold urlunsplit bodyOf tailOf
  rw [hrooted]
  split_ifs <;> simp

theorem head_tailOf (h : Rooted c) : ∀ x ∈ (tailOf c).head?, isDelim x = true := by
  intro x hx
  cases hpath : c.path with
  | nil =>
      rw [tailOf, hpath, List.nil_append] at hx
      rcases head_marked_append hx with rfl | rfl <;> rfl
  | cons y path =>
      rw [tailOf, hpath] at hx
      obtain rfl : y = x := Option.some.inj hx
      rw [h.head_path y (by rw [hpath]; rfl)]
      rfl

theorem bodyOf_cons (h : Rooted c) : ∃ rest, bodyOf c = '/' :: rest := by
  unfold bodyOf
  split
  · exact ⟨_, rfl⟩
  · next hneeds =>
      have hnetloc : c.netloc = [] := by
        by_contra hne
        exact hneeds (by simp [needsNetloc, hne])
      rcases h with ⟨hne, -⟩ | ⟨p, hp, -⟩
      · exact absurd hnetloc hne
      · rw [tailOf, hp]
        exact ⟨_, rfl⟩

theorem splitNetloc_bodyOf (h : WellFormed admits c) (hr : Rooted c) :
    splitNetloc (bodyOf c) = (c.netloc, tailOf c) := by
  unfold bodyOf
  split
  · exact cut_append (fun x hx ↦ (h.netloc x hx).1) (head_tailOf hr)
  · next hneeds =>
      have hnetloc : c.netloc = [] := by
        by_contra hne
        exact hneeds (by simp [needsNetloc, hne])
      rw [hnetloc]
      rcases hr with ⟨hne, -⟩ | ⟨p, hp, hhead⟩
      · exact absurd hnetloc hne
      -- The character after the first slash is no slash.
      rcases splitNetloc_eq (tailOf c) with ⟨rest, htail, -⟩ | heq
      · rw [tailOf, hp, List.cons_append, List.cons.injEq] at htail
        cases p with
        | nil =>
            have hslash : '/' ∈ (marked '?' c.query ++ marked '#' c.fragment).head? := by
              rw [← List.nil_append (marked _ _ ++ _), htail.2]
              rfl
            rcases head_marked_append hslash with h | h <;> exact absurd h (by decide)
        | cons x p =>
            cases htail.2
            exact absurd rfl hhead
      · exact heq

theorem urlunsplit_safe (h : WellFormed admits c) (hr : Rooted c) :
    ∀ x ∈ urlunsplit c, isUnsafe x = false := by
  have hscheme : ∀ x ∈ c.scheme, isUnsafe x = false := by
    intro x hx
    have hx := h.scheme.chars x hx
    rw [← Bool.not_eq_true]
    intro hunsafe
    simp only [isUnsafe, Bool.or_eq_true, beq_iff_eq] at hunsafe
    rcases hunsafe with (rfl | rfl) | rfl <;> revert hx <;> decide
  have htail : ∀ x ∈ c.netloc ++ tailOf c, isUnsafe x = false := by
    intro x hx
    simp only [tailOf, List.mem_append] at hx
    rcases hx with hx | hx | hx | hx
    · exact (h.netloc x hx).2
    · exact (h.path x hx).2
    · rcases of_mem_marked hx with rfl | hx
      · rfl
      · exact (h.query x hx).2
    · rcases of_mem_marked hx with rfl | hx
      · rfl
      · exact h.fragment x hx
  have hbody : ∀ x ∈ bodyOf c, isUnsafe x = false := by
    intro x hx
    unfold bodyOf at hx
    split at hx
    · rcases List.mem_cons.mp hx with rfl | hx
      · rfl
      rcases List.mem_cons.mp hx with rfl | hx
      · rfl
      · exact htail x hx
    · exact htail x (List.mem_append_right _ hx)
  intro x hx
  rw [urlunsplit_eq hr] at hx
  split at hx
  · exact hbody x hx
  · rcases List.mem_append.mp hx with hx | hx
    · exact hscheme x hx
    · rcases List.mem_cons.mp hx with rfl | hx
      · rfl
      · exact hbody x hx

/-- A joined URL is split into the components it was joined from. -/
theorem urlsplit_urlunsplit (h : WellFormed admits c) (hr : Rooted c) :
    urlsplit admits (urlunsplit c) = .ok c := by
  obtain ⟨rest, hbody⟩ := bodyOf_cons hr
  have hsafe := urlunsplit_safe h hr
  have hnetloc := splitNetloc_bodyOf h hr
  rw [urlunsplit_eq hr] at hsafe ⊢
  have hsplit : splitScheme (strip
      (if c.scheme = [] then bodyOf c else c.scheme ++ ':' :: bodyOf c)) =
        (c.scheme, bodyOf c) := by
    rw [strip_eq hsafe ?_]
    · split_ifs with hscheme
      · rw [hbody, splitScheme_slash, hscheme]
      · exact splitScheme_append h.scheme hscheme _
    · split_ifs with hscheme
      · rw [hbody]
        rintro _ ⟨⟩
        rfl
      · intro x hx
        rw [List.head?_append_of_ne_nil _ hscheme] at hx
        exact not_isC0OrSpace_of_isAlpha (h.scheme.alpha x hx)
  rw [urlsplit_eq hsplit hnetloc h.checked, splitRest_tailOf h]

end RoundTrip

end Url
