import Mathlib.Data.List.Basic
import Mathlib.Data.List.TakeWhile
import Mathlib.Tactic.Common
import Mathlib.Tactic.SplitIfs

/-!
Links taken apart and put together again: `urllib.parse.urlsplit` and `urlunsplit`, on the
characters.

* `urlsplit`, `urlunsplit`: the five parts of a link, and the link of five parts.
* `Parts`: what comes after `scheme://`, cut at its delimiters.
* `beforeHash_urlunsplit_iff`: exactly when a link with another fragment is the same up to the `#`.
-/

namespace PyText

/-- `SplitResult`. -/
structure SplitResult where
  scheme : List Char
  netloc : List Char
  path : List Char
  query : List Char
  fragment : List Char
  deriving DecidableEq

/-- `_WHATWG_C0_CONTROL_OR_SPACE`. -/
def isC0OrSpace (c : Char) : Bool := c.toNat ≤ 0x20

/-- `_UNSAFE_URL_BYTES_TO_REMOVE`. -/
def isUnsafe (c : Char) : Bool := c = '\t' || c = '\r' || c = '\n'

/-- `scheme_chars`. -/
def isSchemeChar (c : Char) : Bool := c.isAlphanum || c = '+' || c = '-' || c = '.'

/-- The characters that end a `netloc`. -/
def isDelim (c : Char) : Bool := c = '/' || c = '?' || c = '#'

/-- `uses_netloc`. -/
def usesNetloc : List String :=
  ["", "ftp", "http", "gopher", "nntp", "telnet", "imap", "wais", "file", "mms", "https", "shttp",
    "snews", "prospero", "rtsp", "rtsps", "rtspu", "rsync", "svn", "svn+ssh", "sftp", "nfs", "git",
    "git+ssh", "ws", "wss"]

/-- `url.split(c, 1)`; the second part is empty without a `c`. -/
def splitOnce (c : Char) (url : List Char) : List Char × List Char :=
  (url.takeWhile (· ≠ c), (url.dropWhile (· ≠ c)).drop 1)

/-- The scheme in lower case, and what follows its colon. -/
def splitScheme (url : List Char) : List Char × List Char :=
  let scheme := url.takeWhile (· ≠ ':')
  if ':' ∈ url ∧ scheme.head?.any Char.isAlpha ∧ scheme.all isSchemeChar then
    (scheme.map Char.toLower, url.drop (scheme.length + 1))
  else ([], url)

/-- The text in front of a colon is a scheme. -/
def IsScheme (scheme : List Char) : Prop :=
  scheme.head?.any Char.isAlpha ∧ scheme.all isSchemeChar

/-- `_splitnetloc`, behind two slashes. -/
def splitNetloc : List Char → List Char × List Char
  | '/' :: '/' :: url => (url.takeWhile fun c => !isDelim c, url.dropWhile fun c => !isDelim c)
  | url => ([], url)

/-- `urlsplit(url)`, `none` where it raises; `netlocOk` stands for the checks of the brackets and
of the normal form of a `netloc`. -/
def urlsplit (netlocOk : List Char → Bool) (url : List Char) : Option SplitResult :=
  let (scheme, url) := splitScheme ((url.dropWhile isC0OrSpace).filter fun c => !isUnsafe c)
  let (netloc, url) := splitNetloc url
  if netloc ≠ [] ∧ netlocOk netloc = false then none
  else
    let (url, fragment) := splitOnce '#' url
    let (path, query) := splitOnce '?' url
    some ⟨scheme, netloc, path, query, fragment⟩

/-- `urlunsplit(parts)`. -/
def urlunsplit (u : SplitResult) : List Char :=
  let url :=
    if u.netloc ≠ [] ∨ (u.scheme ≠ [] ∧ String.ofList u.scheme ∈ usesNetloc)
        ∨ ['/', '/'] <+: u.path then
      ['/', '/'] ++ u.netloc ++ (if u.path ≠ [] ∧ u.path.head? ≠ some '/' then ['/'] else [])
        ++ u.path
    else u.path
  let url := if u.scheme ≠ [] then u.scheme ++ [':'] ++ url else url
  let url := if u.query ≠ [] then url ++ ['?'] ++ u.query else url
  if u.fragment ≠ [] then url ++ ['#'] ++ u.fragment else url

/-! ### Cuts -/

section

variable {α : Type} {p q : α → Bool}

/-- A cut before an element that a filter keeps. -/
lemma takeWhile_filter_of_keep (h : ∀ a, p a = false → q a) (l : List α) :
    (l.filter q).takeWhile p = (l.takeWhile p).filter q := by
  have hp : (fun a => !q a || p a) = p := by
    funext a
    cases ha : p a with
    | true => rw [Bool.or_true]
    | false => rw [h a ha, Bool.not_true, Bool.false_or]
  rw [List.takeWhile_filter, hp]

/-- A cut at fewer elements goes through an earlier cut. -/
lemma takeWhile_eq_append (h : ∀ a, p a → q a) (l : List α) :
    l.takeWhile q = l.takeWhile p ++ (l.dropWhile p).takeWhile q := by
  induction l with
  | nil => rfl
  | cons a l ih =>
      cases hp : p a with
      | true => simp [hp, h a hp, ih]
      | false => simp [hp]

end

/-! ### What follows the scheme -/

/-- A scheme in lower case that `urlsplit` recognises and that does not ask for a `netloc`. -/
structure LinkScheme (scheme : List Char) : Prop where
  alpha : scheme.head?.any Char.isAlpha
  chars : ∀ c ∈ scheme, isSchemeChar c
  lower : scheme.map Char.toLower = scheme
  plain : String.ofList scheme ∉ usesNetloc

/-- The parts of `scheme://r`. -/
def partsOf (scheme r : List Char) : SplitResult :=
  let url := r.dropWhile fun c => !isDelim c
  { scheme := scheme
    netloc := r.takeWhile fun c => !isDelim c
    path := (splitOnce '?' (splitOnce '#' url).1).1
    query := (splitOnce '?' (splitOnce '#' url).1).2
    fragment := (splitOnce '#' url).2 }

/-- `?query`, as it stands in `scheme://r`. -/
def queryTail (r : List Char) : List Char :=
  (((r.dropWhile fun c => !isDelim c).takeWhile (· ≠ '#')).dropWhile (· ≠ '?'))

section

variable {scheme : List Char} (hs : LinkScheme scheme) (r rest : List Char)

/-- A `netloc` ends before a `#`. -/
lemma ne_hash_of_not_isDelim (c : Char) (h : !isDelim c) : decide (c ≠ '#') := by
  simp only [isDelim, Bool.not_eq_true', Bool.or_eq_false_iff, decide_eq_false_iff_not] at h
  simpa using h.2

/-- Up to the `#`, a link is its parts. -/
lemma takeWhile_eq_parts (scheme r : List Char) :
    r.takeWhile (· ≠ '#')
      = (partsOf scheme r).netloc ++ (partsOf scheme r).path ++ queryTail r := by
  rw [takeWhile_eq_append ne_hash_of_not_isDelim, List.append_assoc]
  exact congrArg _ List.takeWhile_append_dropWhile.symm

lemma queryTail_cases (scheme r : List Char) :
    (queryTail r = [] ∧ (partsOf scheme r).query = [])
      ∨ queryTail r = '?' :: (partsOf scheme r).query := by
  have hquery : (partsOf scheme r).query = (queryTail r).drop 1 := rfl
  cases h : queryTail r with
  | nil => exact .inl ⟨rfl, by rw [hquery, h]; rfl⟩
  | cons c cs =>
      have hc : c = '?' := by
        have hhead := List.head?_dropWhile_not (· ≠ '?')
          ((r.dropWhile fun c => !isDelim c).takeWhile (· ≠ '#'))
        rw [show List.dropWhile (fun x => decide (x ≠ '?')) _ = queryTail r from rfl, h] at hhead
        simpa using hhead
      exact .inr (by rw [hquery, h, hc]; rfl)

lemma isSchemeChar_ne {c : Char} (hc : isSchemeChar c) :
    c ≠ ':' ∧ c ≠ '#' ∧ isUnsafe c = false := by
  refine ⟨?_, ?_, ?_⟩
  · rintro rfl
    exact absurd hc (by decide)
  · rintro rfl
    exact absurd hc (by decide)
  · rw [← Bool.not_eq_true]
    intro h
    simp only [isUnsafe, Bool.or_eq_true, decide_eq_true_eq] at h
    rcases h with (rfl | rfl) | rfl <;> exact absurd hc (by decide)

/-- A scheme in lower case and its colon are cut off. -/
lemma splitScheme_colon {scheme : List Char} (h : IsScheme scheme)
    (hlower : scheme.map Char.toLower = scheme) (rest : List Char) :
    splitScheme (scheme ++ ':' :: rest) = (scheme, rest) := by
  have htake : (scheme ++ ':' :: rest).takeWhile (· ≠ ':') = scheme := by
    rw [List.takeWhile_append_of_pos fun c hc => by
      simpa using (isSchemeChar_ne (List.all_eq_true.mp h.2 c hc)).1]
    simp
  simp only [splitScheme, htake]
  rw [if_pos ⟨by simp, h.1, h.2⟩, hlower]
  simp

lemma LinkScheme.isScheme {scheme : List Char} (hs : LinkScheme scheme) : IsScheme scheme :=
  ⟨hs.alpha, List.all_eq_true.mpr hs.chars⟩

lemma ne_c0OrSpace_of_isAlpha {c : Char} (hc : c.isAlpha) : isC0OrSpace c = false := by
  rw [isC0OrSpace, decide_eq_false_iff_not]
  rcases Bool.or_eq_true_iff.mp hc with h | h
  · have hlow : 'A'.val.toNat ≤ c.val.toNat := (of_decide_eq_true h).1
    exact Nat.not_le.mpr (Nat.lt_of_lt_of_le (by decide) hlow)
  · have hlow : 'a'.val.toNat ≤ c.val.toNat := of_decide_eq_true (Bool.and_eq_true_iff.mp h).1
    exact Nat.not_le.mpr (Nat.lt_of_lt_of_le (by decide) hlow)

include hs

/-- Nothing goes from the scheme and its slashes. -/
lemma clean_link :
    ((scheme ++ ':' :: '/' :: '/' :: rest).dropWhile isC0OrSpace).filter (fun c => !isUnsafe c)
      = scheme ++ ':' :: '/' :: '/' :: rest.filter fun c => !isUnsafe c := by
  have hhead := hs.alpha
  cases scheme with
  | nil => simp at hhead
  | cons c cs =>
      rw [List.head?_cons, Option.any_some] at hhead
      have hkeep : (c :: cs).filter (fun c => !isUnsafe c) = c :: cs := by
        rw [List.filter_eq_self]
        intro d hd
        rw [(isSchemeChar_ne (hs.chars d hd)).2.2, Bool.not_false]
      rw [List.cons_append, List.dropWhile_cons, ne_c0OrSpace_of_isAlpha hhead, if_neg (by simp),
        ← List.cons_append, List.filter_append, hkeep]
      rfl

/-- A link with a scheme is taken apart at its delimiters. -/
theorem urlsplit_link (netlocOk : List Char → Bool) :
    urlsplit netlocOk (scheme ++ ':' :: '/' :: '/' :: rest)
      = let parts := partsOf scheme (rest.filter fun c => !isUnsafe c)
        if parts.netloc ≠ [] ∧ netlocOk parts.netloc = false then none else some parts := by
  rw [urlsplit, clean_link hs, splitScheme_colon hs.isScheme hs.lower]
  rfl

omit hs in
/-- A path begins with a slash. -/
lemma head_path (r : List Char) :
    (partsOf scheme r).path ≠ [] → (partsOf scheme r).path.head? = some '/' := by
  have hpath : (partsOf scheme r).path
      = ((r.dropWhile fun c => !isDelim c).takeWhile (· ≠ '#')).takeWhile (· ≠ '?') := rfl
  have hhead := List.head?_dropWhile_not (fun c => !isDelim c) r
  intro hne
  rw [hpath] at hne ⊢
  cases h : r.dropWhile fun c => !isDelim c with
  | nil => simp [h] at hne
  | cons c cs =>
      rw [h] at hne hhead
      simp only [List.head?_cons, Bool.not_eq_false', isDelim, Bool.or_eq_true,
        decide_eq_true_eq] at hhead
      rcases hhead with (rfl | rfl) | rfl
      · simp
      · simp at hne
      · simp at hne

/-- The part between the scheme and the query, as it is printed. -/
def printedPath (u : SplitResult) : List Char :=
  if u.netloc ≠ [] ∨ ['/', '/'] <+: u.path then '/' :: '/' :: (u.netloc ++ u.path) else u.path

/-- The query, as it is printed. -/
def printedQuery (u : SplitResult) : List Char := if u.query = [] then [] else '?' :: u.query

/-- The fragment, as it is printed. -/
def printedFragment (f : List Char) : List Char := if f = [] then [] else '#' :: f

/-- A link is printed part by part. -/
lemma urlunsplit_parts (f : List Char) :
    urlunsplit { partsOf scheme r with fragment := f }
      = scheme ++ ':' :: (printedPath (partsOf scheme r) ++ printedQuery (partsOf scheme r))
        ++ printedFragment f := by
  have hne : scheme ≠ [] := by
    rintro rfl
    exact absurd hs.alpha (by simp)
  have hslash : ¬((partsOf scheme r).path ≠ [] ∧ (partsOf scheme r).path.head? ≠ some '/') :=
    fun h => h.2 (head_path r h.1)
  have hscheme : (partsOf scheme r).scheme = scheme := rfl
  simp only [urlunsplit, printedPath, printedQuery, printedFragment, hscheme, hs.plain, hne,
    if_neg hslash, ne_eq, not_false_eq_true, and_false, false_or, if_true, ite_not]
  split_ifs <;> simp

omit hs in
lemma ne_hash_of_mem_parts {c : Char}
    (hc : c ∈ printedPath (partsOf scheme r) ++ printedQuery (partsOf scheme r)) : c ≠ '#' := by
  have hmain : ∀ d ∈ (partsOf scheme r).netloc ++ (partsOf scheme r).path ++ queryTail r,
      d ≠ '#' := by
    rw [← takeWhile_eq_parts]
    exact fun d hd => by simpa using List.mem_takeWhile_imp hd
  have hquery : ∀ d ∈ (partsOf scheme r).query, d ∈ queryTail r := fun d hd =>
    List.mem_of_mem_drop hd
  simp only [List.mem_append] at hmain
  rcases List.mem_append.mp hc with h | h
  · rw [printedPath] at h
    split_ifs at h
    · rcases List.mem_cons.mp h with rfl | h
      · decide
      rcases List.mem_cons.mp h with rfl | h
      · decide
      exact hmain c (.inl (List.mem_append.mp h))
    · exact hmain c (.inl (.inr h))
  · rw [printedQuery] at h
    split_ifs at h
    · cases h
    · rcases List.mem_cons.mp h with rfl | h
      · decide
      exact hmain c (.inr (hquery c h))

omit hs in
lemma takeWhile_printedFragment (f : List Char) :
    (printedFragment f).takeWhile (· ≠ '#') = [] := by
  rw [printedFragment]
  split_ifs <;> simp

lemma beforeHash_link (main f : List Char) (hmain : ∀ c ∈ main, c ≠ '#') :
    (scheme ++ ':' :: main ++ printedFragment f).takeWhile (· ≠ '#') = scheme ++ ':' :: main := by
  have hall : ∀ c ∈ scheme ++ ':' :: main, decide (c ≠ '#') := by
    intro c hc
    rw [decide_eq_true_eq]
    rcases List.mem_append.mp hc with h | h
    · exact (isSchemeChar_ne (hs.chars c h)).2.1
    · rcases List.mem_cons.mp h with rfl | h
      · decide
      · exact hmain c h
  rw [List.takeWhile_append_of_pos hall, takeWhile_printedFragment, List.append_nil]

omit hs in
/-- The first `?` starts the query. -/
lemma mem_takeWhile_iff_queryTail : '?' ∈ r.takeWhile (· ≠ '#') ↔ queryTail r ≠ [] := by
  have hnetloc : '?' ∉ (partsOf [] r).netloc := fun h =>
    absurd (List.mem_takeWhile_imp (p := fun c => !isDelim c) h) (by decide)
  have hpath : '?' ∉ (partsOf [] r).path := fun h =>
    absurd (List.mem_takeWhile_imp (p := fun c => decide (c ≠ '?')) h) (by decide)
  rw [takeWhile_eq_parts []]
  simp only [List.mem_append, hnetloc, hpath, false_or]
  rcases queryTail_cases [] r with ⟨h, -⟩ | h <;> simp [h]

omit hs in
/-- A query is printed as it stood exactly if it is not empty or there was no `?`. -/
lemma queryTail_eq_iff :
    printedQuery (partsOf scheme r) = queryTail r
      ↔ (partsOf scheme r).query ≠ [] ∨ '?' ∉ r.takeWhile (· ≠ '#') := by
  rw [printedQuery, mem_takeWhile_iff_queryTail, not_not]
  rcases queryTail_cases scheme r with ⟨h, hq⟩ | h
  · rw [h, hq]
    simp
  · rw [h]
    split_ifs with hq <;> simp [hq]

omit hs in
/-- What a cut at the `#` leaves of a cleaned link. -/
lemma takeWhile_clean (rest : List Char) :
    (rest.filter fun c => !isUnsafe c).takeWhile (· ≠ '#')
      = (rest.takeWhile (· ≠ '#')).filter fun c => !isUnsafe c := by
  refine takeWhile_filter_of_keep (fun c hc => ?_) rest
  obtain rfl : c = '#' := by simpa using hc
  decide

lemma takeWhile_urlunsplit_parts (f : List Char) :
    (urlunsplit { partsOf scheme (rest.filter fun c => !isUnsafe c) with
        fragment := f }).takeWhile (· ≠ '#')
      = scheme ++ ':' :: '/' :: '/' :: rest.takeWhile (· ≠ '#')
    ↔ (∀ c ∈ rest.takeWhile (· ≠ '#'), isUnsafe c = false)
      ∧ ((partsOf scheme (rest.filter fun c => !isUnsafe c)).netloc ≠ []
        ∨ ['/', '/'] <+: (partsOf scheme (rest.filter fun c => !isUnsafe c)).path)
      ∧ ((partsOf scheme (rest.filter fun c => !isUnsafe c)).query ≠ []
        ∨ '?' ∉ rest.takeWhile (· ≠ '#')) := by
  set r := rest.filter fun c => !isUnsafe c with hr
  have hmain : (rest.takeWhile (· ≠ '#')).filter (fun c => !isUnsafe c)
      = (partsOf scheme r).netloc ++ (partsOf scheme r).path ++ queryTail r := by
    rw [← takeWhile_eq_parts, hr, takeWhile_clean]
  have hmark : '?' ∉ rest.takeWhile (· ≠ '#') ↔ '?' ∉ r.takeWhile (· ≠ '#') := by
    rw [hr, takeWhile_clean, List.mem_filter, and_iff_left (by decide)]
  rw [urlunsplit_parts hs, beforeHash_link hs _ f fun c hc => ne_hash_of_mem_parts r hc,
    List.append_cancel_left_eq, List.cons.injEq, and_iff_right rfl, hmark, ← queryTail_eq_iff]
  constructor
  · intro h
    -- nothing can be lost on the way, or the link would be shorter
    have hlength := congrArg List.length h
    have hfilter := List.length_filter_le (fun c => !isUnsafe c) (rest.takeWhile (· ≠ '#'))
    have hlengths := congrArg List.length hmain
    have hquery : (printedQuery (partsOf scheme r)).length ≤ (queryTail r).length := by
      rw [printedQuery]
      rcases queryTail_cases scheme r with ⟨h, hq⟩ | h
      · simp [h, hq]
      · split_ifs <;> simp [h]
    simp only [List.length_append, List.length_cons] at hlength hlengths
    by_cases hbody : (partsOf scheme r).netloc ≠ [] ∨ ['/', '/'] <+: (partsOf scheme r).path
    · rw [printedPath, if_pos hbody] at h hlength
      simp only [List.length_append, List.length_cons] at hlength
      have hkeep : (rest.takeWhile (· ≠ '#')).filter (fun c => !isUnsafe c)
          = rest.takeWhile (· ≠ '#') :=
        List.filter_sublist.eq_of_length_le (by omega)
      refine ⟨fun c hc => by simpa using List.filter_eq_self.mp hkeep c hc, hbody, ?_⟩
      rw [← hkeep, hmain] at h
      simpa using h
    · rw [printedPath, if_neg hbody] at hlength
      omega
  · rintro ⟨hsafe, hbody, hquery⟩
    have hkeep : (rest.takeWhile (· ≠ '#')).filter (fun c => !isUnsafe c)
        = rest.takeWhile (· ≠ '#') :=
      List.filter_eq_self.mpr fun c hc => by simp [hsafe c hc]
    rw [printedPath, if_pos hbody, hquery, ← hkeep, hmain]
    simp

/-- The scheme and the slashes are before the `#`. -/
lemma takeWhile_link :
    (scheme ++ ':' :: '/' :: '/' :: rest).takeWhile (· ≠ '#')
      = scheme ++ ':' :: '/' :: '/' :: rest.takeWhile (· ≠ '#') := by
  rw [List.takeWhile_append_of_pos fun c hc => by
    simpa using (isSchemeChar_ne (hs.chars c hc)).2.1]
  simp

omit hs in
lemma colon_prefix (main : List Char) : scheme ++ [':'] <+: scheme ++ ':' :: main :=
  ⟨main, by rw [List.append_assoc, List.singleton_append]⟩

omit hs in
lemma mem_link_iff {p : Char → Prop} (hscheme : ∀ c ∈ scheme, p c) (hcolon : p ':')
    (hslash : p '/') (main : List Char) :
    (∀ c ∈ scheme ++ ':' :: '/' :: '/' :: main, p c) ↔ ∀ c ∈ main, p c := by
  simp only [List.forall_mem_append, List.forall_mem_cons]
  exact ⟨fun h => h.2.2.2.2, fun h => ⟨hscheme, hcolon, hslash, hslash, h⟩⟩

variable {netlocOk : List Char → Bool} {url f : List Char} {u : SplitResult}
  (hurl : url = scheme ++ ':' :: '/' :: '/' :: rest) (hu : urlsplit netlocOk url = some u)
include hurl hu

lemma parts_of_urlsplit :
    u = partsOf scheme (rest.filter fun c => !isUnsafe c)
      ∧ ¬(u.netloc ≠ [] ∧ netlocOk u.netloc = false) := by
  rw [hurl, urlsplit_link hs] at hu
  simp only at hu
  split_ifs at hu with hbad
  obtain rfl := Option.some.inj hu
  exact ⟨rfl, hbad⟩

omit hu in
lemma scheme_prefix : scheme ++ [':'] <+: url.takeWhile (· ≠ '#') := by
  rw [hurl, takeWhile_link hs]
  exact colon_prefix _

lemma scheme_prefix_urlunsplit :
    scheme ++ [':'] <+: (urlunsplit { u with fragment := f }).takeWhile (· ≠ '#') := by
  obtain ⟨rfl, -⟩ := parts_of_urlsplit hs rest hurl hu
  rw [urlunsplit_parts hs, beforeHash_link hs _ f fun c hc => ne_hash_of_mem_parts _ hc]
  exact colon_prefix _

/-- **A link with another fragment** is the same up to the `#` exactly if none of its characters
is removed, it has a `netloc` or a path that starts with two slashes, and it has no empty query. -/
theorem beforeHash_urlunsplit_iff :
    (urlunsplit { u with fragment := f }).takeWhile (· ≠ '#') = url.takeWhile (· ≠ '#')
    ↔ (∀ c ∈ url.takeWhile (· ≠ '#'), isUnsafe c = false)
      ∧ (u.netloc ≠ [] ∨ ['/', '/'] <+: u.path)
      ∧ (u.query ≠ [] ∨ '?' ∉ url.takeWhile (· ≠ '#')) := by
  obtain ⟨rfl, -⟩ := parts_of_urlsplit hs rest hurl hu
  have hsafe := mem_link_iff (p := fun c => isUnsafe c = false)
    (fun c hc => (isSchemeChar_ne (hs.chars c hc)).2.2) (by decide) (by decide)
    (rest.takeWhile (· ≠ '#'))
  have hmark := mem_link_iff (p := fun c => c ≠ '?')
    (fun c hc he => absurd (he ▸ hs.chars c hc) (by decide)) (by decide) (by decide)
    (rest.takeWhile (· ≠ '#'))
  have hmem : ∀ l : List Char, '?' ∉ l ↔ ∀ c ∈ l, c ≠ '?' := fun l =>
    ⟨fun h c hc he => h (he ▸ hc), fun h hm => h _ hm rfl⟩
  rw [hurl, takeWhile_link hs, takeWhile_urlunsplit_parts hs, hsafe, hmem, hmem, hmark]

end

end PyText
