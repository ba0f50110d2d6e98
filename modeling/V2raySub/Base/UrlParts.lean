import V2raySub.Base.PyText
import V2raySub.Base.UrlFragment
import V2raySub.Base.WireDecode

/-!
The smaller parts of a link: the accessors of a `netloc` (`username`, `password`, `hostname`,
`port`) and `parse_qsl`; and what of a link the parts before its query depend on.

* `addressOf`, `queryOf`: the text of a link up to its query, and its query.
* `urlsplit_named`: of a text `name://rest`, the `netloc` and the path are read off the address.
* `parseQsl_perm`: the fields of a query in another order are the same parameters in another order.
-/

namespace PyText

/-! ### Cuts at a separator -/

/-- `text.partition(c)`: what is before the first `c`, and what is after it, if there is one. -/
def partition (c : Char) (cs : List Char) : List Char × Option (List Char) :=
  (cs.takeWhile (· ≠ c), match cs.dropWhile (· ≠ c) with
    | [] => none
    | _ :: after => some after)

/-- `text.rpartition(c)`: what is before the last `c`, if there is one, and what is after it. -/
def rpartition (c : Char) (cs : List Char) : Option (List Char) × List Char :=
  match partition c cs.reverse with
  | (_, none) => (none, cs)
  | (after, some before) => (some before.reverse, after.reverse)

/-! ### The parts of a netloc -/

/-- `username`. -/
def username (netloc : List Char) : Option (List Char) :=
  (rpartition '@' netloc).1.map fun userinfo => (partition ':' userinfo).1

/-- `password`. -/
def password (netloc : List Char) : Option (List Char) :=
  (rpartition '@' netloc).1.bind fun userinfo => (partition ':' userinfo).2

/-- `_hostinfo`. -/
def hostinfo (netloc : List Char) : List Char × Option (List Char) :=
  let hostinfo := (rpartition '@' netloc).2
  let (hostname, port) :=
    match (partition '[' hostinfo).2 with
    | some bracketed =>
      ((partition ']' bracketed).1, (partition ':' ((partition ']' bracketed).2.getD [])).2.getD [])
    | none => ((partition ':' hostinfo).1, (partition ':' hostinfo).2.getD [])
  (hostname, if port = [] then none else some port)

/-- `hostname`, empty where it is `None`; a zone is not lowered. -/
def hostname (lower : String → String) (netloc : List Char) : String :=
  let parts := partition '%' (hostinfo netloc).1
  lower (String.ofList parts.1) ++ parts.2.elim "" fun zone => String.ofList ('%' :: zone)

/-- `port`, `none` where it raises `ValueError`. -/
def port? (netloc : List Char) : Option (Option ℕ) :=
  match (hostinfo netloc).2 with
  | none => some none
  | some port =>
    if port.all Char.isDigit then ((natOfChars? port).filter (· ≤ 65535)).map some else none

/-! ### The parameters of a query -/

/-- `unquote_plus(text)`. -/
def unquotePlus (unquote : String → String) (cs : List Char) : String :=
  unquote (String.ofList (cs.map fun c => if c = '+' then ' ' else c))

/-- One field of `parse_qsl`. -/
def parseField (unquote : String → String) (keepBlankValues : Bool) (field : List Char) :
    Option (String × String) :=
  let value := (partition '=' field).2.getD []
  if field = [] ∨ (value = [] ∧ keepBlankValues = false) then none
  else some (unquotePlus unquote (partition '=' field).1, unquotePlus unquote value)

/-- `parse_qsl(qs)`. -/
def parseQsl (unquote : String → String) (keepBlankValues : Bool) (qs : List Char) :
    List (String × String) :=
  (splitChars '&' qs).filterMap (parseField unquote keepBlankValues)

/-- The order of the fields is the order of the parameters, and nothing else. -/
lemma parseQsl_perm (unquote : String → String) (keepBlankValues : Bool) {qs qs' : List Char}
    (h : (splitChars '&' qs).Perm (splitChars '&' qs')) :
    (parseQsl unquote keepBlankValues qs).Perm (parseQsl unquote keepBlankValues qs') :=
  h.filterMap _

/-- A filter that keeps the separator goes through the parts. -/
lemma splitChars_filter {c : Char} {p : Char → Bool} (hc : p c = true) (cs : List Char) :
    splitChars c (cs.filter p) = (splitChars c cs).map (List.filter p) := by
  induction cs with
  | nil => rfl
  | cons x xs ih =>
      by_cases hx : x = c
      · rw [hx, List.filter_cons_of_pos hc, splitChars, if_pos rfl, splitChars, if_pos rfl, ih]
        rfl
      · have hparts := splitChars_ne_nil c xs
        rw [splitChars, if_neg hx]
        cases hp : p x with
        | true =>
            rw [List.filter_cons_of_pos hp, splitChars, if_neg hx, ih]
            cases hw : splitChars c xs with
            | nil => exact absurd hw hparts
            | cons w ws => simp [hp]
        | false =>
            rw [List.filter_cons_of_neg (by simp [hp]), ih]
            cases hw : splitChars c xs with
            | nil => exact absurd hw hparts
            | cons w ws => simp [hp]

/-! ### The text around a query -/

/-- A link up to its query. -/
def addressOf (url : List Char) : List Char := (splitOnce '?' (splitOnce '#' url).1).1

/-- The query of a link. -/
def queryOf (url : List Char) : List Char := (splitOnce '?' (splitOnce '#' url).1).2

/-- Neither `?` nor `#`. -/
def IsInner (c : Char) : Prop := c ≠ '?' ∧ c ≠ '#'

lemma splitOnce_append {c : Char} {front : List Char} (h : c ∉ front) (url : List Char) :
    splitOnce c (front ++ url) = (front ++ (splitOnce c url).1, (splitOnce c url).2) := by
  have hkeep : ∀ x ∈ front, decide (x ≠ c) = true := fun x hx =>
    decide_eq_true (ne_of_mem_of_not_mem hx h)
  rw [splitOnce, List.takeWhile_append_of_pos hkeep, List.dropWhile_append_of_pos hkeep]
  rfl

lemma splitOnce_filter {c : Char} {p : Char → Bool} (hc : p c = true) (url : List Char) :
    splitOnce c (url.filter p) = ((splitOnce c url).1.filter p, (splitOnce c url).2.filter p) := by
  induction url with
  | nil => rfl
  | cons x xs ih =>
      by_cases hx : x = c
      · simp [splitOnce, hx, hc]
      · have hstep : ∀ ys,
            splitOnce c (x :: ys) = (x :: (splitOnce c ys).1, (splitOnce c ys).2) := by
          intro ys
          simp [splitOnce, hx]
        rw [hstep]
        cases hp : p x with
        | true => rw [List.filter_cons_of_pos hp, hstep, ih, List.filter_cons_of_pos hp]
        | false =>
            rw [List.filter_cons_of_neg (by simp [hp]), ih, List.filter_cons_of_neg (by simp [hp])]

section

variable {front : List Char} (h : ∀ c ∈ front, IsInner c) (url : List Char)
include h

lemma splitOnce_hash_append :
    splitOnce '#' (front ++ url) = (front ++ (splitOnce '#' url).1, (splitOnce '#' url).2) :=
  splitOnce_append (fun hmem => (h _ hmem).2 rfl) url

lemma addressOf_append : addressOf (front ++ url) = front ++ addressOf url := by
  rw [addressOf, splitOnce_hash_append h, splitOnce_append fun hmem => (h _ hmem).1 rfl]
  rfl

lemma queryOf_append : queryOf (front ++ url) = queryOf url := by
  rw [queryOf, splitOnce_hash_append h, splitOnce_append fun hmem => (h _ hmem).1 rfl]
  rfl

end

lemma isInner_of_mem_addressOf {url : List Char} {c : Char} (hc : c ∈ addressOf url) :
    IsInner c := by
  have hquery := List.mem_takeWhile_imp (p := fun c => decide (c ≠ '?')) hc
  have hhash := List.mem_takeWhile_imp (p := fun c => decide (c ≠ '#'))
    ((List.takeWhile_sublist _).subset hc)
  exact ⟨of_decide_eq_true hquery, of_decide_eq_true hhash⟩

/-- An address is an address, with no query. -/
lemma addressOf_addressOf (url : List Char) :
    addressOf (addressOf url) = addressOf url ∧ queryOf (addressOf url) = [] := by
  have hinner : ∀ c ∈ addressOf url, IsInner c := fun c hc => isInner_of_mem_addressOf hc
  have haddress := addressOf_append hinner []
  have hquery := queryOf_append hinner []
  rw [List.append_nil] at haddress hquery
  exact ⟨haddress.trans (List.append_nil _), hquery⟩

lemma addressOf_filter {p : Char → Bool} (hhash : p '#' = true) (hquery : p '?' = true)
    (url : List Char) : addressOf (url.filter p) = (addressOf url).filter p := by
  rw [addressOf, splitOnce_filter hhash, splitOnce_filter hquery]
  rfl

lemma queryOf_filter {p : Char → Bool} (hhash : p '#' = true) (hquery : p '?' = true)
    (url : List Char) : queryOf (url.filter p) = (queryOf url).filter p := by
  rw [queryOf, splitOnce_filter hhash, splitOnce_filter hquery]
  rfl

/-! ### A name and two slashes -/

instance (scheme : List Char) : Decidable (IsScheme scheme) :=
  inferInstanceAs (Decidable (_ ∧ _))

/-- A text that may stand in front of `://`: visible, and without a delimiter. -/
structure IsName (name : List Char) : Prop where
  ne_nil : name ≠ []
  visible : ∀ c ∈ name, 0x20 < c.toNat
  plain : ∀ c ∈ name, c ≠ ':' ∧ c ≠ '/' ∧ IsInner c

/-- What follows a `netloc` begins with a delimiter, so its address does, or is empty. -/
lemma addressOf_dropWhile_isDelim (url : List Char) :
    ∀ c ∈ (addressOf (url.dropWhile fun c => !isDelim c)).head?, isDelim c := by
  have hhead := List.head?_dropWhile_not (fun c => !isDelim c) url
  intro c hc
  cases hrest : url.dropWhile fun c => !isDelim c with
  | nil => simp [hrest, addressOf, splitOnce] at hc
  | cons d rest =>
      rw [hrest, List.head?_cons] at hhead
      by_cases hinner : IsInner d
      · have hfront : ∀ c ∈ [d], IsInner c := by simpa using hinner
        have haddress : addressOf (d :: rest) = [d] ++ addressOf rest :=
          addressOf_append hfront rest
        rw [hrest, haddress, List.singleton_append, List.head?_cons, Option.mem_some_iff] at hc
        rw [← hc]
        simpa using hhead
      · have hnil : addressOf (d :: rest) = [] := by
          rw [IsInner, not_and_or, not_not, not_not] at hinner
          rcases hinner with rfl | rfl <;> simp [addressOf, splitOnce]
        rw [hrest, hnil] at hc
        cases hc

/-- The `netloc` and the path are the two parts of the address. -/
lemma addressOf_netloc (url : List Char) :
    (addressOf url).takeWhile (fun c => !isDelim c) = url.takeWhile (fun c => !isDelim c)
      ∧ (addressOf url).dropWhile (fun c => !isDelim c)
        = addressOf (url.dropWhile fun c => !isDelim c)
      ∧ queryOf (url.dropWhile fun c => !isDelim c) = queryOf url
      ∧ (splitOnce '#' (url.dropWhile fun c => !isDelim c)).2 = (splitOnce '#' url).2 := by
  have hkeep : ∀ c ∈ url.takeWhile (fun c => !isDelim c), (!isDelim c) = true := by
    intro c hc
    exact List.mem_takeWhile_imp (p := fun c => !isDelim c) hc
  have hinner : ∀ c ∈ url.takeWhile (fun c => !isDelim c), IsInner c := by
    intro c hc
    have hdelim := hkeep c hc
    simp only [isDelim, Bool.not_eq_true', Bool.or_eq_false_iff, decide_eq_false_iff_not] at hdelim
    exact ⟨hdelim.1.2, hdelim.2⟩
  have hhead := addressOf_dropWhile_isDelim url
  have hurl := (List.takeWhile_append_dropWhile (p := fun c => !isDelim c) (l := url)).symm
  have haddress := addressOf_append hinner (url.dropWhile fun c => !isDelim c)
  have hquery := queryOf_append hinner (url.dropWhile fun c => !isDelim c)
  have hhash := splitOnce_hash_append hinner (url.dropWhile fun c => !isDelim c)
  rw [← hurl] at haddress hquery hhash
  have hstop : (addressOf (url.dropWhile fun c => !isDelim c)).takeWhile (fun c => !isDelim c) = []
      ∧ (addressOf (url.dropWhile fun c => !isDelim c)).dropWhile (fun c => !isDelim c)
        = addressOf (url.dropWhile fun c => !isDelim c) := by
    cases haddr : addressOf (url.dropWhile fun c => !isDelim c) with
    | nil => exact ⟨rfl, rfl⟩
    | cons d rest =>
        have hd := hhead d (by rw [haddr]; rfl)
        simp [hd]
  refine ⟨?_, ?_, hquery.symm, by rw [hhash]⟩
  · rw [haddress, List.takeWhile_append_of_pos hkeep, hstop.1, List.append_nil]
  · rw [haddress, List.dropWhile_append_of_pos hkeep, hstop.2]

section

variable {name : List Char} (h : IsName name) (netlocOk : List Char → Bool) (rest : List Char)
include h

lemma IsName.inner : ∀ c ∈ name ++ [':', '/', '/'], IsInner c := by
  intro c hc
  rcases List.mem_append.mp hc with hc | hc
  · exact (h.plain c hc).2.2
  · simp only [List.mem_cons, List.not_mem_nil, or_false] at hc
    rcases hc with rfl | rfl | rfl <;> exact ⟨by decide, by decide⟩

/-- Nothing goes from the name and its slashes. -/
lemma IsName.clean :
    ((name ++ ':' :: '/' :: '/' :: rest).dropWhile isC0OrSpace).filter (fun c => !isUnsafe c)
      = name ++ ':' :: '/' :: '/' :: rest.filter fun c => !isUnsafe c := by
  have hsafe : name.filter (fun c => !isUnsafe c) = name := by
    refine List.filter_eq_self.mpr fun c hc => ?_
    have hvisible := h.visible c hc
    have hne : ∀ d : Char, d.toNat ≤ 0x20 → c ≠ d := by
      rintro d hd rfl
      omega
    simp [isUnsafe, hne '\t' (by decide), hne '\r' (by decide), hne '\n' (by decide)]
  cases name with
  | nil => exact absurd rfl h.ne_nil
  | cons c cs =>
      have hvisible : isC0OrSpace c = false :=
        decide_eq_false (Nat.not_le.mpr (h.visible c List.mem_cons_self))
      rw [List.cons_append, List.dropWhile_cons, hvisible, if_neg Bool.false_ne_true,
        ← List.cons_append, List.filter_append, hsafe]
      rfl

/-- A text `name://rest` is taken apart by its address; a name that is no scheme begins a path. -/
theorem urlsplit_named :
    urlsplit netlocOk (name ++ ':' :: '/' :: '/' :: rest)
      = let clean := rest.filter fun c => !isUnsafe c
        let netloc := (addressOf clean).takeWhile fun c => !isDelim c
        if IsScheme name then
          if netloc ≠ [] ∧ netlocOk netloc = false then none
          else some ⟨name.map Char.toLower, netloc,
            (addressOf clean).dropWhile fun c => !isDelim c, queryOf clean,
            (splitOnce '#' clean).2⟩
        else some ⟨[], [], name ++ ':' :: '/' :: '/' :: addressOf clean, queryOf clean,
          (splitOnce '#' clean).2⟩ := by
  simp only []
  generalize hclean : rest.filter (fun c => !isUnsafe c) = clean
  obtain ⟨hnetloc, hpath, hquery, hfragment⟩ := addressOf_netloc clean
  rw [urlsplit, h.clean, hclean]
  have htake : (name ++ ':' :: '/' :: '/' :: clean).takeWhile (· ≠ ':') = name := by
    rw [List.takeWhile_append_of_pos fun c hc => by simpa using (h.plain c hc).1]
    simp
  by_cases hscheme : IsScheme name
  · have hsplit : splitScheme (name ++ ':' :: '/' :: '/' :: clean)
        = (name.map Char.toLower, '/' :: '/' :: clean) := by
      simp only [splitScheme, htake]
      rw [if_pos ⟨by simp, hscheme.1, hscheme.2⟩]
      simp
    rw [hsplit, if_pos hscheme, hnetloc, hpath, ← hquery, ← hfragment]
    rfl
  · have hsplit : splitScheme (name ++ ':' :: '/' :: '/' :: clean)
        = ([], name ++ ':' :: '/' :: '/' :: clean) :=
      splitScheme_of_not fun _ => by rwa [htake]
    have hslash : splitNetloc (name ++ ':' :: '/' :: '/' :: clean)
        = ([], name ++ ':' :: '/' :: '/' :: clean) := by
      refine splitNetloc_of_not fun hprefix => ?_
      obtain ⟨c, cs, rfl⟩ := List.exists_cons_of_ne_nil h.ne_nil
      have hc := (List.cons_prefix_cons.mp hprefix).1
      exact (h.plain c List.mem_cons_self).2.1 hc.symm
    have happend : name ++ ':' :: '/' :: '/' :: clean = (name ++ [':', '/', '/']) ++ clean := by
      simp
    rw [hsplit, if_neg hscheme]
    simp only [hslash]
    rw [happend, splitOnce_hash_append h.inner, splitOnce_append fun hmem => (h.inner _ hmem).1 rfl]
    simp [addressOf, queryOf]

end

end PyText
