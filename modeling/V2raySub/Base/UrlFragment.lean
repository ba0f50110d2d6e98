import V2raySub.Base.Url

/-!
Any text with another fragment: `urlunsplit(urlsplit(text)._replace(fragment=…))`.

* `Printable`: what holds of the parts of any text, as far as it matters when they are printed.
* `splitScheme_urlunsplit`, `splitNetloc_address`: the printed text is cut where the parts meet.
* `fragment_urlsplit_urlunsplit`: whatever the text was, **it can be taken apart again, and its
  fragment is the new one**.
-/

namespace PyText

/-! ### Schemes -/

/-- A letter or a digit is an ASCII one. -/
lemma isAlphanum_lt {c : Char} (hc : c.isAlphanum) : c.toNat < 128 := by
  rcases Bool.or_eq_true_iff.mp hc with h | h
  · rcases Bool.or_eq_true_iff.mp h with h | h
    · have hhigh : c.val.toNat ≤ 'Z'.val.toNat := (of_decide_eq_true h).2
      exact Nat.lt_of_le_of_lt hhigh (by decide)
    · have hhigh : c.val.toNat ≤ 'z'.val.toNat := of_decide_eq_true (Bool.and_eq_true_iff.mp h).2
      exact Nat.lt_of_le_of_lt hhigh (by decide)
  · have hhigh : c.val.toNat ≤ '9'.val.toNat := of_decide_eq_true (Bool.and_eq_true_iff.mp h).2
    exact Nat.lt_of_le_of_lt hhigh (by decide)

lemma isSchemeChar_lt {c : Char} (hc : isSchemeChar c) : c.toNat < 128 := by
  simp only [isSchemeChar, Bool.or_eq_true, decide_eq_true_eq] at hc
  rcases hc with ((h | rfl) | rfl) | rfl
  · exact isAlphanum_lt h
  · decide
  · decide
  · decide

/-- Lower case keeps a scheme, and is kept by itself. -/
lemma lower_schemeChar {c : Char} (hc : isSchemeChar c) :
    isSchemeChar c.toLower ∧ c.toLower.toLower = c.toLower
      ∧ (c.isAlpha → c.toLower.isAlpha) := by
  have hall : ∀ n < 128, isSchemeChar (Char.ofNat n) → isSchemeChar (Char.ofNat n).toLower
      ∧ (Char.ofNat n).toLower.toLower = (Char.ofNat n).toLower
      ∧ ((Char.ofNat n).isAlpha → (Char.ofNat n).toLower.isAlpha) := by decide +kernel
  have h := hall c.toNat (isSchemeChar_lt hc)
  rw [Char.ofNat_toNat] at h
  exact h hc

lemma IsScheme.lower {scheme : List Char} (h : IsScheme scheme) :
    IsScheme (scheme.map Char.toLower)
      ∧ (scheme.map Char.toLower).map Char.toLower = scheme.map Char.toLower := by
  obtain ⟨halpha, hall⟩ := h
  rw [List.all_eq_true] at hall
  refine ⟨⟨?_, ?_⟩, ?_⟩
  · cases scheme with
    | nil => exact halpha
    | cons c scheme =>
        rw [List.head?_cons, Option.any_some] at halpha
        rw [List.map_cons, List.head?_cons, Option.any_some]
        exact (lower_schemeChar (hall c List.mem_cons_self)).2.2 halpha
  · rw [List.all_eq_true]
    intro c hc
    obtain ⟨d, hd, rfl⟩ := List.mem_map.mp hc
    exact (lower_schemeChar (hall d hd)).1
  · rw [List.map_map]
    exact List.map_congr_left fun c hc => (lower_schemeChar (hall c hc)).2.1

lemma IsScheme.ne_nil {scheme : List Char} (h : IsScheme scheme) : scheme ≠ [] := by
  rintro rfl
  exact absurd h.1 (by simp)

/-- A text whose first colon ends no scheme has none. -/
lemma splitScheme_of_not {url : List Char}
    (h : ':' ∈ url → ¬IsScheme (url.takeWhile (· ≠ ':'))) : splitScheme url = ([], url) := by
  rw [splitScheme]
  exact if_neg fun hs => h hs.1 hs.2

lemma splitScheme_cases (url : List Char) :
    (IsScheme (splitScheme url).1
        ∧ (splitScheme url).1.map Char.toLower = (splitScheme url).1
        ∧ (splitScheme url).2 <:+ url)
      ∨ (splitScheme url = ([], url) ∧ (':' ∈ url → ¬IsScheme (url.takeWhile (· ≠ ':')))) := by
  by_cases h : ':' ∈ url ∧ IsScheme (url.takeWhile (· ≠ ':'))
  · refine .inl ?_
    rw [splitScheme]
    rw [if_pos (show _ ∧ _ ∧ _ from ⟨h.1, h.2.1, h.2.2⟩)]
    exact ⟨h.2.lower.1, h.2.lower.2, List.drop_suffix _ _⟩
  · rw [not_and] at h
    exact .inr ⟨splitScheme_of_not h, h⟩

/-! ### The parts of a text, printed -/

/-- What holds of the parts of any text, as far as it matters when they are printed. -/
structure SplitResult.Printable (u : SplitResult) : Prop where
  scheme : u.scheme ≠ [] → IsScheme u.scheme ∧ u.scheme.map Char.toLower = u.scheme
  netloc : ∀ c ∈ u.netloc, isDelim c = false
  noHash : ∀ c ∈ u.path ++ u.query, c ≠ '#'
  safe : ∀ c ∈ u.netloc ++ u.path ++ u.query, isUnsafe c = false
  bare : u.scheme = [] → u.netloc = [] → (∀ c ∈ u.path.head?, isC0OrSpace c = false)
    ∧ (':' ∈ u.path → ¬IsScheme (u.path.takeWhile (· ≠ ':')))

/-- The parts are printed with two slashes. -/
def SplitResult.Slashed (u : SplitResult) : Prop :=
  u.netloc ≠ [] ∨ (u.scheme ≠ [] ∧ String.ofList u.scheme ∈ usesNetloc) ∨ ['/', '/'] <+: u.path

instance (u : SplitResult) : Decidable u.Slashed :=
  inferInstanceAs (Decidable (_ ∨ (_ ∧ _) ∨ _))

/-- The path, as it is printed behind two slashes. -/
def SplitResult.rooted (u : SplitResult) : List Char :=
  if u.path ≠ [] ∧ u.path.head? ≠ some '/' then '/' :: u.path else u.path

/-- The path, as it is printed. -/
def SplitResult.trunk (u : SplitResult) : List Char := if u.Slashed then u.rooted else u.path

/-- The part between the scheme and the query, as it is printed. -/
def SplitResult.address (u : SplitResult) : List Char :=
  if u.Slashed then '/' :: '/' :: (u.netloc ++ u.trunk) else u.trunk

/-- The query and the fragment, as they are printed. -/
def SplitResult.ending (u : SplitResult) (f : List Char) : List Char :=
  printedQuery u ++ printedFragment f

variable {u : SplitResult} {f : List Char} {c : Char}

lemma urlunsplit_eq (u : SplitResult) (f : List Char) :
    urlunsplit { u with fragment := f }
      = (if u.scheme = [] then [] else u.scheme ++ [':']) ++ (u.address ++ u.ending f) := by
  have hbody : (if u.netloc ≠ [] ∨ (u.scheme ≠ [] ∧ String.ofList u.scheme ∈ usesNetloc)
        ∨ ['/', '/'] <+: u.path then
      ['/', '/'] ++ u.netloc ++ (if u.path ≠ [] ∧ u.path.head? ≠ some '/' then ['/'] else [])
        ++ u.path
      else u.path) = u.address := by
    rw [SplitResult.address, SplitResult.trunk]
    by_cases hslashed : u.Slashed
    · rw [if_pos hslashed, if_pos hslashed, if_pos (show _ ∨ _ ∨ _ from hslashed),
        SplitResult.rooted]
      split_ifs <;> simp
    · rw [if_neg hslashed, if_neg hslashed, if_neg (show ¬(_ ∨ _ ∨ _) from hslashed)]
  simp only [urlunsplit, hbody, SplitResult.ending, printedQuery, printedFragment, ite_not]
  split_ifs <;> simp

lemma mem_trunk (hc : c ∈ u.trunk) : c ∈ u.path ∨ c = '/' := by
  rw [SplitResult.trunk] at hc
  split_ifs at hc
  · rw [SplitResult.rooted] at hc
    split_ifs at hc
    · exact (List.mem_cons.mp hc).symm
    · exact .inl hc
  · exact .inl hc

lemma mem_address (hc : c ∈ u.address) : c ∈ u.netloc ∨ c ∈ u.path ∨ c = '/' := by
  rw [SplitResult.address] at hc
  split_ifs at hc
  · rcases List.mem_cons.mp hc with h | hc
    · exact .inr (.inr h)
    rcases List.mem_cons.mp hc with h | hc
    · exact .inr (.inr h)
    rcases List.mem_append.mp hc with h | hc
    · exact .inl h
    · exact .inr (mem_trunk hc)
  · exact .inr (mem_trunk hc)

/-- Without slashes, the path is printed alone. -/
lemma address_of_not_slashed (h : ¬u.Slashed) :
    u.address = u.path ∧ u.trunk = u.path ∧ u.netloc = [] := by
  refine ⟨?_, ?_, ?_⟩
  · rw [SplitResult.address, if_neg h, SplitResult.trunk, if_neg h]
  · rw [SplitResult.trunk, if_neg h]
  · by_contra hne
    exact h (.inl hne)

lemma mem_printedQuery (hc : c ∈ printedQuery u) : c ∈ u.query ∨ c = '?' := by
  rw [printedQuery] at hc
  split_ifs at hc
  · cases hc
  · exact (List.mem_cons.mp hc).symm

lemma mem_printedFragment (hc : c ∈ printedFragment f) : c ∈ f ∨ c = '#' := by
  rw [printedFragment] at hc
  split_ifs at hc
  · cases hc
  · exact (List.mem_cons.mp hc).symm

/-- What stands behind the path begins with its mark. -/
lemma head_ending (hc : c ∈ (u.ending f).head?) : c = '?' ∨ c = '#' := by
  rw [SplitResult.ending, printedQuery, printedFragment] at hc
  split_ifs at hc
  · simp at hc
  · exact .inr (by simpa [eq_comm] using hc)
  · exact .inl (by simpa [eq_comm] using hc)
  · exact .inl (by simpa [eq_comm] using hc)

/-- What is printed is safe, if the fragment is. -/
lemma SplitResult.Printable.isUnsafe_urlunsplit (h : u.Printable)
    (hf : ∀ c ∈ f, isUnsafe c = false)
    (hc : c ∈ urlunsplit { u with fragment := f }) : isUnsafe c = false := by
  have hsafe := h.safe
  simp only [List.forall_mem_append] at hsafe
  obtain ⟨⟨hnetloc, hpath⟩, hquery⟩ := hsafe
  rw [urlunsplit_eq, List.mem_append, List.mem_append, SplitResult.ending, List.mem_append] at hc
  rcases hc with hc | hc | hc | hc
  · split_ifs at hc with hnil
    · cases hc
    · rcases List.mem_append.mp hc with hc | hc
      · exact (isSchemeChar_ne (List.all_eq_true.mp (h.scheme hnil).1.2 c hc)).2.2
      · rw [List.mem_singleton.mp hc]
        decide
  · rcases mem_address hc with hc | hc | rfl
    · exact hnetloc c hc
    · exact hpath c hc
    · decide
  · rcases mem_printedQuery hc with hc | rfl
    · exact hquery c hc
    · decide
  · rcases mem_printedFragment hc with hc | rfl
    · exact hf c hc
    · decide

/-- What is printed does not begin with a blank. -/
lemma SplitResult.Printable.head_urlunsplit (h : u.Printable)
    (hc : c ∈ (urlunsplit { u with fragment := f }).head?) : isC0OrSpace c = false := by
  rw [urlunsplit_eq] at hc
  by_cases hnil : u.scheme = []
  · rw [if_pos hnil, List.nil_append] at hc
    by_cases hslashed : u.Slashed
    · rw [SplitResult.address, if_pos hslashed] at hc
      obtain rfl : '/' = c := by simpa using hc
      decide
    · obtain ⟨haddress, -, hnetloc⟩ := address_of_not_slashed hslashed
      rw [haddress] at hc
      cases hpath : u.path with
      | nil =>
          rw [hpath, List.nil_append] at hc
          rcases head_ending hc with rfl | rfl <;> decide
      | cons d path =>
          refine (h.bare hnil hnetloc).1 c ?_
          rw [hpath] at hc ⊢
          exact hc
  · rw [if_neg hnil] at hc
    have hscheme := h.scheme hnil
    cases hs : u.scheme with
    | nil => exact absurd hs hnil
    | cons d scheme =>
        rw [hs] at hc hscheme
        obtain rfl : d = c := by simpa using hc
        exact ne_c0OrSpace_of_isAlpha (by simpa using hscheme.1.1)

/-- Nothing goes from what is printed. -/
lemma SplitResult.Printable.clean_urlunsplit (h : u.Printable)
    (hf : ∀ c ∈ f, isUnsafe c = false) :
    ((urlunsplit { u with fragment := f }).dropWhile isC0OrSpace).filter (fun c => !isUnsafe c)
      = urlunsplit { u with fragment := f } := by
  have hdrop : (urlunsplit { u with fragment := f }).dropWhile isC0OrSpace
      = urlunsplit { u with fragment := f } := by
    cases hurl : urlunsplit { u with fragment := f } with
    | nil => rfl
    | cons d url =>
        rw [List.dropWhile_cons, h.head_urlunsplit (f := f) (by rw [hurl]; rfl), if_neg (by simp)]
  rw [hdrop, List.filter_eq_self]
  intro c hc
  rw [h.isUnsafe_urlunsplit hf hc, Bool.not_false]

/-! ### What is printed, taken apart -/

/-- A cut in the first of two texts. -/
lemma takeWhile_append_of_mem {p : Char → Bool} {l : List Char} (h : ∃ a ∈ l, p a = false)
    (l' : List Char) : (l ++ l').takeWhile p = l.takeWhile p := by
  induction l with
  | nil =>
      obtain ⟨a, ha, -⟩ := h
      cases ha
  | cons b l ih =>
      rw [List.cons_append, List.takeWhile_cons, List.takeWhile_cons]
      cases hb : p b with
      | false => rfl
      | true =>
          obtain ⟨a, ha, hpa⟩ := h
          rcases List.mem_cons.mp ha with rfl | ha
          · rw [hb] at hpa
            cases hpa
          · rw [if_pos rfl, if_pos rfl, ih ⟨a, ha, hpa⟩]

/-- The scheme is cut off again, and none is found where there was none. -/
lemma SplitResult.Printable.splitScheme_urlunsplit (h : u.Printable) (f : List Char) :
    splitScheme (urlunsplit { u with fragment := f }) = (u.scheme, u.address ++ u.ending f) := by
  rw [urlunsplit_eq]
  by_cases hnil : u.scheme = []
  · rw [if_pos hnil, List.nil_append, hnil]
    refine splitScheme_of_not fun hcolon hscheme => ?_
    by_cases hslashed : u.Slashed
    · rw [SplitResult.address, if_pos hslashed] at hscheme
      exact absurd hscheme.1 (by simp)
    obtain ⟨haddress, -, hnetloc⟩ := address_of_not_slashed hslashed
    rw [haddress] at hcolon hscheme
    by_cases hpath : ':' ∈ u.path
    · -- the colon of the path comes first
      rw [takeWhile_append_of_mem ⟨':', hpath, by decide⟩] at hscheme
      exact (h.bare hnil hnetloc).2 hpath hscheme
    · -- the mark of the query or the fragment comes first, and is in no scheme
      have hall : ∀ a ∈ u.path, decide (a ≠ ':') := fun a ha => by
        rw [decide_eq_true_eq]
        rintro rfl
        exact hpath ha
      cases hending : u.ending f with
      | nil =>
          rw [hending, List.append_nil] at hcolon
          exact hpath hcolon
      | cons d rest =>
          have hd : d = '?' ∨ d = '#' := head_ending (by rw [hending]; rfl)
          have hmem : d ∈ (u.path ++ u.ending f).takeWhile (· ≠ ':') := by
            rw [List.takeWhile_append_of_pos hall, hending, List.takeWhile_cons]
            rcases hd with rfl | rfl <;> simp
          have hchar := List.all_eq_true.mp hscheme.2 d hmem
          rcases hd with rfl | rfl <;> exact absurd hchar (by decide)
  · rw [if_neg hnil, List.append_assoc, List.singleton_append]
    exact splitScheme_colon (h.scheme hnil).1 (h.scheme hnil).2 _

/-- Behind two slashes, the path begins with a slash. -/
lemma head_trunk (h : u.Slashed) (hc : c ∈ (u.trunk ++ u.ending f).head?) :
    isDelim c = true := by
  rw [SplitResult.trunk, if_pos h] at hc
  cases hroot : u.rooted with
  | nil =>
      rw [hroot, List.nil_append] at hc
      rcases head_ending hc with rfl | rfl <;> decide
  | cons d path =>
      rw [hroot] at hc
      obtain rfl : d = c := by simpa using hc
      rw [SplitResult.rooted] at hroot
      split_ifs at hroot with hslash
      · rw [← (List.cons.inj hroot).1]
        decide
      · rw [not_and, not_not] at hslash
        have hhead := hslash (by rw [hroot]; exact List.cons_ne_nil _ _)
        rw [hroot, List.head?_cons, Option.some.injEq] at hhead
        rw [hhead]
        decide

lemma splitNetloc_of_not {url : List Char} (h : ¬['/', '/'] <+: url) :
    splitNetloc url = ([], url) := by
  rw [splitNetloc]
  rintro rest rfl
  exact h (List.prefix_append ['/', '/'] rest)

/-- The `netloc` is cut off again. -/
lemma SplitResult.Printable.splitNetloc_address (h : u.Printable) (f : List Char) :
    splitNetloc (u.address ++ u.ending f) = (u.netloc, u.trunk ++ u.ending f) := by
  by_cases hslashed : u.Slashed
  · have hnetloc : ∀ a ∈ u.netloc, (!isDelim a) = true := fun a ha => by
      rw [h.netloc a ha, Bool.not_false]
    rw [SplitResult.address, if_pos hslashed, List.cons_append, List.cons_append,
      List.append_assoc, splitNetloc, List.takeWhile_append_of_pos hnetloc,
      List.dropWhile_append_of_pos hnetloc]
    cases hrest : u.trunk ++ u.ending f with
    | nil => simp
    | cons d rest =>
        have hd : isDelim d = true := head_trunk (f := f) hslashed (by rw [hrest]; rfl)
        simp [hd]
  · obtain ⟨haddress, htrunk, hnetloc⟩ := address_of_not_slashed hslashed
    rw [haddress, htrunk, hnetloc]
    refine splitNetloc_of_not fun hprefix => ?_
    have hpath : ¬['/', '/'] <+: u.path := fun hp => hslashed (.inr (.inr hp))
    have hmark : '/' ∉ (u.ending f).head? := fun hd => by
      rcases head_ending hd with he | he <;> exact absurd he (by decide)
    obtain ⟨rest, hrest⟩ := hprefix
    match hp : u.path with
    | [] =>
        rw [hp, List.nil_append] at hrest
        exact hmark (by rw [← hrest]; rfl)
    | [d] =>
        simp only [hp, List.cons_append, List.nil_append, List.cons.injEq] at hrest
        exact hmark (by rw [← hrest.2]; rfl)
    | d :: e :: path =>
        simp only [hp, List.cons_append, List.nil_append, List.cons.injEq] at hrest
        refine hpath ?_
        rw [hp, ← hrest.1, ← hrest.2.1]
        exact List.prefix_append ['/', '/'] path

/-- **The new fragment can be read back**, whatever the text was. -/
theorem SplitResult.Printable.fragment_urlunsplit (h : u.Printable) {netlocOk : List Char → Bool}
    (hok : ¬(u.netloc ≠ [] ∧ netlocOk u.netloc = false)) (hf : ∀ c ∈ f, isUnsafe c = false) :
    (urlsplit netlocOk (urlunsplit { u with fragment := f })).map SplitResult.fragment
      = some f := by
  have hno : ∀ c ∈ u.trunk ++ printedQuery u, decide (c ≠ '#') := by
    intro c hc
    rw [decide_eq_true_eq]
    rcases List.mem_append.mp hc with hc | hc
    · rcases mem_trunk hc with hc | rfl
      · exact h.noHash c (List.mem_append_left _ hc)
      · decide
    · rcases mem_printedQuery hc with hc | rfl
      · exact h.noHash c (List.mem_append_right _ hc)
      · decide
  have hcut : splitOnce '#' (u.trunk ++ u.ending f) = (u.trunk ++ printedQuery u, f) := by
    rw [splitOnce, SplitResult.ending, ← List.append_assoc, List.takeWhile_append_of_pos hno,
      List.dropWhile_append_of_pos hno, takeWhile_printedFragment, List.append_nil,
      printedFragment]
    split_ifs with hnil
    · rw [hnil]
      rfl
    · simp
  rw [urlsplit, h.clean_urlunsplit hf, h.splitScheme_urlunsplit f]
  simp only [h.splitNetloc_address f, if_neg hok, hcut, Option.map_some]

/-! ### The parts of any text -/

/-- A `netloc` has no delimiter, and what is behind it starts with one, if it is there at all. -/
lemma splitNetloc_spec (url : List Char) :
    (∀ c ∈ (splitNetloc url).1, isDelim c = false)
      ∧ (∀ c ∈ (splitNetloc url).1, c ∈ url) ∧ (∀ c ∈ (splitNetloc url).2, c ∈ url)
      ∧ ((splitNetloc url).2 = url ∨ ∀ c ∈ (splitNetloc url).2.head?, isDelim c = true) := by
  by_cases h : ['/', '/'] <+: url
  · obtain ⟨rest, rfl⟩ := h
    rw [List.cons_append, List.cons_append, List.nil_append, splitNetloc]
    refine ⟨fun c hc => ?_, fun c hc => ?_, fun c hc => ?_, .inr fun c hc => ?_⟩
    · simpa using List.mem_takeWhile_imp hc
    · exact List.mem_cons_of_mem _ (List.mem_cons_of_mem _ ((List.takeWhile_sublist _).mem hc))
    · exact List.mem_cons_of_mem _ (List.mem_cons_of_mem _ ((List.dropWhile_sublist _).mem hc))
    · have hhead := List.head?_dropWhile_not (fun c => !isDelim c) rest
      rw [Option.mem_def.mp hc] at hhead
      simpa using hhead
  · rw [splitNetloc_of_not h]
    exact ⟨nofun, nofun, fun c hc => hc, .inl rfl⟩

/-- The path and the query are what is in front of the `#`. -/
lemma splitOnce_spec (url : List Char) :
    (splitOnce '?' (splitOnce '#' url).1).1 <+: url
      ∧ (∀ c ∈ (splitOnce '?' (splitOnce '#' url).1).1
          ++ (splitOnce '?' (splitOnce '#' url).1).2, c ∈ url ∧ c ≠ '#')
      ∧ ∀ c ∈ (splitOnce '?' (splitOnce '#' url).1).1, c ≠ '?' ∧ c ≠ '#' := by
  have hbefore : ∀ c ∈ (splitOnce '#' url).1, c ∈ url ∧ c ≠ '#' := fun c hc =>
    ⟨(List.takeWhile_sublist _).mem hc, by simpa using List.mem_takeWhile_imp hc⟩
  have hpath : ∀ c ∈ (splitOnce '?' (splitOnce '#' url).1).1, c ∈ (splitOnce '#' url).1 :=
    fun c hc => (List.takeWhile_sublist _).mem hc
  have hquery : ∀ c ∈ (splitOnce '?' (splitOnce '#' url).1).2, c ∈ (splitOnce '#' url).1 :=
    fun c hc => (List.dropWhile_sublist _).mem (List.mem_of_mem_drop hc)
  refine ⟨(List.takeWhile_prefix _).trans (List.takeWhile_prefix _), fun c hc => ?_,
    fun c hc => ⟨by simpa using List.mem_takeWhile_imp hc, (hbefore c (hpath c hc)).2⟩⟩
  rcases List.mem_append.mp hc with hc | hc
  · exact hbefore c (hpath c hc)
  · exact hbefore c (hquery c hc)

/-- A path that a text without scheme and `netloc` is taken apart to begins as the text does, or
with a slash. -/
lemma bare_path {clean tail path : List Char} (hhead : ∀ c ∈ clean.head?, isC0OrSpace c = false)
    (hno : ':' ∈ clean → ¬IsScheme (clean.takeWhile (· ≠ ':')))
    (htail : tail = clean ∨ ∀ c ∈ tail.head?, isDelim c = true) (hpath : path <+: tail)
    (hmarks : ∀ c ∈ path, c ≠ '?' ∧ c ≠ '#') :
    (∀ c ∈ path.head?, isC0OrSpace c = false)
      ∧ (':' ∈ path → ¬IsScheme (path.takeWhile (· ≠ ':'))) := by
  obtain ⟨rest, rfl⟩ := hpath
  rcases htail with rfl | hdelim
  · constructor
    · intro c hc
      refine hhead c ?_
      rw [List.head?_append, Option.mem_def.mp hc]
      rfl
    · intro hcolon
      have h := hno (List.mem_append_left _ hcolon)
      rwa [takeWhile_append_of_mem ⟨':', hcolon, by decide⟩] at h
  · cases path with
    | nil => exact ⟨nofun, nofun⟩
    | cons d path =>
        have hd : d = '/' := by
          have h := hdelim d rfl
          obtain ⟨hquery, hhash⟩ := hmarks d List.mem_cons_self
          simpa [isDelim, hquery, hhash] using h
        subst hd
        refine ⟨fun c hc => ?_, fun _ hscheme => ?_⟩
        · obtain rfl : '/' = c := by simpa using hc
          decide
        · exact absurd hscheme.1 (by simp)

/-- A text is taken apart to parts that can be printed. -/
lemma printable_of_urlsplit {netlocOk : List Char → Bool} {url : List Char}
    (hu : urlsplit netlocOk url = some u) :
    u.Printable ∧ ¬(u.netloc ≠ [] ∧ netlocOk u.netloc = false) := by
  rw [urlsplit] at hu
  set clean := (url.dropWhile isC0OrSpace).filter fun c => !isUnsafe c with hclean
  have hsafe : ∀ c ∈ clean, isUnsafe c = false := fun c hc => by
    simpa using (List.mem_filter.mp hc).2
  have hhead : ∀ c ∈ clean.head?, isC0OrSpace c = false := by
    intro c hc
    cases hdrop : url.dropWhile isC0OrSpace with
    | nil =>
        rw [hclean, hdrop] at hc
        cases hc
    | cons d rest =>
        have hd : isC0OrSpace d = false := by
          have h := List.head?_dropWhile_not isC0OrSpace url
          rw [hdrop] at h
          exact h
        have hkeep : isUnsafe d = false := by
          rw [← Bool.not_eq_true]
          intro h
          simp only [isUnsafe, Bool.or_eq_true, decide_eq_true_eq] at h
          rcases h with (rfl | rfl) | rfl <;> exact absurd hd (by decide)
        rw [hclean, hdrop, List.filter_cons, hkeep] at hc
        obtain rfl : d = c := by simpa using hc
        exact hd
  have hcases := splitScheme_cases clean
  have hspec := splitNetloc_spec (splitScheme clean).2
  have hparts := splitOnce_spec (splitNetloc (splitScheme clean).2).2
  rcases hscheme : splitScheme clean with ⟨scheme, rest⟩
  rcases hnetloc : splitNetloc rest with ⟨netloc, tail⟩
  simp only [hscheme, hnetloc] at hu hcases hspec hparts
  split_ifs at hu with hbad
  obtain rfl := Option.some.inj hu
  obtain ⟨hdelim, hnetloc', htail, hrest⟩ := hspec
  obtain ⟨hpath, hmem, hmarks⟩ := hparts
  have hclean' : ∀ c ∈ rest, c ∈ clean := by
    rcases hcases with ⟨-, -, hsuffix⟩ | ⟨he, -⟩
    · exact fun c hc => hsuffix.subset hc
    · rw [(Prod.mk.inj he).2]
      exact fun c hc => hc
  refine ⟨⟨fun hne => ?_, hdelim, fun c hc => (hmem c hc).2, fun c hc => ?_,
    fun hnil _ => ?_⟩, hbad⟩
  · rcases hcases with ⟨hs, hlower, -⟩ | ⟨he, -⟩
    · exact ⟨hs, hlower⟩
    · exact absurd (Prod.mk.inj he).1 hne
  · rw [List.append_assoc] at hc
    refine hsafe c (hclean' c ?_)
    rcases List.mem_append.mp hc with hc | hc
    · exact hnetloc' c hc
    · exact htail c (hmem c hc).1
  · rcases hcases with ⟨hs, -, -⟩ | ⟨he, hno⟩
    · exact absurd hnil hs.ne_nil
    · rw [(Prod.mk.inj he).2] at hrest
      exact bare_path hhead hno hrest hpath hmarks

/-- **Any text with another fragment** can be taken apart again, and its fragment is the new
one. -/
theorem fragment_urlsplit_urlunsplit {netlocOk : List Char → Bool} {url : List Char}
    (hu : urlsplit netlocOk url = some u) (hf : ∀ c ∈ f, isUnsafe c = false) :
    (urlsplit netlocOk (urlunsplit { u with fragment := f })).map SplitResult.fragment
      = some f := by
  obtain ⟨hprintable, hok⟩ := printable_of_urlsplit hu
  exact hprintable.fragment_urlunsplit hok hf

/-- And it has no character that is removed. -/
lemma isUnsafe_of_mem_urlunsplit {netlocOk : List Char → Bool} {url : List Char}
    (hu : urlsplit netlocOk url = some u) (hf : ∀ c ∈ f, isUnsafe c = false)
    (hc : c ∈ urlunsplit { u with fragment := f }) : isUnsafe c = false :=
  (printable_of_urlsplit hu).1.isUnsafe_urlunsplit hf hc

end PyText
