import V2raySub.Base.UrlFragment
import V2raySub.Base.WireDecode
import V2raySub.Client.Content

/-!
Renaming a config (`utils/config_parser.py`, `format_config_remark`): the new name can be read
back, and the technical part of `get_config_identity` stays.

* `pyLib`: the library functions a link goes through, `urllib.parse` and `base64` as they are and
  `json` by its documented behaviour.
* `accepted_cases`: the six kinds of links `parse_configs` accepts, with their types.
* `Renamable`: the links that keep their technical part; `renamed_iff` says that it is these.
-/

namespace V2raySub

/-! ### The libraries -/

/-- The functions of `json` a `vmess` document goes through. -/
structure JsonLib where
  /-- `json.loads`, `none` where it raises. -/
  loads : String → Option Json
  /-- `json.dumps(value, ensure_ascii=False)`. -/
  dumps : Json → String
  /-- `json.dumps(value, sort_keys=True)`. -/
  dumpsSorted : Json → String

/-- What is documented of them: a dictionary that was read can be written with another text in it
and read again, and dictionaries are written in braces. -/
structure JsonLib.Documented (json : JsonLib) : Prop where
  loads_dumps : ∀ text fields key s, json.loads text = some (.obj fields) →
    json.loads (json.dumps (.obj (Dict.set fields key (.str s))))
      = some (.obj (Dict.set fields key (.str s)))
  dumps_obj : ∀ fields, (json.dumps (.obj fields)).toList.head? = some '{'
  dumpsSorted_obj : ∀ fields, (json.dumpsSorted (.obj fields)).toList.head? = some '{'

/-- The library functions a link is renamed with.  No scheme of a config has parameters, so
`urlparse` is `urlsplit`. -/
def pyLib (netlocOk : List Char → Bool) (json : JsonLib) : LinkLib where
  b64decode := PyText.b64decode?
  loads := json.loads
  dumpsSorted := json.dumpsSorted
  urlFragment text :=
    (PyText.urlsplit netlocOk text.toList).map fun u => String.ofList u.fragment
  unquote := PyText.unquote
  dumps := json.dumps
  withFragment text fragment :=
    (PyText.urlsplit netlocOk text.toList).map fun u =>
      String.ofList (PyText.urlunsplit { u with fragment := fragment.toList })

/-! ### The links that are accepted -/

lemma startsWith_iff {start : String} {text : List Char} :
    startsWith start text ↔ start.toList <+: text := by
  rw [startsWith, decide_eq_true_eq]

/-- What starts with a scheme starts with the texts the scheme starts with, and with no text that
differs from it. -/
lemma startsWith_of_scheme {start scheme : String} {text : List Char}
    (hs : startsWith scheme text)
    (hcmp : startsWith start scheme.toList ∨ ¬startsWith scheme start.toList) :
    startsWith start text = startsWith start scheme.toList := by
  rw [startsWith_iff] at hs
  rw [Bool.eq_iff_iff, startsWith_iff, startsWith_iff]
  refine ⟨fun h => ?_, fun h => h.trans hs⟩
  rcases hcmp with hc | hc
  · exact startsWith_iff.mp hc
  · rw [startsWith_iff] at hc
    exact (List.prefix_or_prefix_of_prefix h hs).resolve_right hc

/-- The links `parse_configs` accepts, with their types. -/
def acceptedTypes : List (String × ConfigType) :=
  [("vmess://", .vmess), ("vless://", .vless), ("trojan://", .trojan), ("ss://", .shadowsocks),
    ("hysteria2://", .hysteria2), ("hy2://", .hysteria2)]

/-- A link that starts with an accepted scheme has its type. -/
lemma detectConfigType_of_scheme {scheme : String} {t : ConfigType}
    (hs : (scheme, t) ∈ acceptedTypes) {c : String} (hc : startsWith scheme c.toList) :
    detectConfigType c = some t := by
  obtain ⟨rest, hrest⟩ := startsWith_iff.mp hc
  have hlower : ∀ {a : String}, a.toList.flatMap PyText.lowerChar = a.toList → a = scheme →
      startsWith a (PyText.lower c) := by
    rintro a ha rfl
    rw [startsWith_iff, PyText.lower, ← hrest, List.flatMap_append, ha]
    exact List.prefix_append _ _
  simp only [acceptedTypes, List.mem_cons, Prod.mk.injEq, List.not_mem_nil, or_false] at hs
  rcases hs with ⟨rfl, rfl⟩ | ⟨rfl, rfl⟩ | ⟨rfl, rfl⟩ | ⟨rfl, rfl⟩ | ⟨rfl, rfl⟩ | ⟨rfl, rfl⟩ <;>
  · have h := hlower (by decide) rfl
    simp (disch := decide) only [detectConfigType, startsWith_of_scheme h]
    decide

/-- What `parse_configs` accepts starts with an accepted scheme. -/
lemma accepted_cases {text c : String} {t : ConfigType}
    (h : (c, t) ∈ ConfigService.parseConfigs text) :
    ∃ scheme, (scheme, t) ∈ acceptedTypes ∧ startsWith scheme c.toList := by
  obtain ⟨line, -, hline⟩ := List.mem_filterMap.mp h
  split_ifs at hline with hany
  obtain ⟨t', ht', he⟩ := Option.map_eq_some_iff.mp hline
  obtain ⟨rfl, rfl⟩ := Prod.mk.inj he
  obtain ⟨scheme, hs, hstart⟩ := List.any_eq_true.mp hany
  have hmap : acceptedTypes.map Prod.fst = ConfigService.acceptedSchemes := rfl
  rw [← hmap] at hs
  obtain ⟨⟨scheme', t''⟩, hmem, rfl⟩ := List.mem_map.mp hs
  have htype := detectConfigType_of_scheme hmem hstart
  rw [ht', Option.some.injEq] at htype
  exact ⟨scheme', htype ▸ hmem, hstart⟩

/-! ### What a renaming is to do -/

/-- The technical part stays, and what was rewritten has the new name. -/
structure RenamedWell (lib : LinkLib) (c : String) (t : ConfigType) (s : String) : Prop where
  details : (getConfigIdentity lib.toConfigLib (formatConfigRemark lib c t s) t).2
    = (getConfigIdentity lib.toConfigLib c t).2
  remark : formatConfigRemark lib c t s ≠ c →
    extractRemark lib.toConfigLib (formatConfigRemark lib c t s) t = some s

/-- What is not rewritten is as it was. -/
lemma RenamedWell.of_same {lib : LinkLib} {c s : String} {t : ConfigType}
    (h : formatConfigRemark lib c t s = c) : RenamedWell lib c t s :=
  ⟨by rw [h], fun hne => absurd h hne⟩

/-! ### Links of shadowsocks -/

variable {netlocOk : List Char → Bool} {json : JsonLib} {c s : String} {t : ConfigType}

lemma beforeHash_splice (main fragment : String) (hmain : ∀ ch ∈ main.toList, ch ≠ '#') :
    beforeHash (main ++ "#" ++ fragment) = main := by
  have hall : ∀ ch ∈ main.toList, decide (ch ≠ '#') := fun ch h => by simpa using hmain ch h
  rw [beforeHash, String.toList_append, String.toList_append, List.append_assoc,
    List.takeWhile_append_of_pos hall]
  simp

lemma afterHash?_splice (main fragment : String) (hmain : ∀ ch ∈ main.toList, ch ≠ '#') :
    afterHash? (main ++ "#" ++ fragment) = some fragment := by
  have hall : ∀ ch ∈ main.toList, decide (ch ≠ '#') := fun ch h => by simpa using hmain ch h
  rw [afterHash?, String.toList_append, String.toList_append, List.append_assoc,
    List.dropWhile_append_of_pos hall]
  simp

lemma toList_beforeHash (text : String) :
    (beforeHash text).toList = text.toList.takeWhile (· ≠ '#') := String.toList_ofList

lemma ne_hash_of_mem_beforeHash {ch : Char} (h : ch ∈ (beforeHash c).toList) : ch ≠ '#' := by
  rw [toList_beforeHash] at h
  simpa using List.mem_takeWhile_imp h

/-- The new name can be read back. -/
lemma extractRemark_renamed_shadowsocks (netlocOk : List Char → Bool) (json : JsonLib)
    (c s : String) :
    extractRemark (pyLib netlocOk json).toConfigLib
      (formatConfigRemark (pyLib netlocOk json) c .shadowsocks s) .shadowsocks = some s := by
  have hformat : formatConfigRemark (pyLib netlocOk json) c .shadowsocks s
      = beforeHash c ++ "#" ++ PyText.quote s := rfl
  rw [hformat, extractRemark, afterHash?_splice _ _ fun _ => ne_hash_of_mem_beforeHash]
  exact congrArg some (PyText.unquote_quote s)

/-- Their text is spliced, and nothing is lost. -/
lemma renamed_shadowsocks : RenamedWell (pyLib netlocOk json) c .shadowsocks s := by
  have hformat : formatConfigRemark (pyLib netlocOk json) c .shadowsocks s
      = beforeHash c ++ "#" ++ PyText.quote s := rfl
  have hmain : ∀ ch ∈ (beforeHash c).toList, ch ≠ '#' := fun _ => ne_hash_of_mem_beforeHash
  have hdetails : ∀ text, (getConfigIdentity (pyLib netlocOk json).toConfigLib text
      .shadowsocks).2 = linkDetails text := by
    intro text
    simp only [getConfigIdentity, extractRemark]
    cases afterHash? text <;> simp only
  refine ⟨?_, fun _ => extractRemark_renamed_shadowsocks netlocOk json c s⟩
  rw [hdetails, hdetails, hformat, linkDetails, linkDetails, beforeHash_splice _ _ hmain]

/-! ### Links that are parsed as URLs -/

/-- The types whose links `urlparse` takes apart. -/
def ConfigType.isParsed : ConfigType → Bool
  | .vless | .trojan | .hysteria2 => true
  | .vmess | .shadowsocks => false

/-- Their schemes. -/
def parsedSchemes : List String := ["vless", "trojan", "hysteria2", "hy2"]

lemma linkScheme_of_mem {scheme : String} (h : scheme ∈ parsedSchemes) :
    PyText.LinkScheme scheme.toList := by
  simp only [parsedSchemes, List.mem_cons, List.not_mem_nil, or_false] at h
  rcases h with rfl | rfl | rfl | rfl <;>
  exact ⟨by decide, List.all_eq_true.mp (by decide), by decide, by decide⟩

/-- An accepted link of such a type has such a scheme. -/
lemma parsed_cases {scheme : String} (hs : (scheme, t) ∈ acceptedTypes) (ht : t.isParsed)
    (hc : startsWith scheme c.toList) :
    ∃ name ∈ parsedSchemes, ∃ rest, c.toList = name.toList ++ ':' :: '/' :: '/' :: rest := by
  obtain ⟨rest, hrest⟩ := startsWith_iff.mp hc
  simp only [acceptedTypes, List.mem_cons, Prod.mk.injEq, List.not_mem_nil, or_false] at hs
  rcases hs with ⟨rfl, rfl⟩ | ⟨rfl, rfl⟩ | ⟨rfl, rfl⟩ | ⟨rfl, rfl⟩ | ⟨rfl, rfl⟩ | ⟨rfl, rfl⟩
  · cases ht
  · exact ⟨"vless", by decide, rest, hrest.symm⟩
  · exact ⟨"trojan", by decide, rest, hrest.symm⟩
  · cases ht
  · exact ⟨"hysteria2", by decide, rest, hrest.symm⟩
  · exact ⟨"hy2", by decide, rest, hrest.symm⟩

lemma isParsed_cases (ht : t.isParsed) : t = .vless ∨ t = .trojan ∨ t = .hysteria2 := by
  cases t <;> simp [ConfigType.isParsed] at ht ⊢

lemma formatConfigRemark_parsed (ht : t.isParsed) (lib : LinkLib) :
    formatConfigRemark lib c t s = (lib.withFragment c (PyText.quote s)).getD c := by
  rcases isParsed_cases ht with rfl | rfl | rfl <;> rfl

lemma details_parsed (ht : t.isParsed) (lib : ConfigLib) :
    (getConfigIdentity lib c t).2 = linkDetails c := by
  rcases isParsed_cases ht with rfl | rfl | rfl <;>
  · simp only [getConfigIdentity, extractRemark]
    cases lib.urlFragment c <;> simp only

lemma extractRemark_parsed (ht : t.isParsed) {lib : ConfigLib} {fragment : String}
    (h : lib.urlFragment c = some fragment) :
    extractRemark lib c t = some (lib.unquote fragment) := by
  rcases isParsed_cases ht with rfl | rfl | rfl <;> simp only [extractRemark, h]

/-- Where `hy2` is written out, nothing else of that scheme is the same. -/
lemma not_startsWith_writtenOut (x : String) :
    ¬startsWith "hy2:" ("hysteria2://" ++ x).toList := by
  have h : startsWith "hysteria2://" ("hysteria2://" ++ x).toList := by
    rw [startsWith_iff, String.toList_append]
    exact List.prefix_append _ _
  rw [startsWith_of_scheme h (by decide)]
  decide

lemma eq_of_dropText {a b start : String} (ha : startsWith start a.toList)
    (hb : startsWith start b.toList)
    (h : dropText start.toList.length a = dropText start.toList.length b) : a = b := by
  obtain ⟨x, hx⟩ := startsWith_iff.mp ha
  obtain ⟨y, hy⟩ := startsWith_iff.mp hb
  rw [dropText, dropText, ← hx, ← hy, List.drop_left, List.drop_left, String.ofList_inj] at h
  rw [← String.ofList_toList (s := a), ← String.ofList_toList (s := b), ← hx, ← hy, h]

/-- The technical parts of two links with one scheme are the same only if the links are the same up
to the `#`. -/
lemma linkDetails_eq_iff {d name : String} (hname : name ∈ parsedSchemes)
    (hc : startsWith (name ++ ":") (beforeHash c).toList)
    (hd : startsWith (name ++ ":") (beforeHash d).toList) :
    linkDetails d = linkDetails c ↔ beforeHash d = beforeHash c := by
  refine ⟨fun h => ?_, fun h => by rw [linkDetails, linkDetails, h]⟩
  rw [linkDetails, linkDetails] at h
  simp only [parsedSchemes, List.mem_cons, List.not_mem_nil, or_false] at hname
  have hother : name = "vless" ∨ name = "trojan" ∨ name = "hysteria2" →
      beforeHash d = beforeHash c := by
    intro ho
    have hno : ∀ {text}, startsWith (name ++ ":") text → startsWith "hy2://" text = false := by
      intro text ht
      rcases ho with rfl | rfl | rfl <;>
      · rw [startsWith_of_scheme ht (by decide)]
        decide
    simpa only [hno hc, hno hd, Bool.false_eq_true, if_false] using h
  rcases hname with hn | hn | hn | rfl
  · exact hother (.inl hn)
  · exact hother (.inr (.inl hn))
  · exact hother (.inr (.inr hn))
  · -- an `hy2` link is written out, unless its slashes are gone
    by_cases hc' : startsWith "hy2://" (beforeHash c).toList <;>
    by_cases hd' : startsWith "hy2://" (beforeHash d).toList
    · simp only [hc', hd', if_true] at h
      exact eq_of_dropText hd' hc' (String.append_right_inj _ |>.mp h)
    · simp only [hc', hd', if_true, Bool.false_eq_true, if_false] at h
      exact absurd (h ▸ hd) (not_startsWith_writtenOut _)
    · simp only [hc', hd', if_true, Bool.false_eq_true, if_false] at h
      exact absurd (h ▸ hc) (not_startsWith_writtenOut _)
    · simpa only [hc', hd', Bool.false_eq_true, if_false] using h

/-- Where `urlparse` does not raise: the part up to the `#` has none of the characters that are
removed, a `netloc` or a path that starts with two slashes, and no empty query. -/
def KeepsLink (netlocOk : List Char → Bool) (c : String) : Prop :=
  ∀ u, PyText.urlsplit netlocOk c.toList = some u →
    (∀ ch ∈ (beforeHash c).toList, PyText.isUnsafe ch = false)
    ∧ (u.netloc ≠ [] ∨ ['/', '/'] <+: u.path)
    ∧ (u.query ≠ [] ∨ '?' ∉ (beforeHash c).toList)

/-- A quoted name has none of the characters that are removed. -/
lemma isUnsafe_quote {ch : Char} (h : ch ∈ (PyText.quote s).toList) :
    PyText.isUnsafe ch = false := by
  have hvisible := (PyText.quote_visible h).1
  rw [← Bool.not_eq_true]
  intro hu
  simp only [PyText.isUnsafe, Bool.or_eq_true, decide_eq_true_eq] at hu
  rcases hu with (rfl | rfl) | rfl <;> exact absurd hvisible (by decide)

/-- A text that is parsed is put together again, and the new name can be read back. -/
lemma renamed_of_urlsplit (ht : t.isParsed) (json : JsonLib) (s : String) {u : PyText.SplitResult}
    (hu : PyText.urlsplit netlocOk c.toList = some u) :
    formatConfigRemark (pyLib netlocOk json) c t s = String.ofList (PyText.urlunsplit
        { u with fragment := (PyText.quote s).toList })
      ∧ extractRemark (pyLib netlocOk json).toConfigLib
        (formatConfigRemark (pyLib netlocOk json) c t s) t = some s := by
  set d := String.ofList (PyText.urlunsplit { u with fragment := (PyText.quote s).toList })
    with hd
  have hformat : formatConfigRemark (pyLib netlocOk json) c t s = d := by
    simp only [formatConfigRemark_parsed ht, pyLib, hu, Option.map_some, Option.getD_some, hd]
  have hfragment := PyText.fragment_urlsplit_urlunsplit hu fun ch h => isUnsafe_quote (s := s) h
  have hread : (pyLib netlocOk json).urlFragment d = some (PyText.quote s) := by
    obtain ⟨v, hv, hf⟩ := Option.map_eq_some_iff.mp hfragment
    simp only [pyLib, hd, String.toList_ofList, hv, Option.map_some, hf, String.ofList_toList]
  refine ⟨hformat, ?_⟩
  rw [hformat, extractRemark_parsed ht hread]
  exact congrArg some (PyText.unquote_quote s)

/-- A link with one of these schemes is well renamed exactly if it keeps its part up to the `#`. -/
lemma renamed_parsed_iff {name : String} (hname : name ∈ parsedSchemes) {rest : List Char}
    (hc : c.toList = name.toList ++ ':' :: '/' :: '/' :: rest) (ht : t.isParsed) :
    RenamedWell (pyLib netlocOk json) c t s ↔ KeepsLink netlocOk c := by
  have hs := linkScheme_of_mem hname
  cases hu : PyText.urlsplit netlocOk c.toList with
  | none =>
      have hsame : formatConfigRemark (pyLib netlocOk json) c t s = c := by
        simp only [formatConfigRemark_parsed ht, pyLib, hu, Option.map_none, Option.getD_none]
      refine iff_of_true (.of_same hsame) fun u h => ?_
      rw [hu] at h
      cases h
  | some u =>
      obtain ⟨hformat, hremark⟩ := renamed_of_urlsplit ht json s hu
      set d := String.ofList (PyText.urlunsplit { u with fragment := (PyText.quote s).toList })
        with hd
      have hkeep : KeepsLink netlocOk c ↔ beforeHash d = beforeHash c := by
        rw [beforeHash, beforeHash, String.ofList_inj, hd, String.toList_ofList,
          PyText.beforeHash_urlunsplit_iff hs rest hc hu, KeepsLink, hu]
        simp only [Option.some.injEq, forall_eq', toList_beforeHash]
      have hcolon : ∀ {text : String}, name.toList ++ [':'] <+: text.toList.takeWhile (· ≠ '#') →
          startsWith (name ++ ":") (beforeHash text).toList := by
        intro text h
        rw [startsWith_iff, String.toList_append, toList_beforeHash]
        exact h
      have hdetails : linkDetails d = linkDetails c ↔ beforeHash d = beforeHash c := by
        refine linkDetails_eq_iff hname (hcolon (PyText.scheme_prefix hs rest hc)) (hcolon ?_)
        rw [hd, String.toList_ofList]
        exact PyText.scheme_prefix_urlunsplit hs rest hc hu
      constructor
      · intro h
        have h1 := h.details
        rw [hformat, details_parsed ht, details_parsed ht] at h1
        exact hkeep.mpr (hdetails.mp h1)
      · intro h
        have hbefore := hkeep.mp h
        refine ⟨?_, fun _ => hremark⟩
        rw [hformat, details_parsed ht, details_parsed ht, linkDetails, linkDetails, hbefore]

/-! ### Links of vmess -/

/-- Where a `vmess` document can be read, its name is a text, if it has one. -/
def NamedByText (lib : ConfigLib) (c : String) : Prop :=
  ∀ data, (decodedBody lib c).bind lib.loads = some (.obj data) →
    ∀ v, Dict.get? data "ps" = some v → ∃ name, v = .str name

/-- `safe_b64decode` has nothing to repair in what `b64encode` writes. -/
lemma safeB64decode_b64encode {lib : ConfigLib} (hlib : lib.b64decode = PyText.b64decode?)
    (text : String) : safeB64decode lib (PyText.b64encode text) = some text := by
  have hdigit : ∀ n < 64, PyText.isSpace (PyText.b64Digit n) = false
      ∧ PyText.b64Digit n ≠ '-' ∧ PyText.b64Digit n ≠ '_' := by decide
  have hchar : ∀ ch ∈ (PyText.b64encode text).toList,
      PyText.isSpace ch = false ∧ ch ≠ '-' ∧ ch ≠ '_' := by
    intro ch hch
    rw [PyText.b64encode, String.toList_ofList] at hch
    rcases PyText.mem_b64Chars hch with rfl | ⟨n, hn, rfl⟩
    · decide
    · exact hdigit n hn
  have hstrip : PyText.stripChars (PyText.b64encode text).toList
      = (PyText.b64encode text).toList := PyText.stripChars_eq_self fun ch h => (hchar ch h).1
  have hmap : (PyText.b64encode text).toList.map (fun ch =>
      if ch = '-' then '+' else if ch = '_' then '/' else ch) = (PyText.b64encode text).toList := by
    refine (List.map_congr_left fun ch h => ?_).trans (List.map_id _)
    rw [if_neg (hchar ch h).2.1, if_neg (hchar ch h).2.2]
    rfl
  have hlength : (PyText.b64encode text).toList.length % 4 = 0 := by
    rw [PyText.b64encode, String.toList_ofList, PyText.length_b64Chars]
  simp only [safeB64decode, hstrip, hmap, hlength, if_true, String.ofList_toList, hlib]
  exact PyText.b64decode?_b64encode text

/-- What `vmess` links are written with. -/
lemma decodedBody_vmess {lib : ConfigLib} (hlib : lib.b64decode = PyText.b64decode?)
    {text : String} (hne : text ≠ "") :
    decodedBody lib ("vmess://" ++ PyText.b64encode text) = some text := by
  have hdrop : dropText 8 ("vmess://" ++ PyText.b64encode text) = PyText.b64encode text := by
    rw [dropText, String.toList_append]
    exact String.ofList_toList
  rw [decodedBody, hdrop, safeB64decode_b64encode hlib, Option.filter_some,
    if_pos (decide_eq_true hne)]

lemma remarkOfDocument_isSome_iff (data : Dict) :
    (remarkOfDocument (.obj data)).isSome
      ↔ ∀ v, Dict.get? data "ps" = some v → ∃ name, v = .str name := by
  rw [remarkOfDocument]
  cases Dict.get? data "ps" with
  | none => simp
  | some v => cases v <;> simp

section

variable {lib : ConfigLib} {data : Dict}
  (hdoc : (decodedBody lib c).bind lib.loads = some (.obj data))
include hdoc

lemma extractRemark_vmess : extractRemark lib c .vmess = remarkOfDocument (.obj data) := by
  obtain ⟨decoded, hdecoded, hloads⟩ := Option.bind_eq_some_iff.mp hdoc
  simp only [extractRemark, hdecoded, hloads]

/-- The technical part of a document whose name can be taken is the rest of it. -/
lemma details_vmess (hc : startsWith "vmess://" c.toList)
    (hname : (remarkOfDocument (.obj data)).isSome) :
    (getConfigIdentity lib c .vmess).2 = lib.dumpsSorted (.obj (Dict.without data "ps")) := by
  obtain ⟨name, hname⟩ := Option.isSome_iff_exists.mp hname
  simp only [getConfigIdentity, extractRemark_vmess hdoc, hname, hc, if_true, hdoc,
    Option.bind_some, detailsOfDocument]

/-- The technical part of one whose name is no text is the whole link. -/
lemma details_vmess_of_other (hname : ¬(remarkOfDocument (.obj data)).isSome) :
    (getConfigIdentity lib c .vmess).2 = c := by
  rw [Option.not_isSome_iff_eq_none] at hname
  simp only [getConfigIdentity, extractRemark_vmess hdoc, hname]

end

/-- A document that can be read is written with the new name, and can be read again. -/
lemma renamed_of_document (hjson : json.Documented) (netlocOk : List Char → Bool) (s : String)
    (hc : startsWith "vmess://" c.toList) {data : Dict}
    (hdoc : (decodedBody (pyLib netlocOk json).toConfigLib c).bind json.loads = some (.obj data)) :
    formatConfigRemark (pyLib netlocOk json) c .vmess s
        = "vmess://" ++ PyText.b64encode (json.dumps (.obj (Dict.set data "ps" (.str s))))
      ∧ (decodedBody (pyLib netlocOk json).toConfigLib
          (formatConfigRemark (pyLib netlocOk json) c .vmess s)).bind json.loads
        = some (.obj (Dict.set data "ps" (.str s)))
      ∧ extractRemark (pyLib netlocOk json).toConfigLib
          (formatConfigRemark (pyLib netlocOk json) c .vmess s) .vmess = some s := by
  have hformat : formatConfigRemark (pyLib netlocOk json) c .vmess s
      = "vmess://" ++ PyText.b64encode (json.dumps (.obj (Dict.set data "ps" (.str s)))) := by
    simp only [formatConfigRemark, hc, if_true]
    rw [show (decodedBody (pyLib netlocOk json).toConfigLib c).bind (pyLib netlocOk json).loads
      = some (.obj data) from hdoc]
    rfl
  have hread : (decodedBody (pyLib netlocOk json).toConfigLib
      (formatConfigRemark (pyLib netlocOk json) c .vmess s)).bind json.loads
      = some (.obj (Dict.set data "ps" (.str s))) := by
    obtain ⟨decoded, -, hloads⟩ := Option.bind_eq_some_iff.mp hdoc
    have hne : json.dumps (.obj (Dict.set data "ps" (.str s))) ≠ "" := fun he => by
      have hbrace := hjson.dumps_obj (Dict.set data "ps" (.str s))
      rw [he] at hbrace
      cases hbrace
    rw [hformat, decodedBody_vmess rfl hne, Option.bind_some]
    exact hjson.loads_dumps decoded data "ps" s hloads
  refine ⟨hformat, hread, ?_⟩
  rw [extractRemark_vmess hread, remarkOfDocument, Dict.get?_set]

/-- A `vmess` link is well renamed exactly if its document cannot be read, is no dictionary, or has
no name but a text. -/
lemma renamed_vmess_iff (hjson : json.Documented) (hc : startsWith "vmess://" c.toList) :
    RenamedWell (pyLib netlocOk json) c .vmess s
      ↔ NamedByText (pyLib netlocOk json).toConfigLib c := by
  set lib := pyLib netlocOk json with hlib
  by_cases hobj : ∃ data, (decodedBody lib.toConfigLib c).bind lib.loads = some (.obj data)
  · obtain ⟨data, hdoc⟩ := hobj
    have hnamed : NamedByText lib.toConfigLib c ↔ (remarkOfDocument (.obj data)).isSome := by
      rw [remarkOfDocument_isSome_iff, NamedByText]
      exact ⟨fun h => h data hdoc, fun h data' hdoc' => by
        rw [hdoc, Option.some.injEq, Json.obj.injEq] at hdoc'
        exact hdoc' ▸ h⟩
    obtain ⟨hformat, hdoc', hremark⟩ := renamed_of_document hjson netlocOk s hc hdoc
    rw [hformat] at hdoc' hremark
    set d := "vmess://" ++ PyText.b64encode (json.dumps (.obj (Dict.set data "ps" (.str s))))
      with hd
    have hstart : startsWith "vmess://" d.toList := by
      rw [startsWith_iff, hd, String.toList_append]
      exact List.prefix_append _ _
    have hname : (remarkOfDocument (.obj (Dict.set data "ps" (.str s)))).isSome := by
      rw [remarkOfDocument, Dict.get?_set]
      rfl
    have hdetails : (getConfigIdentity lib.toConfigLib d .vmess).2
        = lib.dumpsSorted (.obj (Dict.without data "ps")) := by
      rw [details_vmess hdoc' hstart hname, Dict.without_set]
    rw [hnamed]
    constructor
    · intro h
      by_contra hno
      have h1 := h.details
      rw [hformat, hdetails, details_vmess_of_other hdoc hno] at h1
      -- a document is written in braces, and a link is not
      have hbrace := hjson.dumpsSorted_obj (Dict.without data "ps")
      rw [show json.dumpsSorted (.obj (Dict.without data "ps")) = c from h1] at hbrace
      obtain ⟨rest, hrest⟩ := startsWith_iff.mp hc
      rw [← hrest] at hbrace
      cases hbrace
    · intro h
      refine ⟨?_, fun _ => ?_⟩
      · rw [hformat, hdetails, details_vmess hdoc hc h]
      · rw [hformat, hremark]
  · have hsame : formatConfigRemark lib c .vmess s = c := by
      simp only [formatConfigRemark, hc, if_true]
      cases hdoc : (decodedBody lib.toConfigLib c).bind lib.loads with
      | none => rfl
      | some j =>
          cases j with
          | obj data => exact absurd ⟨data, hdoc⟩ hobj
          | _ => rfl
    exact iff_of_true (.of_same hsame) fun data hdata => absurd ⟨data, hdata⟩ hobj

/-! ### All links -/

/-- The links that can be renamed well. -/
def Renamable (lib : ConfigLib) (netlocOk : List Char → Bool) (c : String) : ConfigType → Prop
  | .shadowsocks => True
  | .vmess => NamedByText lib c
  | .vless | .trojan | .hysteria2 => KeepsLink netlocOk c

/-- **Renaming**: a config that `parse_configs` accepts keeps its technical part under every new
name, and the new name can be read back, exactly if its link is one of these. -/
theorem renamed_iff (netlocOk : List Char → Bool) {json : JsonLib} (hjson : json.Documented)
    {text c : String} {t : ConfigType} (h : (c, t) ∈ ConfigService.parseConfigs text) (s : String) :
    RenamedWell (pyLib netlocOk json) c t s
      ↔ Renamable (pyLib netlocOk json).toConfigLib netlocOk c t := by
  obtain ⟨scheme, hs, hc⟩ := accepted_cases h
  have hparsed : t.isParsed → (RenamedWell (pyLib netlocOk json) c t s ↔ KeepsLink netlocOk c) := by
    intro ht
    obtain ⟨name, hname, rest, hrest⟩ := parsed_cases hs ht hc
    exact renamed_parsed_iff hname hrest ht
  cases t with
  | vmess =>
      obtain rfl : scheme = "vmess://" := by simpa [acceptedTypes] using hs
      exact renamed_vmess_iff hjson hc
  | shadowsocks => exact iff_of_true renamed_shadowsocks trivial
  | vless => exact hparsed rfl
  | trojan => exact hparsed rfl
  | hysteria2 => exact hparsed rfl

/-! ### A link with an empty query -/

/-- No document of the samples is read. -/
def sampleJson : JsonLib := ⟨fun _ => none, fun _ => "{}", fun _ => "{}"⟩

lemma documented_sampleJson : sampleJson.Documented where
  loads_dumps _ _ _ _ h := by cases h
  dumps_obj _ := (by decide : "{}".toList.head? = some '{')
  dumpsSorted_obj _ := (by decide : "{}".toList.head? = some '{')

/-- The libraries of the samples; their hosts need no check. -/
def samplePyLib : LinkLib := pyLib (fun _ => true) sampleJson

/-- A link with a query can be renamed. -/
theorem renamed_iff_sample :
    RenamedWell samplePyLib "vless://id@host.example:443?type=ws#old" .vless "DE 1" := by
  have hmem : ("vless://id@host.example:443?type=ws#old", ConfigType.vless)
      ∈ ConfigService.parseConfigs "vless://id@host.example:443?type=ws#old" := by decide +kernel
  refine (renamed_iff (fun _ => true) documented_sampleJson hmem "DE 1").mpr ?_
  have hsplit : PyText.urlsplit (fun _ => true) "vless://id@host.example:443?type=ws#old".toList
      = some ⟨"vless".toList, "id@host.example:443".toList, [], "type=ws".toList,
        "old".toList⟩ := by decide +kernel
  have hsafe : (beforeHash "vless://id@host.example:443?type=ws#old").toList.all
      (fun ch => !PyText.isUnsafe ch) := by decide +kernel
  intro u hu
  rw [hsplit, Option.some.injEq] at hu
  subst hu
  exact ⟨fun ch hch => by simpa using List.all_eq_true.mp hsafe ch hch, .inl (by decide),
    .inl (by decide)⟩

/-- A link with a `?` and nothing behind it loses it. -/
theorem rename_drops_empty_query :
    ("trojan://pass@host.example:443?#old", ConfigType.trojan)
        ∈ ConfigService.parseConfigs "trojan://pass@host.example:443?#old"
    ∧ (getConfigIdentity samplePyLib.toConfigLib
        (formatConfigRemark samplePyLib "trojan://pass@host.example:443?#old" .trojan "DE 1")
        .trojan).2 = "trojan://pass@host.example:443"
    ∧ (getConfigIdentity samplePyLib.toConfigLib "trojan://pass@host.example:443?#old" .trojan).2
      = "trojan://pass@host.example:443?"
    ∧ ¬RenamedWell samplePyLib "trojan://pass@host.example:443?#old" .trojan "DE 1" := by
  have hnew : (getConfigIdentity samplePyLib.toConfigLib
      (formatConfigRemark samplePyLib "trojan://pass@host.example:443?#old" .trojan "DE 1")
      .trojan).2 = "trojan://pass@host.example:443" := by decide +kernel
  have hold : (getConfigIdentity samplePyLib.toConfigLib "trojan://pass@host.example:443?#old"
      .trojan).2 = "trojan://pass@host.example:443?" := by decide +kernel
  refine ⟨by decide +kernel, hnew, hold, fun h => ?_⟩
  have hsame := h.details
  rw [hnew, hold] at hsame
  exact absurd hsame (by decide)

end V2raySub
