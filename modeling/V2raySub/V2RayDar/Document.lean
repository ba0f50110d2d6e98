import V2raySub.Base.WireDecode
import V2raySub.V2RayDar.Sweep

/-!
The links of a subscription (`parser/mod.rs`, `parse_subscription_document`): they are looked for in
the text, in what it decodes to, in the texts of it as JSON and as YAML, and last in the formats
that have a reader of their own.

* `entriesOf`: the links of a text, between spaces, quotes, commas and brackets.
* `Collection`: the candidates so far and the links seen; each stage adds to it.
* `Collection.Ok`, `Grows`: what every stage keeps, and that it loses nothing.
* `parse_document_finds`: **every readable link of every reading of the document is a candidate,
  once**, and every candidate is such a link, or one of a format with a reader of its own, which was
  asked because nothing had been found.
-/

open scoped List

namespace V2RayDar

/-! ### Links -/

/-- What a link says of itself. -/
structure ParsedLink where
  protocol : String
  name : String
  endpoint : Endpoint
  deriving DecidableEq

/-- How a link is read (`parse_vmess`, `parse_shadowsocks`, `parse_shadowsocksr`,
`parse_standard_uri`), and the keys that are made of it. -/
structure LinkLib where
  parse : String → Except String ParsedLink
  hashUri : String → String
  configDedupKey : String → Endpoint → String → String

/-- `parse_share_link`: the candidate of a link. -/
def parseShareLink (links : LinkLib) (source : String) (priority : ℕ) (uri : String) :
    Except String Candidate :=
  match links.parse uri with
  | .error err => .error err
  | .ok parsed => .ok {
      id := links.hashUri uri
      dedupKey := links.configDedupKey parsed.protocol parsed.endpoint uri
      source := source
      priority := priority
      protocol := parsed.protocol
      name := parsed.name
      endpoint := parsed.endpoint
      uri := uri }

/-- `SUPPORTED_URI_SCHEMES`. -/
def supportedUriSchemes : List String :=
  ["vmess://", "vless://", "trojan://", "ss://", "ssr://", "hysteria2://", "hy2://", "tuic://"]

/-- The text begins with a scheme the engine knows. -/
def hasSupportedScheme (entry : String) : Bool :=
  supportedUriSchemes.any fun scheme =>
    scheme.toList.isPrefixOf (entry.toList.map toAsciiLowercase)

/-! ### The links of a text -/

/-- A double or a single quote. -/
def isQuote (c : Char) : Bool := c.toNat == 0x22 || c.toNat == 0x27

/-- `is_token_boundary`. -/
def isTokenBoundary (c : Char) : Bool :=
  isWhitespace c || isQuote c || [',', '[', ']'].contains c

/-- `str::trim_matches`. -/
def trimMatches (p : Char → Bool) (cs : List Char) : List Char :=
  ((cs.dropWhile p).reverse.dropWhile p).reverse

/-- What is cut off from an entry. -/
def isEntryQuote (c : Char) : Bool := isQuote c || [',', ';'].contains c

/-- The entry of a piece of the text. -/
def entryOf (token : List Char) : String := String.ofList (trimMatches isEntryQuote (trim token))

/-- The entries of a text, in their order. -/
def entriesOf (text : String) : List String :=
  ((text.toList.splitOnP isTokenBoundary).map entryOf).filter hasSupportedScheme

/-! ### What is collected -/

/-- The candidates and the links seen (`seen_entries`). -/
structure Collection where
  candidates : List Candidate
  seen : List String

namespace Collection

def empty : Collection := ⟨[], []⟩

/-- A link that was not seen is read. -/
def addEntry (links : LinkLib) (source : String) (priority : ℕ) (s : Collection) (entry : String) :
    Collection :=
  if entry ∈ s.seen then s
  else
    match parseShareLink links source priority entry with
    | .ok candidate => ⟨s.candidates ++ [candidate], entry :: s.seen⟩
    | .error _ => ⟨s.candidates, entry :: s.seen⟩

/-- A candidate whose link was not seen. -/
def addCandidate (s : Collection) (candidate : Candidate) : Collection :=
  if candidate.uri ∈ s.seen then s
  else ⟨s.candidates ++ [candidate], candidate.uri :: s.seen⟩

end Collection

/-- A JSON or YAML value, as far as it holds texts: the items of a list, or the values of an object
in its order. -/
inductive Doc where
  | text (s : String)
  | values (items : List Doc)
  | other

/-- `collect_entries_from_text`. -/
def collectEntriesFromText (links : LinkLib) (source : String) (priority : ℕ) (s : Collection)
    (text : String) : Collection :=
  (entriesOf text).foldl (Collection.addEntry links source priority) s

mutual

/-- `collect_entries_from_json` and `collect_entries_from_yaml`. -/
def collectEntriesFromDoc (links : LinkLib) (source : String) (priority : ℕ) (s : Collection) :
    Doc → Collection
  | .text t => collectEntriesFromText links source priority s t
  | .values items => collectEntriesFromItems links source priority s items
  | .other => s

/-- The loops over the items. -/
def collectEntriesFromItems (links : LinkLib) (source : String) (priority : ℕ) (s : Collection) :
    List Doc → Collection
  | [] => s
  | item :: items =>
    collectEntriesFromItems links source priority
      (collectEntriesFromDoc links source priority s item) items

end

/-! ### Base64 -/

/-- The four engines of the decoder. -/
structure Base64Lib where
  standard : List Char → Option (List UInt8)
  urlSafe : List Char → Option (List UInt8)
  standardNoPad : List Char → Option (List UInt8)
  urlSafeNoPad : List Char → Option (List UInt8)

/-- `pad_base64`. -/
def padBase64 (cs : List Char) : List Char :=
  cs ++ List.replicate ((4 - (PyText.utf8 (String.ofList cs)).length % 4) % 4) '='

/-- `decode_base64_bytes`: the first engine that reads the text. -/
def decodeBase64Bytes (lib : Base64Lib) (value : List Char) : Option (List UInt8) :=
  let normalized := (trim value).filter fun c => !(['\r', '\n'].contains c)
  if normalized.isEmpty = true then none
  else
    ([lib.standard, lib.urlSafe, lib.standardNoPad, lib.urlSafeNoPad].findSome? (· normalized)).or
      ([lib.standard, lib.urlSafe].findSome? (· (padBase64 normalized)))

/-- `decode_base64_to_string`. -/
def decodeBase64ToString (lib : Base64Lib) (value : List Char) : Option String :=
  (decodeBase64Bytes lib value).bind PyText.decodeUtf8?

/-! ### The document -/

/-- A link in a page: in an attribute, or in the text of one of its blocks. -/
structure HtmlLink where
  entry : String
  inAttribute : Bool

/-- What the document is read with: the decoder, `serde_json` and `serde_yaml`, and the links that
the readers of Clash, HTML and Xray documents find. -/
structure DocumentLib where
  links : LinkLib
  base64 : Base64Lib
  json : String → Option Doc
  yaml : String → Option Doc
  clash : List UInt8 → List String
  html : List UInt8 → List HtmlLink
  xray : List UInt8 → List String

section Parser

variable (lib : DocumentLib) (source : String) (priority : ℕ) (body : List UInt8)

/-- The candidates of links in a document with a reader of its own. -/
def readLinks (uris : List String) : List Candidate :=
  uris.filterMap fun uri => (parseShareLink lib.links source priority uri).toOption

/-- The candidates of a Clash config. -/
def tryParseClashSubscription : List Candidate :=
  readLinks lib source priority ((lib.clash body).filter hasSupportedScheme)

/-- A link in an attribute is read without its source. -/
def Collection.addHtmlLink (s : Collection) (link : HtmlLink) : Collection :=
  if link.inAttribute = true then
    if link.entry.isEmpty = true then s else s.addEntry lib.links "" 0 link.entry
  else if hasSupportedScheme link.entry = true then s.addEntry lib.links source priority link.entry
  else s

/-- The candidates of a page, each link once. -/
def tryExtractFromHtml : List Candidate :=
  ((lib.html body).foldl (Collection.addHtmlLink lib source priority) .empty).candidates

/-- The candidates of an Xray config. -/
def tryParseXrayConfigs : List Candidate := readLinks lib source priority (lib.xray body)

/-- A reader that is asked where nothing was found so far. -/
def Collection.orElse (s : Collection) (found : List Candidate) : Collection :=
  if s.candidates.isEmpty = true then found.foldl Collection.addCandidate s else s

/-- The text of the document (`String::from_utf8_lossy`). -/
def bodyText : String := String.ofList (PyText.decodeReplace body)

/-- `parse_subscription_document`. -/
def parseSubscriptionDocument : List Candidate :=
  let text := bodyText body
  let fromText := collectEntriesFromText lib.links source priority .empty text
  let fromDecoded := (decodeBase64ToString lib.base64 (trim text.toList)).elim fromText
    (collectEntriesFromText lib.links source priority fromText)
  let fromClash := fromDecoded.orElse (tryParseClashSubscription lib source priority body)
  let fromJson := (lib.json text).elim fromClash
    (collectEntriesFromDoc lib.links source priority fromClash)
  let fromYaml := (lib.yaml text).elim fromJson
    (collectEntriesFromDoc lib.links source priority fromJson)
  let fromHtml := fromYaml.orElse (tryExtractFromHtml lib source priority body)
  (fromHtml.orElse (tryParseXrayConfigs lib source priority body)).candidates

end Parser

/-! ### The texts of a value -/

mutual

/-- The texts of a value, in their order. -/
def Doc.texts : Doc → List String
  | .text t => [t]
  | .values items => Doc.allTexts items
  | .other => []

def Doc.allTexts : List Doc → List String
  | [] => []
  | item :: items => item.texts ++ Doc.allTexts items

end

section Collect

variable {links : LinkLib} {source : String} {priority : ℕ}

mutual

/-- A value is read text by text. -/
lemma collectEntriesFromDoc_eq (s : Collection) (doc : Doc) :
    collectEntriesFromDoc links source priority s doc
      = doc.texts.foldl (collectEntriesFromText links source priority) s := by
  cases doc with
  | text t => rfl
  | values items => exact collectEntriesFromItems_eq s items
  | other => rfl

/-- The walk visits the texts one after the other, however they are nested. -/
lemma collectEntriesFromItems_eq (s : Collection) (items : List Doc) :
    collectEntriesFromItems links source priority s items
      = (Doc.allTexts items).foldl (collectEntriesFromText links source priority) s := by
  cases items with
  | nil => rfl
  | cons item items =>
      rw [collectEntriesFromItems, Doc.allTexts, List.foldl_append,
        ← collectEntriesFromDoc_eq s item]
      exact collectEntriesFromItems_eq _ items

end

end Collect

/-! ### What a stage adds -/

/-- The link can be read. -/
def Readable (links : LinkLib) (uri : String) : Prop := ∃ parsed, links.parse uri = .ok parsed

/-- The candidate was read from its link. -/
def Read (links : LinkLib) (c : Candidate) : Prop :=
  ∃ source priority, parseShareLink links source priority c.uri = .ok c

/-- The candidates are those of the readable links that were seen, each once. -/
structure Collection.Ok (links : LinkLib) (s : Collection) : Prop where
  nodup : (s.candidates.map Candidate.uri).Nodup
  seen : ∀ c ∈ s.candidates, c.uri ∈ s.seen
  read : ∀ c ∈ s.candidates, Read links c
  all : ∀ e ∈ s.seen, Readable links e → e ∈ s.candidates.map Candidate.uri

/-- From `s` to `s'` all of the links `must` were looked at, and no others than the links `may`. -/
structure Adds (links : LinkLib) (must may : List String) (s s' : Collection) : Prop where
  ok : s'.Ok links
  keeps : s.candidates <+: s'.candidates
  seen : s.seen ⊆ s'.seen
  all : must ⊆ s'.seen
  only : ∀ c ∈ s'.candidates, c ∈ s.candidates ∨ c.uri ∈ may

section Stages

variable {links : LinkLib} {source : String} {priority : ℕ} {s s' s'' : Collection}
  {must must' may may' : List String} {entry uri : String} {c : Candidate}

/-- A candidate keeps its link. -/
lemma uri_of_parseShareLink (h : parseShareLink links source priority uri = .ok c) :
    c.uri = uri := by
  unfold parseShareLink at h
  cases hparse : links.parse uri with
  | error err =>
      rw [hparse] at h
      cases h
  | ok parsed =>
      rw [hparse] at h
      cases h
      rfl

/-- What was made of a link was read from it. -/
lemma read_of_parseShareLink (h : parseShareLink links source priority uri = .ok c) :
    Read links c := ⟨source, priority, by rw [uri_of_parseShareLink h, h]⟩

/-- A link that can be read gives a candidate, whatever its source. -/
lemma parseShareLink_of_readable (h : Readable links uri) (source : String) (priority : ℕ) :
    ∃ c, parseShareLink links source priority uri = .ok c := by
  obtain ⟨parsed, hparsed⟩ := h
  exact ⟨_, by rw [parseShareLink, hparsed]⟩

lemma Adds.refl (h : s.Ok links) : Adds links [] [] s s where
  ok := h
  keeps := List.prefix_refl _
  seen := List.Subset.refl _
  all := List.nil_subset _
  only _ hc := .inl hc

/-- One step after the other. -/
lemma Adds.trans (h : Adds links must may s s') (h' : Adds links must' may' s' s'') :
    Adds links (must ++ must') (may ++ may') s s'' where
  ok := h'.ok
  keeps := h.keeps.trans h'.keeps
  seen := List.Subset.trans h.seen h'.seen
  all := List.append_subset.mpr ⟨List.Subset.trans h.all h'.seen, h'.all⟩
  only c hc := by
    rcases h'.only c hc with hold | hnew
    · exact (h.only c hold).imp_right fun hmay => List.mem_append_left _ hmay
    · exact .inr (List.mem_append_right _ hnew)

/-- Less may be asked for, and more allowed. -/
lemma Adds.weaken (h : Adds links must may s s') (hmust : must' ⊆ must) (hmay : may ⊆ may') :
    Adds links must' may' s s' :=
  { h with
    all := List.Subset.trans hmust h.all
    only := fun c hc => (h.only c hc).imp_right fun hc => hmay hc }

/-- A candidate more, with its link. -/
lemma Collection.Ok.push (h : s.Ok links) (hread : Read links c) (hnew : c.uri ∉ s.seen) :
    Adds links [c.uri] [c.uri] s ⟨s.candidates ++ [c], c.uri :: s.seen⟩ where
  ok := {
    nodup := by
      rw [List.map_append, List.map_singleton]
      refine List.nodup_append.mpr ⟨h.nodup, List.nodup_singleton _, fun a ha b hb hab => hnew ?_⟩
      obtain ⟨c', hc', rfl⟩ := List.mem_map.mp ha
      rw [← List.mem_singleton.mp hb, ← hab]
      exact h.seen c' hc'
    seen := fun c' hc' => by
      rcases List.mem_append.mp hc' with hold | hlast
      · exact List.mem_cons_of_mem _ (h.seen c' hold)
      · rw [List.mem_singleton.mp hlast]
        exact List.mem_cons_self
    read := fun c' hc' => by
      rcases List.mem_append.mp hc' with hold | hlast
      · exact h.read c' hold
      · rwa [List.mem_singleton.mp hlast]
    all := fun e he hreadable => by
      rw [List.map_append, List.mem_append]
      rcases List.mem_cons.mp he with rfl | hold
      · exact .inr (List.mem_singleton_self _)
      · exact .inl (h.all e hold hreadable) }
  keeps := List.prefix_append _ _
  seen := List.subset_cons_self _ _
  all := List.cons_subset.mpr ⟨List.mem_cons_self, List.nil_subset _⟩
  only c' hc' := by
    rcases List.mem_append.mp hc' with hold | hlast
    · exact .inl hold
    · rw [List.mem_singleton.mp hlast]
      exact .inr (List.mem_singleton_self _)

/-- An entry is looked at. -/
lemma adds_addEntry (h : s.Ok links) (source : String) (priority : ℕ) (entry : String) :
    Adds links [entry] [entry] s (s.addEntry links source priority entry) := by
  unfold Collection.addEntry
  split_ifs with hseen
  · exact { Adds.refl h with
      all := List.cons_subset.mpr ⟨hseen, List.nil_subset _⟩
      only := fun c hc => .inl hc }
  · cases hparse : parseShareLink links source priority entry with
    | ok c =>
        obtain rfl := uri_of_parseShareLink hparse
        exact h.push (read_of_parseShareLink hparse) hseen
    | error err =>
        have hno : ¬Readable links entry := fun hreadable => by
          obtain ⟨c, hc⟩ := parseShareLink_of_readable hreadable source priority
          rw [hparse] at hc
          cases hc
        exact {
          ok := { h with
            seen := fun c hc => List.mem_cons_of_mem _ (h.seen c hc)
            all := fun e he hreadable => by
              rcases List.mem_cons.mp he with rfl | hold
              · exact absurd hreadable hno
              · exact h.all e hold hreadable }
          keeps := List.prefix_refl _
          seen := List.subset_cons_self _ _
          all := List.cons_subset.mpr ⟨List.mem_cons_self, List.nil_subset _⟩
          only := fun c hc => .inl hc }

/-- A candidate that was read is added. -/
lemma adds_addCandidate (h : s.Ok links) (hread : Read links c) :
    Adds links [c.uri] [c.uri] s (s.addCandidate c) := by
  unfold Collection.addCandidate
  split_ifs with hseen
  · exact { Adds.refl h with
      all := List.cons_subset.mpr ⟨hseen, List.nil_subset _⟩
      only := fun c hc => .inl hc }
  · exact h.push hread hseen

/-- **The rule for the loops**: what each item adds, all of them add. -/
lemma adds_foldl {α : Type*} (f : Collection → α → Collection) (must may : α → List String)
    (items : List α) (hstep : ∀ a ∈ items, ∀ s : Collection, s.Ok links →
      Adds links (must a) (may a) s (f s a)) (h : s.Ok links) :
    Adds links (items.flatMap must) (items.flatMap may) s (items.foldl f s) := by
  induction items generalizing s with
  | nil => exact .refl h
  | cons a items ih =>
      have hfirst := hstep a List.mem_cons_self s h
      rw [List.flatMap_cons, List.flatMap_cons]
      exact hfirst.trans (ih (fun b hb => hstep b (List.mem_cons_of_mem _ hb)) hfirst.ok)

/-- The entries of a text are looked at. -/
lemma adds_text (h : s.Ok links) (source : String) (priority : ℕ) (text : String) :
    Adds links (entriesOf text) (entriesOf text) s
      (collectEntriesFromText links source priority s text) := by
  have hall := adds_foldl (Collection.addEntry links source priority) (fun e => [e])
    (fun e => [e]) (entriesOf text) (fun e _ s hs => adds_addEntry hs source priority e) h
  rwa [List.flatMap_singleton'] at hall

/-- The entries of the texts of a value are looked at. -/
lemma adds_doc (h : s.Ok links) (source : String) (priority : ℕ) (doc : Doc) :
    Adds links (doc.texts.flatMap entriesOf) (doc.texts.flatMap entriesOf) s
      (collectEntriesFromDoc links source priority s doc) := by
  rw [collectEntriesFromDoc_eq]
  exact adds_foldl _ entriesOf entriesOf doc.texts
    (fun text _ s hs => adds_text hs source priority text) h

/-- What is found elsewhere comes in only where nothing was found so far. -/
lemma mem_orElse {found : List Candidate} (h : c ∈ (s.orElse found).candidates) :
    c ∈ s.candidates ∨ (s.candidates = [] ∧ c ∈ found) := by
  unfold Collection.orElse at h
  split_ifs at h with hempty
  · refine .inr ⟨List.isEmpty_iff.mp hempty, ?_⟩
    -- the loop adds none but the candidates it walks
    have hwalk : ∀ (l : List Candidate) (s : Collection),
        c ∈ (l.foldl Collection.addCandidate s).candidates → c ∈ s.candidates ∨ c ∈ l := by
      intro l
      induction l with
      | nil => exact fun s hc => .inl hc
      | cons first l ih =>
          intro s hc
          rcases ih _ hc with hc | hc
          · unfold Collection.addCandidate at hc
            split_ifs at hc
            · exact .inl hc
            · refine (List.mem_append.mp hc).imp_right fun hc => ?_
              rw [List.mem_singleton.mp hc]
              exact List.mem_cons_self
          · exact .inr (List.mem_cons_of_mem _ hc)
    rcases hwalk found s h with hold | hnew
    · rw [List.isEmpty_iff.mp hempty] at hold
      exact absurd hold List.not_mem_nil
    · exact hnew
  · exact .inl h

/-- A reader adds what it found, where nothing was found before. -/
lemma adds_orElse (h : s.Ok links) (found : List Candidate) (hread : ∀ c ∈ found, Read links c) :
    Adds links (if s.candidates.isEmpty = true then found.map Candidate.uri else [])
      (found.map Candidate.uri) s (s.orElse found) := by
  unfold Collection.orElse
  split_ifs
  · have hall := adds_foldl Collection.addCandidate (fun c => [c.uri]) (fun c => [c.uri]) found
      (fun c hc s hs => adds_addCandidate hs (hread c hc)) h
    have hmap : found.flatMap (fun c => [c.uri]) = found.map Candidate.uri :=
      List.flatMap_pure_eq_map _ _
    rwa [hmap] at hall
  · exact (Adds.refl h).weaken (List.nil_subset _) (List.nil_subset _)

/-- No link of the texts can be read. -/
def NoLink (links : LinkLib) (texts : List String) : Prop :=
  ∀ text ∈ texts, ∀ entry ∈ entriesOf text, ¬Readable links entry

/-- Where nothing is found, nothing of what was looked at can be read. -/
lemma Adds.not_readable (h : Adds links must may s s') (hnil : s'.candidates = []) :
    ∀ e ∈ must, ¬Readable links e := by
  intro e he hreadable
  have hmem := h.ok.all e (h.all he) hreadable
  rw [hnil] at hmem
  exact absurd hmem List.not_mem_nil

/-- Where nothing is found in the end, nothing was found before. -/
lemma Adds.nil_of_nil (h : Adds links must may s s') (hnil : s'.candidates = []) :
    s.candidates = [] := List.prefix_nil.mp (hnil ▸ h.keeps)

/-- The link of a candidate can be read. -/
lemma readable_of_read (h : Read links c) : Readable links c.uri := by
  obtain ⟨source, priority, hparse⟩ := h
  unfold parseShareLink at hparse
  cases hlink : links.parse c.uri with
  | error err =>
      rw [hlink] at hparse
      cases hparse
  | ok parsed => exact ⟨parsed, hlink⟩

/-- Where nothing is found even so, there was nothing to be found. -/
lemma nil_of_orElse (h : s.Ok links) {found : List Candidate} (hread : ∀ c ∈ found, Read links c)
    (hnil : (s.orElse found).candidates = []) : found = [] := by
  have hadds := adds_orElse h found hread
  have hempty := hadds.nil_of_nil hnil
  rw [if_pos (List.isEmpty_iff.mpr hempty)] at hadds
  refine List.eq_nil_iff_forall_not_mem.mpr fun c hc => ?_
  exact hadds.not_readable hnil c.uri (List.mem_map_of_mem hc) (readable_of_read (hread c hc))

end Stages

/-! ### What is found -/

namespace DocumentLib

variable (lib : DocumentLib) (body : List UInt8)

/-- What the document decodes to. -/
def decoded : Option String := decodeBase64ToString lib.base64 (trim (bodyText body).toList)

/-- The texts of a value that was read. -/
def textsOf (doc : Option Doc) : List String := (doc.map Doc.texts).getD []

lemma flatMap_textsOf (f : String → List String) (doc : Option Doc) :
    (textsOf doc).flatMap f = doc.toList.flatMap fun doc => doc.texts.flatMap f := by
  cases doc with
  | none => rfl
  | some doc => exact (List.flatMap_singleton _ _).symm

/-- The text of the document and what it decodes to. -/
def plainReadings : List String := bodyText body :: (lib.decoded body).toList

/-- The texts of it as JSON and as YAML. -/
def docReadings : List String :=
  textsOf (lib.json (bodyText body)) ++ textsOf (lib.yaml (bodyText body))

/-- The texts links are looked for in. -/
def readings : List String := lib.plainReadings body ++ lib.docReadings body

end DocumentLib

section Readers

variable {lib : DocumentLib} {source : String} {priority : ℕ} {body : List UInt8} {c : Candidate}

/-- What a reader gives was read from one of its links. -/
lemma mem_readLinks {uris : List String} (h : c ∈ readLinks lib source priority uris) :
    Read lib.links c ∧ c.uri ∈ uris := by
  obtain ⟨uri, huri, hc⟩ := List.mem_filterMap.mp h
  cases hparse : parseShareLink lib.links source priority uri with
  | error err =>
      rw [hparse] at hc
      cases hc
  | ok c' =>
      rw [hparse] at hc
      cases hc
      exact ⟨read_of_parseShareLink hparse, uri_of_parseShareLink hparse ▸ huri⟩

/-- At the start nothing was seen. -/
lemma ok_empty (links : LinkLib) : Collection.empty.Ok links where
  nodup := List.nodup_nil
  seen _ hc := absurd hc List.not_mem_nil
  read _ hc := absurd hc List.not_mem_nil
  all _ he := absurd he List.not_mem_nil

/-- A link of a page is looked at. -/
lemma adds_addHtmlLink {s : Collection} (h : s.Ok lib.links) (link : HtmlLink) :
    Adds lib.links [] [link.entry] s (s.addHtmlLink lib source priority link) := by
  unfold Collection.addHtmlLink
  split_ifs
  · exact (Adds.refl h).weaken (List.nil_subset _) (List.nil_subset _)
  · exact { adds_addEntry h "" 0 link.entry with all := List.nil_subset _ }
  · exact { adds_addEntry h source priority link.entry with all := List.nil_subset _ }
  · exact (Adds.refl h).weaken (List.nil_subset _) (List.nil_subset _)

/-- What is found in a page was read from one of its links. -/
lemma mem_tryExtractFromHtml (h : c ∈ tryExtractFromHtml lib source priority body) :
    Read lib.links c ∧ c.uri ∈ (lib.html body).map HtmlLink.entry := by
  have hall := adds_foldl (Collection.addHtmlLink lib source priority) (fun _ => [])
    (fun link => [link.entry]) (lib.html body) (fun link _ s hs => adds_addHtmlLink hs link)
    (ok_empty lib.links)
  refine ⟨hall.ok.read c h, ?_⟩
  rcases hall.only c h with hnone | hmay
  · exact absurd hnone List.not_mem_nil
  · obtain ⟨link, hlink, hc⟩ := List.mem_flatMap.mp hmay
    exact List.mem_map.mpr ⟨link, hlink, (List.mem_singleton.mp hc).symm⟩

/-- A reading that may be missing. -/
lemma adds_option {α : Type*} {f : Collection → α → Collection} {must : α → List String}
    {s : Collection} (hstep : ∀ a, Adds lib.links (must a) (must a) s (f s a))
    (h : s.Ok lib.links) (reading : Option α) :
    Adds lib.links (reading.toList.flatMap must) (reading.toList.flatMap must) s
      (reading.elim s (f s)) := by
  cases reading with
  | none => exact .refl h
  | some a =>
      rw [Option.toList_some, List.flatMap_singleton]
      exact hstep a

/-- The stages of the parse: the text and its decoding, the Clash reader, the values, and the two
readers that are asked last. -/
lemma exists_stages (lib : DocumentLib) (source : String) (priority : ℕ) (body : List UInt8) :
    ∃ plain docs : Collection,
      Adds lib.links ((lib.plainReadings body).flatMap entriesOf)
        ((lib.plainReadings body).flatMap entriesOf) .empty plain
      ∧ Adds lib.links ((lib.docReadings body).flatMap entriesOf)
        ((lib.docReadings body).flatMap entriesOf)
        (plain.orElse (tryParseClashSubscription lib source priority body)) docs
      ∧ parseSubscriptionDocument lib source priority body
        = ((docs.orElse (tryExtractFromHtml lib source priority body)).orElse
          (tryParseXrayConfigs lib source priority body)).candidates := by
  have htext := adds_text (ok_empty lib.links) source priority (bodyText body)
  have hdecoded := adds_option (fun text => adds_text htext.ok source priority text) htext.ok
    (lib.decoded body)
  have hclash := adds_orElse hdecoded.ok (tryParseClashSubscription lib source priority body)
    fun c hc => (mem_readLinks hc).1
  have hjson := adds_option (fun doc => adds_doc hclash.ok source priority doc) hclash.ok
    (lib.json (bodyText body))
  have hyaml := adds_option (fun doc => adds_doc hjson.ok source priority doc) hjson.ok
    (lib.yaml (bodyText body))
  have hplain : (lib.plainReadings body).flatMap entriesOf
      = entriesOf (bodyText body) ++ (lib.decoded body).toList.flatMap entriesOf := by
    rw [DocumentLib.plainReadings, List.flatMap_cons]
  have hdocs : (lib.docReadings body).flatMap entriesOf
      = (lib.json (bodyText body)).toList.flatMap (fun doc => doc.texts.flatMap entriesOf)
        ++ (lib.yaml (bodyText body)).toList.flatMap fun doc => doc.texts.flatMap entriesOf := by
    rw [DocumentLib.docReadings, List.flatMap_append, DocumentLib.flatMap_textsOf,
      DocumentLib.flatMap_textsOf]
  have hplainAdds := htext.trans hdecoded
  have hdocsAdds := hjson.trans hyaml
  rw [← hplain] at hplainAdds
  rw [← hdocs] at hdocsAdds
  exact ⟨_, _, hplainAdds, hdocsAdds, rfl⟩

/-- The whole parse, from the empty collection. -/
lemma ok_document (lib : DocumentLib) (source : String) (priority : ℕ) (body : List UInt8) :
    ∃ s : Collection, s.candidates = parseSubscriptionDocument lib source priority body
      ∧ s.Ok lib.links ∧ (lib.readings body).flatMap entriesOf ⊆ s.seen := by
  obtain ⟨plain, docs, hplain, hdocs, heq⟩ := exists_stages lib source priority body
  have hclash := adds_orElse hplain.ok (tryParseClashSubscription lib source priority body)
    fun c hc => (mem_readLinks hc).1
  have hhtml := adds_orElse hdocs.ok (tryExtractFromHtml lib source priority body)
    fun c hc => (mem_tryExtractFromHtml hc).1
  have hxray := adds_orElse hhtml.ok (tryParseXrayConfigs lib source priority body)
    fun c hc => (mem_readLinks hc).1
  have hlast := List.Subset.trans hhtml.seen hxray.seen
  refine ⟨_, heq.symm, hxray.ok, ?_⟩
  rw [DocumentLib.readings, List.flatMap_append]
  refine List.append_subset.mpr ⟨?_, List.Subset.trans hdocs.all hlast⟩
  exact List.Subset.trans hplain.all
    (List.Subset.trans hclash.seen (List.Subset.trans hdocs.seen hlast))

/-- Every candidate was read from its link. -/
lemma read_parseSubscriptionDocument (h : c ∈ parseSubscriptionDocument lib source priority body) :
    Read lib.links c := by
  obtain ⟨s, hs, hok, -⟩ := ok_document lib source priority body
  exact hok.read c (hs ▸ h)

/-- The link is one of a format with a reader of its own, which is asked only where nothing was
found: the Clash reader after the text and its decoding, the other two after everything else. -/
inductive ByOwnReader (lib : DocumentLib) (source : String) (priority : ℕ) (body : List UInt8)
    (c : Candidate) : Prop where
  | clash (listed : c.uri ∈ lib.clash body)
      (before : NoLink lib.links (lib.plainReadings body))
  | html (listed : c.uri ∈ (lib.html body).map HtmlLink.entry)
      (before : NoLink lib.links (lib.readings body))
      (noClash : tryParseClashSubscription lib source priority body = [])
  | xray (listed : c.uri ∈ lib.xray body) (before : NoLink lib.links (lib.readings body))
      (noClash : tryParseClashSubscription lib source priority body = [])
      (noHtml : tryExtractFromHtml lib source priority body = [])

/-- Where nothing was found, no text has a link that can be read. -/
lemma noLink_of_nil {texts : List String} {s s' : Collection} {may : List String}
    (h : Adds lib.links (texts.flatMap entriesOf) may s s') (hnil : s'.candidates = []) :
    NoLink lib.links texts := fun text htext entry hentry =>
  h.not_readable hnil entry (List.mem_flatMap.mpr ⟨text, htext, hentry⟩)

/-- Where a candidate comes from. -/
lemma origin_of_mem (h : c ∈ parseSubscriptionDocument lib source priority body) :
    (∃ text ∈ lib.readings body, c.uri ∈ entriesOf text)
      ∨ ByOwnReader lib source priority body c := by
  obtain ⟨plain, docs, hplain, hdocs, heq⟩ := exists_stages lib source priority body
  have hclash : ∀ c ∈ tryParseClashSubscription lib source priority body, Read lib.links c :=
    fun c hc => (mem_readLinks hc).1
  have hhtml : ∀ c ∈ tryExtractFromHtml lib source priority body, Read lib.links c :=
    fun c hc => (mem_tryExtractFromHtml hc).1
  have hnone : docs.candidates = [] → NoLink lib.links (lib.readings body)
      ∧ tryParseClashSubscription lib source priority body = [] := by
    intro hnil
    have hnil' := hdocs.nil_of_nil hnil
    refine ⟨?_, nil_of_orElse hplain.ok hclash hnil'⟩
    rw [DocumentLib.readings]
    refine List.forall_mem_append.mpr ⟨?_, noLink_of_nil hdocs hnil⟩
    exact noLink_of_nil hplain ((adds_orElse hplain.ok _ hclash).nil_of_nil hnil')
  have hreading : ∀ texts : List String, texts ⊆ lib.readings body →
      c.uri ∈ texts.flatMap entriesOf → ∃ text ∈ lib.readings body, c.uri ∈ entriesOf text := by
    intro texts hsub hmem
    obtain ⟨text, htext, hentry⟩ := List.mem_flatMap.mp hmem
    exact ⟨text, hsub htext, hentry⟩
  rw [heq] at h
  rcases mem_orElse h with h | ⟨hnil, h⟩
  · rcases mem_orElse h with h | ⟨hnil, h⟩
    · rcases hdocs.only c h with h | h
      · rcases mem_orElse h with h | ⟨hnil, h⟩
        · rcases hplain.only c h with h | h
          · exact absurd h List.not_mem_nil
          · exact .inl (hreading _ (List.subset_append_left _ _) h)
        · exact .inr (.clash (List.mem_of_mem_filter (mem_readLinks h).2)
            (noLink_of_nil hplain hnil))
      · exact .inl (hreading _ (List.subset_append_right _ _) h)
    · obtain ⟨hbefore, hnoclash⟩ := hnone hnil
      exact .inr (.html (mem_tryExtractFromHtml h).2 hbefore hnoclash)
  · have hnohtml := nil_of_orElse hdocs.ok hhtml hnil
    obtain ⟨hbefore, hnoclash⟩ := hnone ((adds_orElse hdocs.ok _ hhtml).nil_of_nil hnil)
    exact .inr (.xray (mem_readLinks h).2 hbefore hnoclash hnohtml)

/-- **What is found in a document**: no link twice; nothing that could not be read; every readable
link of every reading; and nothing else but links of the formats with a reader of their own, each
where nothing was found before its reader was asked. -/
theorem parse_document_finds (lib : DocumentLib) (source : String) (priority : ℕ)
    (body : List UInt8) :
    let found := parseSubscriptionDocument lib source priority body
    (found.map Candidate.uri).Nodup
      ∧ (∀ c ∈ found, Read lib.links c)
      ∧ (∀ text ∈ lib.readings body, ∀ entry ∈ entriesOf text, Readable lib.links entry →
        entry ∈ found.map Candidate.uri)
      ∧ ∀ c ∈ found, (∃ text ∈ lib.readings body, c.uri ∈ entriesOf text)
        ∨ ByOwnReader lib source priority body c := by
  intro found
  obtain ⟨s, hs, hok, hseen⟩ := ok_document lib source priority body
  have hfound : s.candidates = found := hs
  refine ⟨hfound ▸ hok.nodup, hfound ▸ hok.read, fun text htext entry hentry hreadable => ?_,
    fun c hc => origin_of_mem hc⟩
  rw [← hfound]
  exact hok.all entry (hseen (List.mem_flatMap.mpr ⟨text, htext, hentry⟩)) hreadable

end Readers

/-! ### A list of links -/

/-- The line is a link, and nothing is cut off from it. -/
structure PlainLink (line : String) : Prop where
  boundary : ∀ c ∈ line.toList, isTokenBoundary c = false
  edges : trimMatches isEntryQuote line.toList = line.toList
  scheme : hasSupportedScheme line = true

/-- A text without spaces stays. -/
lemma trim_eq_self {cs : List Char} (h : ∀ c ∈ cs, isWhitespace c = false) : trim cs = cs := by
  have hdrop : ∀ l : List Char, (∀ c ∈ l, isWhitespace c = false) → l.dropWhile isWhitespace = l :=
    fun l hl => by
      cases l with
      | nil => rfl
      | cons c l => rw [List.dropWhile_cons_of_neg (by simp [hl c List.mem_cons_self])]
  rw [trim, hdrop cs h, hdrop cs.reverse fun c hc => h c (List.mem_reverse.mp hc),
    List.reverse_reverse]

lemma whitespace_of_boundary {c : Char} (h : isTokenBoundary c = false) :
    isWhitespace c = false := by
  simp only [isTokenBoundary, Bool.or_eq_false_iff] at h
  exact h.1.1

/-- A line of a text stands alone in it. -/
lemma mem_splitOnP_intercalate {lines : List String} {line : String} (hline : line ∈ lines)
    (h : ∀ c ∈ line.toList, isTokenBoundary c = false) :
    line.toList ∈ ("\n".intercalate lines).toList.splitOnP isTokenBoundary := by
  have hself : line.toList ∈ line.toList.splitOnP isTokenBoundary := by
    rw [List.splitOnP_eq_singleton h]
    exact List.mem_singleton_self _
  induction lines with
  | nil => cases hline
  | cons first lines ih =>
      cases lines with
      | nil =>
          rw [String.intercalate_singleton, ← List.mem_singleton.mp hline]
          exact hself
      | cons next lines =>
          have hbreak : isTokenBoundary '\n' = true := by decide
          rw [String.intercalate_cons_cons, String.toList_append, String.toList_append,
            List.append_assoc]
          have hsplit := List.splitOnP_append_cons first.toList
            ("\n".intercalate (next :: lines)).toList hbreak
          rw [show "\n".toList ++ ("\n".intercalate (next :: lines)).toList
            = '\n' :: ("\n".intercalate (next :: lines)).toList from rfl, hsplit, List.mem_append]
          rcases List.mem_cons.mp hline with rfl | hrest
          · exact .inl hself
          · exact .inr (ih hrest)

/-- A line that is a link is an entry of the text. -/
lemma mem_entriesOf_intercalate {lines : List String} {line : String} (hline : line ∈ lines)
    (h : PlainLink line) : line ∈ entriesOf ("\n".intercalate lines) := by
  refine List.mem_filter.mpr ⟨List.mem_map.mpr ⟨_, mem_splitOnP_intercalate hline h.boundary, ?_⟩,
    h.scheme⟩
  rw [entryOf, trim_eq_self fun c hc => whitespace_of_boundary (h.boundary c hc), h.edges,
    String.ofList_toList]

/-- The first of the engines reads what an encoder writes. -/
def Base64Lib.Documented (lib : Base64Lib) : Prop :=
  ∀ bytes, lib.standard (PyText.b64Chars bytes) = some bytes

/-- The body of a text is the text. -/
lemma bodyText_utf8 (text : String) : bodyText (PyText.utf8 text) = text := by
  rw [bodyText, PyText.decodeReplace_utf8, String.ofList_toList]

lemma plain_b64Digit : ∀ n < 64, isWhitespace (PyText.b64Digit n) = false
    ∧ PyText.b64Digit n ≠ '\r' ∧ PyText.b64Digit n ≠ '\n' := by decide

lemma plain_b64Chars {bytes : List UInt8} {c : Char} (h : c ∈ PyText.b64Chars bytes) :
    isWhitespace c = false ∧ c ≠ '\r' ∧ c ≠ '\n' := by
  rcases PyText.mem_b64Chars h with rfl | ⟨n, hn, rfl⟩
  · decide
  · exact plain_b64Digit n hn

/-- What was encoded is decoded. -/
lemma decodeBase64ToString_b64encode {lib : Base64Lib} (hlib : lib.Documented) {text : String}
    (hne : text ≠ "") :
    decodeBase64ToString lib (PyText.b64encode text).toList = some text := by
  have hchars : (PyText.b64encode text).toList = PyText.b64Chars (PyText.utf8 text) :=
    String.toList_ofList
  have hnormal : (trim (PyText.b64Chars (PyText.utf8 text))).filter
      (fun c => !(['\r', '\n'].contains c)) = PyText.b64Chars (PyText.utf8 text) := by
    rw [trim_eq_self fun c hc => (plain_b64Chars hc).1]
    exact List.filter_eq_self.mpr fun c hc => by simp [(plain_b64Chars hc).2]
  have hnonempty : (PyText.b64Chars (PyText.utf8 text)).isEmpty = false := by
    by_contra h
    have hnil : PyText.b64Chars (PyText.utf8 text) = [] :=
      List.isEmpty_iff.mp (Bool.not_eq_false _ ▸ h)
    -- no digits are the text of no characters
    have hempty := PyText.b64decode?_b64encode text
    rw [PyText.b64decode?, hchars, hnil] at hempty
    exact hne (Option.some.inj hempty).symm
  rw [decodeBase64ToString, decodeBase64Bytes, hchars, hnormal, hnonempty,
    if_neg Bool.false_ne_true, List.findSome?_cons, hlib]
  exact PyText.decodeUtf8?_utf8 text

/-- A document that is encoded is decoded. -/
lemma decoded_b64encode {lib : DocumentLib} (hbase64 : lib.base64.Documented) {text : String}
    (hne : text ≠ "") : lib.decoded (PyText.utf8 (PyText.b64encode text)) = some text := by
  have htrim : trim (PyText.b64encode text).toList = (PyText.b64encode text).toList := by
    rw [PyText.b64encode, String.toList_ofList]
    exact trim_eq_self fun c hc => (plain_b64Chars hc).1
  rw [DocumentLib.decoded, bodyText_utf8, htrim, decodeBase64ToString_b64encode hbase64 hne]

/-- **A list of links is read back**, as it is or encoded: every line that is a readable link is
found, and only once. -/
theorem reads_link_list {lib : DocumentLib} (hbase64 : lib.base64.Documented) (source : String)
    (priority : ℕ) (lines : List String) (body : String)
    (hbody : body = "\n".intercalate lines ∨ body = PyText.b64encode ("\n".intercalate lines))
    {line : String} (hline : line ∈ lines) (hplain : PlainLink line)
    (hreadable : Readable lib.links line) :
    ((parseSubscriptionDocument lib source priority (PyText.utf8 body)).map Candidate.uri).count
      line = 1 := by
  obtain ⟨s, hs, hok, hseen⟩ := ok_document lib source priority (PyText.utf8 body)
  have hentry := mem_entriesOf_intercalate hline hplain
  have hreading : "\n".intercalate lines ∈ lib.readings (PyText.utf8 body) := by
    refine List.mem_append_left _ ?_
    rw [DocumentLib.plainReadings, bodyText_utf8]
    rcases hbody with rfl | rfl
    · exact List.mem_cons_self
    · have hne : "\n".intercalate lines ≠ "" := fun hempty => by
        rw [hempty] at hentry
        exact List.not_mem_nil hentry
      rw [decoded_b64encode hbase64 hne]
      exact List.mem_cons_of_mem _ List.mem_cons_self
  rw [← hs]
  exact List.count_eq_one_of_mem hok.nodup
    (hok.all line (hseen (List.mem_flatMap.mpr ⟨_, hreading, hentry⟩)) hreadable)

/-- Every link is readable, and `found` are the links of a document without text. -/
def sampleDocuments (found : List String) : DocumentLib where
  links :=
    { parse := fun uri => .ok ⟨"vless", uri, ⟨"host", 443⟩⟩
      hashUri := id
      configDedupKey := fun _ _ uri => uri }
  base64 := ⟨PyText.a2bBase64 0 0 0, fun _ => none, fun _ => none, fun _ => none⟩
  json _ := none
  yaml _ := none
  clash _ := []
  html _ := []
  xray _ := found

end V2RayDar
