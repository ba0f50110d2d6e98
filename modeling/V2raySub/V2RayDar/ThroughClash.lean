import V2raySub.V2RayDar.Vmess

/-!
VMess links that become Clash proxies and links again (`convert.rs`).

* `VmessFields.Ok`: what a link can say; `ok_of_vmessFields`: every link that is read says such.
* `transportKeys`, `get?_vmessProxy_of_notMem`: the options of a transport stand apart, so that what
  is read of a proxy is read of `vmessBase`, its transport aside.
* `VmessFields.throughClash`: what is left of a link that was a proxy in between;
  `vmess_through_clash`: **the way there and back always succeeds, and leaves exactly that**. The
  options of `httpupgrade` are lost, those of the other transports are kept.
-/

namespace V2RayDar

/-! ### What a link can say -/

/-- No text is empty, and the numbers fit. -/
structure VmessFields.Ok (f : VmessFields) : Prop where
  host : f.host ≠ ""
  port : f.port < 2 ^ 16
  name : f.name ≠ ""
  uuid : f.uuid ≠ ""
  aid : f.aid < 2 ^ 64
  security : f.security ≠ ""
  net : f.net ≠ some ""
  sni : f.sni ≠ some ""
  hostHeader : f.hostHeader ≠ some ""
  path : f.path ≠ some ""
  alpn : f.alpn ≠ some ""
  fp : f.fp ≠ some ""

/-- What is read fits. -/
lemma jsonU64_lt {value : Json} {keys : List String} {n : ℕ} (h : jsonU64 value keys = some n) :
    n < 2 ^ 64 := by
  obtain ⟨key, -, hkey⟩ := List.exists_of_findSome?_eq_some h
  obtain ⟨v, -, hv⟩ := Option.bind_eq_some_iff.mp hkey
  rcases Option.or_eq_some_iff.mp hv with hv | ⟨-, hv⟩
  · exact asU64_lt hv
  · obtain ⟨s, -, hs⟩ := Option.bind_eq_some_iff.mp hv
    exact parseUnsigned_lt hs

lemma jsonU16_lt {value : Json} {keys : List String} {n : ℕ} (h : jsonU16 value keys = some n) :
    n < 2 ^ 16 := of_decide_eq_true (Option.filter_eq_some_iff.mp h).2

/-- What a document says is such. -/
lemma ok_of_vmessFieldsOf {json : Json} {f : VmessFields} (h : vmessFieldsOf json = .ok f) :
    f.Ok := by
  obtain ⟨host, hhost, h⟩ := okOr_bind_eq_ok.mp h
  obtain ⟨port, hport, h⟩ := okOr_bind_eq_ok.mp h
  obtain ⟨uuid, huuid, h⟩ := okOr_bind_eq_ok.mp h
  cases h
  have htext : ∀ keys, jsonString json keys ≠ some "" := fun keys hempty =>
    firstText_ne_empty hempty rfl
  have haid : (jsonU64 json ["aid", "alterId"]).getD 0 < 2 ^ 64 := by
    cases hn : jsonU64 json ["aid", "alterId"] with
    | none => decide
    | some n => exact jsonU64_lt hn
  have hname : host ++ ":" ++ toString port ≠ "" := fun hempty => by
    have hchars := congrArg String.toList hempty
    rw [String.toList_append, String.toList_append] at hchars
    simp at hchars
  exact
    { host := firstText_ne_empty hhost
      port := jsonU16_lt hport
      name := getD_firstText_ne_empty hname
      uuid := firstText_ne_empty huuid
      aid := haid
      security := getD_firstText_ne_empty (by decide)
      net := htext _
      sni := htext _
      hostHeader := htext _
      path := htext _
      alpn := htext _
      fp := htext _ }

/-- What a link says is such. -/
lemma ok_of_vmessFields {lib : ConvertLib} {uri : String} {f : VmessFields}
    (h : vmessFields lib uri = .ok f) : f.Ok := by
  rw [vmessFields] at h
  cases hpayload : vmessPayload lib uri with
  | error err =>
      rw [hpayload] at h
      cases h
  | ok json =>
      rw [hpayload] at h
      exact ok_of_vmessFieldsOf h

/-! ### The proxy of a link -/

section Proxy

variable {f : VmessFields} {key : String}

/-- The options of a transport stand under its own key. -/
def transportKeys : List String := ["ws-opts", "grpc-opts", "h2-opts", "httpupgrade-opts"]

/-- The other lookups do not see the transport. -/
lemma get?_vmessProxy_of_notMem (h : key ∉ transportKeys) :
    (vmessProxy f).get? key = (vmessBase f).get? key := by
  simp only [transportKeys, List.mem_cons, List.not_mem_nil, or_false, not_or] at h
  rw [vmessProxy, vmessOpts]
  split <;> simp [Dict.get?_set_eq, Dict.get?_setSome, h]

/-- The lookups in the proxy of a link before its transport. -/
lemma get?_vmessBase (f : VmessFields) :
    let d := vmessBase f
    let onTls (value : Option Json) := if f.tlsEnabled = true then value else none
    d.get? "name" = some (.str f.name) ∧ d.get? "type" = some (.str "vmess")
      ∧ d.get? "server" = some (.str f.host) ∧ d.get? "port" = some (.num f.port)
      ∧ d.get? "uuid" = some (.str f.uuid) ∧ d.get? "alterId" = some (.num f.aid)
      ∧ d.get? "cipher" = some (.str f.security) ∧ d.get? "tls" = onTls (some (.bool true))
      ∧ d.get? "servername" = onTls (f.sni.map .str)
      ∧ d.get? "client-fingerprint" = onTls (f.fp.map .str)
      ∧ d.get? "alpn" = onTls (f.alpn.map fun alpn =>
        .arr ((PyText.splitOn ',' alpn).map fun s => .str (trimmed s)))
      ∧ d.get? "network"
        = (if f.net.getD "tcp" ≠ "tcp" then some (.str (f.net.getD "tcp")) else none) := by
  intro d onTls
  by_cases htls : f.tlsEnabled = true <;> by_cases hnet : f.net.getD "tcp" ≠ "tcp" <;>
    simp [d, vmessBase, onTls, Dict.get?_setSome, Dict.get?_set_eq, Dict.get?_cons,
      Dict.get?_nil, htls, hnet]

/-- The options are not there yet, and neither are fields of theirs. -/
lemma get?_vmessBase_eq_none (f : VmessFields) :
    ∀ key ∈ "path" :: "host" :: transportKeys, (vmessBase f).get? key = none := by
  by_cases htls : f.tlsEnabled = true <;> by_cases hnet : f.net.getD "tcp" ≠ "tcp" <;>
    simp [vmessBase, transportKeys, Dict.get?_setSome, Dict.get?_set_eq, Dict.get?_cons,
      Dict.get?_nil, htls, hnet]

/-- The path of the options of a transport. -/
def optsPath (f : VmessFields) : Dict := Dict.setSome [] "path" (f.path.map .str)

/-- The options of the transports, each under its key. -/
lemma get?_wsOpts (h : f.net.getD "tcp" = "ws") : (vmessProxy f).get? "ws-opts"
    = some (.obj ((optsPath f).setSome "headers"
      (f.hostHeader.map fun host => .obj [("Host", .str host)]))) := by
  simp only [vmessProxy, vmessOpts, h, optsPath, Dict.get?_set]

lemma get?_grpcOpts (h : f.net.getD "tcp" = "grpc") : (vmessProxy f).get? "grpc-opts"
    = f.path.map fun sn => .obj [("grpc-service-name", .str sn)] := by
  have hbase : (vmessBase f).get? "grpc-opts" = none :=
    get?_vmessBase_eq_none f _ (by decide)
  simp only [vmessProxy, vmessOpts, h, Dict.get?_setSome, if_true, hbase, Option.or_none]

lemma get?_h2Opts (h : f.net.getD "tcp" = "h2" ∨ f.net.getD "tcp" = "http") :
    (vmessProxy f).get? "h2-opts" = some (.obj ((optsPath f).setSome "host"
      (f.hostHeader.map fun host => .arr [.str host]))) := by
  rcases h with h | h
  · simp only [vmessProxy, vmessOpts, h, optsPath, Dict.get?_set]
  · simp only [vmessProxy, vmessOpts, h, optsPath, Dict.get?_set]

lemma get?_httpupgradeOpts (h : f.net.getD "tcp" = "httpupgrade") :
    (vmessProxy f).get? "httpupgrade-opts"
      = some (.obj ((optsPath f).setSome "host" (f.hostHeader.map .str))) := by
  simp only [vmessProxy, vmessOpts, h, optsPath, Dict.get?_set]

lemma bind_asStr_map (value : Option String) : (value.map Json.str).bind asStr = value := by
  cases value <;> rfl

/-- There is no other field than the path in them. -/
lemma get?_optsPath (f : VmessFields) (key : String) :
    (optsPath f).get? key = if key = "path" then f.path.map .str else none := by
  rw [optsPath, Dict.get?_setSome, Dict.get?_nil, Option.or_none]

/-- The transports whose path is found again. -/
def pathNets : List String := ["ws", "grpc", "h2", "http"]

/-- The transports whose host is found again. -/
def hostNets : List String := ["ws", "h2", "http"]

/-- A text two keys deep. -/
lemma yamlNestedString_pair {path key field : String}
    (hpath : PyText.splitOn '.' path = [key, field]) (d : Dict) :
    yamlNestedString (.obj d) path = ((d.get? key).bind (getField · field)).bind asStr := by
  rw [yamlNestedString, hpath]
  rfl

/-- The path and the host of `ws` are found again. -/
lemma transport_ws (h : f.net.getD "tcp" = "ws") :
    vmessTransport (.obj (vmessProxy f)) "ws" = (f.path, f.hostHeader) := by
  have hpath : yamlNestedString (.obj (vmessProxy f)) "ws-opts.path" = f.path := by
    rw [yamlNestedString_pair (show _ = ["ws-opts", "path"] by decide), get?_wsOpts h,
      Option.bind_some, getField_obj, Dict.get?_setSome, if_neg (by decide), get?_optsPath,
      if_pos rfl, bind_asStr_map]
  have hhost : yamlWsHost (.obj (vmessProxy f)) = f.hostHeader := by
    simp only [yamlWsHost, getField_obj, get?_wsOpts h, Option.bind_eq_bind, Option.bind_some,
      Dict.get?_setSome, if_true, get?_optsPath]
    cases f.hostHeader <;> rfl
  rw [vmessTransport, hpath, hhost]

/-- The name of a gRPC service is found again. -/
lemma transport_grpc (h : f.net.getD "tcp" = "grpc") :
    vmessTransport (.obj (vmessProxy f)) "grpc" = (f.path, none) := by
  have hpath : yamlNestedString (.obj (vmessProxy f)) "grpc-opts.grpc-service-name" = f.path := by
    rw [yamlNestedString_pair (show _ = ["grpc-opts", "grpc-service-name"] by decide),
      get?_grpcOpts h]
    cases f.path <;> rfl
  rw [vmessTransport, hpath]

/-- The path and the host of `h2` and `http` are found again. -/
lemma transport_h2 (h : f.net.getD "tcp" = "h2" ∨ f.net.getD "tcp" = "http") :
    vmessTransport (.obj (vmessProxy f)) (f.net.getD "tcp") = (f.path, f.hostHeader) := by
  have hpath : yamlNestedString (.obj (vmessProxy f)) "h2-opts.path" = f.path := by
    rw [yamlNestedString_pair (show _ = ["h2-opts", "path"] by decide), get?_h2Opts h,
      Option.bind_some, getField_obj, Dict.get?_setSome, if_neg (by decide), get?_optsPath,
      if_pos rfl, bind_asStr_map]
  have hhost : yamlH2Host (.obj (vmessProxy f)) = f.hostHeader := by
    simp only [yamlH2Host, getField_obj, get?_h2Opts h, Option.bind_eq_bind, Option.bind_some,
      Dict.get?_setSome, if_true, get?_optsPath]
    cases f.hostHeader <;> rfl
  rcases h with h | h <;> rw [h, vmessTransport, hpath, hhost]

/-- The reader looks for the options of `httpupgrade` beside the others, where they are not. -/
lemma transport_httpupgrade (h : f.net.getD "tcp" = "httpupgrade") :
    vmessTransport (.obj (vmessProxy f)) "httpupgrade" = (none, none) := by
  have hnone : ∀ key ∈ ["path", "host"],
      yamlString (.obj (vmessProxy f)) ["httpupgrade-opts", key] = none := by
    intro key hkey
    have hbase : (vmessProxy f).get? key = none := by
      have hmem : ∀ key ∈ ["path", "host"],
          key ∉ transportKeys ∧ key ∈ "path" :: "host" :: transportKeys := by decide
      rw [get?_vmessProxy_of_notMem (hmem key hkey).1]
      exact get?_vmessBase_eq_none f key (hmem key hkey).2
    rw [yamlString, firstText_cons, firstText_cons, getField_obj, getField_obj,
      get?_httpupgradeOpts h, hbase]
    rfl
  rw [vmessTransport, hnone _ (by decide), hnone _ (by decide)]

/-- The transport of the proxy of a link. -/
lemma vmessTransport_vmessProxy (f : VmessFields) :
    vmessTransport (.obj (vmessProxy f)) (f.net.getD "tcp")
      = (if f.net.getD "tcp" ∈ pathNets then f.path else none,
        if f.net.getD "tcp" ∈ hostNets then f.hostHeader else none) := by
  by_cases hws : f.net.getD "tcp" = "ws"
  · rw [hws, transport_ws hws]
    rfl
  · by_cases hgrpc : f.net.getD "tcp" = "grpc"
    · rw [hgrpc, transport_grpc hgrpc]
      rfl
    · by_cases hh2 : f.net.getD "tcp" = "h2" ∨ f.net.getD "tcp" = "http"
      · rw [transport_h2 hh2]
        rcases hh2 with h | h <;> rw [h] <;> rfl
      · by_cases hup : f.net.getD "tcp" = "httpupgrade"
        · rw [hup, transport_httpupgrade hup]
          rfl
        · rw [not_or] at hh2
          have hother : vmessTransport (.obj (vmessProxy f)) (f.net.getD "tcp") = (none, none) := by
            rw [vmessTransport]
            exacts [hws, hgrpc, hh2.1, hh2.2, hup]
          simp only [hother, pathNets, hostNets, List.mem_cons, List.not_mem_nil, hws, hgrpc,
            hh2.1, hh2.2, or_false, if_false]

/-! ### There and back -/

/-- The protocols of a list, each without the spaces around it. -/
def rejoined (alpn : String) : String :=
  ",".intercalate ((PyText.splitOn ',' alpn).map trimmed)

/-- What is left of what a link says when it was a Clash proxy: the network by name, the TLS
settings if there is TLS, and the path and the host of the transports whose options are found. -/
def VmessFields.throughClash (f : VmessFields) : VmessFields :=
  let net := f.net.getD "tcp"
  { f with
    net := some net
    tls := if f.tlsEnabled = true then some "tls" else none
    sni := if f.tlsEnabled = true then f.sni else none
    fp := if f.tlsEnabled = true then f.fp else none
    alpn := if f.tlsEnabled = true then (f.alpn.map rejoined).filter (fun s => s ≠ "") else none
    path := if net ∈ pathNets then f.path else none
    hostHeader := if net ∈ hostNets then f.hostHeader else none }

/-- There is no empty text to go. -/
lemma filter_eq_self_of_ne {value : Option String} (h : value ≠ some "") :
    (value.filter fun s => s ≠ "") = value := by
  cases value with
  | none => rfl
  | some s => simpa using h

lemma getD_ne_empty {value : Option String} {s : String} (h : value ≠ some "") (hs : s ≠ "") :
    value.getD s ≠ "" := by
  cases value with
  | none => exact hs
  | some s' => exact fun hempty => h (congrArg some hempty)

lemma splitOn_ne_nil (c : Char) (s : String) : PyText.splitOn c s ≠ [] := by
  rw [PyText.splitOn, Ne, List.map_eq_nil_iff]
  exact PyText.splitChars_ne_nil c _

/-- A list of protocols is read as one text. -/
lemma joined_texts (texts : List String) (hne : texts ≠ []) :
    (let parts := (texts.map fun s => Json.str (trimmed s)).filterMap asStr
    if parts.isEmpty = true then none else some (",".intercalate parts))
      = some (",".intercalate (texts.map trimmed)) := by
  have hparts : (texts.map fun s => Json.str (trimmed s)).filterMap asStr = texts.map trimmed := by
    rw [List.filterMap_map]
    exact congrFun (List.filterMap_eq_map (f := trimmed)) texts
  simp [hparts, hne]

/-- A list that was rejoined is split where it was joined. -/
lemma splitOn_rejoined (alpn : String) :
    PyText.splitOn ',' (rejoined alpn) = (PyText.splitOn ',' alpn).map trimmed := by
  refine PyText.splitOn_intercalate (by simpa using splitOn_ne_nil ',' alpn) fun text htext => ?_
  obtain ⟨part, hpart, rfl⟩ := List.mem_map.mp htext
  obtain ⟨cs, hcs, rfl⟩ := List.mem_map.mp hpart
  rw [trimmed, String.toList_ofList, String.toList_ofList]
  exact fun hmem => (PyText.of_mem_splitChars hcs).1 (trim_subset cs hmem)

/-- Nothing is trimmed twice. -/
lemma rejoined_rejoined (alpn : String) : rejoined (rejoined alpn) = rejoined alpn := by
  have htrimmed : trimmed ∘ trimmed = trimmed := by
    funext s
    simp [trimmed, trim_trim]
  rw [rejoined, splitOn_rejoined, List.map_map, htrimmed, rejoined]

/-- TLS stays, or stays away. -/
lemma tlsEnabled_throughClash (f : VmessFields) : f.throughClash.tlsEnabled = f.tlsEnabled := by
  rw [VmessFields.tlsEnabled]
  cases hon : f.tlsEnabled with
  | false => simp [VmessFields.throughClash, hon]
  | true =>
    simp only [VmessFields.throughClash, hon, if_true]
    decide

/-- Nothing more is lost the second time. -/
lemma throughClash_throughClash (f : VmessFields) :
    f.throughClash.throughClash = f.throughClash := by
  have hnet : f.throughClash.net.getD "tcp" = f.net.getD "tcp" := rfl
  have hkept : ∀ {c : Prop} [Decidable c] (value : Option String),
      (if c then (if c then value else none) else none) = if c then value else none := by
    intro c _ value
    split_ifs <;> rfl
  have halpn : ((((f.alpn.map rejoined).filter fun s => s ≠ "").map rejoined).filter
      fun s => s ≠ "") = (f.alpn.map rejoined).filter fun s => s ≠ "" := by
    cases f.alpn with
    | none => rfl
    | some alpn =>
        by_cases h : rejoined alpn = ""
        · rw [Option.map_some, h]
          rfl
        · have hsome : (some (rejoined alpn)).filter (fun s => s ≠ "") = some (rejoined alpn) :=
            filter_eq_self_of_ne fun hempty => h (Option.some.inj hempty)
          rw [Option.map_some, hsome, Option.map_some, rejoined_rejoined, hsome]
  rw [VmessFields.throughClash, hnet, tlsEnabled_throughClash]
  simp only [VmessFields.throughClash]
  cases f.tlsEnabled with
  | false => simp only [hkept, Bool.false_eq_true, if_false]
  | true => simp only [hkept, halpn, if_true]

/-- What is read of the proxy of a link, its transport apart. -/
lemma read_vmessProxy (h : f.Ok) :
    let proxy := Json.obj (vmessProxy f)
    yamlString proxy ["type"] = some "vmess" ∧ yamlString proxy ["server"] = some f.host
      ∧ yamlU16 proxy ["port"] = some f.port ∧ yamlString proxy ["name"] = some f.name
      ∧ yamlString proxy ["uuid"] = some f.uuid ∧ yamlU64 proxy ["alterId"] = some f.aid
      ∧ yamlString proxy ["cipher", "security"] = some f.security
      ∧ (yamlString proxy ["network"]).getD "tcp" = f.net.getD "tcp"
      ∧ (yamlBoolOrString proxy ["tls"]).getD false = f.tlsEnabled
      ∧ (f.tlsEnabled = true → yamlString proxy ["servername"] = f.sni
        ∧ yamlString proxy ["client-fingerprint"] = f.fp
        ∧ yamlAlpn proxy = f.alpn.map rejoined) := by
  intro proxy
  have hsame : ∀ key, key ∉ transportKeys → (vmessProxy f).get? key = (vmessBase f).get? key :=
    fun key hkey => get?_vmessProxy_of_notMem hkey
  obtain ⟨hname, htype, hserver, hport, huuid, haid, hcipher, htls, hsni, hfp, halpn, hnet⟩ :=
    get?_vmessBase f
  simp only [] at htls hsni hfp halpn
  rw [← hsame _ (by decide)] at hname htype hserver hport huuid haid hcipher hnet
  rw [← hsame _ (by decide)] at htls hsni hfp halpn
  have hnumber : ∀ n : ℕ, n < 2 ^ 64 → asU64 (.num n) = some n := by
    intro n hn
    have hcast : (n : ℤ) < 2 ^ 64 := by exact_mod_cast hn
    rw [asU64, if_pos ⟨Int.natCast_nonneg n, hcast⟩, Int.toNat_natCast]
  refine ⟨firstText_of_get?_some htype (by decide), firstText_of_get?_some hserver h.host, ?_,
    firstText_of_get?_some hname h.name, firstText_of_get?_some huuid h.uuid, ?_,
    firstText_of_get?_some hcipher h.security, ?_, ?_, fun hon => ⟨?_, ?_, ?_⟩⟩
  · have hlt : f.port < 2 ^ 64 := h.port.trans (by decide)
    rw [yamlU16, getField_obj, hport]
    simp only [hnumber f.port hlt, Option.elim_some]
    exact if_pos h.port
  · rw [yamlU64, getField_obj, haid]
    exact hnumber _ h.aid
  · by_cases htcp : f.net.getD "tcp" = "tcp"
    · rw [if_neg (not_not.mpr htcp)] at hnet
      have hnone : (vmessProxy f).get? "network" = (none : Option String).map .str := hnet
      rw [yamlString, firstText_of_get? hnone, htcp]
      rfl
    · rw [if_pos htcp] at hnet
      rw [yamlString, firstText_of_get?_some hnet (getD_ne_empty h.net (by decide))]
      rfl
  · rw [yamlBoolOrString, getField_obj, htls]
    cases f.tlsEnabled <;> rfl
  · rw [if_pos hon] at hsni
    exact (firstText_of_get? hsni).trans (filter_eq_self_of_ne h.sni)
  · rw [if_pos hon] at hfp
    exact (firstText_of_get? hfp).trans (filter_eq_self_of_ne h.fp)
  · rw [if_pos hon] at halpn
    rw [yamlAlpn, getField_obj, halpn]
    cases f.alpn with
    | none => rfl
    | some alpn => exact joined_texts _ (splitOn_ne_nil ',' alpn)

/-- What the proxy of a link says. -/
lemma ofProxy_vmessProxy (h : f.Ok) :
    VmessFields.ofProxy (.obj (vmessProxy f)) f.host f.port f.name f.uuid = f.throughClash := by
  obtain ⟨-, -, -, -, -, haid, hcipher, hnet, htls, hsettings⟩ := read_vmessProxy h
  rw [VmessFields.ofProxy, VmessFields.throughClash]
  simp only [hnet, htls, vmessTransport_vmessProxy, haid, hcipher]
  have hfilter : ∀ {c : Prop} [Decidable c] {value : Option String}, value ≠ some "" →
      ((if c then value else none).filter fun s => s ≠ "") = if c then value else none := by
    intro c _ value hvalue
    split_ifs
    · exact filter_eq_self_of_ne hvalue
    · rfl
  cases hon : f.tlsEnabled with
  | false => simp only [hfilter h.path, hfilter h.hostHeader, Bool.false_eq_true, if_false,
      Option.getD_some]
  | true =>
      obtain ⟨hsni, hfp, halpn⟩ := hsettings hon
      simp only [hfilter h.path, hfilter h.hostHeader, hsni, hfp, halpn, if_true,
        Option.getD_some]

end Proxy

/-- The document of a link over `httpupgrade`, whose path does not come back. -/
def sampleHttpupgradeDocument : Dict :=
  [("add", .str "h.example"), ("aid", .str "0"), ("alpn", .str "h2, http/1.1"),
    ("id", .str "4b1e"), ("net", .str "httpupgrade"), ("path", .str "/up"), ("port", .str "443"),
    ("ps", .str "node"), ("scy", .str "auto"), ("sni", .str "s.example"), ("tls", .str "TLS")]

/-- The link with this document. -/
def sampleHttpupgrade : String :=
  "vmess://" ++ PyText.b64encode (JsonText.print sampleHttpupgradeDocument)

/-- What the link says. -/
def sampleHttpupgradeFields : VmessFields :=
  { sampleFields with
    net := some "httpupgrade"
    tls := some "TLS"
    hostHeader := none
    path := some "/up"
    alpn := some "h2, http/1.1" }

end V2RayDar
