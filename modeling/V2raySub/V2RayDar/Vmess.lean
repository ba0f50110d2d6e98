import V2raySub.Base.JsonText
import V2raySub.V2RayDar.Convert

/-!
VMess links and Clash proxies (`convert.rs`): `vmess_fields` reads a link, `vmess_uri_to_clash`
writes it as a proxy, and `clash_vmess_to_uri` writes a proxy as a link.

* `vmessPayload`, `vmessFieldsOf`: the document in a link, and what it says.
* `vmessProxy`, `vmessJson`: the proxy of a link, and the document of the link of a proxy.
* `VmessFields.ofProxy`: what a proxy says; `clash_vmess_link_keeps`: **the link made of a proxy
  says what the proxy does**.
-/

namespace V2RayDar

/-! ### The definitions -/

/-- How the documents in links are read and written. -/
structure ConvertLib where
  base64 : Base64Lib
  json : JsonTextLib

/-- They read what is written with them. -/
structure ConvertLib.Documented (lib : ConvertLib) : Prop where
  base64 : lib.base64.Documented
  json : lib.json.Documented

/-- What a VMess link says. -/
structure VmessFields where
  host : String
  port : ℕ
  name : String
  uuid : String
  aid : ℕ
  security : String
  net : Option String
  tls : Option String
  sni : Option String
  hostHeader : Option String
  path : Option String
  alpn : Option String
  fp : Option String
  deriving DecidableEq

/-- The document in a VMess link. -/
def vmessPayload (lib : ConvertLib) (uri : String) : Except String Json := do
  let payload ← okOr (stripPrefix? uri "vmess://") "invalid VMess URI"
  let decoded ← okOr (decodeBase64ToString lib.base64 payload.toList)
    "VMess payload is not valid base64 UTF-8"
  (lib.json.fromStr decoded).mapError fun e => "VMess payload is not JSON: " ++ e

/-- The fields of the document. -/
def vmessFieldsOf (json : Json) : Except String VmessFields := do
  let host ← okOr (jsonString json ["add", "address"]) "VMess payload has no server address"
  let port ← okOr (jsonU16 json ["port"]) "VMess payload has no port"
  let uuid ← okOr (jsonString json ["id"]) "VMess payload has no UUID"
  .ok
    { host, port, uuid
      name := (jsonString json ["ps"]).getD (host ++ ":" ++ toString port)
      aid := (jsonU64 json ["aid", "alterId"]).getD 0
      security := (jsonString json ["scy", "security"]).getD "auto"
      net := jsonString json ["net"]
      tls := jsonString json ["tls"]
      sni := jsonString json ["sni"]
      hostHeader := jsonString json ["host"]
      path := jsonString json ["path"]
      alpn := jsonString json ["alpn"]
      fp := jsonString json ["fp"] }

/-- `vmess_fields`. -/
def vmessFields (lib : ConvertLib) (uri : String) : Except String VmessFields :=
  vmessPayload lib uri >>= vmessFieldsOf

/-- The link asks for TLS. -/
def VmessFields.tlsEnabled (f : VmessFields) : Bool := f.tls.any (eqIgnoreAsciiCase · "tls")

/-- The options of the transport in a Clash proxy. -/
def vmessOpts (f : VmessFields) (proxy : Dict) : Dict :=
  match f.net.getD "tcp" with
  | "ws" => proxy.set "ws-opts" (.obj ((Dict.setSome [] "path" (f.path.map .str)).setSome "headers"
      (f.hostHeader.map fun host => .obj [("Host", .str host)])))
  | "grpc" => proxy.setSome "grpc-opts" (f.path.map fun sn => .obj [("grpc-service-name", .str sn)])
  | "h2" | "http" =>
    proxy.set "h2-opts" (.obj ((Dict.setSome [] "path" (f.path.map .str)).setSome "host"
      (f.hostHeader.map fun host => .arr [.str host])))
  | "httpupgrade" =>
    proxy.set "httpupgrade-opts" (.obj ((Dict.setSome [] "path" (f.path.map .str)).setSome "host"
      (f.hostHeader.map .str)))
  | _ => proxy

/-- The Clash proxy of a VMess link before the options of its transport. -/
def vmessBase (f : VmessFields) : Dict :=
  let proxy : Dict := [("name", .str f.name), ("type", .str "vmess"), ("server", .str f.host),
    ("port", .num f.port), ("uuid", .str f.uuid), ("alterId", .num f.aid),
    ("cipher", .str f.security), ("udp", .bool true)]
  let proxy :=
    if f.tlsEnabled = true then
      (((proxy.set "tls" (.bool true)).setSome "servername" (f.sni.map .str)).setSome
        "client-fingerprint" (f.fp.map .str)).setSome "alpn"
        (f.alpn.map fun alpn => .arr ((PyText.splitOn ',' alpn).map fun s => .str (trimmed s)))
    else proxy
  let net := f.net.getD "tcp"
  if net ≠ "tcp" then proxy.set "network" (.str net) else proxy

/-- The Clash proxy of a VMess link. -/
def vmessProxy (f : VmessFields) : Dict := vmessOpts f (vmessBase f)

/-- `vmess_uri_to_clash`. -/
def vmessUriToClash (lib : ConvertLib) (uri : String) : Except String Json :=
  (vmessFields lib uri).map fun f => .obj (vmessProxy f)

/-- The path and the host of the transport of a Clash proxy; the options of `httpupgrade` are looked
for beside the others. -/
def vmessTransport (proxy : Json) (net : String) : Option String × Option String :=
  match net with
  | "ws" => (yamlNestedString proxy "ws-opts.path", yamlWsHost proxy)
  | "grpc" => (yamlNestedString proxy "grpc-opts.grpc-service-name", none)
  | "h2" | "http" => (yamlNestedString proxy "h2-opts.path", yamlH2Host proxy)
  | "httpupgrade" => (yamlString proxy ["httpupgrade-opts", "path"],
      yamlString proxy ["httpupgrade-opts", "host"])
  | _ => (none, none)

/-- The document of the link of a Clash proxy. -/
def vmessJson (proxy : Json) (server : String) (port : ℕ) (name uuid : String) : Dict :=
  let net := (yamlString proxy ["network"]).getD "tcp"
  let json : Dict := [("v", .str "2"), ("ps", .str name), ("add", .str server),
    ("port", .str (toString port)), ("id", .str uuid),
    ("aid", .str (toString ((yamlU64 proxy ["alterId"]).getD 0))),
    ("scy", .str ((yamlString proxy ["cipher", "security"]).getD "auto"))]
  let json :=
    if (yamlBoolOrString proxy ["tls"]).getD false = true then
      let json := (((json.set "tls" (.str "tls")).setSome "sni"
        ((yamlString proxy ["servername"]).map .str)).setSome "fp"
        ((yamlString proxy ["client-fingerprint"]).map .str)).setSome "alpn"
        ((yamlAlpn proxy).map .str)
      if yamlBool proxy ["skip-cert-verify"] = true then json.set "allowInsecure" (.str "1")
      else json
    else json
  ((json.set "net" (.str net)).setSome "path" ((vmessTransport proxy net).1.map .str)).setSome
    "host" ((vmessTransport proxy net).2.map .str)

/-- `clash_vmess_to_uri`. -/
def clashVmessToUri (lib : ConvertLib) (proxy : Json) (server : String) (port : ℕ)
    (name : String) : Except String String := do
  let uuid ← okOr (yamlString proxy ["uuid"]) "VMess proxy has no uuid"
  .ok ("vmess://" ++
    PyText.b64encode (lib.json.toText (.obj (vmessJson proxy server port name uuid))))

/-- The conversions of the other protocols. -/
structure OtherProtocols where
  clashVlessToUri : Json → String → ℕ → String → Except String String
  clashTrojanToUri : Json → String → ℕ → String → Except String String
  clashSsToUri : Json → String → ℕ → String → Except String String
  standardUriToClash : String → String → Except String Json
  ssUriToClash : String → Except String Json

/-- The name of a proxy; one without a name is called by its address. -/
def proxyName (proxy : Json) (server : String) (port : ℕ) : String :=
  (yamlString proxy ["name"]).getD (server ++ ":" ++ toString port)

/-- `clash_proxy_to_uri`. -/
def clashProxyToUri (lib : ConvertLib) (other : OtherProtocols) (proxy : Json) :
    Except String String := do
  let proxyType ← okOr (yamlString proxy ["type"]) "Clash proxy has no type"
  let server ← okOr (yamlString proxy ["server"]) "Clash proxy has no server"
  let port ← okOr (yamlU16 proxy ["port"]) "Clash proxy has no port"
  match lowercase proxyType with
  | "vmess" => clashVmessToUri lib proxy server port (proxyName proxy server port)
  | "vless" => other.clashVlessToUri proxy server port (proxyName proxy server port)
  | "trojan" => other.clashTrojanToUri proxy server port (proxyName proxy server port)
  | "ss" => other.clashSsToUri proxy server port (proxyName proxy server port)
  | kind => .error ("unsupported Clash proxy type: " ++ kind)

/-- `uri_to_clash_proxy`. -/
def uriToClashProxy (lib : ConvertLib) (other : OtherProtocols) (uri : String) :
    Except String Json :=
  let lower := lowercase uri
  if startsWith lower "vmess://" = true then vmessUriToClash lib uri
  else if startsWith lower "vless://" = true then other.standardUriToClash uri "vless"
  else if startsWith lower "trojan://" = true then other.standardUriToClash uri "trojan"
  else if startsWith lower "ss://" = true then other.ssUriToClash uri
  else .error "unsupported URI scheme for Clash conversion"

/-! ### Reading a document -/

/-- The names are tried one after the other. -/
lemma firstText_cons (value : Json) (key : String) (keys : List String) :
    firstText value (key :: keys)
      = (((getField value key).bind asStr).filter fun s => s ≠ "").or (firstText value keys) := by
  rw [firstText, List.findSome?_cons]
  cases ((getField value key).bind asStr).filter fun s => s ≠ "" <;> rfl

@[simp] lemma firstText_nil (value : Json) : firstText value [] = none := rfl

section Read

variable {d : Dict} {key s : String} {keys : List String} {n : ℕ}

/-- What is read of a field that has a text, or none. -/
lemma firstText_of_get? {value : Option String} (h : d.get? key = value.map .str) :
    firstText (.obj d) [key] = value.filter fun s => s ≠ "" := by
  rw [firstText_cons, firstText_nil, Option.or_none, getField, h]
  cases value <;> rfl

/-- A field with a text hides the others. -/
lemma firstText_of_get?_some (h : d.get? key = some (.str s)) (hne : s ≠ "") :
    firstText (.obj d) (key :: keys) = some s := by
  rw [firstText_cons, getField, h]
  simp [asStr, hne]

/-- A number that is written as a text is read. -/
lemma jsonU64_of_get? (h : d.get? key = some (.str (toString n))) (hn : n < 2 ^ 64) :
    jsonU64 (.obj d) (key :: keys) = some n := by
  rw [jsonU64, List.findSome?_cons, getField, h]
  simp only [Option.bind_some, asU64, asStr, Option.none_or, parseUnsigned_toString hn]

lemma getD_firstText_ne_empty {value : Json} (hs : s ≠ "") :
    (firstText value keys).getD s ≠ "" := by
  cases h : firstText value keys with
  | none => exact hs
  | some s' => exact firstText_ne_empty h

/-- A text that is read stays when the empty ones go. -/
lemma filter_firstText (value : Json) (keys : List String) :
    ((firstText value keys).filter fun s => s ≠ "") = firstText value keys := by
  cases h : firstText value keys with
  | none => rfl
  | some s => simp [firstText_ne_empty h]

end Read

/-- What a document says depends on its lookups only. -/
lemma vmessFieldsOf_congr {d d' : Dict} (h : ∀ key, d'.get? key = d.get? key) :
    vmessFieldsOf (.obj d') = vmessFieldsOf (.obj d) := by
  have hfield : getField (.obj d') = getField (.obj d) := funext h
  simp only [vmessFieldsOf, jsonString, firstText, jsonU16, jsonU64, hfield]

/-- A link with a document of texts says what the document does. -/
lemma vmessFields_encode {lib : ConvertLib} (hlib : lib.Documented) {d : Dict} (hd : d.OfTexts) :
    vmessFields lib ("vmess://" ++ PyText.b64encode (lib.json.toText (.obj d)))
      = vmessFieldsOf (.obj d) := by
  obtain ⟨d', hread, hget⟩ := hlib.json.reads d hd
  have hpayload : vmessPayload lib ("vmess://" ++ PyText.b64encode (lib.json.toText (.obj d)))
      = .ok (.obj d') := by
    rw [vmessPayload, stripPrefix?_append]
    simp only [okOr, Option.elim, bind, Except.bind,
      decodeBase64ToString_b64encode hlib.base64 (hlib.json.nonempty d), hread]
    rfl
  rw [vmessFields, hpayload]
  exact vmessFieldsOf_congr hget

/-- A link that can be read has the scheme. -/
lemma startsWith_lowercase {lib : ConvertLib} {uri : String} {f : VmessFields}
    (h : vmessFields lib uri = .ok f) : startsWith (lowercase uri) "vmess://" = true := by
  have hscheme : startsWith uri "vmess://" = true := by
    by_contra hno
    rw [vmessFields, vmessPayload, stripPrefix?, if_neg hno] at h
    cases h
  obtain ⟨rest, hrest⟩ := List.isPrefixOf_iff_prefix.mp hscheme
  have hlower : (lowercase uri).toList
      = "vmess://".toList.map toAsciiLowercase ++ rest.map toAsciiLowercase := by
    rw [lowercase, String.toList_ofList, ← hrest, List.map_append]
  rw [startsWith, List.isPrefixOf_iff_prefix, hlower]
  exact List.prefix_append _ _

/-! ### The link of a proxy -/

/-- What a Clash proxy says. -/
def VmessFields.ofProxy (proxy : Json) (server : String) (port : ℕ) (name uuid : String) :
    VmessFields :=
  let net := (yamlString proxy ["network"]).getD "tcp"
  let tls := (yamlBoolOrString proxy ["tls"]).getD false
  { host := server
    port := port
    name := name
    uuid := uuid
    aid := (yamlU64 proxy ["alterId"]).getD 0
    security := (yamlString proxy ["cipher", "security"]).getD "auto"
    net := some net
    tls := if tls = true then some "tls" else none
    sni := if tls = true then yamlString proxy ["servername"] else none
    hostHeader := (vmessTransport proxy net).2.filter fun s => s ≠ ""
    path := (vmessTransport proxy net).1.filter fun s => s ≠ ""
    alpn := if tls = true then (yamlAlpn proxy).filter fun s => s ≠ "" else none
    fp := if tls = true then yamlString proxy ["client-fingerprint"] else none }

section Link

variable {proxy : Json} {server : String} {port : ℕ} {name uuid : String}

/-- The lookups in the document of a proxy. -/
lemma get?_vmessJson (proxy : Json) (server : String) (port : ℕ) (name uuid : String) :
    let d := vmessJson proxy server port name uuid
    let net := (yamlString proxy ["network"]).getD "tcp"
    let onTls (value : Option Json) :=
      if (yamlBoolOrString proxy ["tls"]).getD false = true then value else none
    d.get? "ps" = some (.str name) ∧ d.get? "add" = some (.str server)
      ∧ d.get? "port" = some (.str (toString port)) ∧ d.get? "id" = some (.str uuid)
      ∧ d.get? "aid" = some (.str (toString ((yamlU64 proxy ["alterId"]).getD 0)))
      ∧ d.get? "scy" = some (.str ((yamlString proxy ["cipher", "security"]).getD "auto"))
      ∧ d.get? "net" = some (.str net) ∧ d.get? "tls" = onTls (some (.str "tls"))
      ∧ d.get? "sni" = onTls ((yamlString proxy ["servername"]).map .str)
      ∧ d.get? "fp" = onTls ((yamlString proxy ["client-fingerprint"]).map .str)
      ∧ d.get? "alpn" = onTls ((yamlAlpn proxy).map .str)
      ∧ d.get? "path" = (vmessTransport proxy net).1.map .str
      ∧ d.get? "host" = (vmessTransport proxy net).2.map .str := by
  intro d net onTls
  cases htls : (yamlBoolOrString proxy ["tls"]).getD false <;>
    cases hskip : yamlBool proxy ["skip-cert-verify"] <;>
    simp [d, net, onTls, vmessJson, Dict.get?_setSome, Dict.get?_set_eq, Dict.get?_cons,
      Dict.get?_nil, htls, hskip]

/-- All the fields of the document are texts. -/
lemma ofTexts_vmessJson (proxy : Json) (server : String) (port : ℕ) (name uuid : String) :
    (vmessJson proxy server port name uuid).OfTexts := by
  have hbase : Dict.OfTexts [("v", .str "2"), ("ps", .str name), ("add", .str server),
      ("port", .str (toString port)), ("id", .str uuid),
      ("aid", .str (toString ((yamlU64 proxy ["alterId"]).getD 0))),
      ("scy", .str ((yamlString proxy ["cipher", "security"]).getD "auto"))] := by
    simp [Dict.OfTexts]
  rw [vmessJson]
  split_ifs
  · exact (((((((hbase.set _ _).setSome _ _).setSome _ _).setSome _ _).set _ _).set _ _).setSome _
      _).setSome _ _
  · exact ((((((hbase.set _ _).setSome _ _).setSome _ _).setSome _ _).set _ _).setSome _
      _).setSome _ _
  · exact ((hbase.set _ _).setSome _ _).setSome _ _

/-- What is parsed fits. -/
lemma parseUnsigned_lt {limit n : ℕ} {s : String} (h : parseUnsigned limit s = some n) :
    n < limit := by
  rw [parseUnsigned] at h
  split_ifs at h
  · simpa using (Option.filter_eq_some_iff.mp h).2
  · simpa using (Option.filter_eq_some_iff.mp h).2

lemma asU64_lt {v : Json} {n : ℕ} (h : asU64 v = some n) : n < 2 ^ 64 := by
  cases v <;> simp [asU64] at h
  omega

/-- What is read fits. -/
lemma yamlU64_lt {value : Json} {keys : List String} {n : ℕ} (h : yamlU64 value keys = some n) :
    n < 2 ^ 64 := by
  induction keys with
  | nil => cases h
  | cons key keys ih =>
      rw [yamlU64] at h
      split at h
      · exact asU64_lt h
      · exact asU64_lt h
      · rcases Option.or_eq_some_iff.mp h with h | ⟨-, h⟩
        · exact parseUnsigned_lt h
        · exact ih h
      · exact ih h

/-- A port fits. -/
lemma yamlU16_lt {value : Json} {keys : List String} {n : ℕ} (h : yamlU16 value keys = some n) :
    n < 2 ^ 16 := by
  induction keys with
  | nil => cases h
  | cons key keys ih =>
      rw [yamlU16] at h
      split at h
      · rename_i m _
        cases hm : asU64 (.num m) with
        | none => exact ih (by simpa [hm] using h)
        | some v =>
            rw [hm, Option.elim_some] at h
            split_ifs at h with hlt
            cases h
            exact hlt
      · rcases Option.or_eq_some_iff.mp h with h | ⟨-, h⟩
        · exact parseUnsigned_lt h
        · exact ih h
      · exact ih h

/-- The document of a proxy says what the proxy does. -/
lemma vmessFieldsOf_vmessJson (hserver : server ≠ "") (hport : port < 2 ^ 16) (hname : name ≠ "")
    (huuid : uuid ≠ "") : vmessFieldsOf (.obj (vmessJson proxy server port name uuid))
      = .ok (.ofProxy proxy server port name uuid) := by
  obtain ⟨hps, hadd, hportField, hid, haid, hscy, hnet, htls, hsni, hfp, halpn, hpath, hhost⟩ :=
    get?_vmessJson proxy server port name uuid
  set d := vmessJson proxy server port name uuid with hd
  have haidLt : (yamlU64 proxy ["alterId"]).getD 0 < 2 ^ 64 := by
    cases h : yamlU64 proxy ["alterId"] with
    | none => decide
    | some n => exact yamlU64_lt h
  have hu16 : jsonU16 (.obj d) ["port"] = some port := by
    rw [jsonU16, jsonU64_of_get? hportField (by omega)]
    simpa using hport
  -- the fields that are there only with TLS
  have hguard : ∀ {p : Prop} [Decidable p] {key : String} {value : Option String},
      d.get? key = (if p then value.map .str else none) →
      firstText (.obj d) [key] = if p then value.filter (fun s => s ≠ "") else none := by
    intro p _ key value h
    split_ifs at h ⊢
    · exact firstText_of_get? h
    · have hnone : d.get? key = (none : Option String).map .str := h
      exact firstText_of_get? hnone
  have htlsField := hguard (show d.get? "tls" =
    if (yamlBoolOrString proxy ["tls"]).getD false = true then (some "tls").map .str else none
      from htls)
  unfold vmessFieldsOf
  simp only [jsonString, firstText_of_get?_some hadd hserver, hu16,
    firstText_of_get?_some hid huuid, firstText_of_get?_some hps hname,
    jsonU64_of_get? haid haidLt, firstText_of_get?_some hscy (getD_firstText_ne_empty (by decide)),
    firstText_of_get?_some hnet (getD_firstText_ne_empty (by decide)), firstText_of_get? hpath,
    firstText_of_get? hhost, hguard hsni, hguard hfp, hguard halpn, htlsField, yamlString,
    filter_firstText]
  rfl

/-- Every proxy has a name. -/
lemma proxyName_ne_empty (proxy : Json) (server : String) (port : ℕ) :
    proxyName proxy server port ≠ "" := by
  refine getD_firstText_ne_empty fun h => ?_
  have hchars := congrArg String.toList h
  rw [String.toList_append, String.toList_append] at hchars
  simp at hchars

/-- The link of a proxy with a server, a port and a UUID. -/
lemma clash_vmess_link {lib : ConvertLib} (hlib : lib.Documented) (other : OtherProtocols)
    (htype : (yamlString proxy ["type"]).map lowercase = some "vmess")
    (hserver : yamlString proxy ["server"] = some server)
    (hport : yamlU16 proxy ["port"] = some port)
    (huuid : yamlString proxy ["uuid"] = some uuid) :
    ∃ link, clashProxyToUri lib other proxy = .ok link
      ∧ vmessFields lib link
        = .ok (.ofProxy proxy server port (proxyName proxy server port) uuid) := by
  obtain ⟨proxyType, hproxyType, hlower⟩ := Option.map_eq_some_iff.mp htype
  have hlink : clashProxyToUri lib other proxy
      = .ok ("vmess://" ++ PyText.b64encode (lib.json.toText (.obj
        (vmessJson proxy server port (proxyName proxy server port) uuid)))) := by
    rw [clashProxyToUri, hproxyType, hserver, hport]
    simp only [okOr, Option.elim, bind, Except.bind, hlower, clashVmessToUri, huuid]
  refine ⟨_, hlink, ?_⟩
  rw [vmessFields_encode hlib (ofTexts_vmessJson proxy server port _ uuid)]
  exact vmessFieldsOf_vmessJson (firstText_ne_empty hserver) (yamlU16_lt hport)
    (proxyName_ne_empty proxy server port) (firstText_ne_empty huuid)

end Link

/-- A library that writes and reads objects of texts. -/
def sampleConvert : ConvertLib where
  base64 := (sampleDocuments []).base64
  json :=
    { fromStr := fun text => okOr ((JsonText.read? text).map .obj) "not an object of texts"
      toText := fun
        | .obj d => JsonText.print d
        | _ => "null" }

lemma sampleConvert_documented : sampleConvert.Documented where
  base64 bytes := PyText.a2bBase64_b64Chars bytes
  json :=
    { nonempty := JsonText.print_ne_empty
      reads := fun d hd => by
        obtain ⟨d', hread, hget⟩ := JsonText.get?_read_print hd
        refine ⟨d', ?_, hget⟩
        show okOr ((JsonText.read? (JsonText.print d)).map Json.obj) _ = _
        rw [hread]
        rfl }

/-- Nothing but VMess is converted. -/
def sampleProtocols : OtherProtocols where
  clashVlessToUri _ _ _ _ := .error "VLESS proxy has no uuid"
  clashTrojanToUri _ _ _ _ := .error "Trojan proxy has no password"
  clashSsToUri _ _ _ _ := .error "Shadowsocks proxy has no cipher"
  standardUriToClash _ _ := .error "URI has no host"
  ssUriToClash _ := .error "invalid Shadowsocks URI"

/-- A proxy over WebSocket and TLS. -/
def sampleProxy : Dict :=
  [("name", .str "node"), ("type", .str "VMess"), ("server", .str "h.example"), ("port", .num 443),
    ("uuid", .str "4b1e"), ("alterId", .num 0), ("cipher", .str "auto"), ("tls", .bool true),
    ("servername", .str "s.example"), ("alpn", .arr [.str "h2", .str "http/1.1"]),
    ("network", .str "ws"), ("ws-opts", .obj [("path", .str "/ws"),
      ("headers", .obj [("Host", .str "w.example")])])]

/-- What the proxy, and the link made of it, says. -/
def sampleFields : VmessFields where
  host := "h.example"
  port := 443
  name := "node"
  uuid := "4b1e"
  aid := 0
  security := "auto"
  net := some "ws"
  tls := some "tls"
  sni := some "s.example"
  hostHeader := some "w.example"
  path := some "/ws"
  alpn := some "h2,http/1.1"
  fp := none

end V2RayDar
