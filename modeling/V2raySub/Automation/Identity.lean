import V2raySub.Base.Json
import V2raySub.Automation.Schema

/-!
What makes two configs the same (`utils/config_parser.py`): the type of a link, its display name,
and `get_config_identity`, the cleaned name with the technical part.

The functions of `base64`, `json` and `urllib.parse` a link is taken apart with are the fields of
`ConfigLib`.
-/

namespace V2raySub

/-- The library functions a link is taken apart with; `none` where they raise. -/
structure ConfigLib where
  /-- `base64.b64decode(text.encode('utf-8')).decode('utf-8')`. -/
  b64decode : String → Option String
  /-- `json.loads`. -/
  loads : String → Option Json
  /-- `json.dumps(value, sort_keys=True)`. -/
  dumpsSorted : Json → String
  /-- `urlparse(text).fragment`. -/
  urlFragment : String → Option String
  /-- `unquote`. -/
  unquote : String → String

/-- `text.startswith(start)`. -/
def startsWith (start : String) (text : List Char) : Bool := start.toList <+: text

/-- `text[n:]`. -/
def dropText (n : ℕ) (text : String) : String := String.ofList (text.toList.drop n)

/-- `text.split('#', 1)[0]`. -/
def beforeHash (text : String) : String := String.ofList (text.toList.takeWhile (· ≠ '#'))

/-- `text.split('#', 1)[1]`, `none` without a `#`. -/
def afterHash? (text : String) : Option String :=
  match text.toList.dropWhile (· ≠ '#') with
  | [] => none
  | _ :: rest => some (String.ofList rest)

/-- `detect_config_type`. -/
def detectConfigType (configText : String) : Option ConfigType :=
  let configLower := PyText.lower configText
  if startsWith "vmess://" configLower then some .vmess
  else if startsWith "vless://" configLower then some .vless
  else if startsWith "trojan://" configLower then some .trojan
  else if startsWith "ss://" configLower then some .shadowsocks
  else if startsWith "hysteria2://" configLower || startsWith "hy2://" configLower then
    some .hysteria2
  else none

/-! ### The display name -/

/-- `safe_b64decode`: the URL-safe characters replaced and the padding completed. -/
def safeB64decode (lib : ConfigLib) (b64 : String) : Option String :=
  let clean := (PyText.stripChars b64.toList).map fun c =>
    if c = '-' then '+' else if c = '_' then '/' else c
  let missing := clean.length % 4
  lib.b64decode (String.ofList
    (if missing = 0 then clean else clean ++ List.replicate (4 - missing) '='))

/-- `decoded = safe_b64decode(text[8:])` where a falsy `decoded` is skipped. -/
def decodedBody (lib : ConfigLib) (configText : String) : Option String :=
  (safeB64decode lib (dropText 8 configText)).filter (· ≠ "")

/-- The `ps` of a `vmess` document, `none` if it is no text. -/
def remarkOfDocument : Json → Option String
  | .obj fields =>
    match Dict.get? fields "ps" with
    | none => some "Config"
    | some (.str s) => some s
    | some _ => none
  | _ => some "Config"

/-- `extract_remark`; `none` for a name that is no text, which nothing can be done with. -/
def extractRemark (lib : ConfigLib) (configText : String) : ConfigType → Option String
  | .vmess =>
    match decodedBody lib configText with
    | none => some "Config"
    | some decoded =>
      match lib.loads decoded with
      | none => some "Config"
      | some data => remarkOfDocument data
  | .vless | .trojan | .hysteria2 =>
    match lib.urlFragment configText with
    | none => some "Config"
    | some fragment => some (lib.unquote fragment)
  | .shadowsocks =>
    match afterHash? configText with
    | none => some "Config"
    | some remark => some (lib.unquote remark)

/-- A character of the class `[\.\-\)\s]`. -/
def isNumberingSep (c : Char) : Bool := c = '.' || c = '-' || c = ')' || PyText.isSpace c

/-- `re.sub(r'^\d+[\.\-\)\s]+\s*', '', remark)` on the characters: a number and separators at the
start go, if both are there. -/
def dropNumbering (remark : List Char) : List Char :=
  let afterDigits := remark.dropWhile fun c => (PyText.digit? c).isSome
  let rest := afterDigits.dropWhile isNumberingSep
  if afterDigits.length = remark.length ∨ rest.length = afterDigits.length then remark else rest

/-- `clean_remark`. -/
def cleanRemark (remark : String) : String :=
  String.ofList (PyText.stripChars (dropNumbering remark.toList))

/-! ### The identity -/

/-- The identity of a config: its name, if it has one, and its technical part. -/
abbrev Identity := Option String × String

instance decidableKnown (identity : Identity) (identities : List Identity) :
    Decidable (identity ∈ identities) := List.instDecidableMemOfLawfulBEq identity identities

/-- The technical part of a `vmess` document: the document without its `ps`; `none` where taking
it raises. -/
def detailsOfDocument (lib : ConfigLib) : Json → Option String
  | .obj fields => some (lib.dumpsSorted (.obj (Dict.without fields "ps")))
  | .arr items =>
    -- a list has a `copy`, but no key to delete
    if items.any (·.isStr "ps") then none else some (lib.dumpsSorted (.arr items))
  | _ => none

/-- The part of a link before its name, with `hy2` written out. -/
def linkDetails (configText : String) : String :=
  let details := beforeHash configText
  if startsWith "hy2://" details.toList then "hysteria2://" ++ dropText 6 details else details

/-- `get_config_identity`; whatever raises falls back on the whole text. -/
def getConfigIdentity (lib : ConfigLib) (configText : String) (configType : ConfigType) :
    Identity :=
  match extractRemark lib configText configType with
  | none => (none, configText)
  | some rawRemark =>
    let cleanName := cleanRemark rawRemark
    match configType with
    | .vmess =>
      if startsWith "vmess://" configText.toList then
        match ((decodedBody lib configText).bind lib.loads).bind (detailsOfDocument lib) with
        | some details => (some cleanName, details)
        | none => (none, configText)
      else (none, configText)
    | .vless | .trojan | .shadowsocks | .hysteria2 => (some cleanName, linkDetails configText)

/-- The identity of a row. -/
def ConfigRow.identity (lib : ConfigLib) (c : ConfigRow) : Identity :=
  getConfigIdentity lib c.configText c.configType

end V2raySub
