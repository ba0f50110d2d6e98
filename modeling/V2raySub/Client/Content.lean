import V2raySub.Base.WireText
import V2raySub.Automation.Configs
import V2raySub.User.Request

/-!
What a subscription link hands out: the served pool in its order (`get_all_configs` of
`services/config_service.py`), the name each config gets (`utils/config_parser.py`), the status
texts and headers of a user (`services/user_service.py`), and the body built from them
(`services/subscription_service.py`).

The functions of `json` and `urllib.parse` a link is put together with are the fields of
`LinkLib`.
-/

namespace V2raySub

/-- The library functions a link is renamed with, besides those it is taken apart with. -/
structure LinkLib extends ConfigLib where
  /-- `json.dumps(value, ensure_ascii=False)`. -/
  dumps : Json → String
  /-- `urlunparse(urlparse(text)._replace(fragment=fragment))`; `none` where it raises. -/
  withFragment : String → String → Option String

/-! ### The served pool -/

namespace ConfigService

/-- The orders of `_CONFIG_ORDER_SQL`, and the default. -/
inductive SortDir where
  | asc
  | desc
  | ping
  deriving DecidableEq

/-- `(latency IS NULL)`, as SQLite sorts it. -/
def latencyIsNull (c : ConfigRow) : ℕ := c.latency.isNone.toNat

/-- `(latency IS NULL) ASC, latency ASC, sort_order ASC, created_at ASC`. -/
def PingBefore (a b : ℕ × ConfigRow) : Prop :=
  latencyIsNull a.2 < latencyIsNull b.2
    ∨ (latencyIsNull a.2 = latencyIsNull b.2
      ∧ (a.2.latency.getD 0 < b.2.latency.getD 0
        ∨ (a.2.latency.getD 0 = b.2.latency.getD 0 ∧ Before a b)))

instance : DecidableRel PingBefore := fun a b =>
  inferInstanceAs (Decidable (latencyIsNull a.2 < latencyIsNull b.2
    ∨ (latencyIsNull a.2 = latencyIsNull b.2
      ∧ (a.2.latency.getD 0 < b.2.latency.getD 0
        ∨ (a.2.latency.getD 0 = b.2.latency.getD 0 ∧ Before a b)))))

/-- The `ORDER BY` of a mode. -/
def SortDir.Before : SortDir → ℕ × ConfigRow → ℕ × ConfigRow → Prop
  | .asc => ConfigService.Before
  | .desc => fun a b => ConfigService.Before b a
  | .ping => PingBefore

instance (dir : SortDir) : DecidableRel dir.Before :=
  match dir with
  | .asc => inferInstanceAs (DecidableRel ConfigService.Before)
  | .desc => fun a b => inferInstanceAs (Decidable (ConfigService.Before b a))
  | .ping => inferInstanceAs (DecidableRel PingBefore)

instance (dir : SortDir) : Std.Total dir.Before where
  total a b := by
    cases dir with
    | _ =>
        simp only [SortDir.Before, PingBefore, ConfigService.Before]
        omega

instance (dir : SortDir) : IsTrans (ℕ × ConfigRow) dir.Before where
  trans a b c := by
    cases dir with
    | _ =>
        simp only [SortDir.Before, PingBefore, ConfigService.Before]
        omega

/-- How the database orders the pool in each mode. -/
abbrev Orders := ∀ dir : SortDir, OrderBy (ℕ × ConfigRow) dir.Before

/-- Rows the columns do not tell apart stay in the order of the table. -/
def stableOrders : Orders := fun _ => .stable

/-- The `config_sort_order` setting. -/
def sortDir (db : Db) : SortDir :=
  let dir := PyText.lower (getSetting db "config_sort_order" "asc")
  if dir = "desc".toList then .desc else if dir = "ping".toList then .ping else .asc

/-- `get_all_configs`. -/
def getAllConfigs (orders : Orders) (db : PanelDb) : List ConfigRow :=
  ((orders (sortDir db.toDb)).sort (db.configs.rows.filter fun r => r.2.isServed)).map Prod.snd

end ConfigService

/-! ### The name of a config -/

/-- A regional indicator, half of a country's flag. -/
def isRegional (c : Char) : Bool := 0x1f1e6 ≤ c.toNat ∧ c.toNat ≤ 0x1f1ff

/-- A tag character, of which a region's flag is spelled. -/
def isFlagTag (c : Char) : Bool := 0xe0061 ≤ c.toNat ∧ c.toNat ≤ 0xe007f

/-- The matches of `[\U0001F1E6-\U0001F1FF]{2}|\U0001F3F4[\U000E0061-\U000E007F]+`, joined.  The
tags of a black flag are taken with it and passed over afterwards: no match starts with one. -/
def flagChars : List Char → List Char
  | [] => []
  | [_] => []
  | c :: d :: rest =>
    if isRegional c && isRegional d then c :: d :: flagChars rest
    else if c.toNat = 0x1f3f4 && isFlagTag d then
      c :: (d :: rest).takeWhile isFlagTag ++ flagChars (d :: rest)
    else flagChars (d :: rest)

/-- `extract_flags`. -/
def extractFlags (text : String) : String := String.ofList (flagChars text.toList)

/-- `str.upper()` on one character, as far as the result can be all ASCII letters; any other
character keeps one that is none. -/
def upperChar (c : Char) : List Char :=
  match c.toNat with
  | 0xdf => ['S', 'S']
  | 0x131 => ['I']
  | 0x17f => ['S']
  | 0xfb00 => ['F', 'F']
  | 0xfb01 => ['F', 'I']
  | 0xfb02 => ['F', 'L']
  | 0xfb03 => ['F', 'F', 'I']
  | 0xfb04 => ['F', 'F', 'L']
  | 0xfb05 => ['S', 'T']
  | 0xfb06 => ['S', 'T']
  | _ => [c.toUpper]

/-- `country_code_to_flag`, empty for what is no two-letter code. -/
def countryCodeToFlag (code : Option String) : String :=
  let letters := (PyText.stripChars (code.getD "").toList).flatMap upperChar
  if letters.length = 2 && letters.all fun c => 'A' ≤ c && c ≤ 'Z' then
    String.ofList (letters.map fun c => Char.ofNat (0x1f1e6 + (c.toNat - 'A'.toNat)))
  else ""

/-- `get_subscription_remark`: the flag of the engine's country, else the flags of the name, and
the number. -/
def getSubscriptionRemark (lib : ConfigLib) (index : ℕ) (configText : String)
    (configType : ConfigType) (countryCode : Option String) : String :=
  let number := toString index
  let geoFlag := countryCodeToFlag countryCode
  if geoFlag ≠ "" then geoFlag ++ " " ++ number
  else
    -- a name that is no text raises in `re.findall`
    match (extractRemark lib configText configType).map extractFlags with
    | none => number
    | some flags => if flags ≠ "" then flags ++ " " ++ number else number

/-- `format_config_remark`; what cannot be rewritten stays as it is. -/
def formatConfigRemark (lib : LinkLib) (configText : String) (configType : ConfigType)
    (newRemark : String) : String :=
  match configType with
  | .vmess =>
    if startsWith "vmess://" configText.toList then
      match (decodedBody lib.toConfigLib configText).bind lib.loads with
      | some (.obj data) =>
        "vmess://" ++ PyText.b64encode (lib.dumps (.obj (Dict.set data "ps" (.str newRemark))))
      | _ => configText
    else configText
  | .vless | .trojan | .hysteria2 =>
    (lib.withFragment configText (PyText.quote newRemark)).getD configText
  | .shadowsocks => beforeHash configText ++ "#" ++ PyText.quote newRemark

/-! ### The status of a user -/

/-- The seconds of `_remaining`, `none` without an end. -/
def remainingSecs (now : Stamp) (user : UserRow) : Option ℤ :=
  if user.durationDays = 0 then none
  else user.expireAt.map fun expire => max 0 (expire.secs - now.secs)

/-- The device line of `get_dummy_status_texts`; `none` where the window leaves the calendar. -/
def deviceText (now : Stamp) (user : UserRow) (db : Db) : Option String :=
  if 0 < user.maxDevices then
    (deviceWindowCutoff now db).map fun cutoff =>
      toString (activeDevices db user.id cutoff) ++ " / " ++ toString user.maxDevices ++ " دستگاه"
  else some "دستگاه: نامحدود"

/-- The days line of `get_dummy_status_texts`: a begun day counts as a whole one. -/
def daysText (now : Stamp) (user : UserRow) : String :=
  match remainingSecs now user with
  | none => "روز باقی مانده: نامحدود"
  | some secs =>
    let days := -(-secs / daySecs)
    (if days ≤ 3 then "🔴 " else "") ++ "روز باقی مانده: " ++ toString days ++ " روز"

/-- `get_dummy_status_texts`. -/
def getDummyStatusTexts (now : Stamp) (user : UserRow) (db : Db) : Option (String × String) :=
  (deviceText now user db).map fun text => (text, daysText now user)

/-- `get_subscription_headers`: the title, and the expiry as a Unix time. -/
def getSubscriptionHeaders (now : Stamp) (user : UserRow) (db : Db) : Option (String × Option ℤ) :=
  (getDummyStatusTexts now user db).map fun texts => (texts.1, user.expireAt.map Stamp.secs)

/-! ### The body -/

namespace SubscriptionService

/-- `EXPIRED_MESSAGE`. -/
def expiredMessage : String := "⚠️ اشتراک شما به پایان رسیده است ⚠️"

/-- `DEVICE_LIMIT_MESSAGE`. -/
def deviceLimitMessage : String := "⚠️ سقف تعداد دستگاه پر شده است ⚠️"

/-- `BOT_PLACEHOLDER_MESSAGE`. -/
def botPlaceholderMessage : String := "Content not available"

/-- `_encode`. -/
def encode (db : Db) (content : String) : String :=
  if getSetting db "output_format" "base64" = "base64" then PyText.b64encode content else content

/-- A dummy config that shows a status text. -/
def statusLine (text : String) : String := "trojan://status@127.0.0.1:443#" ++ PyText.quote text

/-- The line of the config with the number `index`. -/
def configLine (lib : LinkLib) (index : ℕ) (c : ConfigRow) : String :=
  formatConfigRemark lib c.configText c.configType
    (getSubscriptionRemark lib.toConfigLib index c.configText c.configType c.countryCode)

/-- The lines of the pool, numbered from one. -/
def configLines (lib : LinkLib) (configs : List ConfigRow) : List String :=
  configs.mapIdx fun i c => configLine lib (i + 1) c

/-- `generate_subscription_content`; `none` where the status texts raise. -/
def generateSubscriptionContent (lib : LinkLib) (orders : ConfigService.Orders) (now : Stamp)
    (user : Option UserRow) (db : PanelDb) : Option String := do
  let configs := ConfigService.getAllConfigs orders db
  let head ← match user with
    | none => some []
    | some user => (getDummyStatusTexts now user db.toDb).map fun texts =>
        [statusLine texts.1, statusLine texts.2]
  return encode db.toDb ("\n".intercalate (head ++ configLines lib configs))

/-- `generate_dummy_content`. -/
def generateDummyContent (db : Db) (message : String) : String :=
  encode db ("trojan://expired-user@127.0.0.1:443#" ++ PyText.quote message)

end SubscriptionService
end V2raySub
