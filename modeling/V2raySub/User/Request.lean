import V2raySub.User.Service

/-!
Serving a subscription link: the client classification of `utils/user_agent.py`, the device
identity of `utils/misc.py`, and `_allow_device` and `resolve_user_request` of
`services/user_service.py`.

The functions of `ipaddress` and `hashlib` the device identity is computed with are the fields
of `NetLib`.
-/

namespace V2raySub

/-! ### Who is asking -/

/-- The client names of `CLIENTS`. -/
inductive Client where
  | v2rayNG
  | v2rayN
  | hiddify
  | napsternetV
  | streisand
  | flClash
  | karing
  | nekobox
  | clash
  | shadowrocket
  | singBox
  | browserBot
  | other
  deriving DecidableEq

/-- `parse_user_agent`: the more specific names are looked for first. -/
def parseUserAgent (uaString : String) : Client :=
  if uaString = "" then .other
  else
    let ua := PyText.lower uaString
    if PyText.contains "hiddify" ua then .hiddify
    else if PyText.contains "flclash" ua then .flClash
    else if PyText.contains "karing" ua then .karing
    else if PyText.contains "streisand" ua then .streisand
    else if PyText.contains "napsternet" ua then .napsternetV
    else if PyText.contains "v2rayng" ua then .v2rayNG
    else if PyText.contains "v2rayn" ua then .v2rayN
    else if PyText.contains "nekobox" ua || PyText.contains "nekoray" ua
      || PyText.contains "husi" ua then .nekobox
    else if PyText.contains "shadowrocket" ua then .shadowrocket
    else if PyText.contains "clash" ua || PyText.contains "mihomo" ua then .clash
    else if PyText.contains "sing-box" ua then .singBox
    else if PyText.contains "bot" ua || PyText.contains "mozilla" ua then .browserBot
    else .other

/-- `_BOT_UA_MARKERS`. -/
def botUaMarkers : List String :=
  ["bot", "crawler", "spider", "preview", "facebookexternalhit", "whatsapp"]

/-- `is_bot_user_agent`. -/
def isBotUserAgent : Option String → Bool
  | none => false
  | some ua => ua ≠ "" && botUaMarkers.any fun marker => PyText.contains marker (PyText.lower ua)

/-- `is_browser_user_agent`. -/
def isBrowserUserAgent : Option String → Bool
  | none => false
  | some ua => ua ≠ "" && parseUserAgent ua = .browserBot

/-! ### Which device -/

/-- The library functions behind the device identity: the `/24` or `/48` block of an address
`ipaddress` accepts (`none` where it raises `ValueError`), and the hex digest of SHA-256. -/
structure NetLib where
  ipNetwork : String → Option String
  sha256Hex : String → String

/-- The answer of `network_key` for an address it cannot read. -/
def unknownNetwork : String := "unknown"

/-- `network_key`. -/
def networkKey (lib : NetLib) : Option String → String
  | none => unknownNetwork
  | some ip => if ip = "" then unknownNetwork
      else (lib.ipNetwork (PyText.strip ip)).getD unknownNetwork

/-- `device_fingerprint`: the first 16 digits of the hash of the network, and the network. -/
def deviceFingerprint (lib : NetLib) (ip : Option String) : String × String :=
  let net := networkKey lib ip
  (String.ofList ((lib.sha256Hex net).toList.take 16), net)

/-- The `device_window_days` setting, `7` when it is missing or not a number. -/
def deviceWindowDays (db : Db) : ℤ :=
  (PyText.intOfStr? (getSetting db "device_window_days" "7")).getD 7

/-- `_device_window_cutoff`; `none` where the date leaves the calendar (`OverflowError`). -/
def deviceWindowCutoff (now : Stamp) (db : Db) : Option Stamp :=
  now.add? (-(deviceWindowDays db * daySecs))

/-- The `device_grace_hours` setting. -/
def deviceGraceHours (db : Db) : ℤ :=
  (PyText.intOfStr? (getSetting db "device_grace_hours" "0")).getD 0

/-- `timedelta(hours=h)` in seconds, for `h > 0`; at most 999999999 days. -/
def timedeltaHours (h : ℤ) : Option ℤ := if h / 24 ≤ 999999999 then some (h * 3600) else none

/-- The grace period after activation; `none` where `timedelta` overflows. -/
def inGrace (now : Stamp) (user : UserRow) (db : Db) : Option Bool :=
  if 0 < deviceGraceHours db then
    match user.activatedAt with
    | none => some false
    | some activated =>
      (timedeltaHours (deviceGraceHours db)).map fun span => now.secs - activated.secs < span
  else some false

/-- A device row belongs to the user and carries the fingerprint. -/
def isDevice (userId : ℕ) (fp : String) (d : DeviceRow) : Bool :=
  d.userId = userId && d.fingerprint = fp

/-- `SELECT COUNT(*) FROM user_devices WHERE user_id = ? AND last_seen >= ?`. -/
def activeDevices (db : Db) (userId : ℕ) (cutoff : Stamp) : ℕ :=
  db.userDevices.countP fun d => d.userId = userId && cutoff.secs ≤ d.lastSeen.secs

/-- The `UPDATE` of a known device. -/
def refreshDevice (now : Stamp) (net : String) (ip userAgent : Option String) (d : DeviceRow) :
    DeviceRow :=
  { d with lastSeen := now, lastIp := ip, userAgent := userAgent, network := net,
           hits := d.hits + 1 }

/-- The row `_allow_device` inserts. -/
def newDeviceRow (now : Stamp) (id userId : ℕ) (fp net : String) (ip userAgent : Option String) :
    DeviceRow :=
  { id := id, userId := userId, fingerprint := fp, firstSeen := now, lastSeen := now,
    network := net, lastIp := ip, userAgent := userAgent, hits := 1 }

/-- `_allow_device`.  An unlimited cap, an unreadable address and an exception all let the
request through. -/
def allowDevice (lib : NetLib) (now : Stamp) (user : UserRow) (ip userAgent : Option String)
    (db : Db) : Db × Bool :=
  if user.maxDevices ≤ 0 then (db, true)
  else
    let (fp, net) := deviceFingerprint lib ip
    if net = unknownNetwork then (db, true)
    else
      match db.userDevices.find? (isDevice user.id fp) with
      | some dev =>
        ({ db with
            userDevices := Rows.update DeviceRow.id db.userDevices dev.id (fun _ => true)
              (refreshDevice now net ip userAgent) }, true)
      | none =>
        match inGrace now user db, deviceWindowCutoff now db with
        | some grace, some cutoff =>
          if grace || (activeDevices db user.id cutoff : ℤ) < user.maxDevices then
            ({ db with
                userDevices := db.userDevices
                  ++ [newDeviceRow now db.devicesSeq user.id fp net ip userAgent]
                devicesSeq := db.devicesSeq + 1 }, true)
          else (db, false)
        | _, _ => (db, true)

/-! ### What is served -/

/-- The outcomes of `resolve_user_request`. -/
inductive Outcome where
  | disabled
  | paused
  | expired
  | deviceLimit
  | bot
  | browser
  | serve
  deriving DecidableEq

/-- The expiry written on first use: none for an unlimited plan; the outer `none` is the
`OverflowError` of a date outside the calendar. -/
def activationExpiry (now : Stamp) (durationDays : ℤ) : Option (Option Stamp) :=
  if durationDays ≤ 0 then some none else (now.add? (durationDays * daySecs)).map some

/-- The `SET` clause of the activation. -/
def activateRow (now : Stamp) (expire : Option Stamp) (u : UserRow) : UserRow :=
  { u with activatedAt := some now, expireAt := expire }

/-- Activation on first use, by the row `user` read before: the tables after it and the row
read again, or `none` where an exception ends the request. -/
def activateWith (now : Stamp) (user : UserRow) (db : Db) : Db × Option UserRow :=
  if user.activatedAt.isSome then (db, some user)
  else
    match activationExpiry now user.durationDays with
    | none => (db, none)
    | some expire =>
      let db' := db.updateUsers user.id (fun u => u.activatedAt.isNone) (activateRow now expire)
      (db', db'.user user.id)

/-- The contact columns every recognised hit records. -/
def contactRow (now : Stamp) (ip userAgent : Option String) (u : UserRow) : UserRow :=
  { u with lastSeen := some now, lastIp := ip, lastUserAgent := userAgent }

/-- `expire is not None and expire < _utcnow()`. -/
def isExpired (now : Stamp) (user : UserRow) : Bool :=
  user.expireAt.any fun expire => expire.secs < now.secs

/-- The checks after activation, on the row read last. -/
def serveRequest (lib : NetLib) (now : Stamp) (ip userAgent : Option String) (user : UserRow)
    (db : Db) : Db × Outcome :=
  if isExpired now user then (db, .expired)
  else if isBotUserAgent userAgent then (db, .bot)
  else if isBrowserUserAgent userAgent then (db, .browser)
  else
    let (db', ok) := allowDevice lib now user ip userAgent db
    (db', if ok then .serve else .deviceLimit)

/-- `resolve_user_request` once its `SELECT` has answered `row`. -/
def resolveUserRequestWith (lib : NetLib) (now : Stamp) (ip userAgent : Option String)
    (row : Option UserRow) (db : Db) : Db × Option (Outcome × UserRow) :=
  match row with
  | none => (db, none)
  | some user =>
    let db := db.setUser user.id (contactRow now ip userAgent)
    match user.status with
    | .disabled => (db, some (.disabled, user))
    | .paused => (db, some (.paused, user))
    | .active =>
      match activateWith now user db with
      | (db, none) => (db, none)
      | (db, some user) =>
        let (db, outcome) := serveRequest lib now ip userAgent user db
        (db, some (outcome, user))

/-- `resolve_user_request`. -/
def resolveUserRequest (lib : NetLib) (now : Stamp) (subPath : String)
    (ip userAgent : Option String) (db : Db) : Db × Option (Outcome × UserRow) :=
  resolveUserRequestWith lib now ip userAgent (db.userByPath subPath) db

end V2raySub
