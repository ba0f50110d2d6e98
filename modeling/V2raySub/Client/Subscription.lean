import V2raySub.Client.Content

/-!
The route `GET /sub/<path>` (`routes/client.py`, `subscription`), with the access log
(`log_subscription_access` of `services/statistics_service.py`), the public address of the panel
(`get_public_base_url` of `utils/misc.py`) and the session token every template is given
(`utils/csrf.py`).
-/

namespace V2raySub

/-- The library functions of the route: those of the device identity and of the body, and
`render_template('subscription_notice.html', sub_url=…)`. -/
structure SiteLib extends LinkLib, NetLib where
  renderNotice : String → String

/-! ### The access log -/

/-- The stored `status` of an access (`STATUS_*`). -/
inductive AccessStatus where
  | success
  | notFound
  | expired
  | userDisabled
  | userPaused
  | deviceLimit
  | botBlocked
  | browserView
  deriving DecidableEq

/-- A row of `subscription_logs`. -/
structure AccessRow where
  ipAddress : String
  userAgent : String
  accessedAt : Stamp
  status : AccessStatus
  requestPath : String
  deriving DecidableEq

/-- The tables of the panel with the access log. -/
structure SiteDb extends PanelDb where
  subscriptionLogs : AutoTable AccessRow
  deriving DecidableEq

/-- `log_subscription_access`; `ip_address` is `NOT NULL`, and what raises is swallowed. -/
def logSubscriptionAccess (now : Stamp) (ip : Option String) (ua : String)
    (status : AccessStatus) (requestPath : String) (site : SiteDb) : SiteDb :=
  match ip with
  | none => site
  | some ip =>
    { site with subscriptionLogs := site.subscriptionLogs.insert ⟨ip, ua, now, status, requestPath⟩ }

/-! ### Requests and responses -/

/-- What the route reads of a request: the address, the `User-Agent` header if it is there, the
address the panel was asked at, the session, and the token `secrets.token_hex` would draw. -/
structure Request where
  remoteAddr : Option String
  userAgent : Option String
  hostUrl : String
  session : Dict
  freshToken : String

/-- A response, with the session that goes back in its cookie. -/
structure Response where
  status : ℕ
  contentType : String
  body : String
  headers : List (String × String)
  session : Dict

/-- `resp.headers[name] = value` for a name not yet there; a line break in the value raises. -/
def Response.setHeader (resp : Response) (name value : String) : Option Response :=
  if value.toList.any fun c => c = '\n' || c = '\r' then none
  else some { resp with headers := resp.headers ++ [(name, value)] }

/-- `get_csrf_token`: the session with its token. -/
def getCsrfToken (req : Request) : Dict :=
  if ((Dict.get? req.session "csrf_token").map Json.truthy).getD false then req.session
  else Dict.set req.session "csrf_token" (.str req.freshToken)

/-- `get_public_base_url`. -/
def getPublicBaseUrl (req : Request) (db : Db) : String :=
  let configured := PyText.strip (getSetting db "public_base_url" "")
  if configured = "" then req.hostUrl
  else if configured.toList.getLast? = some '/' then configured
  else configured ++ "/"

/-! ### The route -/

/-- `_text`. -/
def textResponse (req : Request) (content : String) (status : ℕ) : Response :=
  { status := status, contentType := "text/plain; charset=utf-8", body := content,
    headers := [], session := req.session }

/-- The page for a browser; rendering a template draws the session's token. -/
def noticeResponse (lib : SiteLib) (req : Request) (subPath : String) (db : Db) : Response :=
  { status := 200, contentType := "text/html; charset=utf-8",
    body := lib.renderNotice (getPublicBaseUrl req db ++ "sub/" ++ subPath),
    headers := [], session := getCsrfToken req }

/-- `UNLIMITED_TOTAL`. -/
def unlimitedTotal : ℕ := 1099511627776000

/-- The response for the outcome `serve`; `none` where an exception ends the request. -/
def serveResponse (lib : SiteLib) (orders : ConfigService.Orders) (now : Stamp) (req : Request)
    (user : UserRow) (db : PanelDb) : Option Response := do
  let content ← SubscriptionService.generateSubscriptionContent lib.toLinkLib orders now
    (some user) db
  let (profileTitle, expireTs) ← getSubscriptionHeaders now user db.toDb
  let resp ← (textResponse req content 200).setHeader "Profile-Title"
    ("base64:" ++ PyText.b64encode profileTitle)
  let resp ← resp.setHeader "Profile-Update-Interval"
    (getSetting db.toDb "profile_update_interval_hours" "6")
  match expireTs with
  | none => return resp
  | some ts =>
    resp.setHeader "Subscription-Userinfo"
      ("upload=0; download=0; total=" ++ toString unlimitedTotal ++ "; expire=" ++ toString ts)

/-- `subscription`: the tables after the request, and the response, `none` where an exception ends
the request. -/
def subscription (lib : SiteLib) (orders : ConfigService.Orders) (now : Stamp) (req : Request)
    (subPath : String) (site : SiteDb) : SiteDb × Option Response :=
  let ua := req.userAgent.getD ""
  let (db, resolved) :=
    resolveUserRequest lib.toNetLib now subPath req.remoteAddr (some ua) site.toDb
  let site := { site with toDb := db }
  let log := fun status => logSubscriptionAccess now req.remoteAddr ua status subPath site
  match resolved with
  | none => (log .notFound, some (textResponse req "Not Found" 404))
  | some (.disabled, _) => (log .userDisabled, some (textResponse req "Not Found" 404))
  | some (.expired, _) =>
    (log .expired, some (textResponse req
      (SubscriptionService.generateDummyContent db SubscriptionService.expiredMessage) 200))
  | some (.paused, _) =>
    (log .userPaused, some (textResponse req
      (SubscriptionService.generateDummyContent db SubscriptionService.expiredMessage) 200))
  | some (.deviceLimit, _) =>
    (log .deviceLimit, some (textResponse req
      (SubscriptionService.generateDummyContent db SubscriptionService.deviceLimitMessage) 200))
  | some (.bot, _) =>
    (log .botBlocked, some (textResponse req SubscriptionService.botPlaceholderMessage 200))
  | some (.browser, _) => (log .browserView, some (noticeResponse lib req subPath db))
  | some (.serve, user) =>
    let site := log .success
    (site, serveResponse lib orders now req user site.toPanelDb)

end V2raySub
