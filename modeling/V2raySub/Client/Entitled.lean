import V2raySub.Automation.Import
import V2raySub.User.Served
import V2raySub.Client.Subscription

/-!
Who is given the pool.

* `resolveUserRequest_serve`: what the outcome `serve` says about the row that was read, the
  `User-Agent` and `_allow_device`.
* `Admits.registered_iff`: a device that is let through under a cap is registered, unless it
  is new and a date of the cap leaves the calendar.
* `pool_only_for_entitled`: **without the outcome `serve` the response says nothing about the
  pool, and with it the user is entitled to the pool**.
-/

namespace V2raySub

/-- The outcome of the request, `none` for the answer `None`. -/
def requestOutcome (lib : NetLib) (now : Stamp) (req : Request) (subPath : String) (db : Db) :
    Option Outcome :=
  (resolveUserRequest lib now subPath req.remoteAddr (some (req.userAgent.getD "")) db).2.map
    Prod.fst

/-- The user has a device at the network block of the address. -/
def Db.Knows (lib : NetLib) (ip : Option String) (userId : ℕ) (db : Db) : Prop :=
  ∃ d ∈ db.userDevices, isDevice userId (deviceFingerprint lib ip).1 d

/-- The user has a device at the network block of the address, seen at this second. -/
def Db.Registered (lib : NetLib) (now : Stamp) (ip : Option String) (userId : ℕ) (db : Db) :
    Prop :=
  ∃ d ∈ db.userDevices, isDevice userId (deviceFingerprint lib ip).1 d
    ∧ d.network = networkKey lib ip ∧ d.lastSeen = now

/-- The span of the grace period and the start of the window can be computed. -/
def CapInCalendar (now : Stamp) (db : Db) : Prop :=
  (0 < deviceGraceHours db → timedeltaHours (deviceGraceHours db) ≠ none)
    ∧ deviceWindowCutoff now db ≠ none

/-! ### The row of a served user -/

lemma Db.userByPath_updateUsers (db : Db) (i : ℕ) (p : UserRow → Bool) {f : UserRow → UserRow}
    (hf : ∀ u, (f u).path = u.path) (path : String) :
    (db.updateUsers i p f).userByPath path
      = (db.userByPath path).map fun u => if u.id = i ∧ p u then f u else u :=
  Rows.get_update_other hf path

variable {db db' : Db} {path : String} {u w : UserRow}

/-- The row handed on after the activation: the one stored, but for its contact columns. -/
lemma activateWith_stored (hk : Rows.Keyed UserRow.id db.users)
    (hu : db.userByPath path = some u) {now : Stamp} {ip ua : Option String}
    (h : activateWith now u (db.setUser u.id (contactRow now ip ua)) = (db', some w)) :
    db'.userByPath path = some (contactRow now ip ua w) ∧ w.id = u.id ∧ w.status = u.status
      ∧ w.activatedAt ≠ none ∧ db'.userDevices = db.userDevices ∧ db'.settings = db.settings := by
  have hcontact : (db.setUser u.id (contactRow now ip ua)).userByPath path
      = some (contactRow now ip ua u) := by
    rw [Db.setUser, Db.userByPath_updateUsers db _ _ (f := contactRow now ip ua) fun _ => rfl, hu]
    simp
  rw [activateWith] at h
  split_ifs at h with ha
  · cases h
    exact ⟨hcontact, rfl, rfl, Option.isSome_iff_ne_none.mp ha, rfl, rfl⟩
  · have hnone : u.activatedAt = none := Option.not_isSome_iff_eq_none.mp ha
    cases he : activationExpiry now u.durationDays with
    | none => simp [he] at h
    | some expire =>
        simp only [he, Prod.mk.injEq] at h
        obtain ⟨rfl, hw⟩ := h
        have hread : db.user u.id = some u := hk.get_of_mem (Rows.get_mem hu)
        rw [Db.user_updateUsers _ _ _ _ (f := activateRow now expire) fun _ => rfl,
          Db.user_setUser db _ _ (id_contactRow now ip ua), hread] at hw
        have hrow : w = activateRow now expire (contactRow now ip ua u) := by
          simpa [contactRow, hnone] using hw.symm
        subst hrow
        refine ⟨?_, rfl, rfl, by simp [activateRow], rfl, rfl⟩
        rw [Db.userByPath_updateUsers _ _ _ (f := activateRow now expire) fun _ => rfl, hcontact]
        simp [contactRow, activateRow, hnone]

/-- **The outcome `serve`**: every check was passed, on the row read last. -/
lemma resolveUserRequest_serve {lib : NetLib} {now : Stamp} {ip ua : Option String}
    (h : (resolveUserRequest lib now path ip ua db).2 = some (.serve, w)) :
    ∃ u db₁, db.userByPath path = some u ∧ u.status = .active
      ∧ activateWith now u (db.setUser u.id (contactRow now ip ua)) = (db₁, some w)
      ∧ isExpired now w = false ∧ isBotUserAgent ua = false ∧ isBrowserUserAgent ua = false
      ∧ (resolveUserRequest lib now path ip ua db).1 = (allowDevice lib now w ip ua db₁).1
      ∧ (allowDevice lib now w ip ua db₁).2 = true := by
  rw [resolveUserRequest] at h ⊢
  cases hu : db.userByPath path with
  | none =>
      rw [hu] at h
      cases h
  | some u =>
      rw [hu] at h
      rw [resolveUserRequestWith] at h ⊢
      cases hs : u.status with
      | disabled => simp [hs] at h
      | paused => simp [hs] at h
      | active =>
          simp only [hs] at h ⊢
          rcases ha : activateWith now u (db.setUser u.id (contactRow now ip ua)) with ⟨db₁, _ | v⟩
          · simp [ha] at h
          · simp only [ha, Option.some.injEq, Prod.mk.injEq] at h ⊢
            obtain ⟨hserve, rfl⟩ := h
            rw [serveRequest] at hserve ⊢
            split_ifs at hserve with hexp hbot hbrowser
            dsimp only at hserve
            split_ifs at hserve with hok
            refine ⟨u, db₁, rfl, hs, ha, by simpa using hexp, by simpa using hbot,
              by simpa using hbrowser, ?_, hok⟩
            rw [if_neg hexp, if_neg hbot, if_neg hbrowser]

/-! ### The row of his device -/

lemma Db.Registered.knows {lib : NetLib} {now : Stamp} {ip : Option String} {i : ℕ}
    (h : db.Registered lib now ip i) : db.Knows lib ip i := by
  obtain ⟨d, hd, hmine, -⟩ := h
  exact ⟨d, hd, hmine⟩

lemma not_knows_of_find {lib : NetLib} {ip : Option String} {i : ℕ}
    (h : db.userDevices.find? (isDevice i (deviceFingerprint lib ip).1) = none) :
    ¬db.Knows lib ip i := by
  rintro ⟨d, hd, hmine⟩
  exact List.find?_eq_none.mp h d hd hmine

lemma inGrace_eq_none_iff {now : Stamp} (ha : u.activatedAt ≠ none) (db : Db) :
    inGrace now u db = none
      ↔ 0 < deviceGraceHours db ∧ timedeltaHours (deviceGraceHours db) = none := by
  obtain ⟨activated, ha⟩ := Option.ne_none_iff_exists'.mp ha
  rw [inGrace, ha]
  split_ifs with hpos
  · simp [hpos]
  · simp [hpos]

lemma capInCalendar_iff {now : Stamp} (ha : u.activatedAt ≠ none) (db : Db) :
    CapInCalendar now db ↔ inGrace now u db ≠ none ∧ deviceWindowCutoff now db ≠ none := by
  rw [CapInCalendar, ne_eq (inGrace now u db), inGrace_eq_none_iff ha db, not_and]

lemma capInCalendar_congr (h : db'.settings = db.settings) (now : Stamp) :
    CapInCalendar now db' ↔ CapInCalendar now db := by
  simp only [CapInCalendar, deviceGraceHours, deviceWindowCutoff, deviceWindowDays, getSetting, h]

/-- A device that is let through under a cap is registered, unless it is new and a date of the cap
cannot be computed. -/
lemma Admits.registered_iff {lib : NetLib} {now : Stamp} {ip ua : Option String} {r : Db × Bool}
    (h : Admits lib now u ip ua db r) (hcap : 0 < u.maxDevices)
    (hnet : networkKey lib ip ≠ unknownNetwork) (ha : u.activatedAt ≠ none) (hok : r.2 = true) :
    r.1.Registered lib now ip u.id ↔ db.Knows lib ip u.id ∨ CapInCalendar now db := by
  rw [capInCalendar_iff ha]
  cases h with
  | uncapped h => exact absurd h (not_le.mpr hcap)
  | unreadable h => exact absurd h hnet
  | refuse cutoff h => cases hok
  | refresh dev hf =>
      have hdev := List.mem_of_find?_eq_some hf
      have hmine := List.find?_some hf
      refine iff_of_true ⟨refreshDevice now (networkKey lib ip) ip ua dev, ?_, hmine, rfl, rfl⟩
        (.inl ⟨dev, hdev, hmine⟩)
      exact List.mem_map.mpr ⟨dev, hdev, by simp⟩
  | raise hf hnone =>
      have hnew : ¬db.Knows lib ip u.id := not_knows_of_find hf
      refine iff_of_false (fun h => hnew h.knows) fun h => ?_
      obtain ⟨hg, hc⟩ := h.resolve_left hnew
      exact hnone.elim hg hc
  | insert grace cutoff hf hg hc hfree =>
      refine iff_of_true ⟨_, List.mem_append_right _ (List.mem_singleton_self _), ?_, rfl, rfl⟩
        (.inr ⟨by simp [hg], by simp [hc]⟩)
      simp [isDevice, newDeviceRow]

/-! ### Who is given the pool -/

lemma subscription_toDb (lib : SiteLib) (orders : ConfigService.Orders) (now : Stamp)
    (req : Request) (subPath : String) (site : SiteDb) :
    (subscription lib orders now req subPath site).1.toDb
      = (resolveUserRequest lib.toNetLib now subPath req.remoteAddr
          (some (req.userAgent.getD "")) site.toDb).1 := by
  have hlog : ∀ status (site : SiteDb), (logSubscriptionAccess now req.remoteAddr
      (req.userAgent.getD "") status subPath site).toDb = site.toDb := fun status site => by
    cases req.remoteAddr with
    | _ => rfl
  rw [subscription]
  generalize resolveUserRequest lib.toNetLib now subPath req.remoteAddr
    (some (req.userAgent.getD "")) site.toDb = r
  obtain ⟨db, _ | ⟨outcome, user⟩⟩ := r
  · exact hlog _ _
  · cases outcome with
    | _ => exact hlog _ _

/-- A refusal does not look at the pool. -/
lemma response_of_ne_serve {lib : SiteLib} {now : Stamp} {req : Request} {subPath : String}
    {site : SiteDb} (h : requestOutcome lib.toNetLib now req subPath site.toDb ≠ some .serve)
    (orders orders' : ConfigService.Orders) (configs : AutoTable ConfigRow) :
    (subscription lib orders' now req subPath { site with configs := configs }).2
      = (subscription lib orders now req subPath site).2 := by
  rw [requestOutcome] at h
  rw [subscription, subscription]
  generalize resolveUserRequest lib.toNetLib now subPath req.remoteAddr
    (some (req.userAgent.getD "")) site.toDb = r at h ⊢
  obtain ⟨db, _ | ⟨outcome, user⟩⟩ := r
  · rfl
  · cases outcome with
    | serve => exact absurd rfl h
    | disabled | paused | expired | deviceLimit | bot | browser => rfl

/-- **Only the entitled are given the pool.**  Without the outcome `serve`, two states that differ
in the pool alone get the same response, however the database orders it.  With it, the link is that
of an active user whose plan has not run out, asked for by neither a crawler nor a browser, and
under a cap a device at the network block of a readable address is on record as seen at this
second, exactly if it was known or the dates of the cap can be computed. -/
theorem pool_only_for_entitled (lib : SiteLib) (orders : ConfigService.Orders) (now : Stamp)
    (req : Request) (subPath : String) {site : SiteDb}
    (hk : Rows.Keyed UserRow.id site.users) :
    (requestOutcome lib.toNetLib now req subPath site.toDb ≠ some .serve →
      ∀ orders' configs,
        (subscription lib orders' now req subPath { site with configs := configs }).2
          = (subscription lib orders now req subPath site).2)
    ∧ (requestOutcome lib.toNetLib now req subPath site.toDb = some .serve →
      isBotUserAgent (some (req.userAgent.getD "")) = false
      ∧ isBrowserUserAgent (some (req.userAgent.getD "")) = false
      ∧ ∃ user user', site.userByPath subPath = some user ∧ user.status = .active
        ∧ (subscription lib orders now req subPath site).1.userByPath subPath = some user'
        ∧ user'.id = user.id ∧ user'.status = .active ∧ (∀ expire ∈ user'.expireAt, now ≤ expire)
        ∧ (0 < user'.maxDevices → networkKey lib.toNetLib req.remoteAddr ≠ unknownNetwork →
          ((subscription lib orders now req subPath site).1.Registered lib.toNetLib now
              req.remoteAddr user'.id
            ↔ site.Knows lib.toNetLib req.remoteAddr user'.id ∨ CapInCalendar now site.toDb))) := by
  refine ⟨fun hout orders' configs => response_of_ne_serve hout orders orders' configs,
    fun hout => ?_⟩
  obtain ⟨⟨o, w⟩, hres, rfl⟩ := Option.map_eq_some_iff.mp hout
  obtain ⟨u, db₁, hu, hs, hact, hexp, hbot, hbrowser, hdb, hok⟩ := resolveUserRequest_serve hres
  obtain ⟨hstored, hid, hstatus, ha, hdev, hset⟩ := activateWith_stored hk hu hact
  have hadm := allowDevice_admits lib.toNetLib now w req.remoteAddr (some (req.userAgent.getD ""))
    db₁
  refine ⟨hbot, hbrowser, u, contactRow now req.remoteAddr (some (req.userAgent.getD "")) w, hu,
    hs, ?_, hid, hstatus.trans hs, (isExpired_eq_false_iff now w).mp hexp, fun hcap hnet => ?_⟩
  · rw [subscription_toDb, hdb, Db.userByPath, hadm.same.1]
    exact hstored
  · have hknows : db₁.Knows lib.toNetLib req.remoteAddr w.id
        ↔ site.Knows lib.toNetLib req.remoteAddr w.id := by
      rw [Db.Knows, Db.Knows, hdev]
    rw [subscription_toDb, hdb, ← capInCalendar_congr hset now]
    exact (hadm.registered_iff hcap hnet ha hok).trans (or_congr_left hknows)

/-- The library functions on plain links and the two networks of the sample. -/
def sampleSiteLib : SiteLib where
  toConfigLib := ConfigImporter.sampleConfigLib
  dumps := fun _ => ""
  withFragment := fun text fragment => some (beforeHash text ++ "#" ++ fragment)
  toNetLib := sampleLib
  renderNotice := fun subUrl => subUrl

/-- A request from the first network. -/
def sampleRequest (userAgent : String) : Request :=
  { remoteAddr := some "1.2.3.4", userAgent := some userAgent, hostUrl := "https://panel.example/",
    session := [], freshToken := "5f0c" }

/-- The panel with the sample user, a cap of one device, one config and a grace period. -/
def sampleSite (graceHours : String) : SiteDb where
  toDb := { sampleAdded with settings := [("device_grace_hours", graceHours)] }
  configs := AutoTable.empty.insert ConfigImporter.sampleSlow
  configHealthHistory := .empty
  scanHistory := .empty
  autoSources := .empty
  subscriptionLogs := .empty

/-- A client is served and its device registered; a crawler gets the same text without the pool. -/
theorem pool_only_for_entitled_sample :
    (subscription sampleSiteLib ConfigService.stableOrders (Stamp.day 1)
        (sampleRequest "TelegramBot") "k3XbQ9pLm2TzR7vW"
        { sampleSite "0" with configs := .empty }).2
      = (subscription sampleSiteLib ConfigService.stableOrders (Stamp.day 1)
        (sampleRequest "TelegramBot") "k3XbQ9pLm2TzR7vW" (sampleSite "0")).2
    ∧ (subscription sampleSiteLib ConfigService.stableOrders (Stamp.day 1)
        (sampleRequest "v2rayNG/1.8.5") "k3XbQ9pLm2TzR7vW" (sampleSite "0")).1.Registered
        sampleLib (Stamp.day 1) (some "1.2.3.4") 1 := by
  have hk : Rows.Keyed UserRow.id (sampleSite "0").users := sampleAdded_sound.keyed
  refine ⟨(pool_only_for_entitled sampleSiteLib _ (Stamp.day 1) (sampleRequest "TelegramBot")
    "k3XbQ9pLm2TzR7vW" hk).1 (by decide +kernel) _ _, ?_⟩
  obtain ⟨-, -, u, u', -, -, hu', -, -, -, hreg⟩ :=
    (pool_only_for_entitled sampleSiteLib ConfigService.stableOrders (Stamp.day 1)
      (sampleRequest "v2rayNG/1.8.5") "k3XbQ9pLm2TzR7vW" hk).2 (by decide +kernel)
  have hrow : (some u').map (fun u => (u.id, u.maxDevices)) = some (1, 1) := by
    rw [← hu']
    decide +kernel
  obtain ⟨hid, hcap⟩ : u'.id = 1 ∧ u'.maxDevices = 1 := by simpa using hrow
  have hcal : CapInCalendar (Stamp.day 1) (sampleSite "0").toDb :=
    ⟨fun h => absurd h (by decide +kernel), by decide +kernel⟩
  have hrecord := (hreg (by omega) (by decide +kernel)).mpr (.inr hcal)
  rwa [hid] at hrecord

/-- A grace period past the range of `timedelta`: the new device is served without a record. -/
theorem overflowing_grace_unregistered :
    requestOutcome sampleLib (Stamp.day 1) (sampleRequest "v2rayNG/1.8.5") "k3XbQ9pLm2TzR7vW"
        (sampleSite "100000000000").toDb = some .serve
    ∧ ((sampleSite "100000000000").userByPath "k3XbQ9pLm2TzR7vW").map UserRow.maxDevices = some 1
    ∧ networkKey sampleLib (some "1.2.3.4") = "1.2.3.0/24"
    ∧ (subscription sampleSiteLib ConfigService.stableOrders (Stamp.day 1)
        (sampleRequest "v2rayNG/1.8.5") "k3XbQ9pLm2TzR7vW" (sampleSite "100000000000")).1.userDevices
      = []
    ∧ (subscription sampleSiteLib ConfigService.stableOrders (Stamp.day 1)
        (sampleRequest "v2rayNG/1.8.5") "k3XbQ9pLm2TzR7vW" (sampleSite "100000000000")).2.map
        Response.status = some 200 := by
  refine ⟨by decide +kernel, by decide +kernel, by decide +kernel, by decide +kernel,
    by decide +kernel⟩

end V2raySub
