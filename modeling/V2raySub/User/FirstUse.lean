import V2raySub.User.Owners

/-!
Who starts the clock of a plan.

* `Db.Idle`: a user who has not been activated has no devices on record, kept by every operation
  of the panel (`PanelTables.idle_run`).
* `firstUse_iff`: a fetch sets `activated_at` exactly if its link is that of an active user who has
  not been activated, and his expiry is a date of the calendar.
* `serve_iff_of_startsClock`: such a fetch is served exactly if neither a crawler nor a browser
  makes it; the device cap cannot refuse it.
* `first_use_by_client_iff`: **over every sequence of fetches from a reachable state, the fetches
  that start a clock are served exactly if none of them is a crawler's or a browser's**.
-/

namespace V2raySub

/-! ### No devices before the first use -/

/-- A user who has not been activated has no devices, and no device belongs to an id to come. -/
structure Db.Idle (db : Db) : Prop where
  sound : db.Sound
  waiting : ∀ u ∈ db.users, u.activatedAt = none → ∀ d ∈ db.userDevices, d.userId ≠ u.id
  known : ∀ d ∈ db.userDevices, d.userId < db.usersSeq

variable {db db' : Db}

/-- An update of the users that keeps the ids and takes no activation back. -/
lemma Db.Idle.updateUsers (h : db.Idle) (i : ℕ) (p : UserRow → Bool) {f : UserRow → UserRow}
    (hf : ∀ u, (f u).id = u.id ∧ ((f u).activatedAt = none → u.activatedAt = none)) :
    (db.updateUsers i p f).Idle where
  sound := h.sound.updateUsers i p fun u => (hf u).1
  waiting := Rows.forall_mem_update h.waiting fun u hu _ _ hn => by
    rw [(hf u).1]
    exact h.waiting u hu ((hf u).2 hn)
  known := h.known

/-- Fewer users and fewer devices. -/
lemma Db.Idle.shrink (h : db.Idle) (hs : db'.Sound) (hu : db'.users ⊆ db.users)
    (hd : ∀ d ∈ db'.userDevices, ∃ d₀ ∈ db.userDevices, d.userId = d₀.userId)
    (hq : db'.usersSeq = db.usersSeq) : db'.Idle where
  sound := hs
  waiting := fun u hmem hn d hd' => by
    obtain ⟨d₀, hd₀, he⟩ := hd d hd'
    rw [he]
    exact h.waiting u (hu hmem) hn d₀ hd₀
  known := fun d hd' => by
    obtain ⟨d₀, hd₀, he⟩ := hd d hd'
    rw [he, hq]
    exact h.known d₀ hd₀

/-- One more user under the next id. -/
lemma Db.Idle.append (h : db.Idle) {row : UserRow} (hid : row.id = db.usersSeq) :
    Db.Idle { db with users := db.users ++ [row], usersSeq := db.usersSeq + 1 } where
  sound := h.sound.append hid
  waiting := fun u hu hn d hd => by
    rcases List.mem_append.mp hu with hu | hu
    · exact h.waiting u hu hn d hd
    · rw [List.mem_singleton.mp hu, hid]
      exact (h.known d hd).ne
  known := fun d hd => Nat.lt_succ_of_lt (h.known d hd)

lemma RowWrite.idle (hw : RowWrite db db') (h : db.Idle) : db'.Idle := by
  have hs := hw.sound h.sound
  cases hw with
  | addUser row _ hid _ => exact h.append hid
  | deleteUser i =>
      exact h.shrink hs (fun u hu => List.mem_of_mem_filter hu)
        (fun d hd => ⟨d, List.mem_of_mem_filter hd, rfl⟩) rfl
  | editUser i p f hf => exact h.updateUsers i p fun u => ⟨(hf u).1, (hf u).2.2⟩
  | renameUser i path f _ hf =>
      exact h.updateUsers i _ fun u => ⟨(hf u).1, fun hn => (hf u).2.2 ▸ hn⟩
  | resetUser i now =>
      refine ⟨hs, fun u hu hn d hd => ?_, fun d hd => h.known d (List.mem_of_mem_filter hd)⟩
      obtain ⟨hmem, hi⟩ := List.mem_filter.mp hd
      obtain ⟨v, hv, rfl⟩ := Rows.mem_update hu
      split_ifs at hn ⊢ with hc
      · -- the row that is reset: its devices are gone
        rw [id_resetRow, hc.1]
        simpa using hi
      · exact h.waiting v hv hn d hmem
  | devices rows hrows => exact h.shrink hs (fun u hu => hu) hrows rfl
  | newDevice d hd =>
      obtain ⟨v, hv, hid, hact⟩ := hd
      refine ⟨hs, fun u hu hn e he => ?_, fun e he => ?_⟩
      · rcases List.mem_append.mp he with he | he
        · exact h.waiting u hu hn e he
        · rw [List.mem_singleton.mp he, ← hid]
          intro heq
          have huv : v = u := List.inj_on_of_nodup_map h.sound.keyed hv hu heq
          exact hact (huv ▸ hn)
      · rcases List.mem_append.mp he with he | he
        · exact h.known e he
        · rw [List.mem_singleton.mp he, ← hid]
          exact h.sound.fresh v hv
  | settings rows => exact ⟨hs, h.waiting, h.known⟩

lemma RowWrites.idle (hw : RowWrites db db') (h : db.Idle) : db'.Idle :=
  hw.inv (fun _ _ hw h => hw.idle h) h

lemma initDb_idle {now : Stamp} {draw : String → String} (h : initDb now draw db = some db')
    (hdb : db.Idle) : db'.Idle := by
  obtain ⟨db₁, hrun, rfl⟩ := Option.map_eq_some_iff.mp h
  have h₁ : db₁.Idle := migrateRows_inv
    (fun uuid row db db' hi h => by
      obtain ⟨-, rfl⟩ := insertMigrated_eq_some hi
      exact h.append rfl)
    (fun path db h => ⟨h.sound.congr rfl rfl, h.waiting, h.known⟩) hrun hdb
  exact (RowWrite.settings _).idle h₁

/-- Tables with the users and the devices of others. -/
lemma Db.Idle.congr (h : db.Idle) (hu : db'.users = db.users ∧ db'.usersSeq = db.usersSeq
    ∧ db'.userDevices = db.userDevices) : db'.Idle :=
  h.shrink (h.sound.congr hu.1 hu.2.1) (by rw [hu.1]; exact fun _ h => h)
    (by rw [hu.2.2]; exact fun d hd => ⟨d, hd, rfl⟩) hu.2.1

/-- **Every operation of the panel** keeps the users who wait without devices. -/
lemma PanelTables.idle_step {db : PanelTables} (h : db.Idle) (lib : NetLib)
    (e : Timed Stamp PanelOp) : (db.step lib e).Idle := by
  obtain ⟨now, ev⟩ := e
  cases ev with
  | service o => exact (writes_step lib db.toDb ⟨now, o⟩).idle h
  | addPath p => exact h.congr (users_addPath now p db)
  | addSecondaryPath p => exact h.congr (users_addSecondaryPath now p db)
  | setPathEnabled i enabled => exact h.congr (users_setPathEnabled i enabled db)
  | deletePath i => exact h.congr (users_deletePath i db)
  | initDb draw =>
      simp only [PanelTables.step]
      cases hr : initDb now draw db.toDb with
      | none => exact h
      | some db' => exact initDb_idle hr h
  | resetUserDevices i => exact (writes_resetUserDevices i db.toDb).idle h
  | deleteUserDevice i d => exact (writes_deleteUserDevice i d db.toDb).idle h
  | cleanupStaleDevices days => exact (writes_cleanupStaleDevices now days db.toDb).idle h
  | setSetting key value => exact (writes_setSetting key value db.toDb).idle h

lemma PanelTables.idle_run {db₀ : PanelTables} (h₀ : db₀.Initialised) (lib : NetLib)
    (es : List (Timed Stamp PanelOp)) : (Runs.run (PanelTables.step lib) db₀ es).Idle := by
  induction es using List.reverseRecOn with
  | nil =>
      rw [Runs.run_nil]
      refine ⟨⟨?_, ?_⟩, ?_, ?_⟩
      · rw [h₀.users]
        exact List.nodup_nil
      · simp [h₀.users]
      · simp [h₀.users]
      · simp [h₀.devices]
  | append_singleton es e ih =>
      rw [Runs.run_append]
      exact PanelTables.idle_step ih lib e

/-! ### One fetch -/

/-- A fetch of a subscription link. -/
structure Fetch where
  subPath : String
  ip : Option String
  userAgent : Option String
  deriving DecidableEq

/-- The tables after a fetch. -/
def Db.fetch (lib : NetLib) (db : Db) (e : Timed Stamp Fetch) : Db :=
  (resolveUserRequest lib e.at_ e.ev.subPath e.ev.ip e.ev.userAgent db).1

/-- The outcome of a fetch, `none` for the answer `None`. -/
def Db.fetchOutcome (lib : NetLib) (db : Db) (e : Timed Stamp Fetch) : Option Outcome :=
  (resolveUserRequest lib e.at_ e.ev.subPath e.ev.ip e.ev.userAgent db).2.map Prod.fst

/-- The fetch changes a user's `activated_at` from `NULL` to a time. -/
def Db.FirstUse (lib : NetLib) (db : Db) (e : Timed Stamp Fetch) : Prop :=
  ∃ i c c', db.clockOf i = some c ∧ c.activatedAt = none
    ∧ (db.fetch lib e).clockOf i = some c' ∧ c'.activatedAt ≠ none

/-- The link of an active user who has not been activated, and whose expiry is a date. -/
def Db.StartsClock (db : Db) (now : Stamp) (subPath : String) : Prop :=
  ∃ u, db.userByPath subPath = some u ∧ u.status = .active ∧ u.activatedAt = none
    ∧ activationExpiry now u.durationDays ≠ none

lemma fetch_activates {now : Stamp} {c : Clock} (ha : c.activatedAt = none) :
    (c.fetch now).activatedAt ≠ none
      ↔ c.status = .active ∧ activationExpiry now c.durationDays ≠ none := by
  rw [Clock.fetch]
  by_cases hs : c.status = .active
  · rw [if_pos ⟨hs, ha⟩]
    cases activationExpiry now c.durationDays with
    | none => simp [ha]
    | some expire => simp [hs]
  · rw [if_neg fun h => hs h.1]
    simp [ha, hs]

/-- **When a fetch starts a clock.** -/
lemma firstUse_iff (lib : NetLib) (h : db.Sound) (e : Timed Stamp Fetch) :
    db.FirstUse lib e ↔ db.StartsClock e.at_ e.ev.subPath := by
  have hclock := clockOf_resolveUserRequest h lib e.at_ e.ev.subPath e.ev.ip e.ev.userAgent
  constructor
  · rintro ⟨i, c, c', hc, ha, hc', ha'⟩
    rw [Db.fetch, hclock, hc, Option.map_some, Option.some.injEq] at hc'
    subst hc'
    rw [Op.onClock] at ha'
    split_ifs at ha' with hid
    · obtain ⟨u, hu, rfl⟩ := Option.map_eq_some_iff.mp hid
      rw [Db.clockOf_of_some (h.user_of_path hu), Option.some.injEq] at hc
      subst hc
      obtain ⟨hs, hx⟩ := (fetch_activates ha).mp ha'
      exact ⟨u, hu, hs, ha, hx⟩
    · exact absurd ha ha'
  · rintro ⟨u, hu, hs, ha, hx⟩
    have hc := Db.clockOf_of_some (h.user_of_path hu)
    have hact : (u.clock.fetch e.at_).activatedAt ≠ none := (fetch_activates ha).mpr ⟨hs, hx⟩
    refine ⟨u.id, u.clock, u.clock.fetch e.at_, hc, ha, ?_, hact⟩
    rw [Db.fetch, hclock, hc, Option.map_some, Op.onClock, if_pos (by rw [hu, Option.map_some])]
    rfl

/-- The first device of a user is let through. -/
lemma allowDevice_of_no_devices (lib : NetLib) (now : Stamp) (u : UserRow) (ip ua : Option String)
    (h : ∀ d ∈ db.userDevices, d.userId ≠ u.id) : (allowDevice lib now u ip ua db).2 = true := by
  have hfind : db.userDevices.find? (isDevice u.id (deviceFingerprint lib ip).1) = none := by
    rw [List.find?_eq_none]
    intro d hd
    simp [isDevice, h d hd]
  have hcount : ∀ cutoff, activeDevices db u.id cutoff = 0 := fun cutoff => by
    rw [activeDevices, List.countP_eq_zero]
    intro d hd
    simp [h d hd]
  rw [allowDevice]
  split_ifs with hcap
  · rfl
  · dsimp only
    split_ifs
    · rfl
    · rw [hfind]
      dsimp only
      split
      · rw [hcount, if_pos (by simp; omega)]
      · rfl

/-- A plan that starts now has not run out. -/
lemma not_expired_of_activationExpiry {now : Stamp} {n : ℤ} {expire : Option Stamp}
    (h : activationExpiry now n = some expire) {u : UserRow} (hu : u.expireAt = expire) :
    isExpired now u = false := by
  rw [activationExpiry] at h
  split_ifs at h with hn
  · cases h
    simp [isExpired, hu]
  · obtain ⟨e, he, rfl⟩ := Option.map_eq_some_iff.mp h
    have hsecs := Stamp.add?_eq_some_iff.mp he
    have hpos : 0 ≤ n * daySecs := Int.mul_nonneg (by omega) (by decide)
    simp only [isExpired, hu, Option.any_some, decide_eq_false_iff_not]
    omega

/-- **The fetch that starts a clock** is served exactly if a client makes it. -/
lemma serve_iff_of_startsClock (lib : NetLib) (h : db.Idle) {e : Timed Stamp Fetch}
    (hs : db.StartsClock e.at_ e.ev.subPath) :
    db.fetchOutcome lib e = some .serve
      ↔ isBotUserAgent e.ev.userAgent = false ∧ isBrowserUserAgent e.ev.userAgent = false := by
  obtain ⟨now, p, ip, ua⟩ := e
  obtain ⟨u, hu, hactive, ha, hx⟩ := hs
  obtain ⟨expire, hx⟩ := Option.ne_none_iff_exists'.mp hx
  have hread : db.user u.id = some u := h.sound.user_of_path hu
  have hsome : ¬u.activatedAt.isSome = true := by simp [ha]
  have hrow : (Db.updateUsers (db.setUser u.id (contactRow now ip ua)) u.id
      (fun u => u.activatedAt.isNone) (activateRow now expire)).user u.id
        = some (activateRow now expire (contactRow now ip ua u)) := by
    rw [Db.user_updateUsers _ _ _ _ (f := activateRow now expire) fun _ => rfl,
      Db.user_setUser db _ _ (id_contactRow now ip ua), hread]
    simp [contactRow, ha]
  have hdev : ∀ d ∈ (Db.updateUsers (db.setUser u.id (contactRow now ip ua)) u.id
      (fun u => u.activatedAt.isNone) (activateRow now expire)).userDevices,
        d.userId ≠ (activateRow now expire (contactRow now ip ua u)).id :=
    h.waiting u (Rows.get_mem hu) ha
  have hallow := allowDevice_of_no_devices lib now _ ip ua hdev
  have hexp : isExpired now (activateRow now expire (contactRow now ip ua u)) = false :=
    not_expired_of_activationExpiry hx rfl
  simp only [Db.fetchOutcome, resolveUserRequest, resolveUserRequestWith, hu, hactive,
    activateWith, hsome, if_false, hx, hrow, serveRequest, hexp, Bool.false_eq_true, hallow,
    Option.map_some, Option.some.injEq, if_true]
  by_cases hbot : isBotUserAgent ua = true
  · simp [hbot]
  · by_cases hbrowser : isBrowserUserAgent ua = true
    · simp [hbot, hbrowser]
    · simp [hbot, hbrowser]

/-! ### Sequences of fetches -/

lemma Db.Idle.fetch (h : db.Idle) (lib : NetLib) (e : Timed Stamp Fetch) : (db.fetch lib e).Idle :=
  (writes_resolveUserRequest lib e.at_ e.ev.subPath e.ev.ip e.ev.userAgent db).idle h

lemma Db.Idle.fetches (h : db.Idle) (lib : NetLib) (es : List (Timed Stamp Fetch)) :
    (Runs.run (Db.fetch lib) db es).Idle := by
  induction es generalizing db with
  | nil => exact h
  | cons e es ih => exact ih (h.fetch lib e)

/-- **Who starts the clock.**  Over every sequence of fetches from every state the panel reaches,
each fetch that sets `activated_at` has the outcome `serve`, exactly if each fetch of the link of an
active user whose clock can start is made by neither a crawler nor a browser. -/
theorem first_use_by_client_iff (lib : NetLib) {db₀ : PanelTables} (h₀ : db₀.Initialised)
    (history : List (Timed Stamp PanelOp)) (fetches : List (Timed Stamp Fetch)) :
    (∀ es e, es ++ [e] <+: fetches →
        (Runs.run (Db.fetch lib) (Runs.run (PanelTables.step lib) db₀ history).toDb es).FirstUse
          lib e →
        (Runs.run (Db.fetch lib) (Runs.run (PanelTables.step lib) db₀ history).toDb
          es).fetchOutcome lib e = some .serve)
      ↔ ∀ es e, es ++ [e] <+: fetches →
        (Runs.run (Db.fetch lib) (Runs.run (PanelTables.step lib) db₀ history).toDb
          es).StartsClock e.at_ e.ev.subPath →
        isBotUserAgent e.ev.userAgent = false ∧ isBrowserUserAgent e.ev.userAgent = false := by
  have hidle := fun es => (PanelTables.idle_run h₀ lib history).fetches lib es
  refine forall_congr' fun es => forall_congr' fun e => imp_congr_right fun _ => ?_
  rw [firstUse_iff lib (hidle es).sound e]
  exact imp_congr_right fun hs => serve_iff_of_startsClock lib (hidle es) hs

/-- A fetch of the sample user's link from the first network. -/
def sampleFetchBy (userAgent : String) : Timed Stamp Fetch :=
  ⟨Stamp.day 1, "k3XbQ9pLm2TzR7vW", some "1.2.3.4", some userAgent⟩

lemma sampleAdded_startsClock : sampleAdded.StartsClock (Stamp.day 1) "k3XbQ9pLm2TzR7vW" := by
  have hrow : (sampleAdded.userByPath "k3XbQ9pLm2TzR7vW").any (fun u => u.status = .active
      ∧ u.activatedAt = none ∧ activationExpiry (Stamp.day 1) u.durationDays ≠ none) = true := by
    decide +kernel
  obtain ⟨u, hu, hall⟩ := (Option.any_eq_true _ _).mp hrow
  exact ⟨u, hu, by simpa using hall⟩

/-- The sample panel after the creation of the user. -/
def sampleHistory : List (Timed Stamp PanelOp) := [⟨Stamp.day 0, .service sampleAdd⟩]

/-- A client starts the clock and is served. -/
theorem first_use_by_client_iff_sample :
    sampleAdded.FirstUse sampleLib (sampleFetchBy "v2rayNG/1.8.5")
      ∧ sampleAdded.fetchOutcome sampleLib (sampleFetchBy "v2rayNG/1.8.5") = some .serve := by
  have hfirst : sampleAdded.FirstUse sampleLib (sampleFetchBy "v2rayNG/1.8.5") :=
    (firstUse_iff sampleLib sampleAdded_sound _).mpr sampleAdded_startsClock
  refine ⟨hfirst, (first_use_by_client_iff sampleLib samplePanelTables_initialised sampleHistory
    [sampleFetchBy "v2rayNG/1.8.5"]).mpr ?_ [] _ List.prefix_rfl hfirst⟩
  exact Runs.forall_step_cons.mpr ⟨fun _ => by decide +kernel, Runs.forall_step_nil⟩

/-- A crawler that previews the link, and a browser that opens it, start the clock of a user who
has not imported it yet. -/
theorem preview_starts_clock :
    (sampleAdded.FirstUse sampleLib (sampleFetchBy "TelegramBot (like TwitterBot)")
      ∧ sampleAdded.fetchOutcome sampleLib (sampleFetchBy "TelegramBot (like TwitterBot)")
        = some .bot)
    ∧ (sampleAdded.FirstUse sampleLib (sampleFetchBy "Mozilla/5.0 (Linux; Android 14)")
      ∧ sampleAdded.fetchOutcome sampleLib (sampleFetchBy "Mozilla/5.0 (Linux; Android 14)")
        = some .browser) := by
  have hfirst : ∀ ua, sampleAdded.FirstUse sampleLib (sampleFetchBy ua) := fun ua =>
    (firstUse_iff sampleLib sampleAdded_sound _).mpr sampleAdded_startsClock
  exact ⟨⟨hfirst _, by decide +kernel⟩, ⟨hfirst _, by decide +kernel⟩⟩

end V2raySub
