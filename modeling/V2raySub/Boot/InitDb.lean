import V2raySub.User.Coherence

/-!
The data part of `init_db` (`database.py`): the legacy shared links become users, and the missing
settings are seeded.

* `migrateRows`, `initDb`: the loop over `subscription_paths` and the `INSERT OR IGNORE`s after
  it; `none` where an `INSERT` violates a `UNIQUE` constraint, so that the transaction is lost.
* `migrateRows_spec`: what the loop leaves, for every table of legacy links.
* `migration_keeps_links_iff`: **the migration preserves which links work exactly if every
  disabled legacy link has an owner**.
-/

namespace V2raySub

/-! ### The settings -/

/-- The settings `init_db` seeds. -/
def settingSeeds : List (String × String) :=
  [("output_format", "base64"),
   ("scan_interval", "300"),
   ("health_check_interval", "600"),
   ("max_active_configs", "100"),
   ("max_new_configs_per_scan", "10"),
   ("failure_threshold", "2"),
   ("cleanup_policy", "disable"),
   ("fetch_concurrency", "4"),
   ("probe_concurrency", "10"),
   ("probe_process_concurrency", "2"),
   ("scan_timeout", "1200"),
   ("probe_timeout_ms", "8000"),
   ("refine_pass_enabled", "1"),
   ("refine_pass_multiplier", "3"),
   ("device_window_days", "7"),
   ("device_grace_hours", "0"),
   ("profile_update_interval_hours", "6"),
   ("backup_scheduled_enabled", "0"),
   ("backup_interval", "daily"),
   ("backup_retention_max", "30"),
   ("backup_telegram_enabled", "0"),
   ("backup_telegram_bot_token", ""),
   ("backup_telegram_chat_id", ""),
   ("backup_telegram_api_server", "https://api.telegram.org"),
   ("logs_retention_days", "90"),
   ("api_token", ""),
   ("public_base_url", "")]

/-- `INSERT OR IGNORE INTO settings`. -/
def insertOrIgnore (settings : List (String × String)) (seed : String × String) :
    List (String × String) :=
  if settings.any fun s => s.1 = seed.1 then settings else settings ++ [seed]

/-- The `INSERT OR IGNORE`s of `init_db`. -/
def Db.seedSettings (db : Db) : Db :=
  { db with settings := settingSeeds.foldl insertOrIgnore db.settings }

@[simp] lemma seedSettings_settings (db : Db) :
    db.seedSettings.settings = settingSeeds.foldl insertOrIgnore db.settings := by
  rw [Db.seedSettings]

@[simp] lemma seedSettings_users (db : Db) : db.seedSettings.users = db.users := by
  rw [Db.seedSettings]

@[simp] lemma seedSettings_paths (db : Db) :
    db.seedSettings.subscriptionPaths = db.subscriptionPaths := by
  rw [Db.seedSettings]

@[simp] lemma seedSettings_userByPath (db : Db) (path : String) :
    db.seedSettings.userByPath path = db.userByPath path := by
  rw [Db.userByPath, seedSettings_users, Db.userByPath]

/-! ### The legacy links -/

/-- `SELECT 1 FROM users WHERE path = ?`. -/
def Db.ownsPath (db : Db) (path : String) : Bool := db.users.any fun u => u.path = path

/-- The user a legacy link becomes; the other columns have their defaults. -/
def migratedUser (now : Stamp) (id : ℕ) (uuid : String) (row : PathRow) : UserRow :=
  { id := id, uuid := uuid, name := if row.isPrimary then "لینک عمومی" else row.path,
    path := row.path, status := .active, durationDays := 0, activatedAt := some now,
    expireAt := none, pausedAt := none, note := some "مهاجرت‌شده از لینک عمومی", maxDevices := 1,
    lastSeen := none, lastUserAgent := none, lastIp := none, createdAt := now, updatedAt := now }

/-- The `INSERT INTO users` of the migration; `none` is the `IntegrityError`. -/
def insertMigrated (now : Stamp) (uuid : String) (row : PathRow) (db : Db) : Option Db :=
  if db.users.any fun u => u.uuid = uuid || u.path = row.path then none
  else some { db with
    users := db.users ++ [migratedUser now db.usersSeq uuid row]
    usersSeq := db.usersSeq + 1 }

/-- `DELETE FROM subscription_paths WHERE path = ?`. -/
def Db.dropPath (db : Db) (path : String) : Db :=
  { db with subscriptionPaths := db.subscriptionPaths.filter fun p => p.path ≠ path }

/-- The body of the loop, once its `SELECT` has found a user with the path or not; `draw` is the
`uuid4` drawn for a path. -/
def migrateRowWith (now : Stamp) (draw : String → String) (row : PathRow) (found : Bool)
    (db : Db) : Option Db :=
  (if found then some db else insertMigrated now (draw row.path) row db).map
    (·.dropPath row.path)

/-- The loop. -/
def migrateRows (now : Stamp) (draw : String → String) : List PathRow → Db → Option Db
  | [], db => some db
  | row :: rows, db =>
    (migrateRowWith now draw row (db.ownsPath row.path) db).bind (migrateRows now draw rows)

/-- `init_db`, on the tables of users, links and settings. -/
def initDb (now : Stamp) (draw : String → String) (db : Db) : Option Db :=
  (migrateRows now draw db.subscriptionPaths db).map Db.seedSettings

/-! ### What the loop leaves -/

/-- The values `uuid4` draws are new: no two are the same, and no user has one. -/
structure FreshDraws (draw : String → String) (db : Db) : Prop where
  injective : Function.Injective draw
  unused : ∀ u ∈ db.users, ∀ path, u.uuid ≠ draw path

/-- The tables after the loop over `rows`: new users for the links nobody owned, and the links
gone. -/
structure Migrated (now : Stamp) (draw : String → String) (rows : List PathRow) (db db' : Db) :
    Prop where
  users : ∃ added, db'.users = db.users ++ added ∧ ∀ u ∈ added, ∃ row ∈ rows, ∃ id,
    u = migratedUser now id (draw row.path) row ∧ db.ownsPath row.path = false
  owned : ∀ row ∈ rows, db'.ownsPath row.path = true
  paths : db'.subscriptionPaths
    = db.subscriptionPaths.filter fun p => ∀ row ∈ rows, p.path ≠ row.path
  devices : db'.userDevices = db.userDevices
  settings : db'.settings = db.settings

lemma ownsPath_iff {db : Db} {path : String} :
    db.ownsPath path = true ↔ ∃ u ∈ db.users, u.path = path := by simp [Db.ownsPath]

lemma Migrated.ownsPath_of_ownsPath {now : Stamp} {draw : String → String} {rows : List PathRow}
    {db db' : Db} (h : Migrated now draw rows db db') {path : String}
    (hp : db.ownsPath path = true) : db'.ownsPath path = true := by
  obtain ⟨added, hu, -⟩ := h.users
  obtain ⟨u, hmem, rfl⟩ := ownsPath_iff.mp hp
  exact ownsPath_iff.mpr ⟨u, by rw [hu]; exact List.mem_append_left _ hmem, rfl⟩

/-- The link of a row whose path is owned is only removed. -/
lemma Migrated.cons_owned {now : Stamp} {draw : String → String} {row : PathRow}
    {rows : List PathRow} {db db' : Db} (ho : db.ownsPath row.path = true)
    (h : Migrated now draw rows (db.dropPath row.path) db') :
    Migrated now draw (row :: rows) db db' where
  users := by
    obtain ⟨added, hu, hadded⟩ := h.users
    refine ⟨added, hu, fun u hmem => ?_⟩
    obtain ⟨r, hr, id, hrow, hfree⟩ := hadded u hmem
    exact ⟨r, List.mem_cons_of_mem _ hr, id, hrow, hfree⟩
  owned := List.forall_mem_cons.mpr ⟨h.ownsPath_of_ownsPath ho, h.owned⟩
  paths := by
    rw [h.paths, Db.dropPath, List.filter_filter]
    refine List.filter_congr fun p _ => ?_
    simp [Bool.and_comm]
  devices := h.devices
  settings := h.settings

/-- The link of a row nobody owns becomes a user. -/
lemma Migrated.cons_inserted {now : Stamp} {draw : String → String} {row : PathRow}
    {rows : List PathRow} {db db' : Db} (db₁ : Db) (hfree : db.ownsPath row.path = false)
    (hu₁ : db₁.users = db.users ++ [migratedUser now db.usersSeq (draw row.path) row])
    (hp₁ : db₁.subscriptionPaths = db.subscriptionPaths) (hd₁ : db₁.userDevices = db.userDevices)
    (hs₁ : db₁.settings = db.settings)
    (h : Migrated now draw rows (db₁.dropPath row.path) db') :
    Migrated now draw (row :: rows) db db' where
  users := by
    obtain ⟨added, hu, hadded⟩ := h.users
    refine ⟨migratedUser now db.usersSeq (draw row.path) row :: added, ?_, fun u hmem => ?_⟩
    · rw [hu, Db.dropPath, hu₁, List.append_assoc]
      rfl
    rcases List.mem_cons.mp hmem with rfl | hmem
    · exact ⟨row, List.mem_cons_self, _, rfl, hfree⟩
    · obtain ⟨r, hr, id, hrow, hr'⟩ := hadded u hmem
      refine ⟨r, List.mem_cons_of_mem _ hr, id, hrow, ?_⟩
      -- a path that is free after the insertion was free before
      simp only [Db.ownsPath, Db.dropPath, hu₁, List.any_append, Bool.or_eq_false_iff] at hr'
      exact hr'.1
  owned := by
    have hmine : (db₁.dropPath row.path).ownsPath row.path = true := by
      refine ownsPath_iff.mpr ⟨migratedUser now db.usersSeq (draw row.path) row, ?_, rfl⟩
      rw [Db.dropPath, hu₁]
      exact List.mem_append_right _ (List.mem_singleton_self _)
    exact List.forall_mem_cons.mpr ⟨h.ownsPath_of_ownsPath hmine, h.owned⟩
  paths := by
    rw [h.paths, Db.dropPath, List.filter_filter, hp₁]
    refine List.filter_congr fun p _ => ?_
    simp [Bool.and_comm]
  devices := h.devices.trans hd₁
  settings := h.settings.trans hs₁

/-- **The loop**: with values of `uuid4` that only users with the same path can have, it ends
without an exception. -/
lemma migrateRows_spec (now : Stamp) {draw : String → String} (hinj : Function.Injective draw)
    (rows : List PathRow) {db : Db}
    (hfit : ∀ u ∈ db.users, ∀ path, u.uuid = draw path → u.path = path) :
    ∃ db', migrateRows now draw rows db = some db' ∧ Migrated now draw rows db db' := by
  induction rows generalizing db with
  | nil => exact ⟨db, rfl, ⟨[], by simp, by simp⟩, by simp, by simp, rfl, rfl⟩
  | cons row rows ih =>
      rw [migrateRows, migrateRowWith]
      cases hown : db.ownsPath row.path with
      | true =>
          obtain ⟨db', hrun, hdb'⟩ := @ih (db.dropPath row.path) hfit
          exact ⟨db', hrun, hdb'.cons_owned hown⟩
      | false =>
          have hfree : ∀ u ∈ db.users, u.path ≠ row.path := by
            simpa [Db.ownsPath] using hown
          have hins : insertMigrated now (draw row.path) row db = some { db with
              users := db.users ++ [migratedUser now db.usersSeq (draw row.path) row]
              usersSeq := db.usersSeq + 1 } := by
            rw [insertMigrated, if_neg]
            simp only [List.any_eq_true, Bool.or_eq_true, decide_eq_true_eq, not_exists, not_and]
            rintro u hu (huuid | hpath)
            · exact hfree u hu (hfit u hu _ huuid)
            · exact hfree u hu hpath
          have hfit' : ∀ u ∈ db.users ++ [migratedUser now db.usersSeq (draw row.path) row],
              ∀ path, u.uuid = draw path → u.path = path := by
            intro u hu path huuid
            rcases List.mem_append.mp hu with hu | hu
            · exact hfit u hu path huuid
            · rw [List.mem_singleton.mp hu] at huuid ⊢
              exact hinj huuid
          obtain ⟨db', hrun, hdb'⟩ := @ih (Db.dropPath { db with
              users := db.users ++ [migratedUser now db.usersSeq (draw row.path) row]
              usersSeq := db.usersSeq + 1 } row.path) hfit'
          refine ⟨db', ?_, Migrated.cons_inserted { db with
            users := db.users ++ [migratedUser now db.usersSeq (draw row.path) row]
            usersSeq := db.usersSeq + 1 } hown rfl rfl rfl rfl hdb'⟩
          simp only [Bool.false_eq_true, if_false, hins]
          exact hrun

/-- The user a link nobody owned resolves to. -/
lemma Migrated.userByPath {now : Stamp} {draw : String → String} {rows : List PathRow}
    {db db' : Db} (h : Migrated now draw rows db db') {row : PathRow} (hr : row ∈ rows)
    (hfree : db.ownsPath row.path = false) :
    ∃ r ∈ rows, ∃ id, db'.userByPath row.path = some (migratedUser now id (draw r.path) r) := by
  obtain ⟨added, hu, hadded⟩ := h.users
  obtain ⟨v, hv, hpath⟩ := ownsPath_iff.mp (h.owned row hr)
  have hsome : (db'.userByPath row.path).isSome = true :=
    List.find?_isSome.mpr ⟨v, hv, decide_eq_true hpath⟩
  obtain ⟨u, hget⟩ := Option.isSome_iff_exists.mp hsome
  have hmem : u ∈ db.users ++ added := by
    rw [← hu]
    exact Rows.get_mem hget
  rcases List.mem_append.mp hmem with hold | hnew
  · have hne : ∀ u ∈ db.users, u.path ≠ row.path := by simpa [Db.ownsPath] using hfree
    exact absurd (Rows.key_of_get hget) (hne u hold)
  · obtain ⟨r, hr', id, rfl, -⟩ := hadded u hnew
    exact ⟨r, hr', id, hget⟩

/-! ### The settings again -/

lemma insertOrIgnore_of_mem {settings : List (String × String)} {seed : String × String}
    (h : ∃ s ∈ settings, s.1 = seed.1) : insertOrIgnore settings seed = settings :=
  if_pos (by simpa using h)

lemma mem_insertOrIgnore {settings : List (String × String)} (seed : String × String)
    {key : String} (h : ∃ s ∈ settings, s.1 = key) :
    ∃ s ∈ insertOrIgnore settings seed, s.1 = key := by
  obtain ⟨s, hs, hk⟩ := h
  rw [insertOrIgnore]
  split_ifs
  · exact ⟨s, hs, hk⟩
  · exact ⟨s, List.mem_append_left _ hs, hk⟩

lemma mem_foldl_insertOrIgnore (seeds : List (String × String))
    {settings : List (String × String)} {key : String} (h : ∃ s ∈ settings, s.1 = key) :
    ∃ s ∈ seeds.foldl insertOrIgnore settings, s.1 = key := by
  induction seeds generalizing settings with
  | nil => exact h
  | cons seed seeds ih => exact ih (mem_insertOrIgnore seed h)

/-- Every seed has its key in the table afterwards. -/
lemma seeded (seeds settings : List (String × String)) :
    ∀ seed ∈ seeds, ∃ s ∈ seeds.foldl insertOrIgnore settings, s.1 = seed.1 := by
  induction seeds generalizing settings with
  | nil => exact fun _ h => by cases h
  | cons seed seeds ih =>
      refine List.forall_mem_cons.mpr ⟨mem_foldl_insertOrIgnore seeds ?_, ih _⟩
      rw [insertOrIgnore]
      split_ifs with hk
      · simpa using hk
      · exact ⟨seed, List.mem_append_right _ (List.mem_singleton_self _), rfl⟩

lemma foldl_insertOrIgnore_of_mem {seeds settings : List (String × String)}
    (h : ∀ seed ∈ seeds, ∃ s ∈ settings, s.1 = seed.1) :
    seeds.foldl insertOrIgnore settings = settings := by
  induction seeds with
  | nil => rfl
  | cons seed seeds ih =>
      rw [List.foldl_cons, insertOrIgnore_of_mem (h seed List.mem_cons_self)]
      exact ih fun s hs => h s (List.mem_cons_of_mem _ hs)

lemma seedSettings_of_mem {db : Db}
    (h : ∀ seed ∈ settingSeeds, ∃ s ∈ db.settings, s.1 = seed.1) : db.seedSettings = db := by
  rw [Db.seedSettings, foldl_insertOrIgnore_of_mem h]

/-- Seeding once more adds nothing. -/
lemma seedSettings_idem (db : Db) : db.seedSettings.seedSettings = db.seedSettings := by
  refine seedSettings_of_mem ?_
  rw [seedSettings_settings]
  exact seeded settingSeeds db.settings

/-! ### Which links work -/

/-- What a run of `init_db` from `db` to `db'` makes of the links: the table of legacy links is
empty and the users of before are unchanged; an enabled link is that of an active unlimited user
unless it had an owner; a disabled link that had no owner is served to nobody; and once more
changes nothing. -/
structure KeepsLinks (lib : NetLib) (db db' : Db) : Prop where
  emptied : db'.subscriptionPaths = []
  unchanged : db.users <+: db'.users
  enabled : ∀ row ∈ db.subscriptionPaths, row.isEnabled = true → db.ownsPath row.path = false →
    ∃ u, db'.userByPath row.path = some u ∧ u.status = .active ∧ u.durationDays = 0
      ∧ u.expireAt = none
  disabled : ∀ row ∈ db.subscriptionPaths, row.isEnabled = false → db.ownsPath row.path = false →
    ∀ now ip ua, (resolveUserRequest lib now row.path ip ua db').2.map Prod.fst ≠ some .serve
  again : ∀ now draw, initDb now draw db' = some db'

/-- An activated user without an expiry is served. -/
lemma serve_of_unlimited {db : Db} {path : String} {u : UserRow} (lib : NetLib) (now : Stamp)
    (hu : db.userByPath path = some u) (hs : u.status = .active) (ha : u.activatedAt.isSome = true)
    (he : u.expireAt = none) :
    (resolveUserRequest lib now path none none db).2.map Prod.fst = some .serve := by
  rw [resolveUserRequest, hu]
  simp only [resolveUserRequestWith, hs, activateWith, ha, if_true, serveRequest, isExpired, he]
  have hallow : ∀ db, (allowDevice lib now u none none db).2 = true := fun db => by
    rw [allowDevice]
    split_ifs
    · rfl
    · simp [deviceFingerprint, networkKey]
  simp [isBotUserAgent, isBrowserUserAgent, hallow]

/-- **The migration**: it goes through, and it preserves which links work exactly if every disabled
legacy link had an owner. -/
theorem migration_keeps_links_iff (lib : NetLib) (now : Stamp) {draw : String → String} {db : Db}
    (hdraw : FreshDraws draw db) :
    ∃ db', initDb now draw db = some db'
      ∧ (KeepsLinks lib db db'
        ↔ ∀ row ∈ db.subscriptionPaths, row.isEnabled = true ∨ db.ownsPath row.path = true) := by
  obtain ⟨db₁, hrun, hmig⟩ := migrateRows_spec now hdraw.injective db.subscriptionPaths
    fun u hu path huuid => absurd huuid (hdraw.unused u hu path)
  refine ⟨db₁.seedSettings, by rw [initDb, hrun, Option.map_some], fun h row hrow => ?_,
    fun hall => ?_⟩
  · by_contra hno
    simp only [not_or, Bool.not_eq_true] at hno
    obtain ⟨r, -, id, hu⟩ := hmig.userByPath hrow hno.2
    rw [← seedSettings_userByPath] at hu
    exact h.disabled row hrow hno.1 hno.2 now none none
      (serve_of_unlimited lib now hu rfl rfl rfl)
  · have hempty : db₁.subscriptionPaths = [] := by
      rw [hmig.paths, List.filter_eq_nil_iff]
      intro row hrow
      simp only [decide_eq_true_eq, not_forall]
      exact ⟨row, hrow, fun hne => hne rfl⟩
    rw [← seedSettings_paths] at hempty
    refine ⟨hempty, ?_, fun row hrow _ hfree => ?_, fun row hrow hoff hfree => ?_, fun t d => ?_⟩
    · obtain ⟨added, hu, -⟩ := hmig.users
      rw [seedSettings_users]
      exact ⟨added, hu.symm⟩
    · obtain ⟨r, -, id, hu⟩ := hmig.userByPath hrow hfree
      rw [← seedSettings_userByPath] at hu
      exact ⟨_, hu, rfl, rfl, rfl⟩
    · rcases hall row hrow with hon | hown
      · rw [hon] at hoff
        cases hoff
      · rw [hown] at hfree
        cases hfree
    · rw [initDb, hempty, migrateRows, Option.map_some, seedSettings_idem]

/-- A panel of the old kind: links and no users. -/
def sampleLegacy (enabled : Bool) : Db where
  users := []
  usersSeq := 1
  subscriptionPaths := [⟨1, "freeconfigs", true, true, Stamp.day 0⟩,
    ⟨2, "oldpublic01", false, enabled, Stamp.day 0⟩]
  userDevices := []
  devicesSeq := 1
  settings := []

/-- Draws that do not repeat. -/
def sampleDraw (path : String) : String := "4b6f5c0e" ++ path

lemma sampleDraw_fresh (enabled : Bool) : FreshDraws sampleDraw (sampleLegacy enabled) where
  injective := fun _ _ h => String.append_right_inj _ |>.mp h
  unused := fun _ hu => by cases hu

theorem migration_keeps_links_iff_sample :
    ∃ db', initDb (Stamp.day 1) sampleDraw (sampleLegacy true) = some db'
      ∧ KeepsLinks sampleLib (sampleLegacy true) db' := by
  obtain ⟨db', hrun, hiff⟩ :=
    migration_keeps_links_iff sampleLib (Stamp.day 1) (sampleDraw_fresh true)
  exact ⟨db', hrun, hiff.mpr (by decide)⟩

/-- A link that was switched off and answered 404: after the migration it is served. -/
theorem disabled_link_served :
    (⟨2, "oldpublic01", false, false, Stamp.day 0⟩ : PathRow)
        ∈ (sampleLegacy false).subscriptionPaths
    ∧ (sampleLegacy false).ownsPath "oldpublic01" = false
    ∧ ((initDb (Stamp.day 1) sampleDraw (sampleLegacy false)).bind fun db' =>
        (resolveUserRequest sampleLib (Stamp.day 2) "oldpublic01" none (some "v2rayNG/1.8.5")
          db').2.map Prod.fst) = some .serve := by
  decide +kernel

end V2raySub
