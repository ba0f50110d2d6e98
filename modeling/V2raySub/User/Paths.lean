import V2raySub.Boot.InitDb

/-!
The legacy shared links (`services/path_service.py`), the device rows an administrator or the hourly
cleanup removes (`services/user_service.py`), and the panel as a system of all the operations on
its tables, boots included.
-/

namespace V2raySub

/-- The tables, with the next id of `subscription_paths`. -/
structure PanelTables extends Db where
  pathsSeq : ℕ
  deriving DecidableEq

/-! ### The legacy links -/

/-- `re.match(PATH_REGEX, path)` for `^[A-Za-z0-9]{3,32}$`; the `$` also matches before a final
line feed. -/
def matchesPathRegex (path : String) : Bool :=
  let cs := path.toList
  let body := if cs.getLast? = some '\n' then cs.dropLast else cs
  body.all Char.isAlphanum && 3 ≤ body.length && body.length ≤ 32

/-- `validate_path`. -/
def validatePath (path : String) : Reply :=
  if path = "" then (false, "مسیر نمی‌تواند خالی باشد")
  else if !matchesPathRegex path then
    (false, "مسیر نامعتبر است. فقط حروف انگلیسی و اعداد بین ۳ تا ۳۲ کاراکتر مجاز هستند.")
  else (true, "")

/-- `SELECT * FROM subscription_paths WHERE path = ?`. -/
def Db.linkByPath (db : Db) (path : String) : Option PathRow :=
  Rows.get PathRow.path db.subscriptionPaths path

/-- `SELECT * FROM subscription_paths WHERE id = ?`. -/
def Db.link (db : Db) (pathId : ℕ) : Option PathRow :=
  Rows.get PathRow.id db.subscriptionPaths pathId

/-- `INSERT INTO subscription_paths (path, is_primary, is_enabled)`. -/
def PanelTables.insertLink (now : Stamp) (path : String) (isPrimary : Bool) (db : PanelTables) :
    PanelTables :=
  { db with
    subscriptionPaths := db.subscriptionPaths ++ [⟨db.pathsSeq, path, isPrimary, true, now⟩]
    pathsSeq := db.pathsSeq + 1 }

/-- `UPDATE subscription_paths SET f` on every row. -/
def PanelTables.setLinks (f : PathRow → PathRow) (db : PanelTables) : PanelTables :=
  { db with subscriptionPaths := db.subscriptionPaths.map f }

/-- `add_path`: the path becomes the primary one. -/
def addPath (now : Stamp) (pathVal : String) (db : PanelTables) : PanelTables × Reply × String :=
  let (ok, err) := validatePath pathVal
  if !ok then (db, (false, err), pathVal)
  else
    let others := db.setLinks fun r => { r with isPrimary := false }
    let db := match db.linkByPath pathVal with
      | some _ => others.setLinks fun r =>
          if r.path = pathVal then { r with isPrimary := true, isEnabled := true } else r
      | none => others.insertLink now pathVal true
    (db, (true, "مسیر سابسکریپشن با موفقیت تغییر کرد."), pathVal)

/-- `add_secondary_path`. -/
def addSecondaryPath (now : Stamp) (pathVal : String) (db : PanelTables) : PanelTables × Reply :=
  let (ok, err) := validatePath pathVal
  if !ok then (db, false, err)
  else
    match db.linkByPath pathVal with
    | some _ => (db, false, "این مسیر قبلاً وجود دارد.")
    | none => (db.insertLink now pathVal false, true, "مسیر جدید با موفقیت اضافه شد.")

/-- `set_path_enabled`. -/
def setPathEnabled (pathId : ℕ) (enabled : Bool) (db : PanelTables) : PanelTables × Reply :=
  match db.link pathId with
  | none => (db, false, "مسیر پیدا نشد")
  | some row =>
    if row.isPrimary && !enabled then
      (db, false, "مسیر اصلی (Primary) را نمی‌توان غیرفعال کرد.")
    else
      (db.setLinks fun r => if r.id = pathId then { r with isEnabled := enabled } else r,
        true, "وضعیت مسیر با موفقیت تغییر کرد.")

/-- `delete_path`. -/
def deletePath (pathId : ℕ) (db : PanelTables) : PanelTables × Reply :=
  match db.link pathId with
  | none => (db, false, "مسیر پیدا نشد")
  | some row =>
    if row.isPrimary then (db, false, "مسیر اصلی (Primary) را نمی‌توان حذف کرد.")
    else
      ({ db with subscriptionPaths := db.subscriptionPaths.filter fun r => r.id ≠ pathId },
        true, "مسیر با موفقیت حذف شد.")

/-! ### Devices that are removed -/

/-- `reset_user_devices`. -/
def resetUserDevices (userId : ℕ) (db : Db) : Db × Reply :=
  match db.user userId with
  | none => (db, false, msgNotFound)
  | some _ =>
    ({ db with userDevices := db.userDevices.filter fun d => d.userId ≠ userId }, true,
      "دستگاه‌های کاربر پاک شدند.")

/-- `delete_user_device`. -/
def deleteUserDevice (userId deviceId : ℕ) (db : Db) : Db × Reply :=
  let mine : DeviceRow → Bool := fun d => d.id = deviceId && d.userId = userId
  if db.userDevices.any mine then
    ({ db with userDevices := db.userDevices.filter fun d => !mine d }, true, "دستگاه حذف شد.")
  else (db, false, "دستگاه پیدا نشد")

/-- `cleanup_stale_devices`; a cutoff outside the calendar raises, and nothing is removed. -/
def cleanupStaleDevices (now : Stamp) (retentionDays : ℤ) (db : Db) : Db :=
  match now.add? (-(retentionDays * daySecs)) with
  | none => db
  | some cutoff =>
    { db with userDevices := db.userDevices.filter fun d => cutoff.secs ≤ d.lastSeen.secs }

/-- `set_setting`. -/
def setSetting (key value : String) (db : Db) : Db :=
  { db with settings := db.settings.filter (fun s => s.1 ≠ key) ++ [(key, value)] }

/-! ### The panel as a system -/

/-- The operations on the tables of the panel. -/
inductive PanelOp where
  | service (o : Op)
  | addPath (pathVal : String)
  | addSecondaryPath (pathVal : String)
  | setPathEnabled (pathId : ℕ) (enabled : Bool)
  | deletePath (pathId : ℕ)
  | initDb (draw : String → String)
  | resetUserDevices (userId : ℕ)
  | deleteUserDevice (userId deviceId : ℕ)
  | cleanupStaleDevices (retentionDays : ℤ)
  | setSetting (key value : String)

/-- The tables after an operation; a boot that raises leaves them as they are. -/
def PanelTables.step (lib : NetLib) (db : PanelTables) (e : Timed Stamp PanelOp) : PanelTables :=
  match e.ev with
  | .service o => { db with toDb := db.toDb.step lib ⟨e.at_, o⟩ }
  | .addPath p => (V2raySub.addPath e.at_ p db).1
  | .addSecondaryPath p => (V2raySub.addSecondaryPath e.at_ p db).1
  | .setPathEnabled i enabled => (V2raySub.setPathEnabled i enabled db).1
  | .deletePath i => (V2raySub.deletePath i db).1
  | .initDb draw => { db with toDb := (V2raySub.initDb e.at_ draw db.toDb).getD db.toDb }
  | .resetUserDevices i => { db with toDb := (V2raySub.resetUserDevices i db.toDb).1 }
  | .deleteUserDevice i d => { db with toDb := (V2raySub.deleteUserDevice i d db.toDb).1 }
  | .cleanupStaleDevices days => { db with toDb := V2raySub.cleanupStaleDevices e.at_ days db.toDb }
  | .setSetting key value => { db with toDb := V2raySub.setSetting key value db.toDb }

end V2raySub
