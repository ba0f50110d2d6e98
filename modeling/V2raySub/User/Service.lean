import V2raySub.User.Schema

/-!
The operations of `services/user_service.py` that create, edit, renew and switch users.

Each operation opens with a `SELECT` of the row and goes on with what it read: the part after
the `SELECT` is a definition of its own (`…With`), which takes the row read as an argument, so
that another operation can come in between.  An operation answers the tables it leaves and its
`(success, message)` pair; an exception the source catches leaves the tables as they are.

`now` is the one clock reading of a call, in whole seconds, for `_utcnow()` and for SQLite's
`datetime('now')` alike.
-/

namespace V2raySub

/-- The `(success, message)` pair of an operation. -/
abbrev Reply := Bool × String

def msgNotFound : String := "کاربر پیدا نشد"

def msgNameEmpty : String := "نام کاربر نمی‌تواند خالی باشد"

def msgDaysNotInt : String := "مدت اشتراک باید عدد باشد"

def msgDaysNegative : String := "مدت اشتراک نمی‌تواند منفی باشد"

def msgDaysOverMax : String :=
  "مدت اشتراک نمی‌تواند بیشتر از " ++ toString userMaxDurationDays ++ " روز باشد"

def msgDevicesNegative : String := "حداکثر دستگاه نمی‌تواند منفی باشد"

def msgPathTaken : String := "این مسیر قبلاً استفاده شده است."

/-! ### Paths -/

/-- `re.match(USER_PATH_REGEX, path)`; the `$` of the pattern also matches before a final line
feed. -/
def matchesUserPathRegex (path : String) : Bool :=
  let cs := path.toList
  let body := if cs.getLast? = some '\n' then cs.dropLast else cs
  body.all isUserPathChar && 8 ≤ body.length && body.length ≤ 64

/-- `validate_user_path`. -/
def validateUserPath (path : String) : Reply :=
  if path = "" then (false, "مسیر نمی‌تواند خالی باشد")
  else if !matchesUserPathRegex path then
    (false, "مسیر نامعتبر است. فقط حروف انگلیسی، اعداد، «_» و «-» " ++
      "و بین ۸ تا ۶۴ کاراکتر مجاز است.")
  else (true, "")

/-- `_path_taken`: the path is in `users` (the excluded user apart) or in
`subscription_paths`. -/
def pathTaken (db : Db) (path : String) (excludeUserId : Option ℕ) : Bool :=
  (db.users.any fun u => u.path = path && some u.id ≠ excludeUserId)
    || db.subscriptionPaths.any fun p => p.path = path

/-- `_generate_unique_path`: the first of the random draws that is free; `none` while the loop
is still drawing. -/
def generateUniquePath (db : Db) (draws : List String) : Option String :=
  draws.find? fun p => !pathTaken db p none

/-! ### Creating and deleting -/

/-- The arguments of `add_user`, with the values it draws at random. -/
structure AddArgs where
  name : Option String
  durationDays : PyValue
  customPath : Option String
  note : Option String
  maxDevices : PyValue
  uuid : String
  draws : List String
  deriving DecidableEq

/-- The row `add_user` inserts. -/
def newUserRow (now : Stamp) (id : ℕ) (a : AddArgs) (name path : String)
    (durationDays maxDevices : ℤ) : UserRow :=
  { id := id, uuid := a.uuid, name := name, path := path, status := .active,
    durationDays := durationDays, activatedAt := none, expireAt := none, pausedAt := none,
    note := a.note, maxDevices := maxDevices, lastSeen := none, lastUserAgent := none,
    lastIp := none, createdAt := now, updatedAt := now }

/-- The `INSERT` of `add_user`; SQLite refuses a repeated `uuid` or `path`. -/
def insertUser (now : Stamp) (a : AddArgs) (name path : String) (durationDays maxDevices : ℤ)
    (db : Db) : Db × Reply × Option UserRow :=
  if db.users.any fun u => u.uuid = a.uuid || u.path = path then
    (db, (false, "خطا در ساخت کاربر"), none)
  else
    let row := newUserRow now db.usersSeq a name path durationDays maxDevices
    ({ db with users := db.users ++ [row], usersSeq := db.usersSeq + 1 },
      (true, "کاربر با موفقیت ساخته شد."), some row)

/-- `add_user`; `none` while the path generator is still drawing. -/
def addUser (now : Stamp) (a : AddArgs) (db : Db) : Option (Db × Reply × Option UserRow) :=
  let name := PyText.strip (a.name.getD "")
  if name = "" then some (db, (false, msgNameEmpty), none)
  else
    match a.durationDays.toInt? with
    | none => some (db, (false, msgDaysNotInt), none)
    | some durationDays =>
      if durationDays < 0 then some (db, (false, msgDaysNegative), none)
      else if userMaxDurationDays < durationDays then some (db, (false, msgDaysOverMax), none)
      else
        let maxDevices := a.maxDevices.toInt?.getD 1
        if maxDevices < 0 then some (db, (false, msgDevicesNegative), none)
        else
          match a.customPath with
          | none | some "" =>
            (generateUniquePath db a.draws).map fun path =>
              insertUser now a name path durationDays maxDevices db
          | some customPath =>
            let path := PyText.strip customPath
            let (ok, err) := validateUserPath path
            if !ok then some (db, (false, err), none)
            else if pathTaken db path none then some (db, (false, msgPathTaken), none)
            else some (insertUser now a name path durationDays maxDevices db)

/-- `delete_user`. -/
def deleteUser (userId : ℕ) (db : Db) : Db × Reply :=
  match db.user userId with
  | none => (db, false, msgNotFound)
  | some _ =>
    ({ db with
        userDevices := db.userDevices.filter fun d => d.userId ≠ userId
        users := db.users.filter fun u => u.id ≠ userId },
      true, "کاربر با موفقیت حذف شد.")

/-! ### Editing -/

/-- One `column = value` of the `SET` clause of an `UPDATE users`. -/
inductive Assign where
  | name (v : String)
  | path (v : String)
  | note (v : String)
  | maxDevices (v : ℤ)
  | durationDays (v : ℤ)
  | expireAt (v : Option Stamp)
  | status (v : UserStatus)
  | pausedAt (v : Option Stamp)
  | updatedAt (v : Stamp)
  deriving DecidableEq

def Assign.apply (u : UserRow) : Assign → UserRow
  | .name v => { u with name := v }
  | .path v => { u with path := v }
  | .note v => { u with note := some v }
  | .maxDevices v => { u with maxDevices := v }
  | .durationDays v => { u with durationDays := v }
  | .expireAt v => { u with expireAt := v }
  | .status v => { u with status := v }
  | .pausedAt v => { u with pausedAt := v }
  | .updatedAt v => { u with updatedAt := v }

/-- The row after the `SET` clause. -/
def applySets (sets : List Assign) (u : UserRow) : UserRow := sets.foldl Assign.apply u

/-- The keyword arguments of `update_user`; `None` leaves a field out. -/
structure UpdateArgs where
  name : Option String
  durationDays : PyValue
  customPath : Option String
  note : Option String
  maxDevices : PyValue
  deriving DecidableEq

def msgUpdateError : String := "خطا در به‌روزرسانی کاربر"

/-- The checks and the `SET` of `name`. -/
def nameSets : Option String → Except String (List Assign)
  | none => .ok []
  | some name =>
    let name := PyText.strip name
    if name = "" then .error msgNameEmpty else .ok [.name name]

/-- The checks and the `SET` of `path`. -/
def pathSets (db : Db) (userId : ℕ) : Option String → Except String (List Assign)
  | none => .ok []
  | some customPath =>
    let path := PyText.strip customPath
    let (ok, err) := validateUserPath path
    if !ok then .error err
    else if pathTaken db path (some userId) then .error msgPathTaken
    else .ok [.path path]

/-- The `SET` of `note`. -/
def noteSets : Option String → List Assign
  | none => []
  | some note => [.note note]

/-- The checks and the `SET` of `max_devices`. -/
def maxDevicesSets : PyValue → Except String (List Assign)
  | .none => .ok []
  | v =>
    match v.toInt? with
    | none => .error "حداکثر دستگاه باید عدد باشد"
    | some n => if n < 0 then .error msgDevicesNegative else .ok [.maxDevices n]

/-- The recomputation of `expire_at` when the duration of an activated user becomes `newDays`.
A date outside the calendar raises `OverflowError`. -/
def expireSets (user : Clock) (newDays : ℤ) : Except String (List Assign) :=
  match user.activatedAt with
  | none => .ok []
  | some act =>
    if newDays = user.durationDays then .ok []
    else if newDays = 0 then .ok [.expireAt none]
    else if user.durationDays = 0 then
      -- was unlimited: the span counts from activation
      match act.add? (newDays * daySecs) with
      | none => .error msgUpdateError
      | some e => .ok [.expireAt (some e)]
    else
      -- finite to finite: shift by the difference
      match user.expireAt with
      | none => .ok []
      | some expire =>
        match expire.add? ((newDays - user.durationDays) * daySecs) with
        | none => .error msgUpdateError
        | some e => .ok [.expireAt (some e)]

/-- The checks and the `SET`s of `duration_days`. -/
def durationSets (user : Clock) : PyValue → Except String (List Assign)
  | .none => .ok []
  | v =>
    match v.toInt? with
    | none => .error msgDaysNotInt
    | some newDays =>
      if newDays < 0 then .error msgDaysNegative
      else if userMaxDurationDays < newDays then .error msgDaysOverMax
      else (expireSets user newDays).map (.durationDays newDays :: ·)

/-- SQLite binds an integer of 64 bits; on any other the driver raises `OverflowError`. -/
def Assign.bindable : Assign → Bool
  | .maxDevices n => -9223372036854775808 ≤ n && n < 9223372036854775808
  | .durationDays n => -9223372036854775808 ≤ n && n < 9223372036854775808
  | _ => true

/-- The `UPDATE` with its parameters bound. -/
def bindSets (sets : List Assign) : Except String (List Assign) :=
  if sets.all Assign.bindable then .ok sets else .error msgUpdateError

/-- The `SET` clause `update_user` builds from the row it read, with its parameters bound. -/
def updateSets (db : Db) (userId : ℕ) (user : UserRow) (a : UpdateArgs) :
    Except String (List Assign) := do
  let name ← nameSets a.name
  let path ← pathSets db userId a.customPath
  let maxDevices ← maxDevicesSets a.maxDevices
  let duration ← durationSets user.clock a.durationDays
  bindSets (name ++ path ++ noteSets a.note ++ maxDevices ++ duration)

/-- `update_user` once its `SELECT` has answered `row`. -/
def updateUserWith (now : Stamp) (userId : ℕ) (a : UpdateArgs) (row : Option UserRow) (db : Db) :
    Db × Reply :=
  match row with
  | none => (db, false, msgNotFound)
  | some user =>
    match updateSets db userId user a with
    | .error e => (db, false, e)
    | .ok [] => (db, true, "تغییری اعمال نشد")
    | .ok sets =>
      (db.setUser userId (applySets (sets ++ [.updatedAt now])), true,
        "کاربر با موفقیت به‌روزرسانی شد.")

/-- `update_user`. -/
def updateUser (now : Stamp) (userId : ℕ) (a : UpdateArgs) (db : Db) : Db × Reply :=
  updateUserWith now userId a (db.user userId) db

/-! ### Renewal -/

/-- The checks of `extend_user` on its argument. -/
def extendDays (days : PyValue) : Except String ℤ :=
  match days.toInt? with
  | none => .error "تعداد روز باید عدد باشد"
  | some days =>
    if days ≤ 0 then .error "تعداد روز برای تمدید باید بزرگ‌تر از صفر باشد"
    else if userMaxDurationDays < days then
      .error ("تمدید نمی‌تواند بیشتر از " ++ toString userMaxDurationDays ++ " روز باشد")
    else .ok days

/-- The `CASE` of `extend_user`'s `UPDATE`: the new `expire_at`, from the row's own columns.
SQLite's `datetime()` answers `NULL` for a date outside the calendar. -/
def extendedExpiry (now : Stamp) (days : ℤ) (u : Clock) : Option Stamp :=
  match u.activatedAt with
  | none => u.expireAt
  | some _ =>
    let expire := u.expireAt.getD now
    if u.status = .paused then expire.add? (days * daySecs)
    else (Stamp.later expire now).add? (days * daySecs)

/-- The `SET` clause of `extend_user`'s `UPDATE`. -/
def extendRow (now : Stamp) (days : ℤ) (u : UserRow) : UserRow :=
  { u with
    expireAt := extendedExpiry now days u.clock
    durationDays := u.durationDays + days
    updatedAt := now }

/-- `extend_user` once its `SELECT duration_days` has answered `row`. -/
def extendUserWith (now : Stamp) (userId : ℕ) (days : ℤ) (row : Option ℤ) (db : Db) :
    Db × Reply :=
  match row with
  | none => (db, false, msgNotFound)
  | some durationDays =>
    if durationDays = 0 then (db, true, "اشتراک نامحدود است؛ تمدید لازم نیست.")
    else
      let finite : UserRow → Bool := fun u => u.durationDays ≠ 0
      (db.updateUsers userId finite (extendRow now days),
        if Rows.rowcount UserRow.id db.users userId finite = 0 then
          (false, "تمدید انجام نشد؛ وضعیت اشتراک تغییر کرده بود.")
        else (true, "اشتراک " ++ toString days ++ " روز تمدید شد."))

/-- `SELECT duration_days FROM users WHERE id = ?`. -/
def Db.durationOf (db : Db) (userId : ℕ) : Option ℤ := (db.user userId).map UserRow.durationDays

/-- `extend_user`. -/
def extendUser (now : Stamp) (userId : ℕ) (days : PyValue) (db : Db) : Db × Reply :=
  match extendDays days with
  | .error e => (db, false, e)
  | .ok days => extendUserWith now userId days (db.durationOf userId) db

/-! ### Status transitions -/

/-- `pause_user` once its `SELECT` has answered `row`. -/
def pauseUserWith (now : Stamp) (userId : ℕ) (row : Option UserRow) (db : Db) : Db × Reply :=
  match row with
  | none => (db, false, msgNotFound)
  | some user =>
    match user.status with
    | .disabled => (db, false, "کاربر غیرفعال است؛ ابتدا آن را فعال کنید.")
    | .paused => (db, true, "کاربر از قبل متوقف بود")
    | .active =>
      (db.setUser userId (applySets [.status .paused, .pausedAt (some now), .updatedAt now]),
        true, "اشتراک کاربر موقتاً متوقف شد.")

/-- `pause_user`. -/
def pauseUser (now : Stamp) (userId : ℕ) (db : Db) : Db × Reply :=
  pauseUserWith now userId (db.user userId) db

/-- The shift of `expire_at` in `resume_user`: the paused span, for a row with all three dates.
A date outside the calendar raises `OverflowError`. -/
def resumeShift (now : Stamp) (user : Clock) : Except String (List Assign) :=
  match user.activatedAt, user.pausedAt, user.expireAt with
  | some _, some pausedAt, some expire =>
    match expire.add? (now.secs - pausedAt.secs) with
    | none => .error "خطا در ازسرگیری کاربر"
    | some e => .ok [.expireAt (some e)]
  | _, _, _ => .ok []

/-- `resume_user` once its `SELECT` has answered `row`. -/
def resumeUserWith (now : Stamp) (userId : ℕ) (row : Option UserRow) (db : Db) : Db × Reply :=
  match row with
  | none => (db, false, msgNotFound)
  | some user =>
    if user.status ≠ .paused then (db, false, "کاربر در حالت توقف نیست")
    else
      match resumeShift now user.clock with
      | .error e => (db, false, e)
      | .ok shift =>
        (db.setUser userId
            (applySets (shift ++ [.status .active, .pausedAt none, .updatedAt now])),
          true, "اشتراک کاربر از سر گرفته شد.")

/-- `resume_user`. -/
def resumeUser (now : Stamp) (userId : ℕ) (db : Db) : Db × Reply :=
  resumeUserWith now userId (db.user userId) db

/-- The row after `reset_user`. -/
def resetRow (now : Stamp) (u : UserRow) : UserRow :=
  { u with activatedAt := none, expireAt := none, pausedAt := none, status := .active,
           updatedAt := now }

/-- `reset_user`; the device slots of the user are freed too. -/
def resetUser (now : Stamp) (userId : ℕ) (db : Db) : Db × Reply :=
  match db.user userId with
  | none => (db, false, msgNotFound)
  | some _ =>
    ({ db.setUser userId (resetRow now) with
        userDevices := db.userDevices.filter fun d => d.userId ≠ userId },
      true, "وضعیت فعال‌سازی کاربر ریست شد.")

/-- `set_user_enabled` once its `SELECT` has found the row or not. -/
def setUserEnabledWith (now : Stamp) (userId : ℕ) (enabled : Bool) (row : Option UserRow)
    (db : Db) : Db × Reply :=
  match row with
  | none => (db, false, msgNotFound)
  | some _ =>
    if enabled then
      (db.setUser userId (applySets [.status .active, .pausedAt none, .updatedAt now]),
        true, "کاربر فعال شد.")
    else
      (db.setUser userId (applySets [.status .disabled, .updatedAt now]), true,
        "کاربر غیرفعال شد.")

/-- `set_user_enabled`. -/
def setUserEnabled (now : Stamp) (userId : ℕ) (enabled : Bool) (db : Db) : Db × Reply :=
  setUserEnabledWith now userId enabled (db.user userId) db

end V2raySub
