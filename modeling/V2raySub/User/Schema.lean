import V2raySub.Base.Rows
import V2raySub.Base.Stamp
import V2raySub.Base.PyText

/-!
The tables the user service works on (`database.py`, `init_db`) and the constants it reads
(`utils/constants.py`).

A `TIMESTAMP` column holds the text `%Y-%m-%d %H:%M:%S` of a naive UTC date; it is a `Stamp`
here, since the service and SQLite only write and compare dates of that form.  A nullable
column is an `Option`.
-/

namespace V2raySub

/-- The stored `status` of a user (`USER_STATUS_*`; `EXPIRED` is never stored). -/
inductive UserStatus where
  | active
  | paused
  | disabled
  deriving DecidableEq

/-- A row of `users`. -/
structure UserRow where
  id : ℕ
  uuid : String
  name : String
  path : String
  status : UserStatus
  durationDays : ℤ
  activatedAt : Option Stamp
  expireAt : Option Stamp
  pausedAt : Option Stamp
  note : Option String
  maxDevices : ℤ
  lastSeen : Option Stamp
  lastUserAgent : Option String
  lastIp : Option String
  createdAt : Stamp
  updatedAt : Stamp
  deriving DecidableEq

/-- The columns of a user that run the plan's clock. -/
@[ext] structure Clock where
  status : UserStatus
  durationDays : ℤ
  activatedAt : Option Stamp
  expireAt : Option Stamp
  pausedAt : Option Stamp
  deriving DecidableEq

/-- The clock columns of a row. -/
def UserRow.clock (u : UserRow) : Clock :=
  { status := u.status, durationDays := u.durationDays, activatedAt := u.activatedAt,
    expireAt := u.expireAt, pausedAt := u.pausedAt }

/-- A row of `subscription_paths`, the legacy shared links. -/
structure PathRow where
  id : ℕ
  path : String
  isPrimary : Bool
  isEnabled : Bool
  createdAt : Stamp
  deriving DecidableEq

/-- A row of `user_devices`. -/
structure DeviceRow where
  id : ℕ
  userId : ℕ
  fingerprint : String
  firstSeen : Stamp
  lastSeen : Stamp
  network : String
  lastIp : Option String
  userAgent : Option String
  hits : ℤ
  deriving DecidableEq

/-- The tables, with the next id each `AUTOINCREMENT` key hands out. -/
structure Db where
  users : List UserRow
  usersSeq : ℕ
  subscriptionPaths : List PathRow
  userDevices : List DeviceRow
  devicesSeq : ℕ
  settings : List (String × String)
  deriving DecidableEq

/-! ### Constants -/

/-- `USER_MAX_DURATION_DAYS`. -/
def userMaxDurationDays : ℤ := 36500

/-- `USER_PATH_REGEX` is `^[A-Za-z0-9_-]{8,64}$`: the characters of its class. -/
def isUserPathChar (c : Char) : Bool := c.isAlphanum || c = '_' || c = '-'

/-! ### Statements on the tables -/

/-- `SELECT * FROM users WHERE id = ?`. -/
def Db.user (db : Db) (userId : ℕ) : Option UserRow := Rows.get UserRow.id db.users userId

/-- `SELECT * FROM users WHERE path = ?`. -/
def Db.userByPath (db : Db) (path : String) : Option UserRow :=
  Rows.get UserRow.path db.users path

/-- `UPDATE users SET f WHERE id = ? AND p`. -/
def Db.updateUsers (db : Db) (userId : ℕ) (p : UserRow → Bool) (f : UserRow → UserRow) : Db :=
  { db with users := Rows.update UserRow.id db.users userId p f }

/-- `UPDATE users SET f WHERE id = ?`. -/
def Db.setUser (db : Db) (userId : ℕ) (f : UserRow → UserRow) : Db :=
  db.updateUsers userId (fun _ => true) f

/-- `get_setting` of `database.py`. -/
def getSetting (db : Db) (key default : String) : String :=
  ((Rows.get Prod.fst db.settings key).map Prod.snd).getD default

lemma Db.id_of_user {db : Db} {i : ℕ} {u : UserRow} (h : db.user i = some u) : u.id = i :=
  Rows.key_of_get h

/-- What an update does to a later read of any user. -/
lemma Db.user_updateUsers (db : Db) (i j : ℕ) (p : UserRow → Bool) {f : UserRow → UserRow}
    (hf : ∀ u, (f u).id = u.id) :
    (db.updateUsers i p f).user j
      = (db.user j).map fun u => if j = i ∧ p u then f u else u := by
  by_cases hji : j = i
  · subst hji
    have h : Rows.get UserRow.id (Rows.update UserRow.id db.users j p f) j = _ :=
      Rows.get_update_self hf
    simpa [Db.user, Db.updateUsers] using h
  · have h : Rows.get UserRow.id (Rows.update UserRow.id db.users i p f) j = _ :=
      Rows.get_update_of_ne hf hji
    simpa [Db.user, Db.updateUsers, hji] using h

lemma Db.user_setUser (db : Db) (i j : ℕ) {f : UserRow → UserRow} (hf : ∀ u, (f u).id = u.id) :
    (db.setUser i f).user j = (db.user j).map fun u => if j = i then f u else u := by
  simp [Db.setUser, Db.user_updateUsers db i j _ hf]

end V2raySub
