import V2raySub.Client.Subscription

/-!
The route `POST /api/v1/subs` (`routes/machine_api.py`, `create_sub`), in the steps other requests
can come between: the check of the path, the `INSERT`, and the lookup after a failure.

* `createArgs`: the checks of the body; `addUserPrepare`, `addUser_eq`: `add_user` as its checks
  and its `INSERT`.
* `CreatePc`, `Creation.step`: one request's next step; `Creation.run`: a schedule of the steps of
  any number of requests.
* `Unclaimed`, `Claimed`: before the first `INSERT` and after it.
* `create_retry_safe`: **one request answers 201, the others 409 `path_taken`, all with the same
  subscription, and one row has the path**.
-/

namespace V2raySub

/-! ### The subscription object -/

/-- The status shown for a user; `EXPIRED` is computed. -/
inductive EffectiveStatus where
  | active
  | paused
  | disabled
  | expired
  deriving DecidableEq

/-- `compute_effective_status`. -/
def computeEffectiveStatus (now : Stamp) (user : UserRow) : EffectiveStatus :=
  match user.status with
  | .disabled => .disabled
  | .paused => .paused
  | .active => if isExpired now user then .expired else .active

/-- The text of `_remaining`. -/
def remainingText (now : Stamp) (user : UserRow) : String :=
  if user.durationDays = 0 then "نامحدود"
  else
    match remainingSecs now user with
    | none => "فعال نشده"
    | some secs =>
      let hours := secs % daySecs / 3600
      if secs ≤ 0 then "منقضی شده"
      else if 0 < secs / daySecs then
        toString (secs / daySecs) ++ " روز و " ++ toString hours ++ " ساعت"
      else if 0 < hours then
        toString hours ++ " ساعت و " ++ toString (secs % 3600 / 60) ++ " دقیقه"
      else toString (secs % daySecs / 60) ++ " دقیقه"

/-- The `subscription` of an answer. -/
structure SubView where
  id : ℕ
  uuid : String
  name : String
  path : String
  subUrl : String
  status : UserStatus
  effectiveStatus : EffectiveStatus
  durationDays : ℤ
  maxDevices : ℤ
  activeDeviceCount : Option ℕ
  remainingSeconds : Option ℤ
  remainingText : String
  activatedAt : Option Stamp
  expireAt : Option Stamp
  lastSeen : Option Stamp
  note : Option String
  createdAt : Stamp
  deriving DecidableEq

/-- `_serialize`. -/
def serialize (req : Request) (now : Stamp) (user : UserRow) (db : Db) : SubView :=
  { id := user.id, uuid := user.uuid, name := user.name, path := user.path,
    subUrl := getPublicBaseUrl req db ++ "sub/" ++ user.path, status := user.status,
    effectiveStatus := computeEffectiveStatus now user, durationDays := user.durationDays,
    maxDevices := user.maxDevices,
    activeDeviceCount := (db.user user.id).bind fun _ =>
      (deviceWindowCutoff now db).map (activeDevices db user.id),
    remainingSeconds := remainingSecs now user, remainingText := remainingText now user,
    activatedAt := user.activatedAt, expireAt := user.expireAt, lastSeen := user.lastSeen,
    note := user.note, createdAt := user.createdAt }

/-- An answer of the machine API. -/
structure ApiReply where
  status : ℕ
  success : Bool
  error : Option String
  field : Option String
  message : String
  subscription : Option SubView
  deriving DecidableEq

/-! ### The body -/

/-- `_bad_request`. -/
def badRequest (field message : String) : ApiReply :=
  { status := 400, success := false, error := some "invalid_request", field := some field,
    message := message, subscription := none }

/-- `_require_int`. -/
def requireInt (data : Dict) (field : String) (default minimum : ℤ) (maximum : Option ℤ) :
    Except ApiReply ℤ :=
  match data.get? field with
  | none | some .null => .ok default
  | some (.num value) =>
    if value < minimum then
      .error (badRequest field (field ++ " must be >= " ++ toString minimum ++ "."))
    else
      match maximum with
      | none => .ok value
      | some m =>
        if m < value then .error (badRequest field (field ++ " must be <= " ++ toString m ++ "."))
        else .ok value
  | some _ => .error (badRequest field (field ++ " must be an integer."))

/-- `(data.get(field) or '').strip()`; a truthy value that is not a string raises. -/
def textField (data : Dict) (field : String) : Option String :=
  match data.get? field with
  | none => some ""
  | some (.str s) => some (PyText.strip s)
  | some v => if v.truthy then none else some ""

/-- The arguments `create_sub` calls `add_user` with, the answer to a body that is refused, or
`none` where an exception ends the request. -/
def createArgs (uuid : String) (draws : List String) (data : Dict) :
    Option (Except ApiReply AddArgs) := do
  let name ← textField data "name"
  if name = "" then
    return .error { status := 400, success := false, error := some "invalid_name", field := none,
                    message := "name is required.", subscription := none }
  let path ← textField data "path"
  match requireInt data "duration_days" 30 0 (some userMaxDurationDays) with
  | .error reply => return .error reply
  | .ok durationDays =>
    match requireInt data "max_devices" 1 0 none with
    | .error reply => return .error reply
    | .ok maxDevices =>
      let note ← textField data "note"
      return .ok { name := some name, durationDays := .int durationDays,
                   customPath := if path = "" then none else some path,
                   note := if note = "" then none else some note, maxDevices := .int maxDevices,
                   uuid := uuid, draws := draws }

/-! ### `add_user` in two steps -/

/-- What `add_user` inserts. -/
structure NewUser where
  name : String
  path : String
  durationDays : ℤ
  maxDevices : ℤ
  deriving DecidableEq

/-- The path of `add_user`; `none` while the generator is still drawing. -/
def addUserPath (a : AddArgs) (db : Db) : Option (Except String String) :=
  match a.customPath with
  | none | some "" => (generateUniquePath db a.draws).map .ok
  | some customPath =>
    let path := PyText.strip customPath
    let (ok, err) := validateUserPath path
    if !ok then some (.error err)
    else if pathTaken db path none then some (.error msgPathTaken)
    else some (.ok path)

/-- `add_user` up to its `INSERT`. -/
def addUserPrepare (a : AddArgs) (db : Db) : Option (Except String NewUser) :=
  let name := PyText.strip (a.name.getD "")
  if name = "" then some (.error msgNameEmpty)
  else
    match a.durationDays.toInt? with
    | none => some (.error msgDaysNotInt)
    | some durationDays =>
      if durationDays < 0 then some (.error msgDaysNegative)
      else if userMaxDurationDays < durationDays then some (.error msgDaysOverMax)
      else
        let maxDevices := a.maxDevices.toInt?.getD 1
        if maxDevices < 0 then some (.error msgDevicesNegative)
        else
          (addUserPath a db).map fun r => r.map fun path => ⟨name, path, durationDays, maxDevices⟩

/-- `add_user` is its checks and its `INSERT`. -/
lemma addUser_eq (now : Stamp) (a : AddArgs) (db : Db) :
    addUser now a db = (addUserPrepare a db).map fun
      | .error message => (db, (false, message), none)
      | .ok u => insertUser now a u.name u.path u.durationDays u.maxDevices db := by
  rw [addUser, addUserPrepare]
  dsimp only
  by_cases hname : PyText.strip (a.name.getD "") = ""
  · rw [if_pos hname, if_pos hname]
    rfl
  rw [if_neg hname, if_neg hname]
  cases a.durationDays.toInt? with
  | none => rfl
  | some n =>
      dsimp only
      split_ifs
      · rfl
      · rfl
      · rfl
      · have hdraw : ∀ o : Option String,
            (o.map fun path => insertUser now a (PyText.strip (a.name.getD "")) path n
              (a.maxDevices.toInt?.getD 1) db)
            = (((o.map Except.ok).map fun r : Except String String => r.map fun path =>
              (⟨PyText.strip (a.name.getD ""), path, n, a.maxDevices.toInt?.getD 1⟩ :
                NewUser)).map fun
                | .error message => (db, (false, message), none)
                | .ok u => insertUser now a u.name u.path u.durationDays u.maxDevices db) := by
          intro o
          cases o with
          | _ => rfl
        rw [addUserPath]
        cases a.customPath with
        | none => exact hdraw _
        | some s =>
            by_cases hs : s = ""
            · rw [hs]
              exact hdraw _
            · simp only
              split_ifs
              · rfl
              · rfl
              · rfl

/-- The largest integer a column holds. -/
def sqliteMaxInt : ℤ := 9223372036854775807

/-- The `INSERT` of `add_user`, and the row it reads back; a number too large for SQLite raises. -/
def insertNewUser (now : Stamp) (a : AddArgs) (u : NewUser) (db : Db) :
    Db × Reply × Option UserRow :=
  if sqliteMaxInt < u.maxDevices then (db, (false, "خطا در ساخت کاربر"), none)
  else insertUser now a u.name u.path u.durationDays u.maxDevices db

/-! ### The steps of a request -/

/-- Where a request is; `raised` is the answer 500. -/
inductive CreatePc where
  | check
  | insert (a : AddArgs) (u : NewUser)
  | lookup (path message : String)
  | done (reply : ApiReply)
  | raised
  deriving DecidableEq

/-- A request: what it reads, its body, its clock and its draws. -/
structure CreateCall where
  req : Request
  data : Dict
  now : Stamp
  uuid : String
  draws : List String

/-- `create_failed`. -/
def createFailed (message : String) : ApiReply :=
  { status := 400, success := false, error := some "create_failed", field := none,
    message := message, subscription := none }

/-- `path_taken`, with the subscription that has the path. -/
def pathTakenReply (message : String) (sub : SubView) : ApiReply :=
  { status := 409, success := false, error := some "path_taken", field := none,
    message := message, subscription := some sub }

/-- The answer to a creation. -/
def createdReply (message : String) (sub : SubView) : ApiReply :=
  { status := 201, success := true, error := none, field := none, message := message,
    subscription := some sub }

/-- Where a request goes on when `add_user` has failed. -/
def CreatePc.afterFailure (a : AddArgs) (message : String) : CreatePc :=
  match a.customPath with
  | none => .done (createFailed message)
  | some path => .lookup path message

/-- The next step of a request. -/
def CreateCall.step (call : CreateCall) (db : Db) : CreatePc → Db × CreatePc
  | .check =>
    match createArgs call.uuid call.draws call.data with
    | none => (db, .raised)
    | some (.error reply) => (db, .done reply)
    | some (.ok a) =>
      match addUserPrepare a db with
      -- the generator draws on
      | none => (db, .check)
      | some (.error message) => (db, .afterFailure a message)
      | some (.ok u) => (db, .insert a u)
  | .insert a u =>
    match insertNewUser call.now a u db with
    | (db, (_, message), some row) =>
      (db, .done (createdReply message (serialize call.req call.now row db)))
    | (db, (_, message), none) => (db, .afterFailure a message)
  | .lookup path message =>
    match db.userByPath path with
    | some row => (db, .done (pathTakenReply message (serialize call.req call.now row db)))
    | none => (db, .done (createFailed message))
  | pc => (db, pc)

/-- The tables, and where every request is. -/
structure Creation (ι : Type*) where
  db : Db
  pc : ι → CreatePc

variable {ι : Type*} [DecidableEq ι]

/-- The request `i` makes its next step. -/
def Creation.step (calls : ι → CreateCall) (s : Creation ι) (i : ι) : Creation ι :=
  let out := (calls i).step s.db (s.pc i)
  { db := out.1, pc := Function.update s.pc i out.2 }

/-- The steps of a schedule. -/
def Creation.run (calls : ι → CreateCall) (s : Creation ι) (w : List ι) : Creation ι :=
  w.foldl (Creation.step calls) s

/-- Every request at its start. -/
def Creation.start (ι : Type*) (db : Db) : Creation ι := { db := db, pc := fun _ => .check }

/-! ### Valid requests -/

/-- The body of a request with the path `p` that passes every check of the route; its numbers are
those a column can hold. -/
structure ValidCreate (p : String) (data : Dict) : Prop where
  name : ∃ s, textField data "name" = some s ∧ s ≠ ""
  path : textField data "path" = some p
  durationDays : ∃ n, requireInt data "duration_days" 30 0 (some userMaxDurationDays) = .ok n
  maxDevices : ∃ n ≤ sqliteMaxInt, requireInt data "max_devices" 1 0 none = .ok n
  note : ∃ s, textField data "note" = some s

lemma requireInt_ok {data : Dict} {field : String} {default minimum : ℤ} {maximum : Option ℤ}
    {n : ℤ} (h : requireInt data field default minimum maximum = .ok n)
    (hd : minimum ≤ default ∧ ∀ m ∈ maximum, default ≤ m) :
    minimum ≤ n ∧ ∀ m ∈ maximum, n ≤ m := by
  unfold requireInt at h
  split at h
  · cases h
    exact hd
  · cases h
    exact hd
  · split_ifs at h with hmin
    cases maximum with
    | none =>
        cases h
        exact ⟨by omega, fun m hm => by cases hm⟩
    | some m =>
        dsimp only at h
        split_ifs at h with hmax
        cases h
        exact ⟨by omega, fun m' hm' => by cases hm'; omega⟩
  · cases h

/-- The text the route passes on is stripped. -/
lemma strip_textField {data : Dict} {field s : String} (h : textField data field = some s) :
    PyText.strip s = s := by
  unfold textField at h
  split at h
  · cases h
    rfl
  · cases h
    exact PyText.strip_strip _
  · split_ifs at h
    cases h
    rfl

/-- A request that is about to insert. -/
structure Ready (p : String) (call : CreateCall) (a : AddArgs) (u : NewUser) : Prop where
  path : u.path = p
  maxDevices : u.maxDevices ≤ sqliteMaxInt
  uuid : a.uuid = call.uuid
  customPath : a.customPath = some p

lemma createArgs_of_valid {p : String} {call : CreateCall} (h : ValidCreate p call.data)
    (hp : p ≠ "") :
    ∃ a n m name, createArgs call.uuid call.draws call.data = some (.ok a)
      ∧ a.name = some name ∧ PyText.strip name ≠ "" ∧ a.durationDays = .int n ∧ 0 ≤ n
      ∧ n ≤ userMaxDurationDays ∧ a.customPath = some p ∧ a.maxDevices = .int m ∧ 0 ≤ m
      ∧ m ≤ sqliteMaxInt ∧ a.uuid = call.uuid := by
  obtain ⟨name, hname, hne⟩ := h.name
  obtain ⟨n, hn⟩ := h.durationDays
  obtain ⟨m, hmax, hm⟩ := h.maxDevices
  obtain ⟨note, hnote⟩ := h.note
  obtain ⟨hn0, hn1⟩ := requireInt_ok hn ⟨by decide, by decide⟩
  obtain ⟨hm0, -⟩ := requireInt_ok hm ⟨by decide, by simp⟩
  refine ⟨⟨some name, .int n, some p, if note = "" then none else some note, .int m, call.uuid,
    call.draws⟩, n, m, name, ?_, rfl, ?_, rfl, hn0, hn1 _ rfl, rfl, rfl, hm0, hmax, rfl⟩
  · simp [createArgs, hname, hne, h.path, hn, hm, hnote, hp]
  · rw [strip_textField hname]
    exact hne

/-- The check of a valid request: the path is taken, or the request is about to insert. -/
lemma step_check {p : String} {call : CreateCall} (h : ValidCreate p call.data)
    (hp : (validateUserPath p).1 = true) (db : Db) :
    (pathTaken db p none = true ∧ call.step db .check = (db, .lookup p msgPathTaken))
      ∨ (pathTaken db p none = false
        ∧ ∃ a u, call.step db .check = (db, .insert a u) ∧ Ready p call a u) := by
  have hempty : p ≠ "" := by
    rintro rfl
    simp [validateUserPath] at hp
  obtain ⟨a, n, m, name, hargs, hname, hne, hdays, hn0, hn1, hpath, hdev, hm0, hm1, huuid⟩ :=
    createArgs_of_valid h hempty
  have haddPath : addUserPath a db
      = some (if pathTaken db p none then .error msgPathTaken else .ok p) := by
    rw [addUserPath, hpath]
    simp only [strip_textField h.path, hp, Bool.not_true, Bool.false_eq_true, if_false]
    split_ifs
    · rfl
    · rfl
  have hprep : addUserPrepare a db
      = some (if pathTaken db p none then .error msgPathTaken
        else .ok ⟨PyText.strip name, p, n, m⟩) := by
    simp only [addUserPrepare, hname, Option.getD_some, hne, if_false, hdays, PyValue.toInt?,
      not_lt.mpr hn0, not_lt.mpr hn1, hdev, not_lt.mpr hm0, haddPath, Option.map_some]
    split_ifs
    · rfl
    · rfl
  rw [CreateCall.step, hargs]
  dsimp only
  rw [hprep]
  cases pathTaken db p none with
  | true => exact .inl ⟨rfl, by simp [CreatePc.afterFailure, hpath]⟩
  | false => exact .inr ⟨rfl, a, _, rfl, rfl, hm1, huuid, hpath⟩

/-! ### Before and after the first `INSERT` -/

/-- The number of steps a request is from its answer, at most. -/
def CreatePc.rank : CreatePc → ℕ
  | .check => 3
  | .insert _ _ => 2
  | .lookup _ _ => 1
  | .done _ | .raised => 0

/-- An answer about the subscription `sub`. -/
structure Answers (sub status : ℕ) (error : Option String) (reply : ApiReply) : Prop where
  status : reply.status = status
  error : reply.error = error
  subscription : reply.subscription.map SubView.id = some sub

/-- Where a request can be while the path is free. -/
def CreatePc.Before (p : String) (call : CreateCall) : CreatePc → Prop
  | .check => True
  | .insert a u => Ready p call a u
  | _ => False

/-- Where a request that has not inserted can be once the path is that of the user `sub`. -/
def CreatePc.After (p : String) (sub : ℕ) (call : CreateCall) : CreatePc → Prop
  | .check => True
  | .insert a u => Ready p call a u
  | .lookup path _ => path = p
  | .done reply => Answers sub 409 (some "path_taken") reply
  | .raised => False

variable {p : String} {call : CreateCall} {db : Db}

lemma pathTaken_of_userByPath {row : UserRow} (h : db.userByPath p = some row) :
    pathTaken db p none = true := by
  have hrow := Rows.get_mem h
  have hpath := Rows.key_of_get h
  simp only [pathTaken, Bool.or_eq_true, List.any_eq_true]
  exact .inl ⟨row, hrow, by simpa using hpath⟩

/-- A step while the path is free: the check passes, and an `INSERT` is the first one. -/
lemma step_before (h : ValidCreate p call.data) (hp : (validateUserPath p).1 = true)
    (hfree : pathTaken db p none = false) (huuid : ∀ u ∈ db.users, u.uuid ≠ call.uuid)
    {pc : CreatePc} (hpc : pc.Before p call) :
    (∃ pc', call.step db pc = (db, pc') ∧ pc'.Before p call ∧ pc'.rank < pc.rank)
      ∨ ∃ row reply, call.step db pc = ({ db with
            users := db.users ++ [row], usersSeq := db.usersSeq + 1 }, .done reply)
          ∧ row.path = p ∧ row.id = db.usersSeq ∧ Answers db.usersSeq 201 none reply := by
  cases pc with
  | check =>
      rcases step_check h hp db with ⟨ht, -⟩ | ⟨-, a, u, hstep, hready⟩
      · rw [hfree] at ht
        cases ht
      · exact .inl ⟨_, hstep, hready, by simp [CreatePc.rank]⟩
  | insert a u =>
      have hready : Ready p call a u := hpc
      have hnone : (db.users.any fun v => v.uuid = a.uuid || v.path = u.path) = false := by
        rw [List.any_eq_false]
        intro v hv
        simp only [Bool.or_eq_true, decide_eq_true_eq, not_or]
        refine ⟨by rw [hready.uuid]; exact huuid v hv, fun hpath => ?_⟩
        simp only [pathTaken, Bool.or_eq_false_iff, List.any_eq_false] at hfree
        exact hfree.1 v hv (by simp [hpath, hready.path])
      have hins : insertNewUser call.now a u db = insertUser call.now a u.name u.path
          u.durationDays u.maxDevices db := if_neg (not_lt.mpr hready.maxDevices)
      right
      rw [CreateCall.step, hins, insertUser, hnone]
      exact ⟨_, _, rfl, hready.path, rfl, rfl, rfl, rfl⟩
  | lookup _ _ | done _ | raised => exact hpc.elim

/-- A step once the path is that of a user: nothing is written. -/
lemma step_after (h : ValidCreate p call.data) (hp : (validateUserPath p).1 = true)
    {row : UserRow} (hrow : db.userByPath p = some row) {pc : CreatePc}
    (hpc : pc.After p row.id call) :
    ∃ pc', call.step db pc = (db, pc') ∧ pc'.After p row.id call ∧ pc'.rank ≤ pc.rank - 1 := by
  cases pc with
  | check =>
      rcases step_check h hp db with ⟨-, hstep⟩ | ⟨ht, -⟩
      · exact ⟨_, hstep, rfl, by simp [CreatePc.rank]⟩
      · rw [pathTaken_of_userByPath hrow] at ht
        cases ht
  | insert a u =>
      have hready : Ready p call a u := hpc
      have hany : (db.users.any fun v => v.uuid = a.uuid || v.path = u.path) = true :=
        List.any_eq_true.mpr ⟨row, Rows.get_mem hrow, by
          simp [hready.path, Rows.key_of_get hrow]⟩
      have hins : insertNewUser call.now a u db = insertUser call.now a u.name u.path
          u.durationDays u.maxDevices db := if_neg (not_lt.mpr hready.maxDevices)
      rw [CreateCall.step, hins, insertUser, hany]
      refine ⟨.lookup p "خطا در ساخت کاربر", ?_, rfl, by simp [CreatePc.rank]⟩
      simp [CreatePc.afterFailure, hready.customPath]
  | lookup path message =>
      obtain rfl : path = p := hpc
      rw [CreateCall.step, hrow]
      exact ⟨_, rfl, ⟨rfl, rfl, rfl⟩, le_rfl⟩
  | done reply => exact ⟨_, rfl, hpc, Nat.zero_le _⟩
  | raised => exact hpc.elim

/-! ### Every schedule -/

variable {calls : ι → CreateCall} {db₀ : Db} {s : Creation ι}

/-- No request has inserted. -/
structure Unclaimed (p : String) (calls : ι → CreateCall) (db₀ : Db) (s : Creation ι) : Prop where
  db : s.db = db₀
  places : ∀ i, (s.pc i).Before p (calls i)

/-- The request `winner` has inserted the row, and has answered so. -/
structure Claimed (p : String) (calls : ι → CreateCall) (db₀ : Db) (row : UserRow) (winner : ι)
    (s : Creation ι) : Prop where
  db : s.db = { db₀ with users := db₀.users ++ [row], usersSeq := db₀.usersSeq + 1 }
  path : row.path = p
  answered : ∃ reply, s.pc winner = .done reply ∧ Answers row.id 201 none reply
  places : ∀ i ≠ winner, (s.pc i).After p row.id (calls i)

/-- Valid requests for one path that is free, with draws of `uuid4` no user has. -/
structure Contest (p : String) (calls : ι → CreateCall) (db₀ : Db) : Prop where
  path : (validateUserPath p).1 = true
  free : pathTaken db₀ p none = false
  valid : ∀ i, ValidCreate p (calls i).data
  uuid : ∀ i, ∀ u ∈ db₀.users, u.uuid ≠ (calls i).uuid

omit [DecidableEq ι] in
lemma Contest.free_users (h : Contest p calls db₀) : ∀ u ∈ db₀.users, u.path ≠ p := by
  intro u hu hpath
  have hfree := h.free
  simp only [pathTaken, Bool.or_eq_false_iff, List.any_eq_false] at hfree
  exact hfree.1 u hu (by simp [hpath])

lemma CreatePc.Before.after {call : CreateCall} {pc : CreatePc} (h : pc.Before p call) (sub : ℕ) :
    pc.After p sub call := by
  cases pc with
  | check => trivial
  | insert a u => exact h
  | lookup _ _ | done _ | raised => exact h.elim

omit [DecidableEq ι] in
lemma Claimed.userByPath (hc : Contest p calls db₀) {row : UserRow} {winner : ι}
    (h : Claimed p calls db₀ row winner s) : s.db.userByPath p = some row := by
  have hnone : db₀.users.find? (fun u => decide (u.path = p)) = none := by
    rw [List.find?_eq_none]
    exact fun u hu => by simpa using hc.free_users u hu
  rw [h.db, Db.userByPath, Rows.get, List.find?_append, hnone, Option.none_or]
  simp [h.path]

/-- A step before the first `INSERT`. -/
lemma Unclaimed.step (hc : Contest p calls db₀) (h : Unclaimed p calls db₀ s) (i : ι) :
    (Unclaimed p calls db₀ (s.step calls i)
        ∧ ((s.step calls i).pc i).rank ≤ (s.pc i).rank - 1)
      ∨ ((∃ row, row.id = db₀.usersSeq ∧ Claimed p calls db₀ row i (s.step calls i))
        ∧ ((s.step calls i).pc i).rank ≤ (s.pc i).rank - 1) := by
  have hstep := step_before (hc.valid i) hc.path hc.free (hc.uuid i) (h.places i)
  rw [Creation.step]
  rw [← h.db] at hstep
  rcases hstep with ⟨pc', hs, hb, hlt⟩ | ⟨row, reply, hs, hpath, hid, ha⟩
  · left
    rw [hs]
    refine ⟨⟨h.db, fun j => ?_⟩, ?_⟩
    · dsimp only
      by_cases hj : j = i
      · subst hj
        rw [Function.update_self]
        exact hb
      · rw [Function.update_of_ne hj]
        exact h.places j
    · dsimp only
      rw [Function.update_self]
      omega
  · right
    rw [hs]
    refine ⟨⟨row, by rw [hid, h.db], by rw [h.db], hpath, ⟨reply, Function.update_self .., ?_⟩,
      fun j hj => ?_⟩, ?_⟩
    · rw [hid]
      exact ha
    · dsimp only
      rw [Function.update_of_ne hj]
      exact (h.places j).after row.id
    · dsimp only
      rw [Function.update_self]
      exact Nat.zero_le _

/-- A step after the first `INSERT`. -/
lemma Claimed.step (hc : Contest p calls db₀) {row : UserRow} {winner : ι}
    (h : Claimed p calls db₀ row winner s) (i : ι) :
    Claimed p calls db₀ row winner (s.step calls i)
      ∧ ((s.step calls i).pc i).rank ≤ (s.pc i).rank - 1 := by
  rw [Creation.step]
  by_cases hi : i = winner
  · -- the winner has answered
    obtain ⟨reply, hw, ha⟩ := h.answered
    have hstay : (calls i).step s.db (s.pc i) = (s.db, s.pc i) := by
      rw [hi, hw]
      rfl
    rw [hstay]
    refine ⟨⟨h.db, h.path, ⟨reply, by simpa using hw, ha⟩, fun j hj => ?_⟩, ?_⟩
    · simpa using h.places j hj
    · simp [hi, hw, CreatePc.rank]
  · obtain ⟨pc', hs, ha, hle⟩ :=
      step_after (hc.valid i) hc.path (h.userByPath hc) (h.places i hi)
    rw [hs]
    refine ⟨⟨h.db, h.path, ?_, fun j hj => ?_⟩, ?_⟩
    · obtain ⟨reply, hw, hr⟩ := h.answered
      exact ⟨reply, by dsimp only; rwa [Function.update_of_ne (Ne.symm hi)], hr⟩
    · dsimp only
      by_cases hji : j = i
      · subst hji
        rw [Function.update_self]
        exact ha
      · rw [Function.update_of_ne hji]
        exact h.places j hj
    · dsimp only
      rw [Function.update_self]
      exact hle

/-- Nobody has inserted, or one request has. -/
def Contested (p : String) (calls : ι → CreateCall) (db₀ : Db) (s : Creation ι) : Prop :=
  Unclaimed p calls db₀ s
    ∨ ∃ winner row, row.id = db₀.usersSeq ∧ Claimed p calls db₀ row winner s

lemma Contested.step (hc : Contest p calls db₀) (h : Contested p calls db₀ s) (i : ι) :
    Contested p calls db₀ (s.step calls i)
      ∧ ((s.step calls i).pc i).rank ≤ (s.pc i).rank - 1 := by
  rcases h with h | ⟨winner, row, hid, h⟩
  · rcases h.step hc i with ⟨h', hle⟩ | ⟨⟨row, hid, h'⟩, hle⟩
    · exact ⟨.inl h', hle⟩
    · exact ⟨.inr ⟨i, row, hid, h'⟩, hle⟩
  · obtain ⟨h', hle⟩ := h.step hc i
    exact ⟨.inr ⟨winner, row, hid, h'⟩, hle⟩

/-- Over a schedule every request comes nearer to its answer with each of its steps. -/
lemma Contested.run (hc : Contest p calls db₀) (h : Contested p calls db₀ s) (w : List ι) :
    Contested p calls db₀ (s.run calls w)
      ∧ ∀ i, ((s.run calls w).pc i).rank ≤ (s.pc i).rank - w.count i := by
  induction w generalizing s with
  | nil => exact ⟨h, fun i => by simp [Creation.run]⟩
  | cons j w ih =>
      obtain ⟨h', hle⟩ := h.step hc j
      obtain ⟨hrun, hrank⟩ := ih h'
      refine ⟨hrun, fun i => (hrank i).trans ?_⟩
      by_cases hij : j = i
      · subst hij
        rw [List.count_cons_self]
        omega
      · have hsame : (s.step calls j).pc i = s.pc i := by
          rw [Creation.step]
          exact Function.update_of_ne (Ne.symm hij) ..
        rw [hsame, List.count_cons_of_ne hij]

/-- **Creation by path is retry-safe.**  In every schedule that gives each of the requests its three
steps, every request answers: one with 201, all others with 409 `path_taken`, all of them with the
same subscription id; and exactly one row has the path. -/
theorem create_retry_safe [Nonempty ι] (hc : Contest p calls db₀) {w : List ι}
    (hw : ∀ i, 3 ≤ w.count i) :
    ∃ sub winner,
      (∃ reply, ((Creation.start ι db₀).run calls w).pc winner = .done reply
        ∧ Answers sub 201 none reply)
      ∧ (∀ i ≠ winner, ∃ reply, ((Creation.start ι db₀).run calls w).pc i = .done reply
        ∧ Answers sub 409 (some "path_taken") reply)
      ∧ ((Creation.start ι db₀).run calls w).db.users.countP (fun u => u.path = p) = 1 := by
  have hstart : Contested p calls db₀ (Creation.start ι db₀) := .inl ⟨rfl, fun _ => trivial⟩
  obtain ⟨hend, hrank⟩ := hstart.run hc w
  have hzero : ∀ i, (((Creation.start ι db₀).run calls w).pc i).rank = 0 := fun i => by
    have hle := hrank i
    have h3 : ((Creation.start ι db₀).pc i).rank = 3 := rfl
    have hcount := hw i
    omega
  rcases hend with h | ⟨winner, row, -, h⟩
  · -- a request without an answer has a step left
    obtain ⟨i⟩ := ‹Nonempty ι›
    have hi := hzero i
    have hplace := h.places i
    cases hpc : ((Creation.start ι db₀).run calls w).pc i with
    | check | insert _ _ | lookup _ _ =>
        rw [hpc] at hi
        simp [CreatePc.rank] at hi
    | done _ | raised =>
        rw [hpc] at hplace
        exact hplace.elim
  · refine ⟨row.id, winner, h.answered, fun i hi => ?_, ?_⟩
    · have hz := hzero i
      have hplace := h.places i hi
      cases hpc : ((Creation.start ι db₀).run calls w).pc i with
      | check | insert _ _ | lookup _ _ =>
          rw [hpc] at hz
          simp [CreatePc.rank] at hz
      | done reply =>
          rw [hpc] at hplace
          exact ⟨reply, rfl, hplace⟩
      | raised =>
          rw [hpc] at hplace
          exact hplace.elim
    · have hnone : db₀.users.countP (fun u => u.path = p) = 0 := by
        rw [List.countP_eq_zero]
        exact fun u hu => by simpa using hc.free_users u hu
      rw [h.db, List.countP_append, hnone]
      simp [h.path]

/-- The body of a request for the path of an order. -/
def sampleOrderBody : Dict :=
  [("name", .str "Reza"), ("path", .str "order-1042"), ("max_devices", .num 2)]

lemma sampleOrderBody_valid : ValidCreate "order-1042" sampleOrderBody where
  name := ⟨"Reza", by decide +kernel, by decide⟩
  path := by decide +kernel
  durationDays := ⟨30, rfl⟩
  maxDevices := ⟨2, by decide, by rfl⟩
  note := ⟨"", rfl⟩

/-- Two requests with it. -/
def sampleOrder (first : Bool) : CreateCall where
  req := ⟨none, none, "https://panel.example/", [], "token"⟩
  data := sampleOrderBody
  now := ⟨0, by decide, by decide⟩
  uuid := if first then "a1" else "b2"
  draws := []

/-- The two requests take turns. -/
theorem create_retry_safe_sample :
    ∃ sub winner,
      (∃ reply, ((Creation.start Bool ⟨[], 1, [], [], 1, []⟩).run sampleOrder
            [true, false, true, false, true, false]).pc winner = .done reply
        ∧ Answers sub 201 none reply)
      ∧ (∀ i ≠ winner, ∃ reply, ((Creation.start Bool ⟨[], 1, [], [], 1, []⟩).run sampleOrder
            [true, false, true, false, true, false]).pc i = .done reply
        ∧ Answers sub 409 (some "path_taken") reply)
      ∧ ((Creation.start Bool ⟨[], 1, [], [], 1, []⟩).run sampleOrder
            [true, false, true, false, true, false]).db.users.countP
          (fun u => u.path = "order-1042") = 1 := by
  refine create_retry_safe ⟨by decide +kernel, rfl, fun _ => sampleOrderBody_valid,
    fun i u hu => ?_⟩ (by decide)
  exact absurd hu List.not_mem_nil

end V2raySub
