import V2raySub.Base.Runs
import V2raySub.User.Request

/-!
The clock of one plan, and the service as a system of such clocks.

* `Clock.step`: the machine on the five coupled columns `status`, `duration_days`,
  `activated_at`, `expire_at`, `paused_at`, with one move for each operation of the service
  that can touch them (`ClockOp`).
* `Op`, `Db.step`: the operations of the service as the events of a run, on the whole tables.
* `Db.Sound`: the primary key of `users`, kept by every operation (`Db.Sound.step`).
* `clockOf_step`: **the service simulates the machine**: whatever an operation does to the
  tables, it moves the clock of every user by the move `Op.onClock` names, and by nothing else.
-/

namespace V2raySub

/-! ### The machine -/

/-- The moves of a plan's clock. -/
inductive ClockOp where
  | fetch
  | extend (days : ℤ)
  | setDuration (days : ℤ)
  | pause
  | resume
  | reset
  | setEnabled (enabled : Bool)
  deriving DecidableEq

namespace Clock

/-- One `column = value`, on the clock columns. -/
def apply (c : Clock) : Assign → Clock
  | .durationDays v => { c with durationDays := v }
  | .expireAt v => { c with expireAt := v }
  | .status v => { c with status := v }
  | .pausedAt v => { c with pausedAt := v }
  | _ => c

/-- A `SET` clause, on the clock columns. -/
def applySets (sets : List Assign) (c : Clock) : Clock := sets.foldl apply c

/-- The clock of a user just created. -/
def fresh (durationDays : ℤ) : Clock :=
  { status := .active, durationDays := durationDays, activatedAt := none, expireAt := none,
    pausedAt := none }

/-- First use starts the clock. -/
def fetch (now : Stamp) (c : Clock) : Clock :=
  if c.status = .active ∧ c.activatedAt = none then
    match activationExpiry now c.durationDays with
    | none => c
    | some expire => { c with activatedAt := some now, expireAt := expire }
  else c

/-- `extend_user` on the clock. -/
def extend (now : Stamp) (days : ℤ) (c : Clock) : Clock :=
  if c.durationDays = 0 then c
  else { c with expireAt := extendedExpiry now days c, durationDays := c.durationDays + days }

/-- What `update_user` does to the clock for another duration. -/
def setDuration (days : ℤ) (c : Clock) : Clock :=
  match expireSets c days with
  | .error _ => c
  | .ok sets => applySets (.durationDays days :: sets) c

/-- `pause_user` on the clock. -/
def pause (now : Stamp) (c : Clock) : Clock :=
  if c.status = .active then { c with status := .paused, pausedAt := some now } else c

/-- `resume_user` on the clock. -/
def resume (now : Stamp) (c : Clock) : Clock :=
  if c.status = .paused then
    match resumeShift now c with
    | .error _ => c
    | .ok shift => applySets (shift ++ [.status .active, .pausedAt none]) c
  else c

/-- `resume`, on the strength of the columns `read` before. -/
def resumeWith (now : Stamp) (read c : Clock) : Clock :=
  if read.status = .paused then
    match resumeShift now read with
    | .error _ => c
    | .ok shift => applySets (shift ++ [.status .active, .pausedAt none]) c
  else c

/-- `setDuration` by an argument of `update_user`, on the strength of the columns `read`
before. -/
def editWith (v : PyValue) (read c : Clock) : Clock :=
  match durationSets read v with
  | .error _ => c
  | .ok sets => applySets sets c

/-- `fetch`, on the strength of the columns `read` before; the statement itself looks at
`activated_at` again. -/
def fetchWith (now : Stamp) (read c : Clock) : Clock :=
  if read.status = .active ∧ read.activatedAt = none then
    match activationExpiry now read.durationDays with
    | none => c
    | some expire =>
      if c.activatedAt = none then { c with activatedAt := some now, expireAt := expire } else c
  else c

/-- `reset_user` on the clock. -/
def reset (c : Clock) : Clock :=
  { c with activatedAt := none, expireAt := none, pausedAt := none, status := .active }

/-- `set_user_enabled` on the clock. -/
def setEnabled (enabled : Bool) (c : Clock) : Clock :=
  if enabled then { c with status := .active, pausedAt := none }
  else { c with status := .disabled }

/-- One move at the clock reading `now`. -/
def step (now : Stamp) (c : Clock) : ClockOp → Clock
  | .fetch => c.fetch now
  | .extend days => c.extend now days
  | .setDuration days => c.setDuration days
  | .pause => c.pause now
  | .resume => c.resume now
  | .reset => c.reset
  | .setEnabled enabled => c.setEnabled enabled

end Clock

/-! ### The clock columns of a row after a statement -/

/-- An assignment changes of the clock what it names. -/
@[simp] lemma clock_apply (a : Assign) (u : UserRow) : (a.apply u).clock = u.clock.apply a := by
  cases a <;> rfl

@[simp] lemma clock_applySets (sets : List Assign) (u : UserRow) :
    (applySets sets u).clock = u.clock.applySets sets := by
  induction sets generalizing u with
  | nil => rfl
  | cons a sets ih =>
      simp only [applySets, Clock.applySets, List.foldl_cons] at ih ⊢
      rw [ih, clock_apply]

/-- Assignments go from left to right. -/
lemma Clock.applySets_append (c : Clock) (s t : List Assign) :
    c.applySets (s ++ t) = (c.applySets s).applySets t := List.foldl_append

/-- No assignment changes the id. -/
@[simp] lemma id_apply (a : Assign) (u : UserRow) : (a.apply u).id = u.id := by
  cases a <;> rfl

@[simp] lemma id_applySets (sets : List Assign) (u : UserRow) :
    (applySets sets u).id = u.id := by
  induction sets generalizing u with
  | nil => rfl
  | cons a sets ih =>
      simp only [applySets, List.foldl_cons] at ih ⊢
      rw [ih, id_apply]

@[simp] lemma clock_extendRow (now : Stamp) (days : ℤ) (u : UserRow) :
    (extendRow now days u).clock
      = { u.clock with
          expireAt := extendedExpiry now days u.clock
          durationDays := u.clock.durationDays + days } := rfl

@[simp] lemma clock_resetRow (now : Stamp) (u : UserRow) :
    (resetRow now u).clock = u.clock.reset := rfl

@[simp] lemma clock_contactRow (now : Stamp) (ip ua : Option String) (u : UserRow) :
    (contactRow now ip ua u).clock = u.clock := rfl

lemma id_resetRow (now : Stamp) (u : UserRow) : (resetRow now u).id = u.id := rfl

lemma id_contactRow (now : Stamp) (ip ua : Option String) (u : UserRow) :
    (contactRow now ip ua u).id = u.id := rfl

/-! ### The service as a system -/

/-- The operations of the service. -/
inductive Op where
  | addUser (a : AddArgs)
  | updateUser (userId : ℕ) (a : UpdateArgs)
  | extendUser (userId : ℕ) (days : PyValue)
  | deleteUser (userId : ℕ)
  | pauseUser (userId : ℕ)
  | resumeUser (userId : ℕ)
  | resetUser (userId : ℕ)
  | setUserEnabled (userId : ℕ) (enabled : Bool)
  | resolveUserRequest (subPath : String) (ip userAgent : Option String)
  deriving DecidableEq

/-- The tables after an operation. -/
def Db.step (lib : NetLib) (db : Db) (e : Timed Stamp Op) : Db :=
  match e.ev with
  | .addUser a => ((addUser e.at_ a db).map Prod.fst).getD db
  | .updateUser i a => (updateUser e.at_ i a db).1
  | .extendUser i days => (extendUser e.at_ i days db).1
  | .deleteUser i => (deleteUser i db).1
  | .pauseUser i => (pauseUser e.at_ i db).1
  | .resumeUser i => (resumeUser e.at_ i db).1
  | .resetUser i => (resetUser e.at_ i db).1
  | .setUserEnabled i enabled => (setUserEnabled e.at_ i enabled db).1
  | .resolveUserRequest p ip ua => (resolveUserRequest lib e.at_ p ip ua db).1

/-- The clock columns of a user. -/
def Db.clockOf (db : Db) (i : ℕ) : Option Clock := (db.user i).map UserRow.clock

/-- The move an operation makes on the clock of the user `i`. -/
def Op.onClock (db : Db) (i : ℕ) : Op → Option ClockOp
  | .updateUser j a =>
    if j = i then
      match db.user j with
      | none => none
      | some u =>
        match updateSets db j u a with
        | .error _ => none
        | .ok _ => a.durationDays.toInt?.map .setDuration
    else none
  | .extendUser j days => if j = i then (extendDays days).toOption.map .extend else none
  | .pauseUser j => if j = i then some .pause else none
  | .resumeUser j => if j = i then some .resume else none
  | .resetUser j => if j = i then some .reset else none
  | .setUserEnabled j enabled => if j = i then some (.setEnabled enabled) else none
  | .resolveUserRequest p _ _ => if (db.userByPath p).map UserRow.id = some i then some .fetch
      else none
  | .addUser _ | .deleteUser _ => none

/-- A clock moved by an operation that may leave it alone. -/
def Clock.stepOr (now : Stamp) (c : Clock) (o : Option ClockOp) : Clock :=
  o.elim c (c.step now)

/-! ### One lemma for each operation -/

/-- A user who is not there has no clock. -/
lemma Db.clockOf_of_none {db : Db} {i : ℕ} (h : db.user i = none) : db.clockOf i = none := by
  rw [clockOf, h, Option.map_none]

lemma Db.clockOf_of_some {db : Db} {i : ℕ} {u : UserRow} (h : db.user i = some u) :
    db.clockOf i = some u.clock := by
  rw [clockOf, h, Option.map_some]

/-- The clocks `cs` are those of `db`, with the clock of the user `i` moved by `g`. -/
def MovesClock (db : Db) (i : ℕ) (g : Clock → Clock) (cs : ℕ → Option Clock) : Prop :=
  ∀ j, cs j = (db.clockOf j).map fun c => if j = i then g c else c

/-- The clock that is moved. -/
lemma MovesClock.self {db : Db} {i : ℕ} {g : Clock → Clock} {cs : ℕ → Option Clock}
    (h : MovesClock db i g cs) {c : Clock} (hc : db.clockOf i = some c) : cs i = some (g c) := by
  rw [h i, hc, Option.map_some, if_pos rfl]

/-- Nothing moves where the user does not exist. -/
lemma movesClock_of_none {db : Db} {i : ℕ} (h : db.user i = none) (g : Clock → Clock) :
    MovesClock db i g db.clockOf := by
  intro j
  by_cases hj : j = i
  · subst hj
    rw [Db.clockOf_of_none h, Option.map_none]
  · simp [hj]

/-- Nothing moves where the one clock concerned stays where it is. -/
lemma movesClock_of_fixed {db : Db} {i : ℕ} {u : UserRow} (h : db.user i = some u)
    {g : Clock → Clock} (hg : g u.clock = u.clock) : MovesClock db i g db.clockOf := by
  intro j
  by_cases hj : j = i
  · subst hj
    simp [Db.clockOf_of_some h, hg]
  · simp [hj]

/-- An update of one user that exists, seen on the clocks. -/
lemma movesClock_updateUsers {db : Db} {i : ℕ} {u : UserRow} (h : db.user i = some u)
    {p : UserRow → Bool} {f : UserRow → UserRow} {g : Clock → Clock}
    (hid : ∀ u, (f u).id = u.id) (hg : (if p u then (f u).clock else u.clock) = g u.clock) :
    MovesClock db i g (db.updateUsers i p f).clockOf := by
  intro j
  rw [Db.clockOf, Db.clockOf, Db.user_updateUsers db i j p hid]
  by_cases hj : j = i
  · subst hj
    simp only [h, true_and, if_true, Option.map_some, ← hg]
    split_ifs <;> rfl
  · simp only [hj, false_and, if_false, Option.map_map]
    rfl

/-- A change of one row moves its clock, and no other. -/
lemma movesClock_setUser {db : Db} {i : ℕ} {u : UserRow} (h : db.user i = some u)
    {f : UserRow → UserRow} {g : Clock → Clock} (hid : ∀ u, (f u).id = u.id)
    (hg : (f u).clock = g u.clock) : MovesClock db i g (db.setUser i f).clockOf :=
  movesClock_updateUsers h hid (by simpa using hg)

/-- What moves the clock to the same place is the same move. -/
lemma MovesClock.congr {db : Db} {i : ℕ} {u : UserRow} {g g' : Clock → Clock}
    {cs : ℕ → Option Clock} (h : MovesClock db i g cs) (hu : db.user i = some u)
    (hg : g u.clock = g' u.clock) : MovesClock db i g' cs := by
  intro j
  rw [h j]
  by_cases hj : j = i
  · subst hj
    simp [Db.clockOf_of_some hu, hg]
  · simp [hj]

/-- `pause_user` is a move of the clock. -/
lemma movesClock_pauseUser (now : Stamp) (i : ℕ) (db : Db) :
    MovesClock db i (Clock.pause now) (pauseUser now i db).1.clockOf := by
  unfold pauseUser pauseUserWith
  cases hu : db.user i with
  | none => exact movesClock_of_none hu _
  | some u =>
      cases hs : u.status with
      | disabled =>
            simpa [hs] using movesClock_of_fixed hu (by simp [Clock.pause, UserRow.clock, hs])
      | paused => simpa [hs] using movesClock_of_fixed hu (by simp [Clock.pause, UserRow.clock, hs])
      | active =>
          have hc : u.clock.status = .active := hs
          simp only [hs]
          refine movesClock_setUser hu (fun u => id_applySets _ u) ?_
          rw [clock_applySets, Clock.pause, if_pos hc]
          rfl

/-- `resume_user` by a row read before. -/
lemma movesClock_resumeUserWith {db : Db} {i : ℕ} {v : UserRow} (hv : db.user i = some v)
    (now : Stamp) (u : UserRow) :
    MovesClock db i (Clock.resumeWith now u.clock)
      (resumeUserWith now i (some u) db).1.clockOf := by
  rw [resumeUserWith]
  by_cases hs : u.status = .paused
  · have hc : u.clock.status = .paused := hs
    simp only [hs, ne_eq, not_true_eq_false, if_false]
    cases hr : resumeShift now u.clock with
    | error e => exact movesClock_of_fixed hv (by simp [Clock.resumeWith, hr])
    | ok shift =>
        refine movesClock_setUser hv (fun u => id_applySets _ u) ?_
        rw [clock_applySets, Clock.resumeWith, if_pos hc, hr]
        simp [Clock.applySets, Clock.apply]
  · have hc : u.clock.status ≠ .paused := hs
    simp only [ne_eq, hs, not_false_eq_true, if_true]
    exact movesClock_of_fixed hv (by simp [Clock.resumeWith, hc])

/-- `resume_user` is a move of the clock. -/
lemma movesClock_resumeUser (now : Stamp) (i : ℕ) (db : Db) :
    MovesClock db i (Clock.resume now) (resumeUser now i db).1.clockOf := by
  rw [resumeUser]
  cases hu : db.user i with
  | none => exact movesClock_of_none hu _
  | some u => exact (movesClock_resumeUserWith hu now u).congr hu rfl

/-- `reset_user` is a move of the clock. -/
lemma movesClock_resetUser (now : Stamp) (i : ℕ) (db : Db) :
    MovesClock db i Clock.reset (resetUser now i db).1.clockOf := by
  rw [resetUser]
  cases hu : db.user i with
  | none => exact movesClock_of_none hu _
  | some u => exact movesClock_setUser hu (fun _ => rfl) (clock_resetRow now u)

/-- `set_user_enabled` is a move of the clock. -/
lemma movesClock_setUserEnabled (now : Stamp) (i : ℕ) (enabled : Bool) (db : Db) :
    MovesClock db i (Clock.setEnabled enabled) (setUserEnabled now i enabled db).1.clockOf := by
  unfold setUserEnabled setUserEnabledWith
  cases hu : db.user i with
  | none => exact movesClock_of_none hu _
  | some u =>
      cases enabled with
      | true => exact movesClock_setUser hu (fun u => id_applySets _ u) (clock_applySets _ u)
      | false => exact movesClock_setUser hu (fun u => id_applySets _ u) (clock_applySets _ u)

/-- `extend_user` by a duration read before. -/
lemma movesClock_extendUserWith {db : Db} {i : ℕ} {v : UserRow} (hv : db.user i = some v)
    (now : Stamp) (days n : ℤ) :
    MovesClock db i (fun c => if n = 0 then c else c.extend now days)
      (extendUserWith now i days (some n) db).1.clockOf := by
  rw [extendUserWith]
  by_cases hn : n = 0
  · simp only [hn, if_true]
    exact movesClock_of_fixed hv rfl
  · simp only [hn, if_false]
    refine movesClock_updateUsers hv (fun _ => rfl) ?_
    by_cases h0 : v.durationDays = 0
    · have hc : v.clock.durationDays = 0 := h0
      simp [Clock.extend, hc, h0]
    · have hc : v.clock.durationDays ≠ 0 := h0
      simp [Clock.extend, hc, h0]

/-- `extend_user` is a move of the clock, if the days are accepted. -/
lemma movesClock_extendUser (now : Stamp) (i : ℕ) (days : PyValue) (db : Db) :
    MovesClock db i (·.stepOr now ((extendDays days).toOption.map .extend))
      (extendUser now i days db).1.clockOf := by
  unfold extendUser
  cases hd : extendDays days with
  | error e => exact fun j => by simp [Except.toOption, Clock.stepOr]
  | ok d =>
      cases hu : db.user i with
      | none =>
          have hdur : db.durationOf i = none := by rw [Db.durationOf, hu, Option.map_none]
          dsimp only
          rw [hdur]
          exact movesClock_of_none hu _
      | some u =>
          have hdur : db.durationOf i = some u.durationDays := by
            rw [Db.durationOf, hu, Option.map_some]
          dsimp only
          rw [hdur]
          refine (movesClock_extendUserWith hu now d u.durationDays).congr hu ?_
          show (if u.durationDays = 0 then u.clock else u.clock.extend now d)
            = u.clock.extend now d
          by_cases h0 : u.durationDays = 0
          · have hc : u.clock.durationDays = 0 := h0
            rw [if_pos h0, Clock.extend, if_pos hc]
          · rw [if_neg h0]

/-! ### Editing -/

/-- The name is not on the clock. -/
lemma clock_nameSets {n : Option String} {sets : List Assign} (h : nameSets n = .ok sets)
    (c : Clock) : c.applySets sets = c := by
  cases n with
  | none => cases h; rfl
  | some n =>
      simp only [nameSets] at h
      split_ifs at h
      cases h
      rfl

/-- The path is not on the clock. -/
lemma clock_pathSets {db : Db} {i : ℕ} {p : Option String} {sets : List Assign}
    (h : pathSets db i p = .ok sets) (c : Clock) : c.applySets sets = c := by
  cases p with
  | none => cases h; rfl
  | some p =>
      simp only [pathSets] at h
      split_ifs at h
      cases h
      rfl

/-- The note is not on the clock. -/
lemma clock_noteSets (n : Option String) (c : Clock) : c.applySets (noteSets n) = c := by
  cases n <;> rfl

/-- The device cap is not on the clock. -/
lemma clock_maxDevicesSets {v : PyValue} {sets : List Assign} (h : maxDevicesSets v = .ok sets)
    (c : Clock) : c.applySets sets = c := by
  unfold maxDevicesSets at h
  split at h
  · cases h; rfl
  · split at h
    · cases h
    · split_ifs at h
      cases h
      rfl

/-- The expiry is written at most, and only where the duration of an activated user changes. -/
lemma expireSets_ok {c : Clock} {n : ℤ} {sets : List Assign} (h : expireSets c n = .ok sets) :
    sets = [] ∨ ∃ e, sets = [.expireAt e] ∧ c.activatedAt.isSome ∧ n ≠ c.durationDays := by
  unfold expireSets at h
  split at h
  · exact .inl (Except.ok.inj h).symm
  · rename_i act ha
    have hact : c.activatedAt.isSome := Option.isSome_of_eq_some ha
    split_ifs at h with hsame
    · exact .inl (Except.ok.inj h).symm
    · exact .inr ⟨_, (Except.ok.inj h).symm, hact, hsame⟩
    · split at h
      · cases h
      · exact .inr ⟨_, (Except.ok.inj h).symm, hact, hsame⟩
    · split at h
      · exact .inl (Except.ok.inj h).symm
      · split at h
        · cases h
        · exact .inr ⟨_, (Except.ok.inj h).symm, hact, hsame⟩

/-- The duration arguments `update_user` accepts: absent, or a number of days in the range. -/
lemma durationSets_ok {c : Clock} {v : PyValue} {sets : List Assign}
    (h : durationSets c v = .ok sets) :
    (v.toInt? = none ∧ sets = [])
      ∨ ∃ n s, v.toInt? = some n ∧ 0 ≤ n ∧ n ≤ userMaxDurationDays ∧ expireSets c n = .ok s
          ∧ sets = .durationDays n :: s := by
  unfold durationSets at h
  split at h
  · cases h
    exact Or.inl ⟨rfl, rfl⟩
  · split at h
    · cases h
    · rename_i n hn
      split_ifs at h with h1 h2
      cases he : expireSets c n with
      | error e => rw [he] at h; cases h
      | ok s =>
          rw [he] at h
          cases h
          exact Or.inr ⟨n, s, hn, by omega, by omega, he, rfl⟩

/-- Binding the parameters changes nothing. -/
lemma bindSets_ok {sets sets' : List Assign} (h : bindSets sets = .ok sets') :
    sets' = sets ∧ sets.all Assign.bindable := by
  rw [bindSets] at h
  split_ifs at h with hall
  cases h
  exact ⟨rfl, hall⟩

/-- A duration that is accepted can be bound. -/
lemma bindSets_of_durationSets {c : Clock} {v : PyValue} {sets : List Assign}
    (h : durationSets c v = .ok sets) : bindSets sets = .ok sets := by
  rw [bindSets, if_pos]
  rcases durationSets_ok h with ⟨-, rfl⟩ | ⟨n, s, -, h0, hmax, hs, rfl⟩
  · rfl
  · rw [userMaxDurationDays] at hmax
    have hn : (Assign.durationDays n).bindable = true := by
      simp only [Assign.bindable, Bool.and_eq_true, decide_eq_true_eq]
      omega
    have hrest : s.all Assign.bindable = true := by
      rcases expireSets_ok hs with rfl | ⟨e, rfl, -⟩
      · rfl
      · rfl
    rw [List.all_cons, hn, hrest, Bool.true_and]

/-- The parts of the `SET` clause of `update_user`. -/
lemma updateSets_ok {db : Db} {i : ℕ} {u : UserRow} {a : UpdateArgs} {sets : List Assign}
    (h : updateSets db i u a = .ok sets) :
    ∃ n p m d, nameSets a.name = .ok n ∧ pathSets db i a.customPath = .ok p
      ∧ maxDevicesSets a.maxDevices = .ok m ∧ durationSets u.clock a.durationDays = .ok d
      ∧ sets = n ++ p ++ noteSets a.note ++ m ++ d := by
  rw [updateSets] at h
  cases hn : nameSets a.name with
  | error e => rw [hn] at h; cases h
  | ok n =>
      cases hp : pathSets db i a.customPath with
      | error e => rw [hn, hp] at h; cases h
      | ok p =>
          cases hm : maxDevicesSets a.maxDevices with
          | error e => rw [hn, hp, hm] at h; cases h
          | ok m =>
              cases hd : durationSets u.clock a.durationDays with
              | error e => rw [hn, hp, hm, hd] at h; cases h
              | ok d =>
                  rw [hn, hp, hm, hd] at h
                  exact ⟨n, p, m, d, rfl, rfl, rfl, rfl, (bindSets_ok h).1⟩

/-- On the clock columns, editing comes down to the duration. -/
lemma clock_updateSets {db : Db} {i : ℕ} {u : UserRow} {a : UpdateArgs} {sets : List Assign}
    (h : updateSets db i u a = .ok sets) (c : Clock) :
    c.applySets sets = Clock.editWith a.durationDays u.clock c := by
  obtain ⟨n, p, m, d, hn, hp, hm, hd, rfl⟩ := updateSets_ok h
  rw [Clock.applySets_append, Clock.applySets_append, Clock.applySets_append,
    Clock.applySets_append, clock_nameSets hn, clock_pathSets hp, clock_noteSets,
    clock_maxDevicesSets hm, Clock.editWith, hd]

/-- The edit of a duration by the columns as they are is `setDuration`. -/
lemma Clock.editWith_self {c : Clock} {v : PyValue} {sets : List Assign}
    (h : durationSets c v = .ok sets) (now : Stamp) :
    Clock.editWith v c c = c.stepOr now (v.toInt?.map .setDuration) := by
  rw [editWith, h]
  rcases durationSets_ok h with ⟨hv, rfl⟩ | ⟨k, s, hv, -, -, hs, rfl⟩
  · rw [hv]
    rfl
  · rw [hv]
    simp only [Option.map_some, stepOr, Option.elim_some, step, setDuration, hs]

/-- `update_user` by a row read before, all of whose arguments are accepted. -/
lemma movesClock_updateUserWith {db : Db} {i : ℕ} {v : UserRow} (hv : db.user i = some v)
    (now : Stamp) {a : UpdateArgs} {u : UserRow} {sets : List Assign}
    (hs : updateSets db i u a = .ok sets) :
    MovesClock db i (Clock.editWith a.durationDays u.clock)
      (updateUserWith now i a (some u) db).1.clockOf := by
  have hc := clock_updateSets hs v.clock
  simp only [updateUserWith, hs]
  cases sets with
  | nil => exact movesClock_of_fixed hv hc.symm
  | cons x sets =>
      refine movesClock_setUser hv (fun u => id_applySets _ u) ?_
      rw [clock_applySets, Clock.applySets_append, hc]
      rfl

/-- `update_user` is a move of the clock. -/
lemma movesClock_updateUser (now : Stamp) (i : ℕ) (a : UpdateArgs) (db : Db) :
    MovesClock db i (·.stepOr now (Op.onClock db i (.updateUser i a)))
      (updateUser now i a db).1.clockOf := by
  rw [updateUser]
  cases hu : db.user i with
  | none => exact movesClock_of_none hu _
  | some u =>
      cases hs : updateSets db i u a with
      | error e =>
          have hop : Op.onClock db i (.updateUser i a) = none := by simp [Op.onClock, hu, hs]
          rw [hop]
          simp only [updateUserWith, hs]
          exact movesClock_of_fixed hu rfl
      | ok sets =>
          have hop : Op.onClock db i (.updateUser i a)
              = a.durationDays.toInt?.map .setDuration := by simp [Op.onClock, hu, hs]
          obtain ⟨n, p, m, d, -, -, -, hd, -⟩ := updateSets_ok hs
          rw [hop]
          exact (movesClock_updateUserWith hu now hs).congr hu (Clock.editWith_self hd now)

/-! ### Serving -/

lemma Db.clockOf_congr {db db' : Db} (h : db.users = db'.users) : db.clockOf = db'.clockOf := by
  funext i
  rw [clockOf, clockOf, user, user, h]

/-- What `_allow_device` can do: the tables it leaves, and its answer. -/
inductive Admits (lib : NetLib) (now : Stamp) (u : UserRow) (ip ua : Option String) (db : Db) :
    Db × Bool → Prop where
  | uncapped : u.maxDevices ≤ 0 → Admits lib now u ip ua db (db, true)
  | unreadable : networkKey lib ip = unknownNetwork → Admits lib now u ip ua db (db, true)
  | refresh (dev : DeviceRow) :
      db.userDevices.find? (isDevice u.id (deviceFingerprint lib ip).1) = some dev →
      Admits lib now u ip ua db
        ({ db with
            userDevices := Rows.update DeviceRow.id db.userDevices dev.id (fun _ => true)
              (refreshDevice now (networkKey lib ip) ip ua) }, true)
  | raise : db.userDevices.find? (isDevice u.id (deviceFingerprint lib ip).1) = none →
      inGrace now u db = none ∨ deviceWindowCutoff now db = none →
      Admits lib now u ip ua db (db, true)
  | insert (grace : Bool) (cutoff : Stamp) :
      db.userDevices.find? (isDevice u.id (deviceFingerprint lib ip).1) = none →
      inGrace now u db = some grace → deviceWindowCutoff now db = some cutoff →
      grace = true ∨ (activeDevices db u.id cutoff : ℤ) < u.maxDevices →
      Admits lib now u ip ua db
        ({ db with
            userDevices := db.userDevices ++ [newDeviceRow now db.devicesSeq u.id
              (deviceFingerprint lib ip).1 (networkKey lib ip) ip ua]
            devicesSeq := db.devicesSeq + 1 }, true)
  | refuse (cutoff : Stamp) :
      db.userDevices.find? (isDevice u.id (deviceFingerprint lib ip).1) = none →
      inGrace now u db = some false → deviceWindowCutoff now db = some cutoff →
      u.maxDevices ≤ activeDevices db u.id cutoff →
      Admits lib now u ip ua db (db, false)

/-- What `_allow_device` answers and writes is what `Admits` lists. -/
lemma allowDevice_admits (lib : NetLib) (now : Stamp) (u : UserRow) (ip ua : Option String)
    (db : Db) : Admits lib now u ip ua db (allowDevice lib now u ip ua db) := by
  rw [allowDevice]
  split_ifs with hcap
  · exact .uncapped hcap
  · dsimp only
    split_ifs with hnet
    · exact .unreadable hnet
    · cases hf : db.userDevices.find? (isDevice u.id (deviceFingerprint lib ip).1) with
      | some dev => exact .refresh dev hf
      | none =>
          cases hg : inGrace now u db with
          | none => exact .raise hf (.inl hg)
          | some grace =>
              cases hc : deviceWindowCutoff now db with
              | none => exact .raise hf (.inr hc)
              | some cutoff =>
                  dsimp only
                  split_ifs with hfree
                  · exact .insert grace cutoff hf hg hc (by simpa using hfree)
                  · obtain ⟨rfl, hfull⟩ : grace = false ∧ u.maxDevices
                        ≤ activeDevices db u.id cutoff := by simpa using hfree
                    exact .refuse cutoff hf hg hc hfull

/-- Only `user_devices` is written. -/
lemma Admits.same {lib : NetLib} {now : Stamp} {u : UserRow} {ip ua : Option String} {db : Db}
    {r : Db × Bool} (h : Admits lib now u ip ua db r) :
    r.1.users = db.users ∧ r.1.usersSeq = db.usersSeq ∧ r.1.settings = db.settings := by
  cases h with
  | _ => exact ⟨rfl, rfl, rfl⟩

/-- The device check leaves the users alone. -/
lemma allowDevice_users (lib : NetLib) (now : Stamp) (u : UserRow) (ip ua : Option String)
    (db : Db) : (allowDevice lib now u ip ua db).1.users = db.users :=
  (allowDevice_admits lib now u ip ua db).same.1

/-- Serving leaves the other users alone. -/
lemma serveRequest_users (lib : NetLib) (now : Stamp) (ip ua : Option String) (u : UserRow)
    (db : Db) : (serveRequest lib now ip ua u db).1.users = db.users := by
  rw [serveRequest]
  split_ifs
  · rfl
  · rfl
  · rfl
  · exact allowDevice_users lib now u ip ua db

/-- The record of a contact is not on the clock. -/
lemma clockOf_contact (db : Db) (now : Stamp) (ip ua : Option String) (i : ℕ) :
    (db.setUser i (contactRow now ip ua)).clockOf = db.clockOf := by
  funext j
  rw [Db.clockOf, Db.clockOf, Db.user_setUser db i j (id_contactRow now ip ua), Option.map_map]
  congr 1
  funext u
  by_cases hj : j = i <;> simp [hj]

/-- First use, by a row read before. -/
lemma movesClock_activateWith {db : Db} {i : ℕ} {u v : UserRow} (hv : db.user i = some v)
    (hid : u.id = i) (hs : u.status = .active) (now : Stamp) :
    MovesClock db i (Clock.fetchWith now u.clock) (activateWith now u db).1.clockOf := by
  have hus : u.clock.status = .active := hs
  rw [activateWith]
  cases ha : u.activatedAt with
  | some act =>
      have hua : u.clock.activatedAt = some act := ha
      exact movesClock_of_fixed hv (by simp [Clock.fetchWith, hua])
  | none =>
      have hua : u.clock.activatedAt = none := ha
      have hud : u.clock.durationDays = u.durationDays := rfl
      simp only [Option.isSome_none, Bool.false_eq_true, if_false]
      cases he : activationExpiry now u.durationDays with
      | none => exact movesClock_of_fixed hv (by simp [Clock.fetchWith, hud, he])
      | some expire =>
          rw [hid]
          refine movesClock_updateUsers hv (fun _ => rfl) ?_
          simp only [Clock.fetchWith, hus, hua, and_self, if_true, hud, he]
          cases hva : v.activatedAt with
          | none =>
              have hva' : v.clock.activatedAt = none := hva
              rw [if_pos (by rfl), if_pos hva']
              rfl
          | some act =>
              have hva' : v.clock.activatedAt ≠ none := by
                rw [show v.clock.activatedAt = some act from hva]
                exact Option.some_ne_none act
              rw [if_neg (by simp), if_neg hva']

/-- `resolve_user_request` by a row read before. -/
lemma movesClock_resolveUserRequestWith {db : Db} {i : ℕ} {u v : UserRow}
    (hv : db.user i = some v) (hid : u.id = i) (lib : NetLib) (now : Stamp)
    (ip ua : Option String) :
    MovesClock db i (Clock.fetchWith now u.clock)
      (resolveUserRequestWith lib now ip ua (some u) db).1.clockOf := by
  have h₁ : (db.setUser i (contactRow now ip ua)).user i = some (contactRow now ip ua v) := by
    rw [Db.user_setUser db i i (id_contactRow now ip ua), hv]
    simp
  rw [resolveUserRequestWith]
  simp only [hid]
  cases hs : u.status with
  | disabled =>
      rw [clockOf_contact]
      exact movesClock_of_fixed hv (by simp [Clock.fetchWith, UserRow.clock, hs])
  | paused =>
      rw [clockOf_contact]
      exact movesClock_of_fixed hv (by simp [Clock.fetchWith, UserRow.clock, hs])
  | active =>
      have hm := movesClock_activateWith h₁ hid hs now
      simp only [MovesClock, clockOf_contact] at hm
      rcases ha : activateWith now u (db.setUser i (contactRow now ip ua)) with ⟨db', _ | w⟩
      · rw [ha] at hm
        exact hm
      · rw [ha] at hm
        intro j
        rw [Db.clockOf_congr (serveRequest_users lib now ip ua w db')]
        exact hm j

lemma Clock.fetchWith_self (now : Stamp) (c : Clock) : fetchWith now c c = c.fetch now := by
  rw [fetchWith, fetch]
  by_cases h : c.status = .active ∧ c.activatedAt = none
  · simp only [h.2, if_true]
  · simp only [h, if_false]

/-! ### Sound tables -/

/-- The primary key of `users`: not repeated, and below the next id to hand out. -/
structure Db.Sound (db : Db) : Prop where
  keyed : Rows.Keyed UserRow.id db.users
  fresh : ∀ u ∈ db.users, u.id < db.usersSeq

lemma Db.Sound.user_of_mem {db : Db} (h : db.Sound) {u : UserRow} (hu : u ∈ db.users) :
    db.user u.id = some u := h.keyed.get_of_mem hu

lemma Db.Sound.user_of_path {db : Db} (h : db.Sound) {p : String} {u : UserRow}
    (hp : db.userByPath p = some u) : db.user u.id = some u := h.user_of_mem (Rows.get_mem hp)

/-- Tables with the users and the sequence of sound ones. -/
lemma Db.Sound.congr {db db' : Db} (h : db.Sound) (hu : db'.users = db.users)
    (hs : db'.usersSeq = db.usersSeq) : db'.Sound := by
  refine ⟨?_, ?_⟩
  · rw [hu]
    exact h.keyed
  · rw [hu, hs]
    exact h.fresh

/-- An update that keeps the ids keeps the tables sound. -/
lemma Db.Sound.updateUsers {db : Db} (h : db.Sound) (i : ℕ) (p : UserRow → Bool)
    {f : UserRow → UserRow} (hf : ∀ u, (f u).id = u.id) : (db.updateUsers i p f).Sound := by
  refine ⟨h.keyed.update hf, Rows.forall_mem_update h.fresh fun u hu _ _ => ?_⟩
  rw [hf]
  exact h.fresh u hu

lemma Db.Sound.setUser {db : Db} (h : db.Sound) (i : ℕ) {f : UserRow → UserRow}
    (hf : ∀ u, (f u).id = u.id) : (db.setUser i f).Sound := h.updateUsers i _ hf

lemma Db.Sound.activateWith {db : Db} (h : db.Sound) (now : Stamp) (u : UserRow) :
    (activateWith now u db).1.Sound := by
  rw [V2raySub.activateWith]
  split_ifs
  · exact h
  · split
    · exact h
    · exact h.updateUsers _ _ fun _ => rfl

lemma Db.Sound.serveRequest {db : Db} (h : db.Sound) (lib : NetLib) (now : Stamp)
    (ip ua : Option String) (u : UserRow) : (serveRequest lib now ip ua u db).1.Sound := by
  refine h.congr (serveRequest_users lib now ip ua u db) ?_
  rw [V2raySub.serveRequest]
  split_ifs
  · rfl
  · rfl
  · rfl
  · exact (allowDevice_admits lib now u ip ua db).same.2.1

lemma Db.Sound.resolveUserRequestWith {db : Db} (h : db.Sound) (lib : NetLib) (now : Stamp)
    (ip ua : Option String) (row : Option UserRow) :
    (resolveUserRequestWith lib now ip ua row db).1.Sound := by
  unfold V2raySub.resolveUserRequestWith
  cases row with
  | none => exact h
  | some u =>
      have h₁ := h.setUser u.id (id_contactRow now ip ua)
      dsimp only
      cases u.status with
      | disabled => exact h₁
      | paused => exact h₁
      | active =>
          have h₂ := h₁.activateWith now u
          rcases ha : V2raySub.activateWith now u (db.setUser u.id (contactRow now ip ua))
            with ⟨db', _ | v⟩
          · rw [ha] at h₂
            exact h₂
          · rw [ha] at h₂
            exact h₂.serveRequest lib now ip ua v

/-- One more user, active and with its clock not started, under the next id. -/
def InsertsUser (db db' : Db) : Prop :=
  ∃ row, db' = { db with users := db.users ++ [row], usersSeq := db.usersSeq + 1 }
    ∧ row.id = db.usersSeq ∧ ∃ n, 0 ≤ n ∧ n ≤ userMaxDurationDays ∧ row.clock = Clock.fresh n

/-- The `INSERT` goes through, or nothing changes. -/
lemma insertUser_cases (now : Stamp) (a : AddArgs) (name path : String) {n : ℤ} (m : ℤ)
    (db : Db) (h0 : 0 ≤ n) (h1 : n ≤ userMaxDurationDays) :
    (insertUser now a name path n m db).1 = db
      ∨ InsertsUser db (insertUser now a name path n m db).1 := by
  rw [insertUser]
  split_ifs
  · exact Or.inl rfl
  · exact Or.inr ⟨_, rfl, rfl, n, h0, h1, rfl⟩

/-- `add_user` inserts one user or nothing. -/
lemma addUser_cases {now : Stamp} {a : AddArgs} {db : Db} {r : Db × Reply × Option UserRow}
    (h : addUser now a db = some r) : r.1 = db ∨ InsertsUser db r.1 := by
  rw [addUser] at h
  dsimp only at h
  by_cases hn : PyText.strip (a.name.getD "") = ""
  · rw [if_pos hn] at h
    cases h
    exact Or.inl rfl
  rw [if_neg hn] at h
  cases hd : a.durationDays.toInt? with
  | none =>
      rw [hd] at h
      cases h
      exact Or.inl rfl
  | some n =>
      rw [hd] at h
      dsimp only at h
      split_ifs at h with h0 h1 h2
      · cases h; exact Or.inl rfl
      · cases h; exact Or.inl rfl
      · cases h; exact Or.inl rfl
      · split at h
        · obtain ⟨path, -, rfl⟩ := Option.map_eq_some_iff.mp h
          exact insertUser_cases now a _ path _ db (by omega) (by omega)
        · obtain ⟨path, -, rfl⟩ := Option.map_eq_some_iff.mp h
          exact insertUser_cases now a _ path _ db (by omega) (by omega)
        · split_ifs at h
          · cases h; exact Or.inl rfl
          · cases h; exact Or.inl rfl
          · cases h
            exact insertUser_cases now a _ _ _ db (by omega) (by omega)

/-- One more user under the next id. -/
lemma Db.Sound.append {db : Db} (h : db.Sound) {row : UserRow} (hid : row.id = db.usersSeq) :
    Db.Sound { db with users := db.users ++ [row], usersSeq := db.usersSeq + 1 } := by
  refine ⟨h.keyed.insert fun u hu => ?_, fun u hu => ?_⟩
  · have := h.fresh u hu
    omega
  · rcases List.mem_append.mp hu with hu | hu
    · exact Nat.lt_succ_of_lt (h.fresh u hu)
    · rw [List.mem_singleton.mp hu, hid]
      exact Nat.lt_succ_self _

lemma Db.Sound.insert {db db' : Db} (h : db.Sound) (h' : InsertsUser db db') : db'.Sound := by
  obtain ⟨row, rfl, hid, -⟩ := h'
  exact h.append hid

lemma Db.Sound.deleteUser {db : Db} (h : db.Sound) (i : ℕ) : (deleteUser i db).1.Sound := by
  rw [V2raySub.deleteUser]
  cases db.user i with
  | none => exact h
  | some u =>
      refine ⟨?_, fun v hv => h.fresh v (List.mem_of_mem_filter hv)⟩
      exact List.Nodup.sublist (List.filter_sublist.map _) h.keyed

lemma Db.Sound.extendUserWith {db : Db} (h : db.Sound) (now : Stamp) (i : ℕ) (days : ℤ)
    (row : Option ℤ) : (extendUserWith now i days row db).1.Sound := by
  unfold V2raySub.extendUserWith
  cases row with
  | none => exact h
  | some n =>
      dsimp only
      split_ifs
      · exact h
      · exact h.updateUsers i _ fun _ => rfl
      · exact h.updateUsers i _ fun _ => rfl

lemma Db.Sound.updateUserWith {db : Db} (h : db.Sound) (now : Stamp) (i : ℕ) (a : UpdateArgs)
    (row : Option UserRow) : (updateUserWith now i a row db).1.Sound := by
  unfold V2raySub.updateUserWith
  cases row with
  | none => exact h
  | some u =>
      dsimp only
      split
      · exact h
      · exact h
      · exact h.setUser i fun u => id_applySets _ u

lemma Db.Sound.resumeUserWith {db : Db} (h : db.Sound) (now : Stamp) (i : ℕ)
    (row : Option UserRow) : (resumeUserWith now i row db).1.Sound := by
  unfold V2raySub.resumeUserWith
  cases row with
  | none => exact h
  | some u =>
      dsimp only
      split_ifs
      · exact h
      · split
        · exact h
        · exact h.setUser i fun u => id_applySets _ u

/-- **Every operation keeps the tables sound.** -/
theorem Db.Sound.step {db : Db} (h : db.Sound) (lib : NetLib) (e : Timed Stamp Op) :
    (db.step lib e).Sound := by
  obtain ⟨now, ev⟩ := e
  rw [Db.step]
  cases ev with
  | addUser a =>
      cases hr : addUser now a db with
      | none => simpa [hr] using h
      | some r =>
          simp only [hr, Option.map_some, Option.getD_some]
          rcases addUser_cases hr with h' | h'
          · rwa [h']
          · exact h.insert h'
  | updateUser i a => exact h.updateUserWith now i a _
  | extendUser i days =>
      simp only [extendUser]
      cases extendDays days with
      | error e => exact h
      | ok d => exact h.extendUserWith now i d _
  | deleteUser i => exact h.deleteUser i
  | pauseUser i =>
      simp only [pauseUser, pauseUserWith]
      cases db.user i with
      | none => exact h
      | some u =>
          dsimp only
          split
          · exact h
          · exact h
          · exact h.setUser i fun u => id_applySets _ u
  | resumeUser i => exact h.resumeUserWith now i _
  | resetUser i =>
      simp only [resetUser]
      cases db.user i with
      | none => exact h
      | some u => exact (h.setUser i (id_resetRow now)).congr rfl rfl
  | setUserEnabled i enabled =>
      simp only [setUserEnabled, setUserEnabledWith]
      cases db.user i with
      | none => exact h
      | some u =>
          dsimp only
          split_ifs
          · exact h.setUser i fun u => id_applySets _ u
          · exact h.setUser i fun u => id_applySets _ u
  | resolveUserRequest p ip ua => exact h.resolveUserRequestWith lib now ip ua _

/-! ### The simulation -/

/-- The clock columns of any user, read off an operation on one of them. -/
lemma MovesClock.stepOr {db : Db} {j : ℕ} {now : Stamp} {o : Option ClockOp}
    {cs : ℕ → Option Clock} (h : MovesClock db j (·.stepOr now o) cs) (i : ℕ) :
    cs i = (db.clockOf i).map (·.stepOr now (if j = i then o else none)) := by
  rw [h i]
  congr 1
  funext c
  by_cases hij : j = i
  · simp [hij]
  · simp [hij, Ne.symm hij, Clock.stepOr]

/-- A fetch is a move of the clock of the user whose link it is. -/
lemma clockOf_resolveUserRequest {db : Db} (h : db.Sound) (lib : NetLib) (now : Stamp)
    (p : String) (ip ua : Option String) (i : ℕ) :
    (resolveUserRequest lib now p ip ua db).1.clockOf i
      = (db.clockOf i).map (·.stepOr now (Op.onClock db i (.resolveUserRequest p ip ua))) := by
  rw [resolveUserRequest]
  cases hp : db.userByPath p with
  | none =>
      simp only [resolveUserRequestWith, Op.onClock, hp, Option.map_none]
      simp [Clock.stepOr]
  | some u =>
      have hu := h.user_of_path hp
      have hm := (movesClock_resolveUserRequestWith hu rfl lib now ip ua).congr hu
        (Clock.fetchWith_self now u.clock)
      have hi := MovesClock.stepOr (o := some .fetch) hm i
      rw [hi]
      simp [Op.onClock, hp]

/-- A new user changes no clock. -/
lemma clockOf_addUser {db : Db} (lib : NetLib) (now : Stamp) (a : AddArgs) {i : ℕ} {c : Clock}
    (hc : db.clockOf i = some c) : (db.step lib ⟨now, .addUser a⟩).clockOf i = some c := by
  simp only [Db.step]
  cases hr : addUser now a db with
  | none => simpa using hc
  | some r =>
      simp only [Option.map_some, Option.getD_some]
      rcases addUser_cases hr with h' | ⟨row, h', -, -⟩
      · rwa [h']
      · obtain ⟨u, hu, rfl⟩ := Option.map_eq_some_iff.mp hc
        have hfind : (db.users ++ [row]).find? (fun r => decide (r.id = i)) = some u := by
          simp only [Db.user, Rows.get] at hu
          rw [List.find?_append, hu]
          rfl
        rw [h', Db.clockOf, Db.user, Rows.get, hfind]
        rfl

lemma clockOf_deleteUser_of_ne {db : Db} {i j : ℕ} (hj : i ≠ j) :
    (deleteUser j db).1.clockOf i = db.clockOf i := by
  rw [deleteUser]
  cases db.user j with
  | none => rfl
  | some u =>
      rw [Db.clockOf, Db.clockOf, Db.user, Db.user, Rows.get, Rows.get, List.find?_filter]
      congr 2
      funext v
      by_cases hv : v.id = i <;> simp [hv, hj]

/-- A user who is deleted has no clock. -/
lemma clockOf_deleteUser_self (db : Db) (i : ℕ) : (deleteUser i db).1.clockOf i = none := by
  rw [deleteUser]
  cases hu : db.user i with
  | none => exact Db.clockOf_of_none hu
  | some u =>
      refine Db.clockOf_of_none ?_
      rw [Db.user, Rows.get, List.find?_filter, List.find?_eq_none]
      intro v _
      simp

/-- The operations that neither make nor remove a user move the clock of each by the move they
name, and leave it alone if they name none. -/
lemma clockOf_step_eq_map {db : Db} (h : db.Sound) (lib : NetLib) (e : Timed Stamp Op) (i : ℕ)
    (hadd : ∀ a, e.ev ≠ .addUser a) (hdel : ∀ j, e.ev ≠ .deleteUser j) :
    (db.step lib e).clockOf i = (db.clockOf i).map (·.stepOr e.at_ (e.ev.onClock db i)) := by
  obtain ⟨now, ev⟩ := e
  cases ev with
  | addUser a => exact absurd rfl (hadd a)
  | deleteUser j => exact absurd rfl (hdel j)
  | updateUser j a =>
      have hm := (movesClock_updateUser now j a db).stepOr i
      refine hm.trans ?_
      by_cases hj : j = i
      · subst hj
        simp
      · simp [Op.onClock, hj]
  | extendUser j days =>
      exact (movesClock_extendUser now j days db).stepOr i
  | pauseUser j => exact MovesClock.stepOr (o := some .pause) (movesClock_pauseUser now j db) i
  | resumeUser j => exact MovesClock.stepOr (o := some .resume) (movesClock_resumeUser now j db) i
  | resetUser j => exact MovesClock.stepOr (o := some .reset) (movesClock_resetUser now j db) i
  | setUserEnabled j enabled =>
      exact MovesClock.stepOr (o := some (.setEnabled enabled))
        (movesClock_setUserEnabled now j enabled db) i
  | resolveUserRequest p ip ua => exact clockOf_resolveUserRequest h lib now p ip ua i

/-- **The service simulates the machine**: an operation other than the deletion of the user
moves his clock by the move it names, and leaves it alone if it names none. -/
theorem clockOf_step {db : Db} (h : db.Sound) (lib : NetLib) (e : Timed Stamp Op) {i : ℕ}
    {c : Clock} (hc : db.clockOf i = some c) (hdel : e.ev ≠ .deleteUser i) :
    (db.step lib e).clockOf i = some (c.stepOr e.at_ (e.ev.onClock db i)) := by
  by_cases hadd : ∃ a, e.ev = .addUser a
  · obtain ⟨now, ev⟩ := e
    obtain ⟨a, rfl⟩ := hadd
    exact clockOf_addUser lib now a hc
  by_cases hd : ∃ j, e.ev = .deleteUser j
  · obtain ⟨now, ev⟩ := e
    obtain ⟨j, rfl⟩ := hd
    have hij : i ≠ j := fun hij => hdel (by rw [hij])
    exact (clockOf_deleteUser_of_ne hij).trans hc
  · rw [clockOf_step_eq_map h lib e i (fun a ha => hadd ⟨a, ha⟩) fun j hj => hd ⟨j, hj⟩, hc]
    rfl

/-- The clocks after an operation: moved from the ones before, or that of a new user. -/
theorem clockOf_step_cases {db : Db} (h : db.Sound) (lib : NetLib) (e : Timed Stamp Op) {i : ℕ}
    {c' : Clock} (hc' : (db.step lib e).clockOf i = some c') :
    (∃ c, db.clockOf i = some c ∧ c' = c.stepOr e.at_ (e.ev.onClock db i))
      ∨ ∃ n, 0 ≤ n ∧ n ≤ userMaxDurationDays ∧ c' = Clock.fresh n := by
  cases hc : db.clockOf i with
  | some c =>
      refine Or.inl ⟨c, rfl, ?_⟩
      by_cases hdel : e.ev = .deleteUser i
      · obtain ⟨now, ev⟩ := e
        obtain rfl : ev = .deleteUser i := hdel
        have hn : (db.step lib ⟨now, .deleteUser i⟩).clockOf i = none :=
          clockOf_deleteUser_self db i
        rw [hn] at hc'
        cases hc'
      · rw [clockOf_step h lib e hc hdel] at hc'
        exact (Option.some.inj hc').symm
  | none =>
      right
      by_cases hadd : ∃ a, e.ev = .addUser a
      · obtain ⟨now, ev⟩ := e
        obtain ⟨a, rfl⟩ := hadd
        simp only [Db.step] at hc'
        cases hr : addUser now a db with
        | none => simp [hr, hc] at hc'
        | some r =>
            simp only [hr, Option.map_some, Option.getD_some] at hc'
            rcases addUser_cases hr with h' | ⟨row, h', -, n, h0, h1, hrow⟩
            · rw [h', hc] at hc'
              cases hc'
            · refine ⟨n, h0, h1, ?_⟩
              have hu : db.users.find? (fun r => decide (r.id = i)) = none := by
                simpa [Db.clockOf, Db.user, Rows.get] using hc
              rw [h', Db.clockOf, Db.user, Rows.get, List.find?_append, hu, Option.none_or,
                List.find?_singleton] at hc'
              split_ifs at hc'
              · exact (Option.some.inj hc').symm.trans hrow
              · cases hc'
      by_cases hd : ∃ j, e.ev = .deleteUser j
      · obtain ⟨now, ev⟩ := e
        obtain ⟨j, rfl⟩ := hd
        by_cases hij : i = j
        · subst hij
          have hn : (db.step lib ⟨now, .deleteUser i⟩).clockOf i = none :=
            clockOf_deleteUser_self db i
          rw [hn] at hc'
          cases hc'
        · have hn : (db.step lib ⟨now, .deleteUser j⟩).clockOf i = db.clockOf i :=
            clockOf_deleteUser_of_ne hij
          rw [hn, hc] at hc'
          cases hc'
      · rw [clockOf_step_eq_map h lib e i (fun a ha => hadd ⟨a, ha⟩) fun j hj => hd ⟨j, hj⟩,
          hc] at hc'
        cases hc'

/-- What an operation can do to the clock of the user `i`, and when. -/
inductive OnClock (db : Db) (i : ℕ) : Op → ClockOp → Prop where
  | fetch {p : String} {u : UserRow} (ip ua : Option String) :
      db.userByPath p = some u → u.id = i → OnClock db i (.resolveUserRequest p ip ua) .fetch
  | extend {days : PyValue} {d : ℤ} :
      extendDays days = .ok d → OnClock db i (.extendUser i days) (.extend d)
  | setDuration {a : UpdateArgs} {n : ℤ} :
      a.durationDays.toInt? = some n → 0 ≤ n → n ≤ userMaxDurationDays →
        OnClock db i (.updateUser i a) (.setDuration n)
  | pause : OnClock db i (.pauseUser i) .pause
  | resume : OnClock db i (.resumeUser i) .resume
  | reset : OnClock db i (.resetUser i) .reset
  | setEnabled (enabled : Bool) : OnClock db i (.setUserEnabled i enabled) (.setEnabled enabled)

/-- The operations that are moves of a clock. -/
lemma onClock_cases {db : Db} {i : ℕ} {o : Op} {op : ClockOp}
    (h : o.onClock db i = some op) : OnClock db i o op := by
  cases o with
  | addUser a => cases h
  | deleteUser j => cases h
  | updateUser j a =>
      simp only [Op.onClock] at h
      split_ifs at h with hj
      subst hj
      split at h
      · cases h
      · split at h
        · cases h
        · rename_i sets hs
          obtain ⟨n, p, m, d, -, -, -, hd, -⟩ := updateSets_ok hs
          obtain ⟨k, hk, rfl⟩ := Option.map_eq_some_iff.mp h
          rcases durationSets_ok hd with ⟨hv, -⟩ | ⟨k', s, hv, hk0, hk1, -⟩
          · rw [hv] at hk
            cases hk
          · rw [hv] at hk
            cases hk
            exact .setDuration hv hk0 hk1
  | extendUser j days =>
      simp only [Op.onClock] at h
      split_ifs at h with hj
      subst hj
      cases hd : extendDays days with
      | error e => simp [hd, Except.toOption] at h
      | ok d =>
          simp only [hd, Except.toOption, Option.map_some, Option.some.injEq] at h
          subst h
          exact .extend hd
  | pauseUser j =>
      simp only [Op.onClock] at h
      split_ifs at h with hj
      subst hj
      cases h
      exact .pause
  | resumeUser j =>
      simp only [Op.onClock] at h
      split_ifs at h with hj
      subst hj
      cases h
      exact .resume
  | resetUser j =>
      simp only [Op.onClock] at h
      split_ifs at h with hj
      subst hj
      cases h
      exact .reset
  | setUserEnabled j enabled =>
      simp only [Op.onClock] at h
      split_ifs at h with hj
      subst hj
      cases h
      exact .setEnabled enabled
  | resolveUserRequest p ip ua =>
      simp only [Op.onClock] at h
      split_ifs at h with hp
      obtain ⟨u, hu, hi⟩ := Option.map_eq_some_iff.mp hp
      cases h
      exact .fetch ip ua hu hi

/-- The days `extend_user` accepts. -/
lemma extendDays_ok {v : PyValue} {d : ℤ} (h : extendDays v = .ok d) :
    v.toInt? = some d ∧ 0 < d ∧ d ≤ userMaxDurationDays := by
  rw [extendDays] at h
  split at h
  · cases h
  · rename_i n hn
    split_ifs at h with h0 h1
    cases h
    exact ⟨hn, by omega, by omega⟩

end V2raySub
