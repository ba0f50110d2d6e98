import Mathlib.Logic.Relation
import V2raySub.User.Paths

/-!
What the operations of the panel write, said once.

* `RowWrite`: the kinds of change one statement, or one transaction, makes to the tables of users
  and devices, each with what the operation has checked before.
* `writes_step`: every operation of the service, every removal of devices and every setting is a
  sequence of such changes.
* `RowWrites.inv`: what each change keeps, every operation keeps.
-/

namespace V2raySub

/-- One change of the tables. -/
inductive RowWrite (db : Db) : Db → Prop where
  | addUser (row : UserRow) : pathTaken db row.path none = false → row.id = db.usersSeq →
      row.activatedAt = none →
      RowWrite db { db with users := db.users ++ [row], usersSeq := db.usersSeq + 1 }
  | deleteUser (userId : ℕ) :
      RowWrite db { db with
        userDevices := db.userDevices.filter fun d => d.userId ≠ userId
        users := db.users.filter fun u => u.id ≠ userId }
  | editUser (userId : ℕ) (p : UserRow → Bool) (f : UserRow → UserRow) :
      (∀ u, (f u).id = u.id ∧ (f u).path = u.path
        ∧ ((f u).activatedAt = none → u.activatedAt = none)) →
      RowWrite db (db.updateUsers userId p f)
  | renameUser (userId : ℕ) (path : String) (f : UserRow → UserRow) :
      pathTaken db path (some userId) = false →
      (∀ u, (f u).id = u.id ∧ (f u).path = path ∧ (f u).activatedAt = u.activatedAt) →
      RowWrite db (db.setUser userId f)
  | resetUser (userId : ℕ) (now : Stamp) :
      RowWrite db { db.setUser userId (resetRow now) with
        userDevices := db.userDevices.filter fun d => d.userId ≠ userId }
  | devices (rows : List DeviceRow) :
      (∀ d ∈ rows, ∃ d₀ ∈ db.userDevices, d.userId = d₀.userId) →
      RowWrite db { db with userDevices := rows }
  | newDevice (d : DeviceRow) :
      (∃ u ∈ db.users, u.id = d.userId ∧ u.activatedAt ≠ none) →
      RowWrite db { db with userDevices := db.userDevices ++ [d], devicesSeq := db.devicesSeq + 1 }
  | settings (rows : List (String × String)) : RowWrite db { db with settings := rows }

/-- Changes, one after the other. -/
abbrev RowWrites : Db → Db → Prop := Relation.ReflTransGen RowWrite

/-- One change. -/
lemma RowWrite.writes {db db' : Db} (h : RowWrite db db') : RowWrites db db' := .single h

/-- **The invariant rule.** -/
lemma RowWrites.inv {P : Db → Prop} (hP : ∀ db db', RowWrite db db' → P db → P db') {db db' : Db}
    (h : RowWrites db db') (hdb : P db) : P db' := by
  induction h with
  | refl => exact hdb
  | tail _ hw ih => exact hP _ _ hw ih

variable {db : Db}

/-- A change of one user that keeps his path and does not take the activation back. -/
lemma writes_setUser (userId : ℕ) {f : UserRow → UserRow}
    (hf : ∀ u, (f u).id = u.id ∧ (f u).path = u.path
      ∧ ((f u).activatedAt = none → u.activatedAt = none)) :
    RowWrites db (db.setUser userId f) :=
  (RowWrite.editUser userId _ f hf).writes

/-! ### The columns a `SET` clause leaves alone -/

/-- The assignment is not one of `path`. -/
def Assign.KeepsPath : Assign → Prop
  | .path _ => False
  | _ => True

/-- A `SET` clause without `path` leaves it alone. -/
lemma path_applySets {sets : List Assign} (h : ∀ a ∈ sets, a.KeepsPath) (u : UserRow) :
    (applySets sets u).path = u.path := by
  induction sets generalizing u with
  | nil => rfl
  | cons a sets ih =>
      obtain ⟨ha, hsets⟩ := List.forall_mem_cons.mp h
      refine (ih hsets (a.apply u)).trans ?_
      cases a with
      | path p => exact ha.elim
      | _ => rfl

/-- No `SET` clause of an update writes `activated_at`. -/
lemma activatedAt_applySets (sets : List Assign) (u : UserRow) :
    (applySets sets u).activatedAt = u.activatedAt := by
  induction sets generalizing u with
  | nil => rfl
  | cons a sets ih =>
      refine (ih (a.apply u)).trans ?_
      cases a with
      | _ => rfl

/-- A `SET` clause without `path`. -/
lemma applySets_keeps {sets : List Assign} (h : ∀ a ∈ sets, a.KeepsPath) (u : UserRow) :
    (applySets sets u).id = u.id ∧ (applySets sets u).path = u.path
      ∧ ((applySets sets u).activatedAt = none → u.activatedAt = none) :=
  ⟨id_applySets sets u, path_applySets h u, fun hn => activatedAt_applySets sets u ▸ hn⟩

/-! ### One lemma for each operation -/

/-- An insert takes a path nobody has. -/
lemma writes_insertUser (now : Stamp) (a : AddArgs) (name path : String) (n m : ℤ)
    (hfree : pathTaken db path none = false) :
    RowWrites db (insertUser now a name path n m db).1 := by
  rw [insertUser]
  split_ifs
  · exact .refl
  · exact (RowWrite.addUser (newUserRow now db.usersSeq a name path n m) hfree rfl rfl).writes

/-- The path of a new user is one that was drawn because nobody has it. -/
lemma writes_addUser {now : Stamp} {a : AddArgs} {r : Db × Reply × Option UserRow}
    (h : addUser now a db = some r) : RowWrites db r.1 := by
  have hdrawn : ∀ {name : String} {n m : ℤ}, (generateUniquePath db a.draws).map (fun path =>
      insertUser now a name path n m db) = some r → RowWrites db r.1 := by
    intro name n m h
    obtain ⟨path, hp, rfl⟩ := Option.map_eq_some_iff.mp h
    exact writes_insertUser now a name path n m (by simpa using List.find?_some hp)
  rw [addUser] at h
  dsimp only at h
  by_cases hname : PyText.strip (a.name.getD "") = ""
  · rw [if_pos hname] at h
    cases h
    exact .refl
  rw [if_neg hname] at h
  cases hd : a.durationDays.toInt? with
  | none =>
      rw [hd] at h
      cases h
      exact .refl
  | some n =>
      rw [hd] at h
      dsimp only at h
      split_ifs at h
      · cases h; exact .refl
      · cases h; exact .refl
      · cases h; exact .refl
      · split at h
        · exact hdrawn h
        · exact hdrawn h
        · split_ifs at h with hok htaken
          · cases h; exact .refl
          · cases h; exact .refl
          · cases h
            exact writes_insertUser now a _ _ n _ (by simpa using htaken)

/-- The clause of the name does not write `path`. -/
lemma keepsPath_nameSets {n : Option String} {sets : List Assign} (h : nameSets n = .ok sets) :
    ∀ a ∈ sets, a.KeepsPath := by
  cases n with
  | none =>
      cases h
      simp
  | some n =>
      simp only [nameSets] at h
      split_ifs at h
      cases h
      simp [Assign.KeepsPath]

lemma keepsPath_noteSets (n : Option String) : ∀ a ∈ noteSets n, a.KeepsPath := by
  cases n with
  | none => simp [noteSets]
  | some n => simp [noteSets, Assign.KeepsPath]

lemma keepsPath_maxDevicesSets {v : PyValue} {sets : List Assign}
    (h : maxDevicesSets v = .ok sets) : ∀ a ∈ sets, a.KeepsPath := by
  unfold maxDevicesSets at h
  split at h
  · cases h
    simp
  · split at h
    · cases h
    · split_ifs at h
      cases h
      simp [Assign.KeepsPath]

lemma keepsPath_expireSets {c : Clock} {n : ℤ} {sets : List Assign}
    (h : expireSets c n = .ok sets) : ∀ a ∈ sets, a.KeepsPath := by
  rcases expireSets_ok h with rfl | ⟨e, rfl, -⟩
  · simp
  · simp [Assign.KeepsPath]

lemma keepsPath_resumeShift {now : Stamp} {c : Clock} {sets : List Assign}
    (h : resumeShift now c = .ok sets) : ∀ a ∈ sets, a.KeepsPath := by
  unfold resumeShift at h
  split at h
  · split at h
    · cases h
    · cases h
      simp [Assign.KeepsPath]
  · cases h
    simp

lemma keepsPath_durationSets {c : Clock} {v : PyValue} {sets : List Assign}
    (h : durationSets c v = .ok sets) : ∀ a ∈ sets, a.KeepsPath := by
  rcases durationSets_ok h with ⟨-, rfl⟩ | ⟨n, s, -, -, -, hs, rfl⟩
  · simp
  · exact List.forall_mem_cons.mpr ⟨trivial, keepsPath_expireSets hs⟩

/-- The `SET` of `path`, and the check before it. -/
lemma pathSets_ok {i : ℕ} {customPath : Option String} {sets : List Assign}
    (h : pathSets db i customPath = .ok sets) :
    sets = [] ∨ ∃ path, sets = [.path path] ∧ pathTaken db path (some i) = false := by
  cases customPath with
  | none => exact .inl (Except.ok.inj h).symm
  | some customPath =>
      simp only [pathSets] at h
      split_ifs at h with hok htaken
      cases h
      exact .inr ⟨_, rfl, by simpa using htaken⟩

/-- The path a `SET` clause writes last. -/
lemma path_applySets_append {sets sets' : List Assign} {path : String}
    (h : ∀ a ∈ sets', a.KeepsPath) (u : UserRow) :
    (applySets (sets ++ .path path :: sets') u).path = path := by
  have hsplit : applySets (sets ++ .path path :: sets') u
      = applySets sets' (Assign.apply (applySets sets u) (.path path)) := by
    rw [applySets, applySets, applySets, List.foldl_append, List.foldl_cons]
  rw [hsplit, path_applySets h]
  rfl

/-- An update writes one user, and a path of his own if any. -/
lemma writes_updateUser (now : Stamp) (i : ℕ) (a : UpdateArgs) (db : Db) :
    RowWrites db (updateUser now i a db).1 := by
  rw [updateUser]
  cases db.user i with
  | none => exact .refl
  | some u =>
      rw [updateUserWith]
      cases hs : updateSets db i u a with
      | error e => exact .refl
      | ok sets =>
          cases sets with
          | nil => exact .refl
          | cons x xs =>
              obtain ⟨n, p, m, d, hn, hp, hm, hd, hall⟩ := updateSets_ok hs
              have hrest : ∀ x ∈ noteSets a.note ++ m ++ d ++ [Assign.updatedAt now],
                  x.KeepsPath := by
                simp only [List.forall_mem_append, List.forall_mem_singleton]
                exact ⟨⟨⟨keepsPath_noteSets _, keepsPath_maxDevicesSets hm⟩,
                  keepsPath_durationSets hd⟩, trivial⟩
              have heq : x :: xs ++ [Assign.updatedAt now]
                  = n ++ (p ++ (noteSets a.note ++ m ++ d ++ [Assign.updatedAt now])) := by
                rw [hall]
                simp
              dsimp only
              rw [heq]
              rcases pathSets_ok hp with rfl | ⟨path, rfl, hfree⟩
              · exact writes_setUser i (applySets_keeps (by
                  simpa using List.forall_mem_append.mpr ⟨keepsPath_nameSets hn, hrest⟩))
              · exact (RowWrite.renameUser i path _ hfree fun u => ⟨id_applySets _ u,
                  path_applySets_append hrest u, activatedAt_applySets _ u⟩).writes

/-- A renewal writes one user, and leaves his path and his activation alone. -/
lemma writes_extendUser (now : Stamp) (i : ℕ) (days : PyValue) (db : Db) :
    RowWrites db (extendUser now i days db).1 := by
  rw [extendUser]
  cases extendDays days with
  | error e => exact .refl
  | ok n =>
      dsimp only
      cases db.durationOf i with
      | none => exact .refl
      | some duration =>
          rw [extendUserWith]
          split_ifs
          · exact .refl
          · exact (RowWrite.editUser i _ (extendRow now n) fun u => ⟨rfl, rfl, id⟩).writes

/-- A user goes together with his devices. -/
lemma writes_deleteUser (i : ℕ) (db : Db) : RowWrites db (deleteUser i db).1 := by
  rw [deleteUser]
  cases db.user i with
  | none => exact .refl
  | some u => exact (RowWrite.deleteUser i).writes

lemma writes_pauseUser (now : Stamp) (i : ℕ) (db : Db) : RowWrites db (pauseUser now i db).1 := by
  rw [pauseUser]
  cases db.user i with
  | none => exact .refl
  | some u =>
      rw [pauseUserWith]
      cases u.status with
      | disabled | paused => exact .refl
      | active => exact writes_setUser i (applySets_keeps (by simp [Assign.KeepsPath]))

lemma writes_resumeUser (now : Stamp) (i : ℕ) (db : Db) : RowWrites db (resumeUser now i db).1 := by
  rw [resumeUser]
  cases db.user i with
  | none => exact .refl
  | some u =>
      rw [resumeUserWith]
      split_ifs
      · exact .refl
      · cases hr : resumeShift now u.clock with
        | error e => exact .refl
        | ok shift =>
            refine writes_setUser i (applySets_keeps ?_)
            exact List.forall_mem_append.mpr ⟨keepsPath_resumeShift hr, by simp [Assign.KeepsPath]⟩

/-- A reset takes the devices along with the activation. -/
lemma writes_resetUser (now : Stamp) (i : ℕ) (db : Db) : RowWrites db (resetUser now i db).1 := by
  rw [resetUser]
  cases db.user i with
  | none => exact .refl
  | some u => exact (RowWrite.resetUser i now).writes

/-- Switching a user on or off leaves his path and his activation alone. -/
lemma writes_setUserEnabled (now : Stamp) (i : ℕ) (enabled : Bool) (db : Db) :
    RowWrites db (setUserEnabled now i enabled db).1 := by
  rw [setUserEnabled]
  cases db.user i with
  | none => exact .refl
  | some u =>
      rw [setUserEnabledWith]
      split_ifs
      · exact writes_setUser i (applySets_keeps (by simp [Assign.KeepsPath]))
      · exact writes_setUser i (applySets_keeps (by simp [Assign.KeepsPath]))

/-! ### Serving -/

/-- The user is on record as activated. -/
def Db.Activated (db : Db) (userId : ℕ) : Prop :=
  ∃ u ∈ db.users, u.id = userId ∧ u.activatedAt ≠ none

/-- A device is only written down for a user whose plan has begun. -/
lemma writes_allowDevice (lib : NetLib) (now : Stamp) {u : UserRow} (ip ua : Option String)
    (hu : db.Activated u.id) : RowWrites db (allowDevice lib now u ip ua db).1 := by
  have hadm := allowDevice_admits lib now u ip ua db
  revert hadm
  generalize allowDevice lib now u ip ua db = r
  intro hadm
  cases hadm with
  | uncapped _ | unreadable _ | raise _ _ | refuse _ _ _ _ _ => exact .refl
  | refresh dev _ =>
      refine (RowWrite.devices _ fun d hd => ?_).writes
      obtain ⟨d₀, hd₀, rfl⟩ := Rows.mem_update hd
      refine ⟨d₀, hd₀, ?_⟩
      split_ifs
      · rfl
      · rfl
  | insert _ _ _ _ _ _ =>
      exact (RowWrite.newDevice (newDeviceRow now db.devicesSeq u.id _ _ ip ua) hu).writes

/-- A request that is served writes down what it saw. -/
lemma writes_serveRequest (lib : NetLib) (now : Stamp) (ip ua : Option String) {u : UserRow}
    (hu : db.Activated u.id) : RowWrites db (serveRequest lib now ip ua u db).1 := by
  rw [serveRequest]
  split_ifs
  · exact .refl
  · exact .refl
  · exact .refl
  · exact writes_allowDevice lib now ip ua hu

/-- The activation, and the row read after it. -/
lemma writes_activateWith (now : Stamp) {u : UserRow} (hu : ∃ v ∈ db.users, v.id = u.id
    ∧ v.activatedAt = u.activatedAt) :
    RowWrites db (activateWith now u db).1
      ∧ ∀ w ∈ (activateWith now u db).2, (activateWith now u db).1.Activated w.id := by
  rw [activateWith]
  split_ifs with ha
  · obtain ⟨v, hv, hid, hact⟩ := hu
    refine ⟨.refl, fun w hw => ?_⟩
    cases hw
    exact ⟨v, hv, hid, by rw [hact]; exact Option.isSome_iff_ne_none.mp ha⟩
  · cases activationExpiry now u.durationDays with
    | none => exact ⟨.refl, fun w hw => by cases hw⟩
    | some expire =>
        refine ⟨(RowWrite.editUser u.id _ (activateRow now expire) fun v =>
          ⟨rfl, rfl, fun h => by cases h⟩).writes, fun w hw => ?_⟩
        dsimp only at hw
        have hread := hw
        rw [Option.mem_def, Db.user_updateUsers _ _ _ _ (f := activateRow now expire)
          fun _ => rfl] at hread
        obtain ⟨v, hv, rfl⟩ := Option.map_eq_some_iff.mp hread
        refine ⟨_, Rows.get_mem hw, rfl, ?_⟩
        split_ifs with hc
        · simp [activateRow]
        · simpa using hc

/-- A whole request: the plan begins before a device is written down. -/
lemma writes_resolveUserRequest (lib : NetLib) (now : Stamp) (p : String) (ip ua : Option String)
    (db : Db) : RowWrites db (resolveUserRequest lib now p ip ua db).1 := by
  rw [resolveUserRequest]
  cases hp : db.userByPath p with
  | none => exact .refl
  | some u =>
      have hcontact : RowWrites db (db.setUser u.id (contactRow now ip ua)) :=
        writes_setUser u.id fun v => ⟨rfl, rfl, id⟩
      have hu : ∃ v ∈ (db.setUser u.id (contactRow now ip ua)).users, v.id = u.id
          ∧ v.activatedAt = u.activatedAt := by
        refine ⟨contactRow now ip ua u, List.mem_map.mpr ⟨u, Rows.get_mem hp, ?_⟩, rfl, rfl⟩
        simp
      obtain ⟨hact, hread⟩ := writes_activateWith now hu
      rw [resolveUserRequestWith]
      dsimp only
      cases u.status with
      | disabled | paused => exact hcontact
      | active =>
          dsimp only
          rcases ha : activateWith now u (db.setUser u.id (contactRow now ip ua))
            with ⟨db', _ | w⟩
          · rw [ha] at hact
            exact hcontact.trans hact
          · rw [ha] at hact hread
            exact (hcontact.trans hact).trans (writes_serveRequest lib now ip ua (hread w rfl))

/-- **Every operation of the service** is a sequence of changes. -/
theorem writes_step (lib : NetLib) (db : Db) (e : Timed Stamp Op) :
    RowWrites db (db.step lib e) := by
  obtain ⟨now, ev⟩ := e
  cases ev with
  | addUser a =>
      simp only [Db.step]
      cases hr : addUser now a db with
      | none => exact .refl
      | some r => exact writes_addUser hr
  | updateUser i a => exact writes_updateUser now i a db
  | extendUser i days => exact writes_extendUser now i days db
  | deleteUser i => exact writes_deleteUser i db
  | pauseUser i => exact writes_pauseUser now i db
  | resumeUser i => exact writes_resumeUser now i db
  | resetUser i => exact writes_resetUser now i db
  | setUserEnabled i enabled => exact writes_setUserEnabled now i enabled db
  | resolveUserRequest p ip ua => exact writes_resolveUserRequest lib now p ip ua db

/-- Devices go. -/
lemma writes_filterDevices (p : DeviceRow → Bool) (db : Db) :
    RowWrites db { db with userDevices := db.userDevices.filter p } :=
  (RowWrite.devices _ fun d hd => ⟨d, List.mem_of_mem_filter hd, rfl⟩).writes

lemma writes_resetUserDevices (i : ℕ) (db : Db) : RowWrites db (resetUserDevices i db).1 := by
  rw [resetUserDevices]
  cases db.user i with
  | none => exact .refl
  | some u => exact writes_filterDevices _ db

lemma writes_deleteUserDevice (i d : ℕ) (db : Db) : RowWrites db (deleteUserDevice i d db).1 := by
  rw [deleteUserDevice]
  dsimp only
  split_ifs
  · exact writes_filterDevices _ db
  · exact .refl

/-- The devices not seen for long go. -/
lemma writes_cleanupStaleDevices (now : Stamp) (days : ℤ) (db : Db) :
    RowWrites db (cleanupStaleDevices now days db) := by
  rw [cleanupStaleDevices]
  split
  · exact .refl
  · exact writes_filterDevices _ db

/-- A setting changes no user. -/
lemma writes_setSetting (key value : String) (db : Db) : RowWrites db (setSetting key value db) :=
  (RowWrite.settings _).writes

end V2raySub
