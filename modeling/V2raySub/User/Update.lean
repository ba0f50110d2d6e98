import V2raySub.User.Coherence

/-!
What `update_user` writes, for arguments of any kind.

* `IntArg`: what `int()` makes of an argument; `updateUserFields` is `update_user` on such readings,
  and `updateUserFields_reads` says that `updateUser` is the same on the values of a form.
* `applySets_nameSets`, …, `applySets_durationArgSets`: the effect of each part of the `SET` clause.
* `update_all_or_nothing`: an edit that fails **changes nothing**, and one that succeeds **changes
  the supplied columns and no others**, the expiry with a new duration and `updated_at` apart.
-/

namespace V2raySub

/-- What `int()` makes of an argument: it is left out, or read as a number, or refused with a
`TypeError` or a `ValueError`, or it raises something else, as an infinite float does. -/
inductive IntArg where
  | omitted
  | read (n : ℤ)
  | refused
  | raised
  deriving DecidableEq

/-- The number that is read, if there is one. -/
def IntArg.value : IntArg → Option ℤ
  | .read n => some n
  | _ => none

/-- The reading of a value of a form or a document. -/
def intArg : PyValue → IntArg
  | .none => .omitted
  | v => match v.toInt? with
    | none => .refused
    | some n => .read n

/-- The keyword arguments of `update_user`, the numbers as `int()` reads them. -/
structure UpdateFields where
  name : Option String
  durationDays : IntArg
  customPath : Option String
  note : Option String
  maxDevices : IntArg
  deriving DecidableEq

/-- The arguments of a form or a document, read. -/
def UpdateArgs.fields (a : UpdateArgs) : UpdateFields :=
  { name := a.name, durationDays := intArg a.durationDays, customPath := a.customPath,
    note := a.note, maxDevices := intArg a.maxDevices }

/-- Some argument is not `None`. -/
def UpdateFields.Supplied (a : UpdateFields) : Prop :=
  a.name ≠ none ∨ a.customPath ≠ none ∨ a.note ≠ none ∨ a.maxDevices ≠ .omitted
    ∨ a.durationDays ≠ .omitted

instance (a : UpdateFields) : Decidable a.Supplied := by
  unfold UpdateFields.Supplied
  infer_instance

/-- The checks and the `SET` of `max_devices`. -/
def maxDevicesArgSets : IntArg → Except String (List Assign)
  | .omitted => .ok []
  | .refused => .error "حداکثر دستگاه باید عدد باشد"
  | .raised => .error msgUpdateError
  | .read n => if n < 0 then .error msgDevicesNegative else .ok [.maxDevices n]

/-- The checks and the `SET`s of `duration_days`. -/
def durationArgSets (user : Clock) : IntArg → Except String (List Assign)
  | .omitted => .ok []
  | .refused => .error msgDaysNotInt
  | .raised => .error msgUpdateError
  | .read newDays =>
    if newDays < 0 then .error msgDaysNegative
    else if userMaxDurationDays < newDays then .error msgDaysOverMax
    else (expireSets user newDays).map (.durationDays newDays :: ·)

/-- The `SET` clause `update_user` builds from the row it read, with its parameters bound. -/
def updateFieldSets (db : Db) (userId : ℕ) (user : UserRow) (a : UpdateFields) :
    Except String (List Assign) := do
  let name ← nameSets a.name
  let path ← pathSets db userId a.customPath
  let maxDevices ← maxDevicesArgSets a.maxDevices
  let duration ← durationArgSets user.clock a.durationDays
  bindSets (name ++ path ++ noteSets a.note ++ maxDevices ++ duration)

/-- `update_user`, on arguments of any kind. -/
def updateUserFields (now : Stamp) (userId : ℕ) (a : UpdateFields) (db : Db) : Db × Reply :=
  match db.user userId with
  | none => (db, false, msgNotFound)
  | some user =>
    match updateFieldSets db userId user a with
    | .error e => (db, false, e)
    | .ok [] => (db, true, "تغییری اعمال نشد")
    | .ok sets =>
      (db.setUser userId (applySets (sets ++ [.updatedAt now])), true,
        "کاربر با موفقیت به‌روزرسانی شد.")

/-! ### The values of a form -/

lemma maxDevicesArgSets_intArg (v : PyValue) : maxDevicesArgSets (intArg v) = maxDevicesSets v := by
  cases v with
  | none => rfl
  | bool b => rfl
  | int n => rfl
  | str s =>
      simp only [intArg, maxDevicesSets]
      cases PyValue.toInt? (.str s) <;> rfl

lemma durationArgSets_intArg (c : Clock) (v : PyValue) :
    durationArgSets c (intArg v) = durationSets c v := by
  cases v with
  | none => rfl
  | bool b => rfl
  | int n => rfl
  | str s =>
      simp only [intArg, durationSets]
      cases PyValue.toInt? (.str s) <;> rfl

/-- On the values of a form or a document this is `updateUser`. -/
theorem updateUserFields_reads (now : Stamp) (i : ℕ) (a : UpdateArgs) (db : Db) :
    updateUserFields now i a.fields db = updateUser now i a db := by
  have hsets : ∀ user, updateFieldSets db i user a.fields = updateSets db i user a := by
    intro user
    rw [updateFieldSets, updateSets]
    simp only [UpdateArgs.fields, maxDevicesArgSets_intArg, durationArgSets_intArg]
  unfold updateUserFields updateUser updateUserWith
  cases db.user i with
  | none => rfl
  | some user =>
      have hsame := hsets user
      dsimp only
      generalize updateFieldSets db i user a.fields = sets at hsame ⊢
      subst hsame
      rfl

/-! ### The parts of the `SET` clause -/

section

variable {db : Db} {i : ℕ} {sets : List Assign}

lemma applySets_append (s t : List Assign) (u : UserRow) :
    applySets (s ++ t) u = applySets t (applySets s u) := List.foldl_append

lemma applySets_nameSets {name : Option String} (h : nameSets name = .ok sets) :
    (∀ u, applySets sets u = { u with name := (name.map PyText.strip).getD u.name })
      ∧ (sets = [] ↔ name = none) := by
  cases name with
  | none =>
      cases h
      exact ⟨fun _ => rfl, by simp⟩
  | some name =>
      simp only [nameSets] at h
      split_ifs at h
      cases h
      exact ⟨fun _ => rfl, by simp⟩

lemma applySets_pathSets {path : Option String} (h : pathSets db i path = .ok sets) :
    (∀ u, applySets sets u = { u with path := (path.map PyText.strip).getD u.path })
      ∧ (sets = [] ↔ path = none) := by
  cases path with
  | none =>
      cases h
      exact ⟨fun _ => rfl, by simp⟩
  | some path =>
      simp only [pathSets] at h
      split_ifs at h
      cases h
      exact ⟨fun _ => rfl, by simp⟩

lemma applySets_noteSets (note : Option String) :
    (∀ u, applySets (noteSets note) u = { u with note := note.or u.note })
      ∧ (noteSets note = [] ↔ note = none) := by
  cases note with
  | none => exact ⟨fun _ => rfl, by simp [noteSets]⟩
  | some note => exact ⟨fun _ => rfl, by simp [noteSets]⟩

lemma applySets_maxDevicesArgSets {v : IntArg} (h : maxDevicesArgSets v = .ok sets) :
    (∀ u, applySets sets u = { u with maxDevices := v.value.getD u.maxDevices })
      ∧ (sets = [] ↔ v = .omitted) := by
  cases v with
  | omitted =>
      cases h
      exact ⟨fun _ => rfl, by simp⟩
  | refused => cases h
  | raised => cases h
  | read n =>
      simp only [maxDevicesArgSets] at h
      split_ifs at h
      cases h
      exact ⟨fun _ => rfl, by simp⟩

/-- The duration, and the expiry with it: the latter only where the duration of an activated user
changes. -/
lemma applySets_durationArgSets {c : Clock} {v : IntArg} (h : durationArgSets c v = .ok sets) :
    (∀ u, ∃ e, applySets sets u
        = { u with durationDays := v.value.getD u.durationDays, expireAt := e }
      ∧ (e ≠ u.expireAt → c.activatedAt.isSome ∧ v.value.getD c.durationDays ≠ c.durationDays))
      ∧ (sets = [] ↔ v = .omitted) := by
  cases v with
  | omitted =>
      cases h
      exact ⟨fun u => ⟨u.expireAt, rfl, fun hne => absurd rfl hne⟩, by simp⟩
  | refused => cases h
  | raised => cases h
  | read n =>
      simp only [durationArgSets] at h
      split_ifs at h
      cases hs : expireSets c n with
      | error e =>
          rw [hs] at h
          cases h
      | ok s =>
          rw [hs] at h
          cases h
          refine ⟨fun u => ?_, by simp⟩
          rcases expireSets_ok hs with rfl | ⟨e, rfl, hact, hne⟩
          · exact ⟨u.expireAt, rfl, fun hne => absurd rfl hne⟩
          · exact ⟨e, rfl, fun _ => ⟨hact, hne⟩⟩

/-- The parts of the `SET` clause. -/
lemma updateFieldSets_ok {u : UserRow} {a : UpdateFields}
    (h : updateFieldSets db i u a = .ok sets) :
    ∃ n p m d, nameSets a.name = .ok n ∧ pathSets db i a.customPath = .ok p
      ∧ maxDevicesArgSets a.maxDevices = .ok m ∧ durationArgSets u.clock a.durationDays = .ok d
      ∧ sets = n ++ p ++ noteSets a.note ++ m ++ d := by
  rw [updateFieldSets] at h
  cases hn : nameSets a.name with
  | error e => rw [hn] at h; cases h
  | ok n =>
      cases hp : pathSets db i a.customPath with
      | error e => rw [hn, hp] at h; cases h
      | ok p =>
          cases hm : maxDevicesArgSets a.maxDevices with
          | error e => rw [hn, hp, hm] at h; cases h
          | ok m =>
              cases hd : durationArgSets u.clock a.durationDays with
              | error e => rw [hn, hp, hm, hd] at h; cases h
              | ok d =>
                  rw [hn, hp, hm, hd] at h
                  exact ⟨n, p, m, d, rfl, rfl, rfl, rfl, (bindSets_ok h).1⟩

end

/-! ### The row after an edit -/

/-- The row `u'` is the row `u` with the supplied fields in it, and nothing else changed. -/
structure Edited (now : Stamp) (a : UpdateFields) (u u' : UserRow) : Prop where
  name : u'.name = (a.name.map PyText.strip).getD u.name
  path : u'.path = (a.customPath.map PyText.strip).getD u.path
  note : u'.note = a.note.or u.note
  maxDevices : u'.maxDevices = a.maxDevices.value.getD u.maxDevices
  durationDays : u'.durationDays = a.durationDays.value.getD u.durationDays
  expireAt : u'.expireAt ≠ u.expireAt →
    u.activatedAt.isSome ∧ u'.durationDays ≠ u.durationDays
  updatedAt : u'.updatedAt = if a.Supplied then now else u.updatedAt
  others : u' = { u with
    name := u'.name, path := u'.path, note := u'.note, maxDevices := u'.maxDevices,
    durationDays := u'.durationDays, expireAt := u'.expireAt, updatedAt := u'.updatedAt }

/-- What the `SET` clause makes of the row it was built from, and when it is empty. -/
lemma applySets_updateFieldSets {db : Db} {i : ℕ} {u : UserRow} {a : UpdateFields}
    {sets : List Assign} (h : updateFieldSets db i u a = .ok sets) :
    (∃ e, applySets sets u
        = { u with
            name := (a.name.map PyText.strip).getD u.name
            path := (a.customPath.map PyText.strip).getD u.path
            note := a.note.or u.note
            maxDevices := a.maxDevices.value.getD u.maxDevices
            durationDays := a.durationDays.value.getD u.durationDays
            expireAt := e }
      ∧ (e ≠ u.expireAt → u.activatedAt.isSome
          ∧ a.durationDays.value.getD u.durationDays ≠ u.durationDays))
      ∧ (sets = [] ↔ ¬ a.Supplied) := by
  obtain ⟨n, p, m, d, hn, hp, hm, hd, rfl⟩ := updateFieldSets_ok h
  obtain ⟨hname, hname0⟩ := applySets_nameSets hn
  obtain ⟨hpath, hpath0⟩ := applySets_pathSets hp
  obtain ⟨hnote, hnote0⟩ := applySets_noteSets a.note
  obtain ⟨hdevices, hdevices0⟩ := applySets_maxDevicesArgSets hm
  obtain ⟨hduration, hduration0⟩ := applySets_durationArgSets hd
  constructor
  · simp only [applySets_append, hname, hpath, hnote, hdevices]
    exact hduration _
  · rw [UpdateFields.Supplied]
    simp only [List.append_eq_nil_iff, hname0, hpath0, hnote0, hdevices0, hduration0]
    tauto

/-- The row `update_user` leaves. -/
lemma edited_applySets {db : Db} {i : ℕ} {u : UserRow} {a : UpdateFields} {sets : List Assign}
    (h : updateFieldSets db i u a = .ok sets) (now : Stamp) :
    Edited now a u (if sets = [] then u else applySets (sets ++ [.updatedAt now]) u) := by
  obtain ⟨⟨e, hrow, he⟩, hnil⟩ := applySets_updateFieldSets h
  have hrow' : (if sets = [] then u else applySets (sets ++ [.updatedAt now]) u)
      = { applySets sets u with updatedAt := if a.Supplied then now else u.updatedAt } := by
    by_cases hs : sets = []
    · rw [if_pos hs, if_neg (hnil.mp hs), hs]
      rfl
    · have hsupplied : a.Supplied := by
        by_contra hnot
        exact hs (hnil.mpr hnot)
      rw [if_neg hs, if_pos hsupplied, applySets_append]
      rfl
  rw [hrow', hrow]
  exact ⟨rfl, rfl, rfl, rfl, rfl, he, rfl, rfl⟩

/-- **An edit is all or nothing.** -/
theorem update_all_or_nothing (now : Stamp) (i : ℕ) (a : UpdateFields) (db : Db) :
    ((updateUserFields now i a db).2.1 = false → (updateUserFields now i a db).1 = db)
      ∧ ((updateUserFields now i a db).2.1 = true →
        ∃ u u', db.user i = some u ∧ (updateUserFields now i a db).1.user i = some u'
          ∧ Edited now a u u'
          ∧ (∀ j, j ≠ i → (updateUserFields now i a db).1.user j = db.user j)
          ∧ (updateUserFields now i a db).1.users.map UserRow.id = db.users.map UserRow.id
          ∧ { (updateUserFields now i a db).1 with users := db.users } = db) := by
  rw [updateUserFields]
  cases hu : db.user i with
  | none => exact ⟨fun _ => rfl, fun h => by cases h⟩
  | some u =>
      dsimp only
      cases hs : updateFieldSets db i u a with
      | error e => exact ⟨fun _ => rfl, fun h => by cases h⟩
      | ok sets =>
          have hedited := edited_applySets hs now
          cases sets with
          | nil =>
              rw [if_pos rfl] at hedited
              exact ⟨fun _ => rfl, fun _ => ⟨u, u, rfl, hu, hedited, fun _ _ => rfl, rfl, rfl⟩⟩
          | cons x sets =>
              rw [if_neg (by simp)] at hedited
              dsimp only
              refine ⟨(fun h => by cases h), fun _ => ⟨u, _, rfl, ?_, hedited, ?_, ?_, rfl⟩⟩
              · rw [Db.user_setUser db i i (id_applySets _), hu]
                simp
              · intro j hj
                rw [Db.user_setUser db i j (id_applySets _)]
                simp [hj]
              · exact Rows.map_key_update (id_applySets _)

/-- One field that is refused keeps the others from being written. -/
example : updateUserFields (Stamp.day 1) 1
    { name := some "bob", durationDays := .read 90, customPath := none, note := none,
      maxDevices := .refused } sampleAdded
    = (sampleAdded, false, "حداکثر دستگاه باید عدد باشد") := by decide

end V2raySub
