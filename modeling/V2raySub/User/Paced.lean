import V2raySub.Base.Pace
import V2raySub.Client.Entitled
import V2raySub.User.Devices

/-!
The pace at which `_allow_device` takes new devices.

* `Admits.visit`, `visit_fetch`: every fetch is a visit to the device rows of a user, in the sense
  of a rolling window of `device_window_days`.
* `not_limited_of_known`: a network that is on record is never answered `device_limit`.
* `new_devices_paced`: over every run of fetches, **the devices first seen over any interval of the
  length of the window are within the cap**.
-/

namespace V2raySub

/-- The device rows of a user. -/
def Db.devicesOf (i : ℕ) (db : Db) : List DeviceRow :=
  db.userDevices.filter fun d => d.userId = i

/-- The second a device was first seen. -/
def firstSecs (d : DeviceRow) : ℤ := d.firstSeen.secs

/-- The second a device was last seen. -/
def seenSecs (d : DeviceRow) : ℤ := d.lastSeen.secs

/-- The devices of the user `i` keep the pace of `m` over so many days. -/
def Db.Paced (i : ℕ) (m days : ℤ) (t : Stamp) (db : Db) : Prop :=
  Pace.Paced firstSecs seenSecs m.toNat (days * daySecs) t.secs (db.devicesOf i)

variable {lib : NetLib} {now : Stamp} {ip ua : Option String} {db : Db} {i : ℕ} {m : ℤ}

lemma Db.devicesOf_congr {db' : Db} (h : db'.userDevices = db.userDevices) :
    db'.devicesOf i = db.devicesOf i := by
  rw [Db.devicesOf, Db.devicesOf, h]

lemma activeDevices_eq_used (db : Db) (i : ℕ) (cutoff : Stamp) :
    activeDevices db i cutoff = Pace.used seenSecs cutoff.secs (db.devicesOf i) := by
  rw [activeDevices, Pace.used, Db.devicesOf, List.countP_filter]
  congr 1
  funext d
  rw [seenSecs, Bool.and_comm]

/-- A refreshed device is seen now, and keeps the date it was first seen. -/
lemma devicesOf_refresh (db : Db) (i k : ℕ) (now : Stamp) (net : String)
    (ip ua : Option String) :
    Db.devicesOf i
        { db with
          userDevices := Rows.update DeviceRow.id db.userDevices k (fun _ => true)
            (refreshDevice now net ip ua) }
      = (db.devicesOf i).map fun d => if d.id = k then refreshDevice now net ip ua d else d := by
  have hpred : ((fun d : DeviceRow => decide (d.userId = i)) ∘ fun d =>
      if d.id = k ∧ (true : Bool) then refreshDevice now net ip ua d else d)
        = fun d => decide (d.userId = i) := by
    funext d
    rw [Function.comp_apply]
    split_ifs
    · rfl
    · rfl
  rw [Db.devicesOf, Rows.update, List.filter_map, hpred, Db.devicesOf]
  refine List.map_congr_left fun d _ => ?_
  simp only [and_true]

/-- `_allow_device` pays the devices of every user a visit. -/
lemma Admits.visit {v : UserRow} (hv : v.id = i → v.maxDevices = m)
    (hg : deviceGraceHours db ≤ 0) {r : Db × Bool} (h : Admits lib now v ip ua db r) :
    Pace.Visit firstSecs seenSecs m.toNat (deviceWindowDays db * daySecs) now.secs
      (db.devicesOf i) (r.1.devicesOf i) := by
  cases h with
  | uncapped h => exact .stay
  | unreadable h => exact .stay
  | raise h => exact .stay
  | refuse cutoff h => exact .stay
  | refresh dev h =>
      rw [devicesOf_refresh]
      refine .touch _ (fun d => ?_) fun d => ?_
      · split_ifs
        · rfl
        · rfl
      · split_ifs
        · exact .inr rfl
        · exact .inl rfl
  | insert grace cutoff hnew hgr hc hfree =>
      have hgrace : inGrace now v db = some false := by rw [inGrace, if_neg (by omega)]
      rw [hgrace, Option.some.injEq] at hgr
      have hlt : (activeDevices db v.id cutoff : ℤ) < v.maxDevices :=
        hfree.resolve_left (by simp [← hgr])
      have hcut : cutoff.secs = now.secs - deviceWindowDays db * daySecs :=
        (Stamp.add?_eq_some_iff.mp hc).trans (by omega)
      by_cases hi : v.id = i
      · have hone : Db.devicesOf i
            { db with
              userDevices := db.userDevices ++ [newDeviceRow now db.devicesSeq v.id
                (deviceFingerprint lib ip).1 (networkKey lib ip) ip ua]
              devicesSeq := db.devicesSeq + 1 }
            = db.devicesOf i ++ [newDeviceRow now db.devicesSeq v.id
                (deviceFingerprint lib ip).1 (networkKey lib ip) ip ua] := by
          simp [Db.devicesOf, List.filter_append, newDeviceRow, hi]
        rw [hone]
        refine .enter _ rfl rfl ?_
        rw [activeDevices_eq_used, hi, hcut, hv hi] at hlt
        omega
      · have hnone : Db.devicesOf i
            { db with
              userDevices := db.userDevices ++ [newDeviceRow now db.devicesSeq v.id
                (deviceFingerprint lib ip).1 (networkKey lib ip) ip ua]
              devicesSeq := db.devicesSeq + 1 }
            = db.devicesOf i := by
          simp [Db.devicesOf, List.filter_append, newDeviceRow, hi]
        rw [hnone]
        exact .stay

/-- **Every fetch** of any user's link is a visit to the devices of every user. -/
lemma visit_fetch (lib : NetLib) (now : Stamp) (p : String) (ip ua : Option String)
    (hcaps : db.Caps i m) (hg : deviceGraceHours db ≤ 0) :
    Pace.Visit firstSecs seenSecs m.toNat (deviceWindowDays db * daySecs) now.secs
      (db.devicesOf i) ((resolveUserRequest lib now p ip ua db).1.devicesOf i) := by
  obtain hdev | ⟨v, db₀, r, hv, hdev, hset, hadm, hdev'⟩ :=
    (fetched_fetch lib now p ip ua hcaps).devices
  · rw [Db.devicesOf_congr hdev]
    exact .stay
  · have hvisit := hadm.visit hv (by rw [deviceGraceHours_congr hset]; exact hg)
    rw [Db.devicesOf_congr hdev, deviceWindowDays_congr hset] at hvisit
    rw [Db.devicesOf_congr hdev']
    exact hvisit

/-! ### Runs of fetches -/

/-- What a run of fetches keeps. -/
structure Db.KeepsPace (i : ℕ) (m days : ℤ) (t : Stamp) (db : Db) : Prop where
  caps : db.Caps i m
  grace : deviceGraceHours db ≤ 0
  window : deviceWindowDays db = days
  paced : db.Paced i m days t

lemma Db.KeepsPace.step {days : ℤ} {t : Stamp} (h : db.KeepsPace i m days t)
    {e : Timed Stamp Op} (ht : t ≤ e.at_) (he : e.ev.isFetch = true) :
    (db.step lib e).KeepsPace i m days e.at_ := by
  obtain ⟨now, ev⟩ := e
  cases ev with
  | resolveUserRequest p ip ua =>
      have hfetch := fetched_fetch lib now p ip ua h.caps
      have hvisit := visit_fetch lib now p ip ua h.caps h.grace
      rw [h.window] at hvisit
      refine ⟨hfetch.caps, ?_, ?_, Pace.Paced.visit h.paced ht hvisit⟩
      · exact (deviceGraceHours_congr hfetch.settings).le.trans h.grace
      · exact (deviceWindowDays_congr hfetch.settings).trans h.window
  | _ => cases he

/-- The devices first seen between two seconds, counted in the table. -/
lemma entered_devicesOf (db : Db) (i : ℕ) (a b : ℤ) :
    Pace.entered firstSecs a b (db.devicesOf i)
      = db.userDevices.countP fun d =>
          d.userId = i ∧ a ≤ d.firstSeen.secs ∧ d.firstSeen.secs ≤ b := by
  rw [Pace.entered, Db.devicesOf, List.countP_filter]
  congr 1
  funext d
  rw [Bool.eq_iff_iff]
  simp only [firstSecs, Bool.and_eq_true, decide_eq_true_eq]
  exact (and_congr_left' decide_eq_true_iff).trans and_comm

/-! ### A device on record -/

/-- The user whose row is handed on after the activation is the one the link belongs to. -/
lemma activateWith_devices {u w : UserRow} {db' : Db} (h : activateWith now u db = (db', some w)) :
    w.id = u.id ∧ db'.userDevices = db.userDevices := by
  rw [activateWith] at h
  split_ifs at h with ha
  · cases h
    exact ⟨rfl, rfl⟩
  · cases he : activationExpiry now u.durationDays with
    | none => simp [he] at h
    | some expire =>
        simp only [he, Prod.mk.injEq] at h
        obtain ⟨rfl, hw⟩ := h
        exact ⟨Db.id_of_user hw, rfl⟩

/-- A device on record is let through. -/
lemma allowDevice_of_knows {u : UserRow} (h : db.Knows lib ip u.id) :
    (allowDevice lib now u ip ua db).2 = true := by
  have hadm := allowDevice_admits lib now u ip ua db
  generalize allowDevice lib now u ip ua db = r at hadm
  cases hadm with
  | uncapped _ => rfl
  | unreadable _ => rfl
  | refresh _ _ => rfl
  | raise _ _ => rfl
  | insert _ _ _ _ _ _ => rfl
  | refuse _ hnew => exact absurd h (not_knows_of_find hnew)

/-- A request from a network on record is never answered `device_limit`. -/
lemma not_limited_of_known {p : String} {u : UserRow} (hu : db.userByPath p = some u)
    (hknown : db.Knows lib ip u.id) (w : UserRow) :
    (resolveUserRequest lib now p ip ua db).2 ≠ some (.deviceLimit, w) := by
  intro h
  rw [resolveUserRequest, hu, resolveUserRequestWith] at h
  cases hs : u.status with
  | disabled => simp [hs] at h
  | paused => simp [hs] at h
  | active =>
      simp only [hs] at h
      rcases ha : activateWith now u (db.setUser u.id (contactRow now ip ua)) with ⟨db₁, _ | v⟩
      · simp [ha] at h
      · obtain ⟨hid, hdev⟩ := activateWith_devices ha
        have hknown' : db₁.Knows lib ip v.id := by
          rw [Db.Knows, hid, hdev]
          exact hknown
        simp only [ha, Option.some.injEq, Prod.mk.injEq, serveRequest,
          allowDevice_of_knows hknown', if_true] at h
        split_ifs at h <;> exact absurd h.1 (by decide)

/-- **The pace of new devices.**  From no devices, over every run of fetches, the devices of a user
first seen over any interval of the length of the window are within the cap, and no request from
a network on record is answered `device_limit`. -/
theorem new_devices_paced {lib : NetLib} {db : Db} (hdb : db.Sound) {i : ℕ} {u : UserRow}
    (hu : db.user i = some u) (hm : 0 < u.maxDevices) (hg : deviceGraceHours db = 0)
    (hnone : ∀ d ∈ db.userDevices, d.userId ≠ i) {t : Stamp} {es : List (Timed Stamp Op)}
    (hes : Runs.Allowed (Db.step lib) (fun _ e => e.ev.isFetch = true) t db es) :
    (∀ a : ℤ, ((Runs.run (Db.step lib) db es).userDevices.countP (fun d =>
        d.userId = i ∧ a ≤ d.firstSeen.secs
          ∧ d.firstSeen.secs ≤ a + deviceWindowDays db * daySecs) : ℤ) ≤ u.maxDevices)
      ∧ ∀ now p ip ua v, (Runs.run (Db.step lib) db es).userByPath p = some v →
        (Runs.run (Db.step lib) db es).Knows lib ip v.id →
        ∀ w, (resolveUserRequest lib now p ip ua (Runs.run (Db.step lib) db es)).2
          ≠ some (.deviceLimit, w) := by
  refine ⟨fun a => ?_, fun now p ip ua v hv hknown w => not_limited_of_known hv hknown w⟩
  have hcaps : db.Caps i u.maxDevices := by
    intro v hv hi
    have hv' := hdb.user_of_mem hv
    rw [hi, hu] at hv'
    cases hv'
    rfl
  have hempty : db.devicesOf i = [] := by
    rw [Db.devicesOf, List.filter_eq_nil_iff]
    exact fun d hd => by simpa using hnone d hd
  have hstart : db.KeepsPace i u.maxDevices (deviceWindowDays db) t := by
    refine ⟨hcaps, hg.le, rfl, ?_⟩
    rw [Db.Paced, hempty]
    exact Pace.paced_nil _ _ _
  have hend := hes.inv (I := fun t db' => db'.KeepsPace i u.maxDevices (deviceWindowDays db) t)
    (fun _ _ _ h ht he => h.step ht he) hstart
  have hcount := hend.paced.entered a
  rw [entered_devicesOf] at hcount
  omega

/-- One device is allowed and the window is seven days: the second network is refused. -/
theorem new_devices_paced_sample :
    ((Runs.run (Db.step sampleLib) sampleAdded [⟨Stamp.day 0, sampleFetchFrom "1.2.3.4"⟩,
          ⟨Stamp.day 1, sampleFetchFrom "5.6.7.8"⟩]).userDevices.countP (fun d =>
        d.userId = 1 ∧ (Stamp.day 0).secs ≤ d.firstSeen.secs
          ∧ d.firstSeen.secs ≤ (Stamp.day 0).secs + deviceWindowDays sampleAdded * daySecs) : ℤ)
      ≤ 1 :=
  (new_devices_paced (t := Stamp.day 0)
    (u := newUserRow (Stamp.day 0) 1
      { name := some "alice", durationDays := .int 30, customPath := none, note := none,
        maxDevices := .int 1, uuid := "9f1c5e0d7b3a4c2f8e6d1a0b5c4f3e2d",
        draws := ["k3XbQ9pLm2TzR7vW"] } "alice" "k3XbQ9pLm2TzR7vW" 30 1)
    sampleAdded_sound (by decide) (by decide) (by decide) (by decide) (by decide)).1 _

end V2raySub
