import V2raySub.Base.Window
import V2raySub.User.Coherence

/-!
The device cap: the rows of `user_devices` as slots under the rolling window.

* `Db.slots`: the device rows of a user as slots; `Admits.move` and `move_fetch` say that
  `_allow_device`, and so every fetch, moves them as the window allows.
* `returnedRows`: the rows that a run brings back into the window after they had left it.
* `device_cap`: over every run of fetches, **the rows inside the window stay within the cap**,
  the returned ones apart: a known device is refreshed and served without a count.
-/

namespace V2raySub

/-- The device rows of a user, by the second they were last seen. -/
def Db.slots (i : ℕ) (db : Db) : List (Window.Slot ℕ ℤ) :=
  (db.userDevices.filter fun d => d.userId = i).map fun d => ⟨d.id, d.lastSeen.secs⟩

/-- The second the window of so many days starts at. -/
def windowStart (days : ℤ) (now : Stamp) : ℤ := now.secs - days * daySecs

/-- Every row of the user `i` carries the cap `m`. -/
def Db.Caps (i : ℕ) (m : ℤ) (db : Db) : Prop := ∀ u ∈ db.users, u.id = i → u.maxDevices = m

/-! ### One fetch -/

lemma activeDevices_eq_inside (db : Db) (i : ℕ) (cutoff : Stamp) :
    activeDevices db i cutoff = Window.inside cutoff.secs (db.slots i) := by
  rw [activeDevices, Window.inside, Db.slots, List.countP_map, List.countP_filter]
  congr 1
  funext d
  simp [Bool.and_comm]

lemma slots_refresh (db : Db) (i k : ℕ) (now : Stamp) (net : String) (ip ua : Option String) :
    Db.slots i
        { db with
          userDevices := Rows.update DeviceRow.id db.userDevices k (fun _ => true)
            (refreshDevice now net ip ua) }
      = Window.touch k now.secs (db.slots i) := by
  simp only [Db.slots, Rows.update, Window.touch, List.filter_map, List.map_map]
  have hpred : ((fun d : DeviceRow => decide (d.userId = i)) ∘ fun r =>
      if r.id = k ∧ True then refreshDevice now net ip ua r else r)
        = fun d => decide (d.userId = i) := by
    funext d
    simp only [Function.comp_apply]
    split_ifs <;> rfl
  rw [hpred]
  refine List.map_congr_left fun d _ => ?_
  simp only [Function.comp_apply, and_true]
  split_ifs <;> rfl

lemma slots_insert (db : Db) (i : ℕ) (d : DeviceRow) :
    Db.slots i { db with userDevices := db.userDevices ++ [d], devicesSeq := db.devicesSeq + 1 }
      = if d.userId = i then db.slots i ++ [⟨d.id, d.lastSeen.secs⟩] else db.slots i := by
  simp only [Db.slots, List.filter_append, List.map_append]
  by_cases h : d.userId = i <;> simp [h]

/-- `_allow_device` moves the slots of every user as his window allows. -/
lemma Admits.move {lib : NetLib} {now : Stamp} {ip ua : Option String} {db : Db} {v : UserRow}
    {i : ℕ} {m : ℤ} (hv : v.id = i → v.maxDevices = m) (hg : deviceGraceHours db ≤ 0)
    {r : Db × Bool} (h : Admits lib now v ip ua db r) :
    Window.Move m.toNat (windowStart (deviceWindowDays db) now) now.secs (db.slots i)
      (r.1.slots i) := by
  have hgrace : inGrace now v db = some false := by rw [inGrace, if_neg (by omega)]
  cases h with
  | uncapped h => exact .stay
  | unreadable h => exact .stay
  | raise h => exact .stay
  | refuse cutoff h => exact .stay
  | refresh dev h =>
      -- a known device is refreshed, whether it is inside the window or not
      rw [slots_refresh]
      exact .touch _
  | insert grace cutoff hnew hgr hc hfree =>
      rw [hgrace, Option.some.injEq] at hgr
      have hlt : (activeDevices db v.id cutoff : ℤ) < v.maxDevices :=
        hfree.resolve_left (by simp [← hgr])
      have hcut : cutoff.secs = windowStart (deviceWindowDays db) now :=
        (Stamp.add?_eq_some_iff.mp hc).trans (by rw [windowStart]; omega)
      rw [slots_insert]
      by_cases hi : v.id = i
      · rw [if_pos (by exact hi)]
        refine .enter _ ?_
        rw [activeDevices_eq_inside, hi, hcut, hv hi] at hlt
        omega
      · rw [if_neg (by exact hi)]
        exact .stay

lemma Db.Caps.updateUsers {i : ℕ} {m : ℤ} {db : Db} (h : db.Caps i m) (j : ℕ)
    (p : UserRow → Bool) {f : UserRow → UserRow}
    (hf : ∀ u, (f u).id = u.id ∧ (f u).maxDevices = u.maxDevices) :
    (db.updateUsers j p f).Caps i m :=
  Rows.forall_mem_update h fun u hu _ _ hi => by
    rw [(hf u).1] at hi
    rw [(hf u).2]
    exact h u hu hi

lemma Db.Caps.congr {i : ℕ} {m : ℤ} {db db' : Db} (h : db.Caps i m)
    (hu : db'.users = db.users) : db'.Caps i m := by
  intro u
  rw [hu]
  exact h u

/-- What a fetch comes to for the user `i` with the cap `m`: the caps and the settings stay, and the
devices stay or are left as `_allow_device` leaves them. -/
structure Fetched (lib : NetLib) (now : Stamp) (ip ua : Option String) (i : ℕ) (m : ℤ)
    (db db' : Db) : Prop where
  caps : db'.Caps i m
  settings : db'.settings = db.settings
  devices : db'.userDevices = db.userDevices ∨ ∃ v db₀ r, (v.id = i → v.maxDevices = m)
    ∧ db₀.userDevices = db.userDevices ∧ db₀.settings = db.settings
    ∧ Admits lib now v ip ua db₀ r ∧ db'.userDevices = r.1.userDevices

/-- The checks on the row read last, on tables with the devices and the settings of `db`. -/
lemma fetched_serveRequest (lib : NetLib) (now : Stamp) (ip ua : Option String) {db db' : Db}
    {v : UserRow} {i : ℕ} {m : ℤ} (hcaps : db'.Caps i m) (hv : v.id = i → v.maxDevices = m)
    (hdev : db'.userDevices = db.userDevices) (hset : db'.settings = db.settings) :
    Fetched lib now ip ua i m db (serveRequest lib now ip ua v db').1 := by
  have hsame : Fetched lib now ip ua i m db db' := ⟨hcaps, hset, .inl hdev⟩
  rw [serveRequest]
  split_ifs
  · exact hsame
  · exact hsame
  · exact hsame
  · have hadm := allowDevice_admits lib now v ip ua db'
    exact ⟨hcaps.congr hadm.same.1, hadm.same.2.2.trans hset,
      .inr ⟨v, db', _, hv, hdev, hset, hadm, rfl⟩⟩

/-- **Every fetch** of any user's link leaves the devices as they are, or as `_allow_device`
does. -/
lemma fetched_fetch (lib : NetLib) (now : Stamp) (p : String) (ip ua : Option String) {db : Db}
    {i : ℕ} {m : ℤ} (hcaps : db.Caps i m) :
    Fetched lib now ip ua i m db (resolveUserRequest lib now p ip ua db).1 := by
  unfold resolveUserRequest resolveUserRequestWith
  cases hp : db.userByPath p with
  | none => exact ⟨hcaps, rfl, .inl rfl⟩
  | some u =>
      have hu : u.id = i → u.maxDevices = m := hcaps u (Rows.get_mem hp)
      have hcontact : (db.setUser u.id (contactRow now ip ua)).Caps i m :=
        hcaps.updateUsers _ _ fun _ => ⟨rfl, rfl⟩
      have hstay : Fetched lib now ip ua i m db (db.setUser u.id (contactRow now ip ua)) :=
        ⟨hcontact, rfl, .inl rfl⟩
      dsimp only
      cases u.status with
      | disabled => exact hstay
      | paused => exact hstay
      | active =>
          rw [activateWith]
          split_ifs
          · exact fetched_serveRequest lib now ip ua hcontact hu rfl rfl
          · cases activationExpiry now u.durationDays with
            | none => exact hstay
            | some expire =>
                have hact : ((db.setUser u.id (contactRow now ip ua)).updateUsers u.id
                    (fun u => u.activatedAt.isNone) (activateRow now expire)).Caps i m :=
                  hcontact.updateUsers _ _ fun _ => ⟨rfl, rfl⟩
                dsimp only
                cases hv : ((db.setUser u.id (contactRow now ip ua)).updateUsers u.id
                    (fun u => u.activatedAt.isNone) (activateRow now expire)).user u.id with
                | none => exact ⟨hact, rfl, .inl rfl⟩
                | some v =>
                    exact fetched_serveRequest lib now ip ua hact (hact v (Rows.get_mem hv))
                      rfl rfl

/-- The two settings of the window are read from the settings alone. -/
lemma deviceWindowDays_congr {db db' : Db} (h : db'.settings = db.settings) :
    deviceWindowDays db' = deviceWindowDays db := by
  rw [deviceWindowDays, deviceWindowDays, getSetting, getSetting, h]

lemma deviceGraceHours_congr {db db' : Db} (h : db'.settings = db.settings) :
    deviceGraceHours db' = deviceGraceHours db := by
  rw [deviceGraceHours, deviceGraceHours, getSetting, getSetting, h]

/-- What a fetch leaves: the caps, the settings, and slots moved as the window allows. -/
structure Fetches (i : ℕ) (m : ℤ) (now : Stamp) (db db' : Db) : Prop where
  caps : db'.Caps i m
  settings : db'.settings = db.settings
  slots : Window.Move m.toNat (windowStart (deviceWindowDays db) now) now.secs (db.slots i)
    (db'.slots i)

/-- **Every fetch** of any user's link moves the slots of every user as his window allows. -/
lemma move_fetch (lib : NetLib) (now : Stamp) (p : String) (ip ua : Option String) {db : Db}
    {i : ℕ} {m : ℤ} (hcaps : db.Caps i m) (hg : deviceGraceHours db ≤ 0) :
    Fetches i m now db (resolveUserRequest lib now p ip ua db).1 := by
  have hfetch := fetched_fetch lib now p ip ua hcaps
  refine ⟨hfetch.caps, hfetch.settings, ?_⟩
  obtain hdev | ⟨v, db₀, r, hv, hdev, hset, hadm, hdev'⟩ := hfetch.devices
  · rw [Db.slots, Db.slots, hdev]
    exact .stay
  · have hmove := hadm.move hv (by rw [deviceGraceHours_congr hset]; exact hg)
    have hbefore : db₀.slots i = db.slots i := by rw [Db.slots, Db.slots, hdev]
    rw [hbefore, deviceWindowDays_congr hset] at hmove
    have hafter : (resolveUserRequest lib now p ip ua db).1.slots i = r.1.slots i := by
      rw [Db.slots, Db.slots, hdev']
    rw [hafter]
    exact hmove

/-! ### Runs of fetches -/

/-- A fetch of some link. -/
def Op.isFetch : Op → Bool
  | .resolveUserRequest _ _ _ => true
  | _ => false

/-- The device rows of the user `i` that a run brings back into the window after they had left
it. -/
def returnedRows (lib : NetLib) (i : ℕ) : Db → List (Timed Stamp Op) → List ℕ
  | _, [] => []
  | db, e :: es =>
    Window.returned (windowStart (deviceWindowDays db) e.at_) (db.slots i)
        ((db.step lib e).slots i)
      ++ returnedRows lib i (db.step lib e) es

lemma steady_run {lib : NetLib} {i : ℕ} {m days : ℤ} {es : List (Timed Stamp Op)} {t : Stamp}
    {db : Db} {B : List ℕ} (hcaps : db.Caps i m) (hg : deviceGraceHours db ≤ 0)
    (hd : deviceWindowDays db = days)
    (hs : Window.steady (windowStart days t) B (db.slots i) ≤ m.toNat)
    (hes : Runs.Allowed (Db.step lib) (fun _ e => e.ev.isFetch = true) t db es) :
    Window.steady (windowStart days (Runs.clock t es)) (B ++ returnedRows lib i db es)
      ((Runs.run (Db.step lib) db es).slots i) ≤ m.toNat := by
  induction es generalizing t db B with
  | nil => simpa [returnedRows] using hs
  | cons e es ih =>
      obtain ⟨ht, hf, hes⟩ := Runs.allowed_cons.mp hes
      obtain ⟨now, ev⟩ := e
      cases ev with
      | resolveUserRequest p ip ua =>
          have ht' : t.secs ≤ now.secs := ht
          have hstep := move_fetch lib now p ip ua hcaps hg
          have hstart : windowStart days t ≤ windowStart days now := by
            rw [windowStart, windowStart]
            omega
          have hnow : Window.steady (windowStart days now) B (db.slots i) ≤ m.toNat :=
            Nat.le_trans (Window.steady_anti hstart (List.Subset.refl B) _) hs
          have hmove := hstep.slots
          rw [hd] at hmove
          have hnext := hmove.steady_le hnow
          have hset := hstep.settings
          have hrun := ih hstep.caps
            (by rw [deviceGraceHours_congr hset]; exact hg)
            (by rw [deviceWindowDays_congr hset]; exact hd) hnext hes
          rw [List.append_assoc] at hrun
          rw [returnedRows, hd]
          exact hrun
      | _ => cases hf

/-- **The device cap.**  From no devices, over every run of fetches and at every later moment,
the rows of a user inside the rolling window are within the cap, those apart that came back into
the window after they had left it. -/
theorem device_cap {lib : NetLib} {db : Db} (hdb : db.Sound) {i : ℕ} {u : UserRow}
    (hu : db.user i = some u) (hm : 0 < u.maxDevices) (hg : deviceGraceHours db = 0)
    (hnone : ∀ d ∈ db.userDevices, d.userId ≠ i) {t : Stamp} {es : List (Timed Stamp Op)}
    (hes : Runs.Allowed (Db.step lib) (fun _ e => e.ev.isFetch = true) t db es) {now : Stamp}
    (hnow : Runs.clock t es ≤ now) :
    ((Runs.run (Db.step lib) db es).userDevices.countP (fun d =>
        d.userId = i ∧ windowStart (deviceWindowDays db) now ≤ d.lastSeen.secs
          ∧ d.id ∉ returnedRows lib i db es) : ℤ) ≤ u.maxDevices := by
  have hcaps : db.Caps i u.maxDevices := by
    intro v hv hi
    have hv' := hdb.user_of_mem hv
    rw [hi, hu] at hv'
    cases hv'
    rfl
  have hempty : db.slots i = [] := by
    rw [Db.slots, List.filter_eq_nil_iff.mpr fun d hd => by simpa using hnone d hd, List.map_nil]
  have hrun := steady_run (B := []) hcaps hg.le rfl (by rw [hempty]; exact Nat.zero_le _) hes
  have hlater : windowStart (deviceWindowDays db) (Runs.clock t es)
      ≤ windowStart (deviceWindowDays db) now := by
    have hnow' : (Runs.clock t es).secs ≤ now.secs := hnow
    rw [windowStart, windowStart]
    omega
  have hcount := Nat.le_trans (Window.steady_anti hlater (List.Subset.refl _) _) hrun
  rw [Window.steady, Db.slots, List.countP_map, List.countP_filter, List.nil_append] at hcount
  have heq : (Runs.run (Db.step lib) db es).userDevices.countP (fun d =>
        d.userId = i ∧ windowStart (deviceWindowDays db) now ≤ d.lastSeen.secs
          ∧ d.id ∉ returnedRows lib i db es)
      = (Runs.run (Db.step lib) db es).userDevices.countP (fun d =>
        ((fun x : Window.Slot ℕ ℤ => decide (windowStart (deviceWindowDays db) now ≤ x.seen
          ∧ x.key ∉ returnedRows lib i db es)) ∘ fun d : DeviceRow => ⟨d.id, d.lastSeen.secs⟩) d
            && decide (d.userId = i)) := by
    congr 1
    funext d
    simp [Bool.and_comm]
  rw [heq]
  omega

/-- A fetch of the sample user's link from an address. -/
def sampleFetchFrom (ip : String) : Op :=
  .resolveUserRequest "k3XbQ9pLm2TzR7vW" (some ip) (some "v2rayNG/1.8.5")

theorem device_cap_sample :
    ((Runs.run (Db.step sampleLib) sampleAdded [⟨Stamp.day 0, sampleFetchFrom "1.2.3.4"⟩,
          ⟨Stamp.day 1, sampleFetchFrom "5.6.7.8"⟩]).userDevices.countP (fun d =>
        d.userId = 1 ∧ windowStart (deviceWindowDays sampleAdded) (Stamp.day 1) ≤ d.lastSeen.secs
          ∧ d.id ∉ returnedRows sampleLib 1 sampleAdded
              [⟨Stamp.day 0, sampleFetchFrom "1.2.3.4"⟩,
               ⟨Stamp.day 1, sampleFetchFrom "5.6.7.8"⟩]) : ℤ) ≤ 1 :=
  device_cap (t := Stamp.day 0)
    (u := newUserRow (Stamp.day 0) 1
      { name := some "alice", durationDays := .int 30, customPath := none, note := none,
        maxDevices := .int 1, uuid := "9f1c5e0d7b3a4c2f8e6d1a0b5c4f3e2d",
        draws := ["k3XbQ9pLm2TzR7vW"] } "alice" "k3XbQ9pLm2TzR7vW" 30 1)
    sampleAdded_sound (by decide) (by decide) (by decide) (by decide) (by decide) (by decide)

/-- One device is allowed and the window is seven days: a network that comes back on day 9 is
served next to the one that took its place on day 8. -/
theorem device_cap_exceeded :
    (∃ u, sampleAdded.user 1 = some u ∧ u.maxDevices = 1) ∧ deviceWindowDays sampleAdded = 7
      ∧ deviceGraceHours sampleAdded = 0 ∧ sampleAdded.userDevices = []
      ∧ (Runs.run (Db.step sampleLib) sampleAdded [⟨Stamp.day 0, sampleFetchFrom "1.2.3.4"⟩,
            ⟨Stamp.day 8, sampleFetchFrom "5.6.7.8"⟩,
            ⟨Stamp.day 9, sampleFetchFrom "1.2.3.4"⟩]).userDevices.countP (fun d =>
          d.userId = 1 ∧ windowStart 7 (Stamp.day 9) ≤ d.lastSeen.secs) = 2 := by
  refine ⟨?_, by decide, by decide, rfl, by decide⟩
  exact ⟨_, rfl, by decide⟩

end V2raySub
