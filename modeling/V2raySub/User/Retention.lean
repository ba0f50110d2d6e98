import V2raySub.User.Paced
import V2raySub.User.Paths

/-!
The retention of device rows (`cleanup_stale_devices`) against the device window.

* `activeDevices_cleanup_iff`: the count of a user is unchanged exactly if no row of his is both
  inside the window and past the retention.
* `allowDevice_cleanup`: where the count is unchanged, so is every verdict on a network without a
  row.
* `retention_invisible_iff`: the pruning is **invisible to the device cap exactly if no row of a
  user is inside the window and past the retention**; `retention_invisible`: a window of at most
  thirty days suffices.
-/

namespace V2raySub

/-- The default of `retention_days`. -/
def deviceRetentionDays : ℤ := 30

/-- The device rows that the pruning at `now` deletes. -/
def PastRetention (retentionDays : ℤ) (now : Stamp) (d : DeviceRow) : Prop :=
  ∃ cutoff, now.add? (-(retentionDays * daySecs)) = some cutoff ∧ d.lastSeen < cutoff

/-- The pruning at `now` cannot be told from the answers at `later`: neither from the count of
active devices of a user, nor from the verdict on a network without a row. -/
structure Invisible (lib : NetLib) (now later : Stamp) (db : Db) : Prop where
  counts : ∀ u ∈ db.users, (deviceWindowCutoff later db).map (activeDevices db u.id)
    = (deviceWindowCutoff later db).map
        (activeDevices (cleanupStaleDevices now deviceRetentionDays db) u.id)
  verdicts : ∀ u ∈ db.users, ∀ ip ua, ¬ db.Knows lib ip u.id →
    (allowDevice lib later u ip ua (cleanupStaleDevices now deviceRetentionDays db)).2
      = (allowDevice lib later u ip ua db).2

variable {lib : NetLib} {now later : Stamp} {db : Db} {days : ℤ}

lemma mem_cleanupStaleDevices {d : DeviceRow} :
    d ∈ (cleanupStaleDevices now days db).userDevices
      ↔ d ∈ db.userDevices ∧ ¬ PastRetention days now d := by
  rw [cleanupStaleDevices, PastRetention]
  cases now.add? (-(days * daySecs)) with
  | none => simp
  | some cutoff =>
      simp only [List.mem_filter, Option.some.injEq, exists_eq_left', decide_eq_true_eq]
      exact and_congr_right' not_lt.symm

lemma userDevices_cleanup_sublist :
    List.Sublist (cleanupStaleDevices now days db).userDevices db.userDevices := by
  rw [cleanupStaleDevices]
  cases now.add? (-(days * daySecs)) with
  | none => exact List.Sublist.refl _
  | some cutoff => exact List.filter_sublist

lemma settings_cleanup : (cleanupStaleDevices now days db).settings = db.settings := by
  rw [cleanupStaleDevices]
  cases now.add? (-(days * daySecs)) <;> rfl

lemma deviceWindowCutoff_cleanup :
    deviceWindowCutoff later (cleanupStaleDevices now days db) = deviceWindowCutoff later db := by
  rw [deviceWindowCutoff, deviceWindowCutoff, deviceWindowDays_congr settings_cleanup]

lemma inGrace_cleanup (u : UserRow) :
    inGrace later u (cleanupStaleDevices now days db) = inGrace later u db := by
  rw [inGrace, inGrace, deviceGraceHours_congr settings_cleanup]

/-- A part of a list has as many elements with a property as the list only if it leaves out none of
them. -/
lemma countP_eq_iff_of_sublist {α : Type*} {p : α → Bool} {l l' : List α} (h : l.Sublist l') :
    l.countP p = l'.countP p ↔ l.filter p = l'.filter p := by
  rw [List.countP_eq_length_filter, List.countP_eq_length_filter]
  exact ⟨fun he => (h.filter p).eq_of_length he, fun he => by rw [he]⟩

/-- **The count of a user** survives the pruning exactly if none of the rows counted is past the
retention. -/
lemma activeDevices_cleanup_iff {i : ℕ} {cutoff : Stamp} :
    activeDevices db i cutoff = activeDevices (cleanupStaleDevices now days db) i cutoff
      ↔ ∀ d ∈ db.userDevices, d.userId = i → cutoff ≤ d.lastSeen → ¬ PastRetention days now d := by
  have hsub : List.Sublist (cleanupStaleDevices now days db).userDevices db.userDevices :=
    userDevices_cleanup_sublist
  rw [activeDevices, activeDevices, eq_comm, countP_eq_iff_of_sublist hsub]
  constructor
  · intro heq d hd hi hin hpast
    have hmem : d ∈ db.userDevices.filter fun d =>
        decide (d.userId = i) && decide (cutoff.secs ≤ d.lastSeen.secs) := by
      refine List.mem_filter.mpr ⟨hd, ?_⟩
      rw [Bool.and_eq_true, decide_eq_true_eq, decide_eq_true_eq]
      exact ⟨hi, hin⟩
    rw [← heq] at hmem
    exact (mem_cleanupStaleDevices.mp (List.mem_of_mem_filter hmem)).2 hpast
  · intro hkept
    rw [cleanupStaleDevices]
    cases hc : now.add? (-(days * daySecs)) with
    | none => rfl
    | some stale =>
        dsimp only
        rw [List.filter_filter]
        refine List.filter_congr fun d hd => ?_
        by_cases hmine : d.userId = i ∧ cutoff.secs ≤ d.lastSeen.secs
        · have hfresh : stale.secs ≤ d.lastSeen.secs := not_lt.mp fun hlt =>
            hkept d hd hmine.1 hmine.2 ⟨stale, hc, hlt⟩
          simp [hmine.1, hmine.2, hfresh]
        · rw [not_and] at hmine
          by_cases hi : d.userId = i
          · have hout := hmine hi
            simp [hi, hout]
          · simp [hi]

/-- **The verdict** on a network without a row survives the pruning where the count does. -/
lemma allowDevice_cleanup {u : UserRow} {ip ua : Option String} (hnew : ¬ db.Knows lib ip u.id)
    (hcount : ∀ cutoff, deviceWindowCutoff later db = some cutoff →
      activeDevices db u.id cutoff
        = activeDevices (cleanupStaleDevices now days db) u.id cutoff) :
    (allowDevice lib later u ip ua (cleanupStaleDevices now days db)).2
      = (allowDevice lib later u ip ua db).2 := by
  have hfind : db.userDevices.find? (isDevice u.id (deviceFingerprint lib ip).1) = none :=
    List.find?_eq_none.mpr fun d hd hmine => hnew ⟨d, hd, hmine⟩
  have hfind' : (cleanupStaleDevices now days db).userDevices.find?
      (isDevice u.id (deviceFingerprint lib ip).1) = none :=
    List.find?_eq_none.mpr fun d hd =>
      List.find?_eq_none.mp hfind d (userDevices_cleanup_sublist.subset hd)
  rw [allowDevice, allowDevice]
  split_ifs with hcap
  · rfl
  · dsimp only
    split_ifs with hnet
    · rfl
    · rw [hfind, hfind', inGrace_cleanup, deviceWindowCutoff_cleanup]
      cases inGrace later u db with
      | none => rfl
      | some grace =>
          cases hc : deviceWindowCutoff later db with
          | none => rfl
          | some cutoff =>
              dsimp only
              rw [hcount cutoff hc]
              split_ifs
              · rfl
              · rfl

/-- No row of a user is inside the window at `later` and past the retention at `now`. -/
def NoneBetween (now later : Stamp) (db : Db) : Prop :=
  ∀ cutoff, deviceWindowCutoff later db = some cutoff → ∀ d ∈ db.userDevices,
    (∃ u ∈ db.users, u.id = d.userId) → cutoff ≤ d.lastSeen →
      ¬ PastRetention deviceRetentionDays now d

lemma invisible_of_noneBetween (h : NoneBetween now later db) : Invisible lib now later db := by
  have hcount : ∀ u ∈ db.users, ∀ cutoff, deviceWindowCutoff later db = some cutoff →
      activeDevices db u.id cutoff
        = activeDevices (cleanupStaleDevices now deviceRetentionDays db) u.id cutoff := by
    intro u hu cutoff hc
    refine activeDevices_cleanup_iff.mpr fun d hd hi hin => ?_
    exact h cutoff hc d hd ⟨u, hu, hi.symm⟩ hin
  refine ⟨fun u hu => ?_, fun u hu ip ua hnew => allowDevice_cleanup hnew (hcount u hu)⟩
  cases hc : deviceWindowCutoff later db with
  | none => rfl
  | some cutoff => rw [Option.map_some, Option.map_some, hcount u hu cutoff hc]

/-- **A window of at most thirty days** is never touched by the pruning. -/
theorem retention_invisible (lib : NetLib) {now later : Stamp} (hlater : now ≤ later) {db : Db}
    (hdays : deviceWindowDays db ≤ deviceRetentionDays) : Invisible lib now later db := by
  refine invisible_of_noneBetween fun cutoff hc d _ _ hin hpast => ?_
  obtain ⟨stale, hstale, hlt⟩ := hpast
  have hcut : cutoff.secs = later.secs + -(deviceWindowDays db * daySecs) :=
    Stamp.add?_eq_some_iff.mp hc
  have hsecs : stale.secs = now.secs + -(deviceRetentionDays * daySecs) :=
    Stamp.add?_eq_some_iff.mp hstale
  have hlater' : now.secs ≤ later.secs := hlater
  have hin' : cutoff.secs ≤ d.lastSeen.secs := hin
  have hlt' : d.lastSeen.secs < stale.secs := hlt
  rw [daySecs] at hcut hsecs
  omega

/-- **The retention of device rows** at `now` cannot be told from the counts and verdicts at `later`
exactly if no row of a user is inside the window then and was past the retention. -/
theorem retention_invisible_iff (lib : NetLib) (now later : Stamp) (db : Db) :
    Invisible lib now later db ↔ NoneBetween now later db := by
  constructor
  · rintro ⟨hcounts, -⟩ cutoff hc d hd ⟨u, hu, hi⟩ hin
    have hsame := hcounts u hu
    rw [hc, Option.map_some, Option.map_some, Option.some.injEq] at hsame
    exact activeDevices_cleanup_iff.mp hsame d hd hi.symm hin
  · exact invisible_of_noneBetween

/-- The panel's tables with a window of sixty days, one device allowed, and one on record. -/
def sampleWideWindow : Db :=
  Runs.run (Db.step sampleLib)
    { sampleAdded with settings := [("device_window_days", "60")] }
    [⟨Stamp.day 0, sampleFetchFrom "1.2.3.4"⟩]

/-- On day 40 the device on record takes the only place; the pruning deletes it, and the next
network is let in. -/
theorem retention_visible :
    deviceWindowDays sampleWideWindow = 60
      ∧ (deviceWindowCutoff (Stamp.day 40) sampleWideWindow).map
          (activeDevices sampleWideWindow 1) = some 1
      ∧ (deviceWindowCutoff (Stamp.day 40) sampleWideWindow).map
          (activeDevices (cleanupStaleDevices (Stamp.day 40) 30 sampleWideWindow) 1) = some 0
      ∧ (sampleWideWindow.user 1).map (fun u =>
          ((allowDevice sampleLib (Stamp.day 40) u (some "5.6.7.8") none sampleWideWindow).2,
            (allowDevice sampleLib (Stamp.day 40) u (some "5.6.7.8") none
              (cleanupStaleDevices (Stamp.day 40) 30 sampleWideWindow)).2))
          = some (false, true) := by
  decide +kernel

end V2raySub
