import V2raySub.User.Clock

/-!
The representation invariant of the five clock columns.

* `Clock.base`, `Clock.InCalendar`: the date a renewal counts from, and the moves whose dates
  stay within the year 9999.
* `Clock.Coherent`: the dates of a clock agree with its status and its duration.
* `Clock.Coherent.step`: every move within the calendar keeps a clock coherent.
* `Db.Coherent.step`, `coherent_of_reachable`: the same for every operation of the service, and
  for every user of every state it reaches from empty tables.
* `reachable_clock_invariant`: what this says of a row.
-/

namespace V2raySub

/-! ### Dates within the calendar -/

/-- The arguments of a move that the service lets through. -/
def ClockOp.Valid : ClockOp → Prop
  | .extend days => 0 < days
  | .setDuration days => 0 ≤ days
  | _ => True

namespace Clock

/-- The date a renewal counts from: the frozen expiry of a paused plan, and the later of the
expiry and the present otherwise. -/
def base (now : Stamp) (c : Clock) : Stamp :=
  if c.status = .paused then c.expireAt.getD now else Stamp.later (c.expireAt.getD now) now

lemma extendedExpiry_eq (now : Stamp) (days : ℤ) {c : Clock} (ha : c.activatedAt ≠ none) :
    extendedExpiry now days c = (c.base now).add? (days * daySecs) := by
  obtain ⟨act, ha⟩ := Option.ne_none_iff_exists'.mp ha
  rw [extendedExpiry, ha, base]
  split_ifs <;> rfl

lemma expire_le_base (now : Stamp) {expire : Stamp} {c : Clock} (he : c.expireAt = some expire) :
    expire.secs ≤ (c.base now).secs := by
  rw [base, he]
  split_ifs
  · exact le_refl _
  · rw [Stamp.later_secs]
    exact le_max_left _ _

/-- The dates of a move stay within the year 9999.  A move back in time cannot leave the
calendar, and the service refuses the other moves that do; a renewal it does not refuse. -/
def InCalendar (now : Stamp) (c : Clock) : ClockOp → Prop
  | .extend days => c.activatedAt ≠ none → c.durationDays ≠ 0 →
      (c.base now).secs + days * daySecs ≤ maxSecs
  | _ => True

instance (now : Stamp) (c : Clock) : ∀ op, Decidable (c.InCalendar now op)
  | .extend days => inferInstanceAs (Decidable (c.activatedAt ≠ none → c.durationDays ≠ 0 →
      (c.base now).secs + days * daySecs ≤ maxSecs))
  | .fetch | .setDuration _ | .pause | .resume | .reset | .setEnabled _ =>
      inferInstanceAs (Decidable True)

/-- The renewal of an activated finite plan within the calendar. -/
lemma extend_of_inCalendar {now : Stamp} {days : ℤ} {c : Clock} (hd : 0 ≤ days)
    (ha : c.activatedAt ≠ none) (hn : c.durationDays ≠ 0)
    (hcal : (c.base now).secs + days * daySecs ≤ maxSecs) :
    ∃ expire : Stamp, expire.secs = (c.base now).secs + days * daySecs
      ∧ c.extend now days
          = { c with expireAt := some expire, durationDays := c.durationDays + days } := by
  have hpos : 0 ≤ days * daySecs := Int.mul_nonneg hd (by decide)
  obtain ⟨expire, he⟩ := Option.isSome_iff_exists.mp ((Stamp.add?_isSome_iff hpos).mpr hcal)
  refine ⟨expire, Stamp.add?_eq_some_iff.mp he, ?_⟩
  rw [extend, if_neg hn, extendedExpiry_eq now days ha, he]

/-! ### The invariant -/

/-- The dates of the clock agree with its status and its duration, at the reading `t`. -/
structure Coherent (t : Stamp) (c : Clock) : Prop where
  nonneg : 0 ≤ c.durationDays
  idle : c.activatedAt = none → c.expireAt = none
  unlimited : c.durationDays = 0 → c.expireAt = none
  finite : ∀ act, c.activatedAt = some act → 0 < c.durationDays →
    ∃ expire, c.expireAt = some expire ∧ act.secs + c.durationDays * daySecs ≤ expire.secs
  frozen : c.status = .paused → ∃ p, c.pausedAt = some p ∧ p.secs ≤ t.secs

namespace Coherent

variable {t now : Stamp} {c : Clock}

lemma mono (h : Coherent t c) (ht : t ≤ now) : Coherent now c :=
  { h with
    frozen := fun hs => by
      obtain ⟨p, hp, hpt⟩ := h.frozen hs
      exact ⟨p, hp, Int.le_trans hpt ht⟩ }

/-- An activated finite plan has an expiry. -/
lemma exists_expire (h : Coherent t c) (ha : c.activatedAt ≠ none) (hn : c.durationDays ≠ 0) :
    ∃ expire, c.expireAt = some expire := by
  obtain ⟨act, ha⟩ := Option.ne_none_iff_exists'.mp ha
  have hpos := h.nonneg
  obtain ⟨expire, he, -⟩ := h.finite act ha (by omega)
  exact ⟨expire, he⟩

lemma fresh {n : ℤ} (hn : 0 ≤ n) : Coherent t (Clock.fresh n) where
  nonneg := hn
  idle := fun _ => rfl
  unlimited := fun _ => rfl
  finite := fun act ha => by cases ha
  frozen := fun hs => by cases hs

lemma fetch (h : Coherent t c) (ht : t ≤ now) : Coherent now (c.fetch now) := by
  rw [Clock.fetch]
  split_ifs with hc
  · rw [activationExpiry]
    split_ifs with hn
    · -- an unlimited plan starts with no expiry
      exact { nonneg := h.nonneg, idle := fun _ => rfl, unlimited := fun _ => rfl
              finite := fun _ _ hpos => absurd hpos (by simpa using hn)
              frozen := (h.mono ht).frozen }
    · cases he : now.add? (c.durationDays * daySecs) with
      | none => exact h.mono ht
      | some expire =>
          refine ⟨h.nonneg, fun hn => ?_, fun h0 => ?_, fun act ha _ => ?_, (h.mono ht).frozen⟩
          · cases hn
          · have h0' : c.durationDays = 0 := h0
            omega
          · cases ha
            exact ⟨expire, rfl, (Stamp.add?_eq_some_iff.mp he).ge⟩
  · exact h.mono ht

lemma extend (h : Coherent t c) (ht : t ≤ now) {days : ℤ} (hd : 0 < days)
    (hcal : InCalendar now c (.extend days)) : Coherent now (c.extend now days) := by
  by_cases hn : c.durationDays = 0
  · rw [Clock.extend, if_pos hn]
    exact h.mono ht
  have hpos := h.nonneg
  by_cases ha : c.activatedAt = none
  · -- not started: only the duration grows
    rw [Clock.extend, if_neg hn]
    have hE : extendedExpiry now days c = c.expireAt := by rw [extendedExpiry, ha]
    rw [hE]
    refine ⟨?_, h.idle, fun h0 => ?_, fun act hact => ?_, (h.mono ht).frozen⟩
    · show 0 ≤ c.durationDays + days
      omega
    · have h0' : c.durationDays + days = 0 := h0
      omega
    · have hact' : c.activatedAt = some act := hact
      rw [ha] at hact'
      cases hact'
  · -- started: the expiry is past the old one by the days
    obtain ⟨expire, he, hext⟩ := extend_of_inCalendar hd.le ha hn (hcal ha hn)
    rw [hext]
    refine ⟨?_, fun h0 => absurd h0 ha, fun h0 => ?_, fun act hact _ => ⟨expire, rfl, ?_⟩,
      (h.mono ht).frozen⟩
    · show 0 ≤ c.durationDays + days
      omega
    · have h0' : c.durationDays + days = 0 := h0
      omega
    · obtain ⟨old, hold, hle⟩ := h.finite act hact (by omega)
      have hbase := expire_le_base now hold
      calc act.secs + (c.durationDays + days) * daySecs
          = act.secs + c.durationDays * daySecs + days * daySecs := by
            rw [Int.add_mul, Int.add_assoc]
        _ ≤ (c.base now).secs + days * daySecs := by omega
        _ = expire.secs := he.symm

lemma setDuration (h : Coherent t c) {days : ℤ} (hd : 0 ≤ days) :
    Coherent t (c.setDuration days) := by
  rw [Clock.setDuration, expireSets]
  cases ha : c.activatedAt with
  | none =>
      exact { nonneg := hd, idle := fun _ => h.idle ha, unlimited := fun _ => h.idle ha
              finite := fun act hact => by
                have hact' : c.activatedAt = some act := hact
                rw [ha] at hact'
                cases hact'
              frozen := h.frozen }
  | some act =>
      dsimp only
      split_ifs with hsame h0 hold
      · -- the same number of days
        have hc : c.applySets [.durationDays days] = c := by rw [hsame]; rfl
        show Coherent t (c.applySets [.durationDays days])
        rw [hc]
        exact h
      · -- became unlimited
        exact { nonneg := hd, idle := fun _ => rfl, unlimited := fun _ => rfl
                finite := fun _ _ hpos => absurd h0 hpos.ne'
                frozen := h.frozen }
      · -- was unlimited: the span counts from activation
        cases he : act.add? (days * daySecs) with
        | none => exact h
        | some expire =>
            refine ⟨hd, fun hn => ?_, fun hz => absurd hz h0, fun a hact _ => ?_, h.frozen⟩
            · have hn' : c.activatedAt = none := hn
              rw [ha] at hn'
              cases hn'
            · have hact' : c.activatedAt = some a := hact
              rw [ha] at hact'
              cases hact'
              exact ⟨expire, rfl, (Stamp.add?_eq_some_iff.mp he).ge⟩
      · -- finite to finite: the expiry shifts by the difference
        have hpos := h.nonneg
        obtain ⟨old, hold', hle⟩ := h.finite act ha (by omega)
        rw [hold']
        dsimp only
        cases he : old.add? ((days - c.durationDays) * daySecs) with
        | none => exact h
        | some expire =>
            refine ⟨hd, fun hn => ?_, fun hz => absurd hz h0, fun a hact _ => ?_, h.frozen⟩
            · have hn' : c.activatedAt = none := hn
              rw [ha] at hn'
              cases hn'
            · have hact' : c.activatedAt = some a := hact
              rw [ha] at hact'
              cases hact'
              refine ⟨expire, rfl, ?_⟩
              have he' := Stamp.add?_eq_some_iff.mp he
              show act.secs + days * daySecs ≤ expire.secs
              rw [he', Int.sub_mul]
              omega

lemma pause (h : Coherent t c) (ht : t ≤ now) : Coherent now (c.pause now) := by
  rw [Clock.pause]
  split_ifs
  · exact ⟨h.nonneg, h.idle, h.unlimited, h.finite, fun _ => ⟨now, rfl, Int.le_refl _⟩⟩
  · exact h.mono ht

lemma resume (h : Coherent t c) (ht : t ≤ now) : Coherent now (c.resume now) := by
  have hactive : ∀ e, (∀ act, c.activatedAt = some act → 0 < c.durationDays →
        ∃ expire, e = some expire ∧ act.secs + c.durationDays * daySecs ≤ expire.secs) →
      (c.activatedAt = none → e = none) → (c.durationDays = 0 → e = none) →
      Coherent now { c with expireAt := e, status := .active, pausedAt := none } :=
    fun e hfin hidle hunl => ⟨h.nonneg, hidle, hunl, hfin, fun hs => by cases hs⟩
  by_cases hs : c.status = .paused
  · obtain ⟨p, hp, hpt⟩ := h.frozen hs
    have hpn : p.secs ≤ now.secs := Int.le_trans hpt ht
    rw [Clock.resume, if_pos hs]
    cases ha : c.activatedAt with
    | none =>
        have hshift : resumeShift now c = .ok [] := by simp [resumeShift, ha]
        rw [hshift]
        exact hactive c.expireAt h.finite h.idle h.unlimited
    | some act =>
        cases hE : c.expireAt with
        | none =>
            have hshift : resumeShift now c = .ok [] := by simp [resumeShift, ha, hE]
            rw [hshift]
            exact hactive c.expireAt h.finite h.idle h.unlimited
        | some old =>
            cases he : old.add? (now.secs - p.secs) with
            | none =>
                have hshift : ∃ e, resumeShift now c = .error e := by
                  simp [resumeShift, ha, hE, hp, he]
                obtain ⟨e, hshift⟩ := hshift
                rw [hshift]
                exact h.mono ht
            | some expire =>
                have hshift : resumeShift now c = .ok [.expireAt (some expire)] := by
                  simp [resumeShift, ha, hE, hp, he]
                have he' := Stamp.add?_eq_some_iff.mp he
                rw [hshift]
                refine hactive (some expire) (fun a hact hpos => ?_) (fun hn => ?_) fun h0 => ?_
                · obtain ⟨old', hold, hle⟩ := h.finite a hact hpos
                  rw [hE] at hold
                  cases hold
                  exact ⟨expire, rfl, by omega⟩
                · rw [ha] at hn
                  cases hn
                · have hnone := h.unlimited h0
                  rw [hE] at hnone
                  cases hnone
  · rw [Clock.resume, if_neg hs]
    exact h.mono ht

lemma reset (h : Coherent t c) : Coherent t c.reset where
  nonneg := h.nonneg
  idle := fun _ => rfl
  unlimited := fun _ => rfl
  finite := fun act ha => by cases ha
  frozen := fun hs => by cases hs

lemma setEnabled (h : Coherent t c) (enabled : Bool) : Coherent t (c.setEnabled enabled) := by
  cases enabled with
  | true => exact ⟨h.nonneg, h.idle, h.unlimited, h.finite, fun hs => by cases hs⟩
  | false => exact ⟨h.nonneg, h.idle, h.unlimited, h.finite, fun hs => by cases hs⟩

/-- **Every move within the calendar keeps the clock coherent.** -/
theorem step (h : Coherent t c) (ht : t ≤ now) {op : ClockOp} (hv : op.Valid)
    (hcal : InCalendar now c op) : Coherent now (c.step now op) := by
  cases op with
  | fetch => exact h.fetch ht
  | extend days => exact h.extend ht hv hcal
  | setDuration days => exact (h.mono ht).setDuration hv
  | pause => exact h.pause ht
  | resume => exact h.resume ht
  | reset => exact (h.mono ht).reset
  | setEnabled enabled => exact (h.mono ht).setEnabled enabled

end Coherent
end Clock

/-! ### The service -/

/-- The service passes valid arguments on. -/
lemma valid_of_onClock {db : Db} {i : ℕ} {o : Op} {op : ClockOp}
    (h : o.onClock db i = some op) : op.Valid := by
  cases onClock_cases h with
  | extend hd => exact (extendDays_ok hd).2.1
  | setDuration _ h0 _ => exact h0
  | _ => trivial

/-- The user and the days of a renewal the service accepts. -/
def Op.renewal : Op → Option (ℕ × ℤ)
  | .extendUser i days => (extendDays days).toOption.map fun d => (i, d)
  | _ => none

/-- The dates of an operation stay within the year 9999. -/
def Db.InCalendar (db : Db) (e : Timed Stamp Op) : Prop :=
  ∀ r ∈ e.ev.renewal, ∀ c ∈ db.clockOf r.1, c.InCalendar e.at_ (.extend r.2)

instance (db : Db) (e : Timed Stamp Op) : Decidable (db.InCalendar e) :=
  inferInstanceAs (Decidable (∀ r ∈ e.ev.renewal, ∀ c ∈ db.clockOf r.1,
    c.InCalendar e.at_ (.extend r.2)))

/-- The dates of the move an operation makes on a clock. -/
lemma Db.InCalendar.onClock {db : Db} {e : Timed Stamp Op} (h : db.InCalendar e) {i : ℕ}
    {c : Clock} {op : ClockOp} (hc : db.clockOf i = some c) (ho : e.ev.onClock db i = some op) :
    c.InCalendar e.at_ op := by
  obtain ⟨now, ev⟩ := e
  dsimp only at ho
  cases onClock_cases ho with
  | extend hd => exact h (i, _) (by simp [Op.renewal, hd, Except.toOption]) c hc
  | _ => trivial

/-- Empty tables of users, with any settings and any legacy paths. -/
structure Db.Initial (db : Db) : Prop where
  users : db.users = []
  devices : db.userDevices = []

/-- The states the service reaches from empty tables, one operation at a time, by a clock that
never goes back and with dates within the year 9999. -/
def Db.Reachable (lib : NetLib) : Stamp → Db → Prop :=
  Runs.Reachable (Db.step lib) Db.InCalendar Db.Initial

/-- Sound tables, and the clock of every user coherent. -/
structure Db.Coherent (t : Stamp) (db : Db) : Prop where
  sound : db.Sound
  clocks : ∀ i c, db.clockOf i = some c → c.Coherent t

lemma Db.Initial.coherent {db : Db} (h : db.Initial) (t : Stamp) : db.Coherent t := by
  refine ⟨⟨?_, ?_⟩, fun i c hc => ?_⟩
  · rw [h.users]
    exact List.nodup_nil
  · rw [h.users]
    exact fun u hu => by cases hu
  · rw [Db.clockOf, Db.user, h.users] at hc
    cases hc

/-- **Every operation within the calendar keeps every clock coherent.** -/
theorem Db.Coherent.step {t : Stamp} {db : Db} (h : db.Coherent t) (lib : NetLib)
    {e : Timed Stamp Op} (ht : t ≤ e.at_) (hcal : db.InCalendar e) :
    (db.step lib e).Coherent e.at_ := by
  refine ⟨h.sound.step lib e, fun i c' hc' => ?_⟩
  rcases clockOf_step_cases h.sound lib e hc' with ⟨c, hc, rfl⟩ | ⟨n, h0, -, rfl⟩
  · have hcoh := h.clocks i c hc
    cases ho : e.ev.onClock db i with
    | none => exact hcoh.mono ht
    | some op => exact hcoh.step ht (valid_of_onClock ho) (hcal.onClock hc ho)
  · exact Clock.Coherent.fresh h0

theorem coherent_of_reachable {lib : NetLib} {t : Stamp} {db : Db} (h : Db.Reachable lib t db) :
    db.Coherent t :=
  Runs.Reachable.inv (I := fun t db => db.Coherent t) (fun t _ h0 => h0.coherent t)
    (fun _ _ _ hI ht hcal => hI.step lib ht hcal) h

/-- **The clock columns of every user**: no expiry before activation or on an unlimited plan,
an expiry no earlier than the days sold on a finite one, and the date of the pause on a paused
one. -/
theorem reachable_clock_invariant {lib : NetLib} {t : Stamp} {db : Db}
    (h : Db.Reachable lib t db) : ∀ u ∈ db.users,
      (u.activatedAt = none → u.expireAt = none)
      ∧ (u.activatedAt ≠ none → u.durationDays = 0 → u.expireAt = none)
      ∧ (∀ act, u.activatedAt = some act → 0 < u.durationDays →
          ∃ expire, u.expireAt = some expire
            ∧ act.secs + u.durationDays * daySecs ≤ expire.secs)
      ∧ (u.status = .paused → u.pausedAt ≠ none) := by
  intro u hu
  have hcoh := coherent_of_reachable h
  have hc := hcoh.clocks u.id u.clock (Db.clockOf_of_some (hcoh.sound.user_of_mem hu))
  refine ⟨hc.idle, fun _ => hc.unlimited, hc.finite, fun hs => ?_⟩
  obtain ⟨p, hp, -⟩ := hc.frozen hs
  have hp' : u.pausedAt = some p := hp
  rw [hp']
  exact Option.some_ne_none p

/-! ### A sample panel -/

/-- Midnight of a day, counted from 1970-01-01; the last second of the calendar past its end. -/
def Stamp.day (n : ℕ) : Stamp :=
  if h : (n : ℤ) * daySecs ≤ maxSecs then
    ⟨n * daySecs, by simp only [minSecs, daySecs]; omega, h⟩
  else ⟨maxSecs, by decide, le_rfl⟩

/-- The library functions on the two networks and the digests of the sample. -/
def sampleLib : NetLib where
  ipNetwork := fun ip =>
    if ip = "1.2.3.4" then some "1.2.3.0/24"
    else if ip = "5.6.7.8" then some "5.6.7.0/24" else none
  sha256Hex := fun text =>
    if text = "1.2.3.0/24" then "a776cf122ead1c77bdac5ef3d9826f9b1ddc2b0e67e116ca2101adda2fbb4eb4"
    else if text = "5.6.7.0/24" then
      "efabe8b4177800617ab448f05725ee89f0f855eb7f6430f418d61d58db30d6e8"
    else "b23a6a8439c0dde5515893e7c90c1e3233b8616e634470f20dc4928bcf3609bc"

/-- A panel with no users. -/
def sampleDb : Db where
  users := []
  usersSeq := 1
  subscriptionPaths := []
  userDevices := []
  devicesSeq := 1
  settings := [("device_window_days", "7"), ("device_grace_hours", "0")]

/-- The creation of a user with thirty days. -/
def sampleAdd : Op :=
  .addUser { name := some "alice", durationDays := .int 30, customPath := none, note := none,
             maxDevices := .int 1, uuid := "9f1c5e0d7b3a4c2f8e6d1a0b5c4f3e2d",
             draws := ["k3XbQ9pLm2TzR7vW"] }

/-- A fetch of the sample user's link by a client without an address. -/
def sampleFetch : Op := .resolveUserRequest "k3XbQ9pLm2TzR7vW" none (some "v2rayNG/1.8.5")

/-- The panel with the sample user, who has not fetched his link yet. -/
def sampleAdded : Db := Db.step sampleLib sampleDb ⟨Stamp.day 0, sampleAdd⟩

lemma sampleAdded_sound : sampleAdded.Sound :=
  (Db.Initial.coherent ⟨rfl, rfl⟩ (Stamp.day 0)).sound.step sampleLib _

/-- The states a permitted run of the sample reaches. -/
lemma reachable_sample {es : List (Timed Stamp Op)}
    (h : Runs.Allowed (Db.step sampleLib) Db.InCalendar (Stamp.day 0) sampleDb es) :
    Db.Reachable sampleLib (Runs.clock (Stamp.day 0) es)
      (Runs.run (Db.step sampleLib) sampleDb es) :=
  ⟨Stamp.day 0, sampleDb, es, ⟨rfl, rfl⟩, h, rfl, rfl⟩

/-- A user activated on day 0 and put on pause the day after. -/
def samplePaused : List (Timed Stamp Op) :=
  [⟨Stamp.day 0, sampleAdd⟩, ⟨Stamp.day 0, sampleFetch⟩, ⟨Stamp.day 1, .pauseUser 1⟩]

theorem reachable_clock_invariant_sample :
    ∃ u ∈ (Runs.run (Db.step sampleLib) sampleDb samplePaused).users,
      u.status = .paused
      ∧ (u.activatedAt = none → u.expireAt = none)
      ∧ (u.activatedAt ≠ none → u.durationDays = 0 → u.expireAt = none)
      ∧ (∀ act, u.activatedAt = some act → 0 < u.durationDays →
          ∃ expire, u.expireAt = some expire
            ∧ act.secs + u.durationDays * daySecs ≤ expire.secs)
      ∧ (u.status = .paused → u.pausedAt ≠ none) := by
  have hallowed : Runs.Allowed (Db.step sampleLib) Db.InCalendar (Stamp.day 0) sampleDb
      samplePaused := by decide
  have hpaused : ∃ u ∈ (Runs.run (Db.step sampleLib) sampleDb samplePaused).users,
      u.status = .paused := by decide
  obtain ⟨u, hu, hs⟩ := hpaused
  exact ⟨u, hu, hs, reachable_clock_invariant (reachable_sample hallowed) u hu⟩

end V2raySub
