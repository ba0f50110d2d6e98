import V2raySub.Base.Meter
import V2raySub.User.Renewal

/-!
The time a plan is served, against the time that was sold.

* `Clock.Served`: a fetch at this second gets past the disabled, paused and expired checks;
  `resolveUserRequest_served_iff` reads it off the service.
* `servedTime`: the time in which that holds, over a run of the service.
* `metered_elapse`, `metered_step`: time passing and every move but an edit or a reset keep the
  time served and the credit on a prepaid meter.
* `served_add_credit_le`: so **no subscriber is served longer than the days sold**.
-/

namespace V2raySub

/-! ### When a plan is served -/

/-- A fetch at the second `x` gets past the checks of an activated plan. -/
def Clock.Served (c : Clock) (x : ℤ) : Prop :=
  c.status = .active ∧ ∀ expire ∈ c.expireAt, x ≤ expire.secs

instance (c : Clock) : DecidablePred c.Served := fun x =>
  inferInstanceAs (Decidable (c.status = .active ∧ ∀ expire ∈ c.expireAt, x ≤ expire.secs))

/-- The outcomes past the checks of the status and the expiry. -/
def Outcome.PastChecks : Outcome → Prop
  | .disabled | .paused | .expired => False
  | .deviceLimit | .bot | .browser | .serve => True

lemma serveRequest_pastChecks_iff (lib : NetLib) (now : Stamp) (ip ua : Option String)
    (u : UserRow) (db : Db) :
    (serveRequest lib now ip ua u db).2.PastChecks ↔ isExpired now u = false := by
  rw [serveRequest]
  split_ifs with hexp hbot hbr
  · simp [hexp, Outcome.PastChecks]
  · simp [hexp, Outcome.PastChecks]
  · simp [hexp, Outcome.PastChecks]
  · dsimp only
    split_ifs <;> simp [hexp, Outcome.PastChecks]

lemma isExpired_eq_false_iff (now : Stamp) (u : UserRow) :
    isExpired now u = false ↔ ∀ expire ∈ u.expireAt, now.secs ≤ expire.secs := by
  rw [isExpired]
  cases u.expireAt with
  | none => simp
  | some expire => simp

/-- A fetch of an activated user's link gets past the checks exactly when his plan is served. -/
theorem resolveUserRequest_served_iff {db : Db} {p : String} {u : UserRow}
    (hp : db.userByPath p = some u) (ha : u.activatedAt ≠ none) (lib : NetLib) (now : Stamp)
    (ip ua : Option String) :
    (∃ o u', (resolveUserRequest lib now p ip ua db).2 = some (o, u') ∧ o.PastChecks)
      ↔ u.clock.Served now.secs := by
  have hact : ∀ db', activateWith now u db' = (db', some u) := fun db' => by
    rw [activateWith, if_pos (Option.isSome_iff_ne_none.mpr ha)]
  have hclock : u.clock.Served now.secs
      ↔ u.status = .active ∧ isExpired now u = false := by
    rw [isExpired_eq_false_iff]
    rfl
  rw [hclock, resolveUserRequest, hp, resolveUserRequestWith]
  cases hs : u.status with
  | disabled => simp [Outcome.PastChecks]
  | paused => simp [Outcome.PastChecks]
  | active =>
      simp only [hact, true_and]
      rw [← serveRequest_pastChecks_iff lib now ip ua u (db.setUser u.id (contactRow now ip ua))]
      constructor
      · rintro ⟨o, u', heq, ho⟩
        cases heq
        exact ho
      · exact fun h => ⟨_, u, rfl, h⟩

/-! ### Time on the meter -/

/-- The time a plan is served between two readings of the clock, while nothing else happens. -/
def Clock.servedFor (c : Clock) (t now : Stamp) : ℤ := heldFor c.Served t.secs now.secs

lemma Clock.servedFor_active {c : Clock} {expire : Stamp} (hs : c.status = .active)
    (he : c.expireAt = some expire) (t now : Stamp) :
    c.servedFor t now = max 0 (min now.secs expire.secs - t.secs) := by
  have hiff : ∀ x, c.Served x ↔ x ≤ expire.secs := fun x => by simp [Clock.Served, hs, he]
  rw [Clock.servedFor, heldFor_congr hiff, heldFor_le]

lemma Clock.servedFor_of_ne_active {c : Clock} (hs : c.status ≠ .active) (t now : Stamp) :
    c.servedFor t now = 0 := heldFor_false (fun _ h => hs h.1) _ _

/-- A meter shows the days sold, the time served and the credit of a finite plan that was
activated. -/
structure Metered (t : Stamp) (served : ℤ) (c : Clock) : Prop where
  coherent : c.Coherent t
  activated : c.activatedAt ≠ none
  finite : 0 < c.durationDays
  meter : ∃ m : Meter, m.Shows (c.durationDays * daySecs) served (c.credit t)

lemma Metered.credit_bound {t : Stamp} {served : ℤ} {c : Clock} (h : Metered t served c) :
    served + c.credit t ≤ c.durationDays * daySecs := by
  obtain ⟨m, hsold, rfl, hleft⟩ := h.meter
  rw [← hleft, ← hsold]
  exact m.bound

namespace Metered

variable {t now : Stamp} {served : ℤ} {c : Clock}

lemma exists_expire (h : Metered t served c) : ∃ expire, c.expireAt = some expire :=
  h.coherent.exists_expire h.activated h.finite.ne'

/-- What time takes from the credit of a plan is at least the time it is served. -/
lemma servedFor_add_credit_le (h : Metered t served c) (ht : t ≤ now) :
    c.servedFor t now + c.credit now ≤ c.credit t := by
  have ht' : t.secs ≤ now.secs := ht
  obtain ⟨expire, he⟩ := h.exists_expire
  cases hs : c.status with
  | active =>
      have hne : c.status ≠ .paused := by simp [hs]
      rw [Clock.servedFor_active hs he, Clock.credit_running _ h.activated hne he,
        Clock.credit_running _ h.activated hne he]
      omega
  | paused =>
      obtain ⟨p, hp, -⟩ := h.coherent.frozen hs
      rw [Clock.servedFor_of_ne_active (by simp [hs]), Clock.credit_paused _ h.activated hs he hp,
        Clock.credit_paused _ h.activated hs he hp]
      omega
  | disabled =>
      have hne : c.status ≠ .paused := by simp [hs]
      rw [Clock.servedFor_of_ne_active (by simp [hs]), Clock.credit_running _ h.activated hne he,
        Clock.credit_running _ h.activated hne he]
      omega

/-- **Time passing** moves credit to the time served, or loses it. -/
lemma elapse (h : Metered t served c) (ht : t ≤ now) :
    Metered now (served + c.servedFor t now) c := by
  obtain ⟨m, hm⟩ := h.meter
  exact ⟨h.coherent.mono ht, h.activated, h.finite,
    hm.use (Clock.credit_nonneg now h.coherent.nonneg) (h.servedFor_add_credit_le ht)⟩

/-- A move that leaves the plan finite and activated, with no more credit than before. -/
lemma of_credit_le (h : Metered t served c) {c' : Clock} (hcoh : c'.Coherent t)
    (ha : c'.activatedAt ≠ none) (hn : c'.durationDays = c.durationDays)
    (hle : c'.credit t ≤ c.credit t) : Metered t served c' := by
  obtain ⟨m, hm⟩ := h.meter
  refine ⟨hcoh, ha, by rw [hn]; exact h.finite, ?_⟩
  rw [hn]
  exact hm.lose (Clock.credit_nonneg t hcoh.nonneg) hle

/-- A renewal buys its days, and a plan paused after its expiry loses a part of them. -/
lemma extend (h : Metered t served c) {days : ℤ} (hd : 0 < days)
    (hcal : c.InCalendar t (.extend days)) : Metered t served (c.extend t days) := by
  have hn := h.finite.ne'
  have hcoh := h.coherent.extend (Int.le_refl _ : t ≤ t) hd hcal
  obtain ⟨expire, -, hext⟩ := Clock.extend_of_inCalendar hd.le h.activated hn
    (hcal h.activated hn)
  obtain ⟨m, hm⟩ := h.meter
  have hle : (c.extend t days).credit t ≤ c.credit t + days * daySecs := by
    by_cases hbad : c.PausedAfterExpiry
    · exact (Clock.credit_extend_of_pausedAfterExpiry hbad hn hd hcal).le
    · exact (Clock.credit_extend h.coherent hn hd.le hcal hbad).le
  have hbuy := hm.buy (Int.mul_nonneg hd.le (by decide))
    (Clock.credit_nonneg t hcoh.nonneg) hle
  rw [← Int.add_mul] at hbuy
  have hdur : (c.extend t days).durationDays = c.durationDays + days := by rw [hext]
  rw [← hdur] at hbuy
  refine ⟨hcoh, by rw [hext]; exact h.activated, ?_, hbuy⟩
  have := h.finite
  rw [hdur]
  omega

lemma pause (h : Metered t served c) : Metered t served (c.pause t) := by
  by_cases hs : c.status = .active
  · obtain ⟨expire, he⟩ := h.exists_expire
    have hcoh := h.coherent.pause (Int.le_refl _ : t ≤ t)
    rw [Clock.pause, if_pos hs] at hcoh ⊢
    refine h.of_credit_le hcoh h.activated rfl ?_
    have hnew := Clock.credit_paused t (c := { c with status := .paused, pausedAt := some t })
      h.activated rfl he rfl
    rw [hnew, Clock.credit_running t h.activated (by simp [hs]) he]
  · rwa [Clock.pause, if_neg hs]

lemma resume (h : Metered t served c) : Metered t served (c.resume t) := by
  by_cases hs : c.status = .paused
  · obtain ⟨expire, he⟩ := h.exists_expire
    obtain ⟨p, hp, hpt⟩ := h.coherent.frozen hs
    by_cases hcal : expire.secs + (t.secs - p.secs) ≤ maxSecs
    · obtain ⟨expire', he', hres⟩ := Clock.resume_of_inCalendar h.activated hs he hp hpt hcal
      have hcoh := h.coherent.resume (Int.le_refl _ : t ≤ t)
      rw [hres] at hcoh ⊢
      refine h.of_credit_le hcoh h.activated rfl ?_
      have hnew := Clock.credit_running t
        (c := { c with expireAt := some expire', status := .active, pausedAt := none })
        h.activated (by simp) rfl
      rw [hnew, Clock.credit_paused t h.activated hs he hp, he']
      omega
    · -- a date outside the calendar: the row stays as it is
      have hnone : expire.add? (t.secs - p.secs) = none :=
        Stamp.add?_eq_none_iff.mpr (Or.inr (by omega))
      obtain ⟨act, ha⟩ := Option.ne_none_iff_exists'.mp h.activated
      have hres : c.resume t = c := by simp [Clock.resume, hs, resumeShift, ha, hp, he, hnone]
      rwa [hres]
  · rwa [Clock.resume, if_neg hs]

lemma setEnabled (h : Metered t served c) (enabled : Bool) :
    Metered t served (c.setEnabled enabled) := by
  obtain ⟨expire, he⟩ := h.exists_expire
  have hcoh := h.coherent.setEnabled enabled
  have hact : (c.setEnabled enabled).activatedAt ≠ none := by
    cases enabled with
    | true => exact h.activated
    | false => exact h.activated
  have hexp : (c.setEnabled enabled).expireAt = some expire := by
    cases enabled with
    | true => exact he
    | false => exact he
  have hstat : (c.setEnabled enabled).status ≠ .paused := by
    cases enabled with
    | true => simp [Clock.setEnabled]
    | false => simp [Clock.setEnabled]
  refine h.of_credit_le hcoh hact (by cases enabled <;> rfl) ?_
  rw [Clock.credit_running t hact hstat hexp]
  by_cases hs : c.status = .paused
  · obtain ⟨p, hp, hpt⟩ := h.coherent.frozen hs
    rw [Clock.credit_paused t h.activated hs he hp]
    omega
  · rw [Clock.credit_running t h.activated hs he]

end Metered

/-! ### Runs of the service -/

/-- Neither an edit, nor a reset, nor the deletion of the user `i`. -/
def Op.keeps (i : ℕ) : Op → Bool
  | .updateUser j _ | .resetUser j | .deleteUser j => j ≠ i
  | _ => true

/-- The operations of a run that sells and serves the plan of the user `i`. -/
def Db.Sells (i : ℕ) (db : Db) (e : Timed Stamp Op) : Prop := db.InCalendar e ∧ e.ev.keeps i = true

instance (i : ℕ) (db : Db) (e : Timed Stamp Op) : Decidable (db.Sells i e) :=
  inferInstanceAs (Decidable (_ ∧ _))

/-- The time the user `i` is served, from the reading `t` over the run and until the end. -/
def servedTime (lib : NetLib) (i : ℕ) : Stamp → Db → List (Timed Stamp Op) → Stamp → ℤ
  | t, db, [], till => ((db.clockOf i).map (·.servedFor t till)).getD 0
  | t, db, e :: es, till =>
    ((db.clockOf i).map (·.servedFor t e.at_)).getD 0
      + servedTime lib i e.at_ (db.step lib e) es till

/-- First use of a finite plan starts the meter. -/
lemma metered_fetch {now : Stamp} {c : Clock} (hs : c.status = .active)
    (ha : c.activatedAt = none) (hn : 0 < c.durationDays)
    (hcal : now.secs + c.durationDays * daySecs ≤ maxSecs) : Metered now 0 (c.fetch now) := by
  have hpos : 0 ≤ c.durationDays * daySecs := Int.mul_nonneg hn.le (by decide)
  obtain ⟨expire, he⟩ := Option.isSome_iff_exists.mp ((Stamp.add?_isSome_iff hpos).mpr hcal)
  have hfetch : c.fetch now = { c with activatedAt := some now, expireAt := some expire } := by
    simp [Clock.fetch, hs, ha, activationExpiry, hn.not_ge, he]
  have he' := Stamp.add?_eq_some_iff.mp he
  rw [hfetch]
  refine ⟨⟨hn.le, fun h => ?_, fun h => absurd h hn.ne', fun act hact _ => ?_, fun h => ?_⟩,
    Option.some_ne_none _, hn, ?_⟩
  · cases h
  · cases hact
    exact ⟨expire, rfl, he'.ge⟩
  · have h' : c.status = .paused := h
    rw [hs] at h'
    cases h'
  · have hcredit := Clock.credit_running now
      (c := { c with activatedAt := some now, expireAt := some expire })
      (Option.some_ne_none _) (by simp [hs]) rfl
    have hleft : max 0 (expire.secs - now.secs) = c.durationDays * daySecs := by omega
    rw [hcredit, hleft]
    exact ⟨⟨c.durationDays * daySecs, 0, c.durationDays * daySecs, hpos, by omega⟩, rfl, rfl, rfl⟩

/-- Every move of a run that sells and serves the plan keeps it on the meter. -/
lemma metered_stepOr {t : Stamp} {served : ℤ} {c : Clock} (h : Metered t served c) {db : Db}
    {i : ℕ} {e : Timed Stamp Op} (ht : e.at_ = t) (hc : db.clockOf i = some c)
    (hok : db.Sells i e) : Metered t served (c.stepOr t (e.ev.onClock db i)) := by
  subst ht
  cases ho : e.ev.onClock db i with
  | none => exact h
  | some op =>
      have hcal := hok.1.onClock hc ho
      have hcases := onClock_cases ho
      have hkeeps := hok.2
      generalize e.ev = ev at hcases hkeeps
      cases hcases with
      | fetch ip ua hp hi =>
          have hfetch : c.fetch e.at_ = c := by simp [Clock.fetch, h.activated]
          show Metered e.at_ served (c.fetch e.at_)
          rwa [hfetch]
      | extend hd => exact h.extend (extendDays_ok hd).2.1 hcal
      | setDuration hn h0 h1 => simp [Op.keeps] at hkeeps
      | pause => exact h.pause
      | resume => exact h.resume
      | reset => simp [Op.keeps] at hkeeps
      | setEnabled enabled => exact h.setEnabled enabled

/-- A run that sells and serves the plan keeps it on the meter, with the time it is served. -/
lemma metered_run {lib : NetLib} {i : ℕ} {es : List (Timed Stamp Op)} {t : Stamp} {db : Db}
    {served : ℤ} {c : Clock} (hdb : db.Sound) (hc : db.clockOf i = some c)
    (h : Metered t served c) (hes : Runs.Allowed (Db.step lib) (Db.Sells i) t db es)
    {till : Stamp} (hu : Runs.clock t es ≤ till) :
    ∃ c', (Runs.run (Db.step lib) db es).clockOf i = some c'
      ∧ Metered till (served + servedTime lib i t db es till) c' := by
  induction es generalizing t db served c with
  | nil =>
      refine ⟨c, hc, ?_⟩
      have helapse := h.elapse hu
      simpa [servedTime, hc] using helapse
  | cons e es ih =>
      obtain ⟨ht, hok, hes⟩ := Runs.allowed_cons.mp hes
      have hdel : e.ev ≠ .deleteUser i := fun h => by
        have hkeeps := hok.2
        simp [h, Op.keeps] at hkeeps
      have hc' := clockOf_step hdb lib e hc hdel
      have hm := metered_stepOr (h.elapse ht) rfl hc hok
      obtain ⟨c', hrun, hend⟩ := ih (hdb.step lib e) hc' hm hes hu
      refine ⟨c', hrun, ?_⟩
      simpa [servedTime, hc, Int.add_assoc] using hend

/-- **No subscriber is over-served.**  From the first use of a finite plan, over every run that
neither edits nor resets it and at every later moment, the time in which a fetch gets past the
checks and the credit still outstanding are together at most the days sold. -/
theorem served_add_credit_le {lib : NetLib} {db : Db} (hdb : db.Sound) {p : String} {u : UserRow}
    (hp : db.userByPath p = some u) (hs : u.status = .active) (ha : u.activatedAt = none)
    (hn : 0 < u.durationDays) {t₀ : Stamp} (ip ua : Option String)
    (hcal : t₀.secs + u.durationDays * daySecs ≤ maxSecs) {es : List (Timed Stamp Op)}
    (hes : Runs.Allowed (Db.step lib) (Db.Sells u.id) t₀
      (db.step lib ⟨t₀, .resolveUserRequest p ip ua⟩) es)
    {till : Stamp} (hu : Runs.clock t₀ es ≤ till) :
    ∃ c, (Runs.run (Db.step lib) (db.step lib ⟨t₀, .resolveUserRequest p ip ua⟩) es).clockOf u.id
        = some c
      ∧ servedTime lib u.id t₀ (db.step lib ⟨t₀, .resolveUserRequest p ip ua⟩) es till
          + c.credit till ≤ c.durationDays * daySecs := by
  have huser := hdb.user_of_path hp
  have hstep := clockOf_step hdb lib ⟨t₀, .resolveUserRequest p ip ua⟩
    (Db.clockOf_of_some huser) (by simp)
  have hop : Op.onClock db u.id (.resolveUserRequest p ip ua) = some .fetch := by
    simp [Op.onClock, hp]
  rw [hop] at hstep
  obtain ⟨c, hrun, hm⟩ := metered_run (hdb.step lib _) hstep
    (metered_fetch (c := u.clock) hs ha hn hcal) hes hu
  refine ⟨c, hrun, ?_⟩
  have hle := hm.credit_bound
  rwa [Int.zero_add] at hle

theorem served_add_credit_le_sample :
    ∃ c, (Runs.run (Db.step sampleLib) (sampleAdded.step sampleLib ⟨Stamp.day 0, sampleFetch⟩)
          [⟨Stamp.day 2, .pauseUser 1⟩, ⟨Stamp.day 5, .resumeUser 1⟩,
           ⟨Stamp.day 40, .extendUser 1 (.int 10)⟩]).clockOf 1 = some c
      ∧ servedTime sampleLib 1 (Stamp.day 0)
            (sampleAdded.step sampleLib ⟨Stamp.day 0, sampleFetch⟩)
            [⟨Stamp.day 2, .pauseUser 1⟩, ⟨Stamp.day 5, .resumeUser 1⟩,
             ⟨Stamp.day 40, .extendUser 1 (.int 10)⟩] (Stamp.day 45)
          + c.credit (Stamp.day 45) ≤ c.durationDays * daySecs :=
  served_add_credit_le
    (u := newUserRow (Stamp.day 0) 1
      { name := some "alice", durationDays := .int 30, customPath := none, note := none,
        maxDevices := .int 1, uuid := "9f1c5e0d7b3a4c2f8e6d1a0b5c4f3e2d",
        draws := ["k3XbQ9pLm2TzR7vW"] } "alice" "k3XbQ9pLm2TzR7vW" 30 1)
    sampleAdded_sound (by decide) rfl rfl (by decide) none (some "v2rayNG/1.8.5") (by decide)
    (by decide) (by decide)

end V2raySub
