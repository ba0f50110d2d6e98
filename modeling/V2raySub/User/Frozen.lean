import V2raySub.User.Renewal

/-!
The frozen remainder of a paused plan, on its way back to `ACTIVE`.

* `Op.switches`: everything but a renewal, an edit, a reset and the deletion of the user.
* `disabledTime`: the time a run spends in `DISABLED`.
* `Clock.lost`: what the first call that takes the plan out of `PAUSED` costs: nothing if it is
  `resume_user`, and the whole pause if it is `set_user_enabled`.
* `remaining_of_disabled`, `remaining_of_paused`: the remainder of a plan at the first moment it
  is active again, by the phase it starts from.
* `pause_keeps_remainder_iff`: so a pause consumes nothing exactly if it is left by
  `resume_user`, or at the very second it began.
-/

namespace V2raySub

/-- Neither a renewal, nor an edit, nor a reset, nor the deletion of the user `i`. -/
def Op.switches (i : ℕ) : Op → Bool
  | .extendUser j _ | .updateUser j _ | .resetUser j | .deleteUser j => j ≠ i
  | _ => true

/-- The status of a user. -/
def Db.statusOf (db : Db) (i : ℕ) : Option UserStatus := (db.clockOf i).map Clock.status

/-- The user `i` is active. -/
def Db.IsActive (i : ℕ) (db : Db) : Prop := db.statusOf i = some .active

instance (i : ℕ) : DecidablePred (Db.IsActive i) := fun db =>
  inferInstanceAs (Decidable (db.statusOf i = some .active))

lemma isActive_iff {i : ℕ} {db : Db} {c : Clock} (hc : db.clockOf i = some c) :
    Db.IsActive i db ↔ c.status = .active := by
  rw [Db.IsActive, Db.statusOf, hc, Option.map_some, Option.some.injEq]

/-- The time the user `i` spends in `DISABLED`, from the reading `t` over the run. -/
def disabledTime (lib : NetLib) (i : ℕ) : Stamp → Db → List (Timed Stamp Op) → ℤ
  | _, _, [] => 0
  | t, db, e :: es =>
    (if db.statusOf i = some .disabled then e.at_.secs - t.secs else 0)
      + disabledTime lib i e.at_ (db.step lib e) es

/-- The call takes the user `i` out of a pause that began on `p`, if his expiry is `expire`:
`set_user_enabled`, or `resume_user` with the shifted expiry within the calendar. -/
def leavesPause (i : ℕ) (p expire : Stamp) (e : Timed Stamp Op) : Bool :=
  match e.ev with
  | .setUserEnabled j _ => j = i
  | .resumeUser j => j = i && expire.secs + (e.at_.secs - p.secs) ≤ maxSecs
  | _ => false

/-- The time of the pause that the call taking the user out of it does not give back. -/
def lostBy (i : ℕ) (p : Stamp) (e : Timed Stamp Op) : ℤ :=
  if e.ev = .resumeUser i then 0 else e.at_.secs - p.secs

/-- The moves of a run without renewals, edits and resets. -/
lemma onClock_switches {db : Db} {i : ℕ} {o : Op} {op : ClockOp}
    (ho : o.onClock db i = some op) (hk : o.switches i = true) :
    op = .fetch ∨ (op = .pause ∧ o = .pauseUser i) ∨ (op = .resume ∧ o = .resumeUser i)
      ∨ ∃ enabled, op = .setEnabled enabled ∧ o = .setUserEnabled i enabled := by
  cases onClock_cases ho with
  | fetch ip ua hp hi => exact Or.inl rfl
  | extend hd => simp [Op.switches] at hk
  | setDuration hn h0 h1 => simp [Op.switches] at hk
  | pause => exact Or.inr (Or.inl ⟨rfl, rfl⟩)
  | resume => exact Or.inr (Or.inr (Or.inl ⟨rfl, rfl⟩))
  | reset => simp [Op.switches] at hk
  | setEnabled enabled => exact Or.inr (Or.inr (Or.inr ⟨enabled, rfl, rfl⟩))

lemma leavesPause_cases {i : ℕ} {p expire : Stamp} {e : Timed Stamp Op}
    (h : leavesPause i p expire e = true) :
    (e.ev = .resumeUser i ∧ expire.secs + (e.at_.secs - p.secs) ≤ maxSecs)
      ∨ ∃ enabled, e.ev = .setUserEnabled i enabled := by
  obtain ⟨now, ev⟩ := e
  cases ev with
  | resumeUser j =>
      obtain ⟨rfl, hcal⟩ : j = i ∧ expire.secs + (now.secs - p.secs) ≤ maxSecs := by
        simpa [leavesPause] using h
      exact Or.inl ⟨rfl, hcal⟩
  | setUserEnabled j enabled =>
      obtain rfl : j = i := by simpa [leavesPause] using h
      exact Or.inr ⟨enabled, rfl⟩
  | _ => simp [leavesPause] at h

/-- A call to the user's switches is a move of his clock. -/
lemma onClock_resumeUser (db : Db) (i : ℕ) :
    Op.onClock db i (.resumeUser i) = some .resume := by simp [Op.onClock]

lemma onClock_setUserEnabled (db : Db) (i : ℕ) (enabled : Bool) :
    Op.onClock db i (.setUserEnabled i enabled) = some (.setEnabled enabled) := by
  simp [Op.onClock]

/-! ### From `DISABLED` -/

/-- A disabled clock stays as it is until it is enabled. -/
lemma disabled_stepOr {db : Db} {i : ℕ} {c : Clock} (hs : c.status = .disabled) {e : Timed Stamp Op}
    (hk : e.ev.switches i = true) :
    c.stepOr e.at_ (e.ev.onClock db i) = c
      ∨ c.stepOr e.at_ (e.ev.onClock db i) = c.setEnabled true := by
  cases ho : e.ev.onClock db i with
  | none => exact Or.inl rfl
  | some op =>
      rcases onClock_switches ho hk with rfl | ⟨rfl, -⟩ | ⟨rfl, -⟩ | ⟨enabled, rfl, -⟩
      · exact Or.inl (by simp [Clock.stepOr, Clock.step, Clock.fetch, hs])
      · exact Or.inl (by simp [Clock.stepOr, Clock.step, Clock.pause, hs])
      · exact Or.inl (by simp [Clock.stepOr, Clock.step, Clock.resume, hs])
      · cases enabled with
        | true => exact Or.inr rfl
        | false =>
            refine Or.inl ?_
            show { c with status := .disabled } = c
            rw [← hs]

/-- A disabled plan is active again with the expiry it has, all of the time spent disabled. -/
lemma remaining_of_disabled {lib : NetLib} {i : ℕ} {es : List (Timed Stamp Op)} {t : Stamp}
    {db : Db} {c : Clock} (hdb : db.Sound) (hc : db.clockOf i = some c)
    (hs : c.status = .disabled) (hk : ∀ e ∈ es, e.ev.switches i = true)
    (hend : Runs.EndsAt (Db.step lib) (Db.IsActive i) db es) :
    ∃ c', (Runs.run (Db.step lib) db es).clockOf i = some c' ∧ c'.expireAt = c.expireAt
      ∧ disabledTime lib i t db es = (Runs.clock t es).secs - t.secs := by
  induction es generalizing t db with
  | nil => exact hend.elim
  | cons e es ih =>
      have hke := hk e List.mem_cons_self
      have hdel : e.ev ≠ .deleteUser i := fun h => by simp [h, Op.switches] at hke
      have hc' := clockOf_step hdb lib e hc hdel
      have hstat : db.statusOf i = some .disabled := by rw [Db.statusOf, hc, Option.map_some, hs]
      have htime : disabledTime lib i t db (e :: es)
          = e.at_.secs - t.secs + disabledTime lib i e.at_ (db.step lib e) es := by
        rw [disabledTime, if_pos hstat]
      rcases disabled_stepOr hs hke with heq | heq
      · -- still disabled
        rw [heq] at hc'
        have hnot : ¬ Db.IsActive i (db.step lib e) := by
          rw [isActive_iff hc', hs]
          exact nofun
        obtain ⟨c', hrun, hexp, htail⟩ := ih (hdb.step lib e) hc'
          (fun e' he' => hk e' (List.mem_cons_of_mem _ he')) (hend.tail hnot)
        refine ⟨c', hrun, hexp, ?_⟩
        rw [htime, htail, Runs.clock_cons]
        omega
      · -- enabled: the run ends here
        rw [heq] at hc'
        obtain rfl := hend.nil_of_holds ((isActive_iff hc').mpr rfl)
        refine ⟨_, hc', rfl, ?_⟩
        rw [htime, Runs.clock_cons, Runs.clock_nil, disabledTime, Int.add_zero]

/-! ### From `PAUSED` -/

/-- A paused clock stays as it is until a call takes it out of its pause. -/
lemma paused_stepOr {db : Db} {i : ℕ} {c : Clock} {p expire : Stamp} (ha : c.activatedAt ≠ none)
    (hs : c.status = .paused) (he : c.expireAt = some expire) (hp : c.pausedAt = some p)
    {e : Timed Stamp Op} (hk : e.ev.switches i = true)
    (hl : leavesPause i p expire e = false) : c.stepOr e.at_ (e.ev.onClock db i) = c := by
  cases ho : e.ev.onClock db i with
  | none => rfl
  | some op =>
      rcases onClock_switches ho hk with rfl | ⟨rfl, -⟩ | ⟨rfl, hev⟩ | ⟨enabled, rfl, hev⟩
      · simp [Clock.stepOr, Clock.step, Clock.fetch, hs]
      · simp [Clock.stepOr, Clock.step, Clock.pause, hs]
      · -- the shifted expiry is outside the calendar
        have hcal : maxSecs < expire.secs + (e.at_.secs - p.secs) := by
          simpa [leavesPause, hev] using hl
        have hnone : expire.add? (e.at_.secs - p.secs) = none :=
          Stamp.add?_eq_none_iff.mpr (Or.inr hcal)
        obtain ⟨act, ha⟩ := Option.ne_none_iff_exists'.mp ha
        simp [Clock.stepOr, Clock.step, Clock.resume, hs, resumeShift, ha, hp, he, hnone]
      · simp [leavesPause, hev] at hl

/-- The remainder of a paused plan at the first moment it is active again: the frozen one, less
the time spent disabled and what the call that took it out of its pause did not give back. -/
lemma remaining_of_paused {lib : NetLib} {i : ℕ} {es : List (Timed Stamp Op)} {t : Stamp}
    {db : Db} {c : Clock} {p expire : Stamp} (hdb : db.Sound) (hc : db.clockOf i = some c)
    (ha : c.activatedAt ≠ none) (hs : c.status = .paused) (he : c.expireAt = some expire)
    (hp : c.pausedAt = some p) (hpt : p ≤ t)
    (hes : Runs.Allowed (Db.step lib) (fun _ e => e.ev.switches i = true) t db es)
    (hend : Runs.EndsAt (Db.step lib) (Db.IsActive i) db es) :
    ∃ e₀ c' expire', es.find? (leavesPause i p expire) = some e₀
      ∧ (Runs.run (Db.step lib) db es).clockOf i = some c' ∧ c'.expireAt = some expire'
      ∧ expire'.secs - (Runs.clock t es).secs
          = expire.secs - p.secs - disabledTime lib i t db es - lostBy i p e₀ := by
  induction es generalizing t db with
  | nil => exact hend.elim
  | cons e es ih =>
      obtain ⟨ht, hke, hes⟩ := Runs.allowed_cons.mp hes
      have hdel : e.ev ≠ .deleteUser i := fun h => by simp [h, Op.switches] at hke
      have hc' := clockOf_step hdb lib e hc hdel
      have hpe : p ≤ e.at_ := Int.le_trans hpt ht
      have htime : disabledTime lib i t db (e :: es)
          = disabledTime lib i e.at_ (db.step lib e) es := by
        rw [disabledTime, if_neg (by rw [Db.statusOf, hc, Option.map_some, hs]; simp),
          Int.zero_add]
      cases hl : leavesPause i p expire e with
      | false =>
          -- still paused
          rw [paused_stepOr ha hs he hp hke hl] at hc'
          have hnot : ¬ Db.IsActive i (db.step lib e) := by
            rw [isActive_iff hc', hs]
            exact nofun
          obtain ⟨e₀, c', expire', hfind, hrest⟩ := ih (hdb.step lib e) hc' hpe hes (hend.tail hnot)
          refine ⟨e₀, c', expire', ?_, ?_⟩
          · rw [List.find?_cons, hl]
            exact hfind
          · rw [htime]
            exact hrest
      | true =>
          have hfind : (e :: es).find? (leavesPause i p expire) = some e := by
            rw [List.find?_cons, hl]
          rcases leavesPause_cases hl with ⟨hev, hcal⟩ | ⟨enabled, hev⟩
          · -- resumed: the run ends with the whole remainder
            rw [hev, onClock_resumeUser] at hc'
            obtain ⟨expire', he', hres⟩ := Clock.resume_of_inCalendar ha hs he hp hpe hcal
            have hc'' : (db.step lib e).clockOf i = some (c.resume e.at_) := hc'
            have hact : Db.IsActive i (db.step lib e) := by
              rw [isActive_iff hc'', hres]
            obtain rfl := hend.nil_of_holds hact
            refine ⟨e, _, expire', hfind, hc'', by rw [hres], ?_⟩
            rw [htime, Runs.clock_cons, Runs.clock_nil, disabledTime, lostBy, if_pos hev, he']
            omega
          · have hlost : lostBy i p e = e.at_.secs - p.secs := by
              rw [lostBy, if_neg (by rw [hev]; simp)]
            rw [hev, onClock_setUserEnabled] at hc'
            cases enabled with
            | true =>
                -- enabled: the run ends with what the pause left
                obtain rfl := hend.nil_of_holds ((isActive_iff hc').mpr rfl)
                refine ⟨e, _, expire, hfind, hc', he, ?_⟩
                rw [htime, Runs.clock_cons, Runs.clock_nil, disabledTime, hlost]
                omega
            | false =>
                -- disabled: the rest of the run starts from there
                have hnot : ¬ Db.IsActive i (db.step lib e) := by
                  rw [isActive_iff hc']
                  exact nofun
                obtain ⟨c', hrun, hexp, htail⟩ := remaining_of_disabled (t := e.at_)
                  (hdb.step lib e) hc' rfl hes.forall_ok (hend.tail hnot)
                refine ⟨e, c', expire, hfind, hrun, hexp.trans he, ?_⟩
                rw [htime, htail, hlost, Runs.clock_cons]
                omega

/-- **Pausing and the remaining time.**  At the first moment a paused plan is active again, it
has left exactly its frozen remainder less the time spent disabled, if and only if the first
call that takes it out of its pause is `resume_user` or comes at the second the pause began. -/
theorem pause_keeps_remainder_iff {lib : NetLib} {i : ℕ} {es : List (Timed Stamp Op)} {t : Stamp}
    {db : Db} {c : Clock} {p expire : Stamp} (hdb : db.Sound) (hc : db.clockOf i = some c)
    (ha : c.activatedAt ≠ none) (hs : c.status = .paused) (he : c.expireAt = some expire)
    (hp : c.pausedAt = some p) (hpt : p ≤ t)
    (hes : Runs.Allowed (Db.step lib) (fun _ e => e.ev.switches i = true) t db es)
    (hend : Runs.EndsAt (Db.step lib) (Db.IsActive i) db es) :
    (∃ c' expire', (Runs.run (Db.step lib) db es).clockOf i = some c'
        ∧ c'.expireAt = some expire'
        ∧ expire'.secs - (Runs.clock t es).secs
            = expire.secs - p.secs - disabledTime lib i t db es)
      ↔ ∀ e₀ ∈ es.find? (leavesPause i p expire), e₀.ev = .resumeUser i ∨ e₀.at_ = p := by
  obtain ⟨e₀, c', expire', hfind, hrun, hexp, heq⟩ :=
    remaining_of_paused hdb hc ha hs he hp hpt hes hend
  have hlost : lostBy i p e₀ = 0 ↔ e₀.ev = .resumeUser i ∨ e₀.at_ = p := by
    rw [lostBy, Stamp.ext_iff]
    split_ifs with h
    · simp [h]
    · simp only [h, false_or]
      omega
  rw [hfind]
  simp only [Option.mem_def, Option.some.injEq, forall_eq']
  rw [← hlost, hrun]
  constructor
  · rintro ⟨c'', expire'', hc'', hexp'', heq''⟩
    cases hc''
    rw [hexp] at hexp''
    cases hexp''
    omega
  · exact fun h0 => ⟨c', expire', rfl, hexp, by omega⟩

/-- The sample user on pause since day 1, with 29 days left. -/
def sampleFrozen : Db := Runs.run (Db.step sampleLib) sampleDb samplePaused

lemma sampleFrozen_sound : sampleFrozen.Sound :=
  (coherent_of_reachable (reachable_sample (by decide : Runs.Allowed (Db.step sampleLib)
    Db.InCalendar (Stamp.day 0) sampleDb samplePaused))).sound

/-- Disabled on day 3 and enabled on day 5. -/
theorem pause_keeps_remainder_iff_sample :
    (∃ c' expire', (Runs.run (Db.step sampleLib) sampleFrozen
          [⟨Stamp.day 3, .setUserEnabled 1 false⟩, ⟨Stamp.day 5, .setUserEnabled 1 true⟩]).clockOf 1
            = some c'
        ∧ c'.expireAt = some expire'
        ∧ expire'.secs - (Runs.clock (Stamp.day 1) [⟨Stamp.day 3, Op.setUserEnabled 1 false⟩,
              ⟨Stamp.day 5, .setUserEnabled 1 true⟩]).secs
            = (Stamp.day 30).secs - (Stamp.day 1).secs
              - disabledTime sampleLib 1 (Stamp.day 1) sampleFrozen
                [⟨Stamp.day 3, .setUserEnabled 1 false⟩, ⟨Stamp.day 5, .setUserEnabled 1 true⟩])
      ↔ ∀ e₀ ∈ [⟨Stamp.day 3, Op.setUserEnabled 1 false⟩,
            ⟨Stamp.day 5, .setUserEnabled 1 true⟩].find?
              (leavesPause 1 (Stamp.day 1) (Stamp.day 30)),
          e₀.ev = .resumeUser 1 ∨ e₀.at_ = Stamp.day 1 :=
  pause_keeps_remainder_iff
    (c := { status := .paused, durationDays := 30, activatedAt := some (Stamp.day 0),
            expireAt := some (Stamp.day 30), pausedAt := some (Stamp.day 1) })
    sampleFrozen_sound (by decide) (by decide) rfl rfl rfl (by decide) (by decide) (by decide)

/-- Enabled on day 11, the sample user has 19 of his 29 days left. -/
theorem enable_loses_pause :
    sampleFrozen.Sound
      ∧ sampleFrozen.clockOf 1 = some
          { status := .paused, durationDays := 30, activatedAt := some (Stamp.day 0),
            expireAt := some (Stamp.day 30), pausedAt := some (Stamp.day 1) }
      ∧ Runs.EndsAt (Db.step sampleLib) (Db.IsActive 1) sampleFrozen
          [⟨Stamp.day 11, .setUserEnabled 1 true⟩]
      ∧ disabledTime sampleLib 1 (Stamp.day 1) sampleFrozen
          [⟨Stamp.day 11, .setUserEnabled 1 true⟩] = 0
      ∧ ¬ ∃ c' expire', (Runs.run (Db.step sampleLib) sampleFrozen
            [⟨Stamp.day 11, .setUserEnabled 1 true⟩]).clockOf 1 = some c'
          ∧ c'.expireAt = some expire'
          ∧ expire'.secs - (Stamp.day 11).secs = (Stamp.day 30).secs - (Stamp.day 1).secs := by
  refine ⟨sampleFrozen_sound, by decide, by decide, by decide, ?_⟩
  rintro ⟨c', expire', hc', he', heq⟩
  have hclock : (Runs.run (Db.step sampleLib) sampleFrozen
      [⟨Stamp.day 11, .setUserEnabled 1 true⟩]).clockOf 1
        = some { status := .active, durationDays := 30, activatedAt := some (Stamp.day 0),
                 expireAt := some (Stamp.day 30), pausedAt := none } := by decide
  rw [hclock] at hc'
  cases hc'
  cases he'
  exact absurd heq (by decide)

end V2raySub
