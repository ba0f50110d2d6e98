import V2raySub.Base.Race
import V2raySub.User.Renewal

/-!
Any number of renewals of one finite plan at the same time.

* `extendCall`: `extend_user`, cut after its `SELECT`.
* `blind_extendCall`: on a finite plan the `UPDATE` does not depend on the duration the `SELECT`
  found, so every schedule ends like the renewals in the order of their `UPDATE`s.
* `InTime`: no `UPDATE` comes after the expiry that the ones before it left.
* `concurrent_renewals_land`: then all days are credited, with one rebase at most; a late `UPDATE`
  rebases the expiry once more (`late_renewal_rebases`).
-/

namespace V2raySub

/-! ### The calls -/

/-- `extend_user(user_id, days)`, from its `SELECT` on. -/
def extendCall (userId : ℕ) (days : PyValue) : Race.Call Db (Option ℤ) Stamp Reply where
  read := fun db => db.durationOf userId
  write := fun now row db =>
    match extendDays days with
    | .error e => (db, false, e)
    | .ok days => extendUserWith now userId days row db

/-- With nothing in between, the call is `extend_user`. -/
lemma extendCall_run (userId : ℕ) (days : PyValue) (now : Stamp) (db : Db) :
    (extendCall userId days).write now ((extendCall userId days).read db) db
      = extendUser now userId days db := by
  rw [extendUser]
  rfl

/-- The answer to a renewal that went through. -/
def renewed (days : ℤ) : Reply := (true, "اشتراک " ++ toString days ++ " روز تمدید شد.")

/-- The plan of the user `i` is finite. -/
def Db.Finite (i : ℕ) (db : Db) : Prop := ∃ c, db.clockOf i = some c ∧ 0 < c.durationDays

/-- The `UPDATE` of a finite plan does not depend on the duration that was read. -/
lemma extendUserWith_of_finite {i : ℕ} {db : Db} (h : db.Finite i) (now : Stamp) (days : ℤ)
    {n : ℤ} (hn : n ≠ 0) : extendUserWith now i days (some n) db
      = (db.updateUsers i (fun u => u.durationDays ≠ 0) (extendRow now days), renewed days) := by
  obtain ⟨c, hc, hpos⟩ := h
  obtain ⟨u, hu, rfl⟩ := Option.map_eq_some_iff.mp hc
  have hfinite : (decide (u.durationDays ≠ 0)) = true := by
    simpa using (show u.durationDays ≠ 0 from hpos.ne')
  have hcount : Rows.rowcount UserRow.id db.users i (fun u => u.durationDays ≠ 0) ≠ 0 :=
    (Rows.rowcount_pos hu hfinite).ne'
  rw [extendUserWith, if_neg hn]
  simp only [if_neg hcount]
  rfl

lemma Db.Finite.durationOf {i : ℕ} {db : Db} (h : db.Finite i) :
    ∃ n, n ≠ 0 ∧ db.durationOf i = some n := by
  obtain ⟨c, hc, hpos⟩ := h
  obtain ⟨u, hu, rfl⟩ := Option.map_eq_some_iff.mp hc
  exact ⟨u.durationDays, hpos.ne', by rw [Db.durationOf, hu]; rfl⟩

/-- A renewal leaves the plan finite. -/
lemma Db.Finite.extendUser {i : ℕ} {db : Db} (h : db.Finite i) {v : PyValue} {d : ℤ}
    (hv : extendDays v = .ok d) (now : Stamp) : (extendUser now i v db).1.Finite i := by
  obtain ⟨c, hc, hpos⟩ := h
  refine ⟨c.extend now d, clockOf_extendUser hc hv now, ?_⟩
  have hd := (extendDays_ok hv).2.1
  rw [Clock.extend, if_neg hpos.ne']
  show 0 < c.durationDays + d
  omega

section
variable {ι : Type*} {i : ℕ} {v : ι → PyValue} {d : ι → ℤ}

/-- On a finite plan each call does what `extend_user` does at the time of its `UPDATE`. -/
lemma blind_extendCall (hv : ∀ j, extendDays (v j) = .ok (d j)) :
    Race.Blind (fun j => extendCall i (v j)) (Db.Finite i)
      (fun j now db => (extendUser now i (v j) db).1) (fun j => renewed (d j)) where
  write := by
    intro j now s db hs hdb
    obtain ⟨n, hn, hread⟩ := hs.durationOf
    obtain ⟨m, hm, hread'⟩ := hdb.durationOf
    show (match extendDays (v j) with
      | .error e => (db, false, e)
      | .ok days => extendUserWith now i days (s.durationOf i) db)
      = ((extendUser now i (v j) db).1, renewed (d j))
    rw [extendUser, hv j]
    dsimp only
    rw [hread, hread', extendUserWith_of_finite hdb now (d j) hn,
      extendUserWith_of_finite hdb now (d j) hm]
  keeps j now db h := h.extendUser (hv j) now

/-! ### A series of renewals, on the clock columns -/

/-- The renewals in the order of their `UPDATE`s. -/
def renewAll (d : ι → ℤ) (c : Clock) (ws : List (ι × Stamp)) : Clock :=
  ws.foldl (fun c w => c.extend w.2 (d w.1)) c

/-- No `UPDATE` comes after the expiry that the ones before it left. -/
def InTime (d : ι → ℤ) : ℤ → List (ι × Stamp) → Prop
  | _, [] => True
  | expiry, w :: ws => w.2.secs ≤ expiry ∧ InTime d (expiry + d w.1 * daySecs) ws

variable {c : Clock} {ws : List (ι × Stamp)}

lemma clockOf_updates (hv : ∀ j, extendDays (v j) = .ok (d j)) {db : Db}
    (hc : db.clockOf i = some c) (ws : List (ι × Stamp)) :
    (ws.foldl (fun db w => (extendUser w.2 i (v w.1) db).1) db).clockOf i
      = some (renewAll d c ws) := by
  induction ws generalizing db c with
  | nil => exact hc
  | cons w ws ih =>
      rw [List.foldl_cons, renewAll, List.foldl_cons]
      exact ih (clockOf_extendUser hc (hv w.1) w.2)

lemma extend_columns (hn : 0 < c.durationDays) (now : Stamp) (days : ℤ) :
    (c.extend now days).durationDays = c.durationDays + days
      ∧ (c.extend now days).status = c.status
      ∧ (c.extend now days).activatedAt = c.activatedAt := by
  rw [Clock.extend, if_neg hn.ne']
  exact ⟨rfl, rfl, rfl⟩

lemma durationDays_renewAll (hd : ∀ j, 0 < d j) (hn : 0 < c.durationDays) :
    (renewAll d c ws).durationDays = c.durationDays + (ws.map fun w => d w.1).sum := by
  induction ws generalizing c with
  | nil => simp [renewAll]
  | cons w ws ih =>
      obtain ⟨hdur, -⟩ := extend_columns hn w.2 (d w.1)
      have hpos := hd w.1
      rw [renewAll, List.foldl_cons, ← renewAll, ih (by omega), hdur, List.map_cons,
        List.sum_cons, Int.add_assoc]

/-- The countdown of a finite plan that is not on pause, to an expiry. -/
structure Running (c : Clock) (expire : Stamp) : Prop where
  activated : c.activatedAt ≠ none
  unpaused : c.status ≠ .paused
  finite : 0 < c.durationDays
  expires : c.expireAt = some expire

/-- One renewal of a running plan: it runs on, from the later of its expiry and the present. -/
lemma Running.extend {expire : Stamp} (h : Running c expire) (now : Stamp) {days : ℤ}
    (hd : 0 < days) (hcal : (Stamp.later expire now).secs + days * daySecs ≤ maxSecs) :
    ∃ e : Stamp, Running (c.extend now days) e
      ∧ e.secs = (Stamp.later expire now).secs + days * daySecs := by
  obtain ⟨hdur, hstat, hact⟩ := extend_columns h.finite now days
  have hpos : 0 ≤ days * daySecs := Int.mul_nonneg hd.le (by decide)
  have hbase : c.base now = Stamp.later expire now := by
    rw [Clock.base, if_neg h.unpaused, h.expires, Option.getD_some]
  obtain ⟨e, hadd⟩ := Option.isSome_iff_exists.mp ((Stamp.add?_isSome_iff hpos).mpr hcal)
  refine ⟨e, ⟨by rw [hact]; exact h.activated, by rw [hstat]; exact h.unpaused, ?_, ?_⟩,
    Stamp.add?_eq_some_iff.mp hadd⟩
  · have := h.finite
    omega
  · rw [Clock.extend, if_neg h.finite.ne']
    show extendedExpiry now days c = some e
    rw [Clock.extendedExpiry_eq now days h.activated, hbase, hadd]

lemma sum_days_nonneg (hd : ∀ j, 0 < d j) (ws : List (ι × Stamp)) :
    0 ≤ (ws.map fun w => d w.1).sum := by
  refine List.sum_nonneg fun x hx => ?_
  obtain ⟨w, -, rfl⟩ := List.mem_map.mp hx
  exact (hd w.1).le

/-- Renewals in time add up from the expiry they find. -/
lemma Running.renewAll {expire : Stamp} (h : Running c expire) (hd : ∀ j, 0 < d j)
    (ht : InTime d expire.secs ws)
    (hcal : expire.secs + (ws.map fun w => d w.1).sum * daySecs ≤ maxSecs) :
    ∃ e : Stamp, Running (renewAll d c ws) e
      ∧ e.secs = expire.secs + (ws.map fun w => d w.1).sum * daySecs := by
  induction ws generalizing c expire with
  | nil => exact ⟨expire, h, by simp⟩
  | cons w ws ih =>
      obtain ⟨hin, hrest⟩ := ht
      rw [List.map_cons, List.sum_cons, Int.add_mul] at hcal ⊢
      have htail : 0 ≤ (ws.map fun w => d w.1).sum * daySecs :=
        Int.mul_nonneg (sum_days_nonneg hd ws) (by decide)
      have hlater : (Stamp.later expire w.2).secs = expire.secs := by
        rw [Stamp.later_secs, max_eq_left hin]
      obtain ⟨e, hrun, hsecs⟩ := h.extend w.2 (hd w.1) (by omega)
      obtain ⟨e', hrun', hsecs'⟩ := ih hrun (by rw [hsecs, hlater]; exact hrest) (by omega)
      exact ⟨e', hrun', by omega⟩

/-- The first renewal rebases an expired plan, and the others add up from there. -/
lemma Running.renewAll_cons {expire : Stamp} (h : Running c expire) (hd : ∀ j, 0 < d j)
    {w : ι × Stamp} (ht : InTime d ((Stamp.later expire w.2).secs + d w.1 * daySecs) ws)
    (hcal : (Stamp.later expire w.2).secs + ((w :: ws).map fun w => d w.1).sum * daySecs
      ≤ maxSecs) :
    ∃ e : Stamp, Running (V2raySub.renewAll d c (w :: ws)) e ∧ e.secs
      = (Stamp.later expire w.2).secs + ((w :: ws).map fun w => d w.1).sum * daySecs := by
  rw [List.map_cons, List.sum_cons, Int.add_mul] at hcal ⊢
  have htail : 0 ≤ (ws.map fun w => d w.1).sum * daySecs :=
    Int.mul_nonneg (sum_days_nonneg hd ws) (by decide)
  obtain ⟨e, hrun, hsecs⟩ := h.extend w.2 (hd w.1) (by omega)
  obtain ⟨e', hrun', hsecs'⟩ := hrun.renewAll hd (by rw [hsecs]; exact ht) (by omega)
  exact ⟨e', hrun', by omega⟩

end

/-! ### Every schedule -/

/-- **Renewals at the same time.**  However the reads and writes of any number of renewals of a
finite plan interleave, all of them succeed and their days add up in the duration; on an
activated plan that is not paused they add up in the expiry too, from the expiry it had or, if
that was past at the first `UPDATE`, from that moment, as long as no `UPDATE` comes after the
expiry that the ones before it left and the result is in the calendar. -/
theorem concurrent_renewals_land {db : Db} {i : ℕ} {c : Clock} (hc : db.clockOf i = some c)
    (hn : 0 < c.durationDays) {k : ℕ} {v : Fin k → PyValue} {d : Fin k → ℤ}
    (hv : ∀ j, extendDays (v j) = .ok (d j)) {evs : List (Race.Event (Fin k) Stamp)}
    (hw : Race.IsSchedule evs) :
    (∀ j, (Race.run (fun j => extendCall i (v j)) db evs).answer j = some (renewed (d j)))
    ∧ ∃ c', (Race.run (fun j => extendCall i (v j)) db evs).store.clockOf i = some c'
      ∧ c'.durationDays = c.durationDays + ∑ j, d j
      ∧ (c.activatedAt ≠ none → c.status ≠ .paused → ∀ expire, c.expireAt = some expire →
          ∀ first rest, Race.updates evs = first :: rest →
            InTime d ((Stamp.later expire first.2).secs + d first.1 * daySecs) rest →
            (Stamp.later expire first.2).secs + (∑ j, d j) * daySecs ≤ maxSecs →
            ∃ e, c'.expireAt = some e
              ∧ (first.2 ≤ expire → e.secs = expire.secs + (∑ j, d j) * daySecs)
              ∧ (expire < first.2 → e.secs = first.2.secs + (∑ j, d j) * daySecs)) := by
  have hd : ∀ j, 0 < d j := fun j => (extendDays_ok (hv j)).2.1
  obtain ⟨hstore, hanswer⟩ := Race.run_of_blind (blind_extendCall hv) ⟨c, hc, hn⟩ hw
  have hsum := Race.sum_updates hw d
  refine ⟨hanswer, renewAll d c (Race.updates evs), ?_, ?_, ?_⟩
  · rw [hstore]
    exact clockOf_updates hv hc _
  · rw [durationDays_renewAll hd hn, hsum]
  · intro ha hs expire he first rest hup ht hcal
    rw [← hsum, hup] at hcal ⊢
    obtain ⟨e, hrun, hsecs⟩ := Running.renewAll_cons ⟨ha, hs, hn, he⟩ hd ht hcal
    refine ⟨e, hrun.expires, fun hle => ?_, fun hlt => ?_⟩
    · rw [hsecs, Stamp.later_secs, max_eq_left hle]
    · rw [hsecs, Stamp.later_secs, max_eq_right (le_of_lt hlt)]

/-- The sample user, activated on day 1 and expired on day 31. -/
def sampleLapsed : Db :=
  { sampleAdded with
    users := sampleAdded.users.map fun u =>
      { u with activatedAt := some (Stamp.day 1), expireAt := some (Stamp.day 31) } }

/-- Both calls read on day 40; one writes at once, the other on the day `late`. -/
def sampleRace (late : ℕ) : List (Race.Event (Fin 2) Stamp) :=
  [⟨0, .read, Stamp.day 40⟩, ⟨1, .read, Stamp.day 40⟩, ⟨0, .write, Stamp.day 40⟩,
    ⟨1, .write, Stamp.day late⟩]

lemma sampleRace_isSchedule (late : ℕ) : Race.IsSchedule (sampleRace late) :=
  Fin.forall_fin_two.mpr ⟨rfl, rfl⟩

/-- Two renewals by ten days of a plan that expired on day 31, written on the days 40 and 41: it
runs until day 60. -/
theorem concurrent_renewals_land_sample :
    ∃ c', (Race.run (fun _ => extendCall 1 (.int 10)) sampleLapsed (sampleRace 41)).store.clockOf 1
        = some c' ∧ c'.durationDays = 50 ∧ ∃ e, c'.expireAt = some e
        ∧ e.secs = (Stamp.day 40).secs + 20 * daySecs := by
  have hc : sampleLapsed.clockOf 1
      = some ⟨.active, 30, some (Stamp.day 1), some (Stamp.day 31), none⟩ := by decide
  have hv : ∀ _ : Fin 2, extendDays (.int 10) = .ok 10 := fun _ => rfl
  obtain ⟨-, c', hc', hdur, hexp⟩ :=
    concurrent_renewals_land hc (by decide) hv (sampleRace_isSchedule 41)
  obtain ⟨e, he, -, hlate⟩ := hexp (by decide) (by decide) (Stamp.day 31) rfl
    (0, Stamp.day 40) [(1, Stamp.day 41)] rfl ⟨by decide, trivial⟩ (by decide)
  exact ⟨c', hc', hdur, e, he, hlate (by decide)⟩

/-- Written on the days 40 and 51, after the expiry the first one left: the second renewal rebases
the expiry again, and the plan runs until day 61 and not until day 60. -/
theorem late_renewal_rebases :
    Race.IsSchedule (sampleRace 51)
    ∧ (sampleRace 51).Pairwise (fun a b => a.at_ ≤ b.at_)
    ∧ sampleLapsed.clockOf 1
      = some ⟨.active, 30, some (Stamp.day 1), some (Stamp.day 31), none⟩
    ∧ (Race.run (fun _ => extendCall 1 (.int 10)) sampleLapsed (sampleRace 51)).store.clockOf 1
      = some ⟨.active, 50, some (Stamp.day 1), some (Stamp.day 61), none⟩
    ∧ (Stamp.day 61).secs ≠ (Stamp.day 40).secs + 20 * daySecs :=
  ⟨sampleRace_isSchedule 51, by decide, by decide, by decide, by decide⟩

end V2raySub
