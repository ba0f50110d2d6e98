import V2raySub.Client.Content
import V2raySub.User.Frozen

/-!
The remaining time the panel reports for a paused plan: `_remaining` against `resume_user`.

* `remainingSecs_eq_max`: the report is the time between the clock and the expiry, never below
  zero, in a pause as well.
* `expireAt_resume`: a resumption moves the expiry forward by the paused span.
* `remaining_frozen_iff`: the report of a paused plan is **the time it has left once resumed, the
  same all through the pause, exactly if the pause has lasted no time or began after the expiry**.
-/

namespace V2raySub

lemma remainingSecs_eq_max {u : UserRow} (hdays : u.durationDays ≠ 0) {expire : Stamp}
    (he : u.expireAt = some expire) (now : Stamp) :
    remainingSecs now u = some (max 0 (expire.secs - now.secs)) := by
  rw [remainingSecs, if_neg hdays, he, Option.map_some]

lemma remainingSecs_eq_none {u : UserRow} (he : u.expireAt = none) (now : Stamp) :
    remainingSecs now u = none := by
  rw [remainingSecs, he, Option.map_none, ite_self]

/-- A resumption keeps the duration. -/
lemma durationDays_resume (c : Clock) (now : Stamp) :
    (c.resume now).durationDays = c.durationDays := by
  rw [Clock.resume, resumeShift]
  split_ifs with hs
  · cases c.activatedAt with
    | none => rfl
    | some a =>
        cases c.pausedAt with
        | none => rfl
        | some p =>
            cases c.expireAt with
            | none => rfl
            | some expire =>
                dsimp only
                cases expire.add? (now.secs - p.secs) <;> rfl
  · rfl

/-- Without an expiry there is nothing to move. -/
lemma expireAt_resume_none {c : Clock} (he : c.expireAt = none) (now : Stamp) :
    (c.resume now).expireAt = none := by
  have hshift : resumeShift now c = .ok [] := by
    rw [resumeShift, he]
    cases c.activatedAt <;> cases c.pausedAt <;> rfl
  rw [Clock.resume, hshift]
  split_ifs
  · exact he
  · exact he

/-- A resumption moves the expiry forward by the paused span. -/
lemma expireAt_resume {c : Clock} (hs : c.status = .paused) {a p expire e : Stamp}
    (ha : c.activatedAt = some a) (hp : c.pausedAt = some p) (he : c.expireAt = some expire)
    {now : Stamp} (hadd : expire.add? (now.secs - p.secs) = some e) :
    (c.resume now).expireAt = some e := by
  have hshift : resumeShift now c = .ok [.expireAt (some e)] := by
    simp only [resumeShift, ha, hp, he, hadd]
  rw [Clock.resume, if_pos hs, hshift]
  rfl

/-- What is reported for a paused plan: the time it has left once it is resumed, and the time it
had left when it was paused. -/
def ReportsFrozen (now : Stamp) (i : ℕ) (p : Stamp) (db : Db) (u : UserRow) : Prop :=
  (∃ resumed, (resumeUser now i db).1.user i = some resumed
      ∧ remainingSecs now u = remainingSecs now resumed)
    ∧ remainingSecs now u = remainingSecs p u

/-- The row after a resumption. -/
lemma exists_resumed {db : Db} {i : ℕ} {u : UserRow} (hu : db.user i = some u) (now : Stamp) :
    ∃ resumed, (resumeUser now i db).1.user i = some resumed
      ∧ resumed.clock = u.clock.resume now := by
  have hclock : db.clockOf i = some u.clock := by rw [Db.clockOf, hu, Option.map_some]
  have hresumed := clockOf_resumeUser hclock now
  rw [Db.clockOf] at hresumed
  exact Option.map_eq_some_iff.mp hresumed

/-- **The remaining time of a paused plan**: it is reported as it stands still exactly if no time
has passed since the pause, or the plan had ended before it. -/
theorem remaining_frozen_iff {db : Db} {i : ℕ} {u : UserRow} {p now : Stamp}
    (hu : db.user i = some u) (hs : u.status = .paused) (ha : u.activatedAt.isSome)
    (hdays : u.durationDays ≠ 0) (hp : u.pausedAt = some p) (hnow : p ≤ now) :
    ReportsFrozen now i p db u ↔ ∀ expire, u.expireAt = some expire → now = p ∨ expire ≤ p := by
  obtain ⟨resumed, hresumed, hclock⟩ := exists_resumed hu now
  have hleft : ReportsFrozen now i p db u
      ↔ remainingSecs now u = remainingSecs now resumed
        ∧ remainingSecs now u = remainingSecs p u := by
    simp only [ReportsFrozen, hresumed, Option.some.injEq, exists_eq_left']
  rw [hleft]
  have hdays' : resumed.durationDays ≠ 0 := by
    have h := (congrArg Clock.durationDays hclock).trans (durationDays_resume u.clock now)
    exact fun h0 => hdays (h.symm.trans h0)
  cases he : u.expireAt with
  | none =>
      have he' : resumed.expireAt = none :=
        (congrArg Clock.expireAt hclock).trans (expireAt_resume_none he now)
      rw [remainingSecs_eq_none he, remainingSecs_eq_none he, remainingSecs_eq_none he']
      simp
  | some expire =>
      obtain ⟨a, ha⟩ := Option.isSome_iff_exists.mp ha
      have hnow' : p.secs ≤ now.secs := hnow
      rw [remainingSecs_eq_max hdays he, remainingSecs_eq_max hdays he]
      constructor
      · rintro ⟨-, hsame⟩ e hexpire
        cases hexpire
        have hmax : max 0 (expire.secs - now.secs) = max 0 (expire.secs - p.secs) :=
          Option.some.inj hsame
        by_cases hle : expire.secs ≤ p.secs
        · exact .inr hle
        · exact .inl (Stamp.ext (by omega))
      · intro h
        have hcase := h expire rfl
        -- the shifted expiry is a date: the pause had no length, or the end lies before it
        have hadd : ∃ e, expire.add? (now.secs - p.secs) = some e := by
          refine Option.isSome_iff_exists.mp ((Stamp.add?_isSome_iff (by omega)).mpr ?_)
          have hhi := expire.hi
          have hhi' := now.hi
          rcases hcase with rfl | hle
          · omega
          · have hle' : expire.secs ≤ p.secs := hle
            omega
        obtain ⟨e, hadd⟩ := hadd
        have hexpire' : resumed.expireAt = some e :=
          (congrArg Clock.expireAt hclock).trans (expireAt_resume hs ha hp he hadd)
        have hsecs : e.secs = expire.secs + (now.secs - p.secs) := Stamp.add?_eq_some_iff.mp hadd
        rw [remainingSecs_eq_max hdays' hexpire', Option.some.injEq, Option.some.injEq]
        rcases hcase with rfl | hle
        · exact ⟨by omega, rfl⟩
        · have hle' : expire.secs ≤ p.secs := hle
          exact ⟨by omega, by omega⟩

/-- The sample user on pause since day 1, in the second of the pause. -/
theorem remaining_frozen_iff_sample :
    ∃ u, sampleFrozen.user 1 = some u
      ∧ (ReportsFrozen (Stamp.day 1) 1 (Stamp.day 1) sampleFrozen u
        ↔ ∀ expire, u.expireAt = some expire → Stamp.day 1 = Stamp.day 1 ∨ expire ≤ Stamp.day 1) :=
  ⟨_, rfl, remaining_frozen_iff rfl rfl rfl (by decide) rfl (by decide)⟩

/-- Ten days into the pause 19 days are reported of the 29 he has left. -/
theorem remaining_runs_in_pause :
    sampleFrozen.clockOf 1 = some
        { status := .paused, durationDays := 30, activatedAt := some (Stamp.day 0),
          expireAt := some (Stamp.day 30), pausedAt := some (Stamp.day 1) }
      ∧ (sampleFrozen.user 1).map (remainingSecs (Stamp.day 11)) = some (some (19 * daySecs))
      ∧ ((resumeUser (Stamp.day 11) 1 sampleFrozen).1.user 1).map
          (remainingSecs (Stamp.day 11)) = some (some (29 * daySecs)) := by
  decide +kernel

end V2raySub
