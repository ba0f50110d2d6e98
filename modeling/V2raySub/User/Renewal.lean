import Mathlib.Algebra.Order.BigOperators.Group.List
import Mathlib.Algebra.Ring.Int.Defs
import V2raySub.User.Coherence

/-!
Renewals: what `extend_user` credits to a finite plan, and how far a series of renewals can
move its expiry.

* `Clock.credit`: the time a finite plan still owes its subscriber.
* `credit_extend`, `credit_extend_of_pausedAfterExpiry`: a renewal raises the credit by exactly
  the days bought, unless the plan was paused after its expiry had passed.
* `renewal_credits_iff`: the same for the service, in every state it reaches, up to the
  following `resume_user`.
* `renewals_keep_expiry_iff`: the renewals that never leave an activated plan without an expiry
  are those whose days fit before the end of the calendar.
-/

namespace V2raySub

namespace Clock

/-! ### The credit of a plan -/

/-- The time a finite plan still owes: the days sold before activation, the frozen remainder of
a paused plan, and what is left of the countdown otherwise. -/
def credit (now : Stamp) (c : Clock) : ℤ :=
  if c.activatedAt = none then c.durationDays * daySecs
  else if c.status = .paused then
    match c.expireAt, c.pausedAt with
    | some expire, some p => max 0 (expire.secs - p.secs)
    | _, _ => 0
  else
    match c.expireAt with
    | some expire => max 0 (expire.secs - now.secs)
    | none => 0

/-- The plan was running, lapsed, and is on pause since a later date. -/
def PausedAfterExpiry (c : Clock) : Prop :=
  c.activatedAt ≠ none ∧ c.status = .paused
    ∧ ∃ expire ∈ c.expireAt, ∃ p ∈ c.pausedAt, expire.secs < p.secs

lemma credit_idle (now : Stamp) {c : Clock} (ha : c.activatedAt = none) :
    c.credit now = c.durationDays * daySecs := by rw [credit, if_pos ha]

lemma credit_paused (now : Stamp) {expire p : Stamp} {c : Clock} (ha : c.activatedAt ≠ none)
    (hs : c.status = .paused) (he : c.expireAt = some expire) (hp : c.pausedAt = some p) :
    c.credit now = max 0 (expire.secs - p.secs) := by
  rw [credit, if_neg ha, if_pos hs, he, hp]

lemma credit_running (now : Stamp) {expire : Stamp} {c : Clock} (ha : c.activatedAt ≠ none)
    (hs : c.status ≠ .paused) (he : c.expireAt = some expire) :
    c.credit now = max 0 (expire.secs - now.secs) := by
  rw [credit, if_neg ha, if_neg hs, he]

lemma credit_nonneg (now : Stamp) {c : Clock} (hn : 0 ≤ c.durationDays) :
    0 ≤ c.credit now := by
  rw [credit]
  split_ifs
  · exact Int.mul_nonneg hn (by decide)
  · split
    · exact le_max_left _ _
    · exact le_refl _
  · split
    · exact le_max_left _ _
    · exact le_refl _

variable {t now : Stamp} {c : Clock} {days : ℤ}

/-- A renewal before activation raises the number of days sold. -/
lemma credit_extend_idle (ha : c.activatedAt = none) (hn : c.durationDays ≠ 0) :
    (c.extend now days).credit now = c.credit now + days * daySecs := by
  have hext : (c.extend now days).activatedAt = none := by rw [extend, if_neg hn]; exact ha
  rw [credit_idle now hext, credit_idle now ha, extend, if_neg hn, Int.add_mul]

/-- A renewal of a paused plan moves the frozen expiry. -/
lemma credit_extend_paused (ha : c.activatedAt ≠ none) (hn : c.durationDays ≠ 0)
    (hs : c.status = .paused) {expire p : Stamp} (he : c.expireAt = some expire)
    (hp : c.pausedAt = some p) (hd : 0 ≤ days) (hcal : c.InCalendar now (.extend days)) :
    (c.extend now days).credit now = max 0 (expire.secs + days * daySecs - p.secs) := by
  obtain ⟨expire', he', hext⟩ := extend_of_inCalendar hd ha hn (hcal ha hn)
  have hb : (c.base now).secs = expire.secs := by rw [base, if_pos hs, he]; rfl
  have hcredit := credit_paused now
    (c := { c with expireAt := some expire', durationDays := c.durationDays + days })
    ha hs rfl hp
  rw [hext, hcredit, he', hb]

/-- A renewal of a plan that is not paused counts from the later of its expiry and now. -/
lemma credit_extend_running (ha : c.activatedAt ≠ none) (hn : c.durationDays ≠ 0)
    (hs : c.status ≠ .paused) {expire : Stamp} (he : c.expireAt = some expire)
    (hd : 0 ≤ days) (hcal : c.InCalendar now (.extend days)) :
    (c.extend now days).credit now = c.credit now + days * daySecs := by
  obtain ⟨expire', he', hext⟩ := extend_of_inCalendar hd ha hn (hcal ha hn)
  have hb : (c.base now).secs = max expire.secs now.secs := by
    rw [base, if_neg hs, he, Option.getD_some, Stamp.later_secs]
  have hpos : 0 ≤ days * daySecs := Int.mul_nonneg hd (by decide)
  have hcredit := credit_running now
    (c := { c with expireAt := some expire', durationDays := c.durationDays + days }) ha hs rfl
  rw [hext, hcredit, credit_running now ha hs he, he', hb]
  omega

/-- **A renewal credits what was bought.** -/
theorem credit_extend (h : c.Coherent t) (hn : c.durationDays ≠ 0) (hd : 0 ≤ days)
    (hcal : c.InCalendar now (.extend days)) (hgood : ¬ c.PausedAfterExpiry) :
    (c.extend now days).credit now = c.credit now + days * daySecs := by
  by_cases ha : c.activatedAt = none
  · exact credit_extend_idle ha hn
  obtain ⟨expire, he⟩ := h.exists_expire ha hn
  by_cases hs : c.status = .paused
  · obtain ⟨p, hp, -⟩ := h.frozen hs
    have hle : p.secs ≤ expire.secs := by
      by_contra hlt
      exact hgood ⟨ha, hs, expire, he, p, hp, by omega⟩
    have hpos : 0 ≤ days * daySecs := Int.mul_nonneg hd (by decide)
    rw [credit_extend_paused ha hn hs he hp hd hcal, credit_paused now ha hs he hp]
    omega
  · exact credit_extend_running ha hn hs he hd hcal

/-- **A plan paused after its expiry** owes nothing, and a renewal of it credits less than was
bought: the time between the expiry and the pause is taken off. -/
theorem credit_extend_of_pausedAfterExpiry (hbad : c.PausedAfterExpiry)
    (hn : c.durationDays ≠ 0) (hd : 0 < days) (hcal : c.InCalendar now (.extend days)) :
    (c.extend now days).credit now < c.credit now + days * daySecs := by
  obtain ⟨ha, hs, expire, he, p, hp, hlt⟩ := hbad
  have hpos : 0 < days * daySecs := Int.mul_pos hd (by decide)
  rw [credit_extend_paused ha hn hs he hp hd.le hcal, credit_paused now ha hs he hp]
  omega

/-- The resumption of a paused plan with its dates within the calendar. -/
lemma resume_of_inCalendar {expire p : Stamp} (ha : c.activatedAt ≠ none)
    (hs : c.status = .paused) (he : c.expireAt = some expire) (hp : c.pausedAt = some p)
    (hpn : p ≤ now) (hcal : expire.secs + (now.secs - p.secs) ≤ maxSecs) :
    ∃ expire' : Stamp, expire'.secs = expire.secs + (now.secs - p.secs)
      ∧ c.resume now
          = { c with expireAt := some expire', status := .active, pausedAt := none } := by
  have hpn' : p.secs ≤ now.secs := hpn
  obtain ⟨act, ha⟩ := Option.ne_none_iff_exists'.mp ha
  obtain ⟨expire', he'⟩ := Option.isSome_iff_exists.mp
    ((Stamp.add?_isSome_iff (t := expire) (d := now.secs - p.secs) (by omega)).mpr hcal)
  refine ⟨expire', Stamp.add?_eq_some_iff.mp he', ?_⟩
  have hshift : resumeShift now c = .ok [.expireAt (some expire')] := by
    simp [resumeShift, ha, he, hp, he']
  rw [resume, if_pos hs, hshift]
  rfl

/-- The resumption of a plan that was never activated. -/
lemma resume_idle (ha : c.activatedAt = none) (hs : c.status = .paused) :
    c.resume now = { c with status := .active, pausedAt := none } := by
  have hshift : resumeShift now c = .ok [] := by simp [resumeShift, ha]
  rw [resume, if_pos hs, hshift]
  rfl

end Clock

/-! ### Renewals by the service -/

/-- The reply of a renewal of a finite plan is a success exactly if its days are accepted. -/
lemma extendUser_success_iff {db : Db} {i : ℕ} {c : Clock} (hc : db.clockOf i = some c)
    (hn : c.durationDays ≠ 0) (now : Stamp) (v : PyValue) :
    (extendUser now i v db).2.1 = true ↔ ∃ d, extendDays v = .ok d := by
  obtain ⟨u, hu, rfl⟩ := Option.map_eq_some_iff.mp hc
  have hn' : u.durationDays ≠ 0 := hn
  rw [extendUser]
  cases hv : extendDays v with
  | error e => simp
  | ok d =>
      have hcount : Rows.rowcount UserRow.id db.users i (fun u => u.durationDays ≠ 0) ≠ 0 :=
        (Rows.rowcount_pos hu (by simpa using hn')).ne'
      have hdur : db.durationOf i = some u.durationDays := by rw [Db.durationOf, hu]; rfl
      simp only [extendUserWith, hdur, hn', if_false, if_neg hcount]
      exact ⟨fun _ => ⟨d, rfl⟩, fun _ => trivial⟩

lemma clockOf_extendUser {db : Db} {i : ℕ} {c : Clock} (hc : db.clockOf i = some c)
    {v : PyValue} {d : ℤ} (hv : extendDays v = .ok d) (now : Stamp) :
    (extendUser now i v db).1.clockOf i = some (c.extend now d) := by
  have hm := (movesClock_extendUser now i v db).self hc
  rw [hv] at hm
  exact hm

lemma clockOf_resumeUser {db : Db} {i : ℕ} {c : Clock} (hc : db.clockOf i = some c)
    (now : Stamp) : (resumeUser now i db).1.clockOf i = some (c.resume now) :=
  (movesClock_resumeUser now i db).self hc

/-- What a renewal by `v` days promises the user `i`, whose clock is `c`: the credit grows by
exactly these days and so is at least these days, and if the plan is paused, a following
`resume_user` with its dates within the calendar leaves exactly that credit to run. -/
def RenewalCredits (now : Stamp) (i : ℕ) (v : PyValue) (d : ℤ) (db : Db) (c : Clock) : Prop :=
  ∃ c', (extendUser now i v db).1.clockOf i = some c'
    ∧ c'.credit now = c.credit now + d * daySecs
    ∧ d * daySecs ≤ c'.credit now
    ∧ (c.status = .paused → ∀ later, now ≤ later →
        (∀ expire ∈ c'.expireAt, ∀ p ∈ c'.pausedAt,
          expire.secs + (later.secs - p.secs) ≤ maxSecs) →
        ∃ c'', (resumeUser later i (extendUser now i v db).1).1.clockOf i = some c''
          ∧ c''.status = .active ∧ c''.credit later = c'.credit now
          ∧ (c.activatedAt ≠ none → ∃ expire, c''.expireAt = some expire
              ∧ expire.secs - later.secs = c'.credit now))

/-- The resumption that follows a renewal of a paused plan. -/
lemma resume_after_renewal {t now later : Stamp} {c : Clock} {days : ℤ} (h : c.Coherent t)
    (ht : t ≤ now) (hl : now ≤ later) (hn : c.durationDays ≠ 0) (hd : 0 < days)
    (hcal : c.InCalendar now (.extend days)) (hgood : ¬ c.PausedAfterExpiry)
    (hs : c.status = .paused)
    (hcal' : ∀ expire ∈ (c.extend now days).expireAt, ∀ p ∈ (c.extend now days).pausedAt,
      expire.secs + (later.secs - p.secs) ≤ maxSecs) :
    ((c.extend now days).resume later).status = .active
      ∧ ((c.extend now days).resume later).credit later = (c.extend now days).credit now
      ∧ (c.activatedAt ≠ none → ∃ expire,
          ((c.extend now days).resume later).expireAt = some expire
            ∧ expire.secs - later.secs = (c.extend now days).credit now) := by
  by_cases ha : c.activatedAt = none
  · have hext : c.extend now days
        = { c with expireAt := extendedExpiry now days c, durationDays := c.durationDays + days }
        := by rw [Clock.extend, if_neg hn]
    have ha' : (c.extend now days).activatedAt = none := by rw [hext]; exact ha
    have hs' : (c.extend now days).status = .paused := by rw [hext]; exact hs
    rw [Clock.resume_idle ha' hs']
    refine ⟨rfl, ?_, fun hne => absurd ha hne⟩
    rw [Clock.credit_idle now ha']
    exact Clock.credit_idle later ha'
  · obtain ⟨p, hp, hpt⟩ := h.frozen hs
    obtain ⟨old, hold⟩ := h.exists_expire ha hn
    obtain ⟨expire, he, hext⟩ := Clock.extend_of_inCalendar hd.le ha hn (hcal ha hn)
    have hb : (c.base now).secs = old.secs := by rw [Clock.base, if_pos hs, hold]; rfl
    have hcredit := Clock.credit_extend_paused ha hn hs hold hp hd.le hcal
    have hle : p.secs ≤ old.secs := by
      by_contra hlt
      exact hgood ⟨ha, hs, old, hold, p, hp, by omega⟩
    have hpl : p ≤ later := Int.le_trans hpt (Int.le_trans ht hl)
    have hpos : 0 ≤ days * daySecs := Int.mul_nonneg hd.le (by decide)
    rw [hcredit]
    rw [hext] at hcal' ⊢
    have hfit := hcal' expire rfl p hp
    obtain ⟨expire', he', hres⟩ := Clock.resume_of_inCalendar
      (c := { c with expireAt := some expire, durationDays := c.durationDays + days })
      ha hs rfl hp hpl hfit
    rw [hres]
    have hleft : expire'.secs - later.secs = max 0 (old.secs + days * daySecs - p.secs) := by
      omega
    refine ⟨rfl, ?_, fun _ => ⟨expire', rfl, hleft⟩⟩
    have hcredit' := Clock.credit_running later
      (c := { c with expireAt := some expire', durationDays := c.durationDays + days,
                     status := .active, pausedAt := none }) ha (by simp) rfl
    rw [hcredit', hleft]
    exact max_eq_right (le_max_left _ _)

/-- **What a renewal credits.**  In every state the service reaches, a successful renewal of a
finite plan does what it promises exactly if the plan is not on pause since a date after its
expiry. -/
theorem renewal_credits_iff {lib : NetLib} {t : Stamp} {db : Db} (h : Db.Reachable lib t db)
    {now : Stamp} (ht : t ≤ now) {i : ℕ} {c : Clock} (hc : db.clockOf i = some c)
    (hn : c.durationDays ≠ 0) {v : PyValue} {d : ℤ} (hv : v.toInt? = some d)
    (hs : (extendUser now i v db).2.1 = true) (hcal : db.InCalendar ⟨now, .extendUser i v⟩) :
    RenewalCredits now i v d db c ↔ ¬ c.PausedAfterExpiry := by
  obtain ⟨d', hd'⟩ := (extendUser_success_iff hc hn now v).mp hs
  obtain ⟨hv', hpos, -⟩ := extendDays_ok hd'
  obtain rfl : d' = d := Option.some.inj (hv'.symm.trans hv)
  have hcoh := (coherent_of_reachable h).clocks i c hc
  have hc' := clockOf_extendUser hc hd' now
  have hcal' : c.InCalendar now (.extend d') :=
    hcal (i, d') (by simp [Op.renewal, hd', Except.toOption]) c hc
  constructor
  · rintro ⟨c', hc'', heq, -⟩ hbad
    rw [hc'] at hc''
    cases hc''
    exact absurd heq (Clock.credit_extend_of_pausedAfterExpiry hbad hn hpos hcal').ne
  · intro hgood
    have hcredit := Clock.credit_extend hcoh hn hpos.le hcal' hgood
    refine ⟨_, hc', hcredit, ?_, fun hp later hl hcl => ?_⟩
    · rw [hcredit]
      have := Clock.credit_nonneg now hcoh.nonneg
      omega
    · exact ⟨_, clockOf_resumeUser hc' later,
        resume_after_renewal hcoh ht hl hn hpos hcal' hgood hp hcl⟩

/-- The sample user paused on day 1 of his thirty: a renewal by five days credits five days. -/
theorem renewal_credits_iff_sample :
    RenewalCredits (Stamp.day 10) 1 (.int 5) 5
        (Runs.run (Db.step sampleLib) sampleDb samplePaused)
        { status := .paused, durationDays := 30, activatedAt := some (Stamp.day 0),
          expireAt := some (Stamp.day 30), pausedAt := some (Stamp.day 1) }
      ↔ ¬ Clock.PausedAfterExpiry
        { status := .paused, durationDays := 30, activatedAt := some (Stamp.day 0),
          expireAt := some (Stamp.day 30), pausedAt := some (Stamp.day 1) } :=
  renewal_credits_iff
    (reachable_sample (by decide : Runs.Allowed (Db.step sampleLib) Db.InCalendar (Stamp.day 0)
      sampleDb samplePaused))
    (by decide) (by decide) (by decide) (by decide) (by decide) (by decide)

/-- The sample user, whose plan lapsed on day 30, put on pause on day 40. -/
def samplePausedLate : List (Timed Stamp Op) :=
  [⟨Stamp.day 0, sampleAdd⟩, ⟨Stamp.day 0, sampleFetch⟩, ⟨Stamp.day 40, .pauseUser 1⟩]

/-- He buys thirty days on day 50, and is credited twenty. -/
theorem renewal_of_late_pause :
    ∃ db c, Db.Reachable sampleLib (Stamp.day 40) db ∧ db.clockOf 1 = some c
      ∧ c.durationDays = 30 ∧ (extendUser (Stamp.day 50) 1 (.int 30) db).2.1 = true
      ∧ db.InCalendar ⟨Stamp.day 50, .extendUser 1 (.int 30)⟩
      ∧ c.credit (Stamp.day 50) = 0
      ∧ ((extendUser (Stamp.day 50) 1 (.int 30) db).1.clockOf 1).map (Clock.credit (Stamp.day 50))
          = some (20 * daySecs)
      ∧ ¬ RenewalCredits (Stamp.day 50) 1 (.int 30) 30 db c := by
  refine ⟨Runs.run (Db.step sampleLib) sampleDb samplePausedLate,
    { status := .paused, durationDays := 30, activatedAt := some (Stamp.day 0),
      expireAt := some (Stamp.day 30), pausedAt := some (Stamp.day 40) },
    reachable_sample (by decide : Runs.Allowed (Db.step sampleLib) Db.InCalendar (Stamp.day 0)
      sampleDb samplePausedLate), by decide, rfl, by decide, by decide, by decide, by decide, ?_⟩
  rintro ⟨c', hc', hcredit, -⟩
  have hmap := congrArg (Option.map (Clock.credit (Stamp.day 50))) hc'
  rw [Option.map_some, hcredit] at hmap
  exact absurd hmap (by decide)

/-! ### Series of renewals -/

/-- The days of a series of renewals. -/
def totalDays (es : List (Timed Stamp ℤ)) : ℤ := (es.map Timed.ev).sum

/-- The days of the series fit before the end of the calendar: on top of the expiry, and unless
the plan is paused, from each renewal on. -/
def RenewalsFit (status : UserStatus) (expire : Stamp) (es : List (Timed Stamp ℤ)) : Prop :=
  expire.secs + totalDays es * daySecs ≤ maxSecs
    ∧ (status ≠ .paused → ∀ e rest, e :: rest <:+ es →
        e.at_.secs + totalDays (e :: rest) * daySecs ≤ maxSecs)

lemma totalDays_nonneg {es : List (Timed Stamp ℤ)} (h : ∀ e ∈ es, 0 < e.ev) :
    0 ≤ totalDays es := by
  refine List.sum_nonneg fun d hd => ?_
  obtain ⟨e, he, rfl⟩ := List.mem_map.mp hd
  exact (h e he).le

lemma totalDays_cons (e : Timed Stamp ℤ) (es : List (Timed Stamp ℤ)) :
    totalDays (e :: es) = e.ev + totalDays es := by
  rw [totalDays, List.map_cons, List.sum_cons, totalDays]

/-- The fit of a series, by its first renewal. -/
lemma renewalsFit_cons {status : UserStatus} {expire : Stamp} {e : Timed Stamp ℤ}
    {es : List (Timed Stamp ℤ)} :
    RenewalsFit status expire (e :: es)
      ↔ expire.secs + (e.ev + totalDays es) * daySecs ≤ maxSecs
        ∧ (status ≠ .paused → e.at_.secs + (e.ev + totalDays es) * daySecs ≤ maxSecs
            ∧ ∀ e' rest, e' :: rest <:+ es →
              e'.at_.secs + totalDays (e' :: rest) * daySecs ≤ maxSecs) := by
  rw [RenewalsFit]
  rw [totalDays_cons]
  refine and_congr_right fun _ => forall_congr' fun _ => ⟨fun h => ⟨?_, ?_⟩, fun h => ?_⟩
  · rw [← totalDays_cons]
    exact h e es (List.suffix_refl _)
  · exact fun e' rest hs => h e' rest (hs.trans (List.suffix_cons _ _))
  · intro e' rest hs
    rcases List.suffix_cons_iff.mp hs with heq | hs'
    · cases heq
      rw [totalDays_cons]
      exact h.1
    · exact h.2 e' rest hs'

namespace Clock

/-- The clock after a series of renewals. -/
def extendAll (c : Clock) (es : List (Timed Stamp ℤ)) : Clock :=
  Runs.run (fun c e => c.extend e.at_ e.ev) c es

/-- The renewals that leave an activated finite plan with an expiry all along are those that
fit before the end of the calendar. -/
lemma extendAll_expireAt_iff {c : Clock} {expire : Stamp} {es : List (Timed Stamp ℤ)}
    (ha : c.activatedAt ≠ none) (hn : 0 < c.durationDays) (he : c.expireAt = some expire)
    (hd : ∀ e ∈ es, 0 < e.ev) :
    (∀ pre, pre <+: es → (c.extendAll pre).expireAt ≠ none)
      ↔ RenewalsFit c.status expire es := by
  induction es generalizing c expire with
  | nil =>
      refine iff_of_true (fun pre hpre => ?_) ⟨?_, fun _ e rest hs => ?_⟩
      · rw [List.prefix_nil.mp hpre, extendAll, Runs.run_nil, he]
        exact Option.some_ne_none _
      · have hhi := expire.hi
        simpa [totalDays] using hhi
      · exact absurd (List.suffix_nil.mp hs) (List.cons_ne_nil _ _)
  | cons e es ih =>
      have hpos := hd e List.mem_cons_self
      have htot := totalDays_nonneg fun e' he' => hd e' (List.mem_cons_of_mem _ he')
      have hpres : (∀ pre, pre <+: e :: es → (c.extendAll pre).expireAt ≠ none)
          ↔ ∀ pre, pre <+: es → ((c.extend e.at_ e.ev).extendAll pre).expireAt ≠ none := by
        refine ⟨fun h pre hpre => h (e :: pre) (List.prefix_cons_inj e |>.mpr hpre),
          fun h pre hpre => ?_⟩
        cases pre with
        | nil =>
            rw [extendAll, Runs.run_nil, he]
            exact Option.some_ne_none _
        | cons e' pre =>
            obtain ⟨rfl, hpre'⟩ := List.cons_prefix_cons.mp hpre
            exact h pre hpre'
      have hbase : (c.base e.at_).secs
          = if c.status = .paused then expire.secs else max expire.secs e.at_.secs := by
        rw [base, he]
        split_ifs
        · rfl
        · rw [Option.getD_some, Stamp.later_secs]
      rw [hpres, renewalsFit_cons]
      have hmul : (e.ev + totalDays es) * daySecs = e.ev * daySecs + totalDays es * daySecs :=
        Int.add_mul _ _ _
      have htot' : 0 ≤ totalDays es * daySecs := Int.mul_nonneg htot (by decide)
      by_cases hcal : (c.base e.at_).secs + e.ev * daySecs ≤ maxSecs
      · -- the first renewal fits: the rest of the series starts from its expiry
        obtain ⟨expire', he', hext⟩ := extend_of_inCalendar hpos.le ha hn.ne' hcal
        have hn' : 0 < c.durationDays + e.ev := by omega
        have hrest := ih (c := c.extend e.at_ e.ev) (by rw [hext]; exact ha)
          (by rw [hext]; exact hn') (by rw [hext]) fun e' he' => hd e' (List.mem_cons_of_mem _ he')
        have hstatus : (c.extend e.at_ e.ev).status = c.status := by rw [hext]
        rw [hrest, RenewalsFit, hstatus, he', hbase, hmul]
        split_ifs with hs
        · simp only [hs, ne_eq, not_true_eq_false, false_implies, and_true]
          omega
        · simp only [hs, ne_eq, not_false_eq_true, true_implies, ← and_assoc]
          refine and_congr_left fun _ => ?_
          omega
      · -- the first renewal leaves the plan without an expiry
        have hnone : (c.extend e.at_ e.ev).expireAt = none := by
          rw [extend, if_neg hn.ne', extendedExpiry_eq _ _ ha]
          exact Stamp.add?_eq_none_iff.mpr (Or.inr (by omega))
        refine iff_of_false (fun h => h [] List.nil_prefix hnone) fun h => hcal ?_
        rw [hbase]
        split_ifs with hs
        · omega
        · have h2 := (h.2 hs).1
          omega

end Clock

/-! ### The expiry check -/

/-- An activated user past his expiry is answered `expired`. -/
lemma resolveUserRequest_expired {db : Db} {p : String} {u : UserRow} {now expire : Stamp}
    (hp : db.userByPath p = some u) (hs : u.status = .active) (ha : u.activatedAt ≠ none)
    (he : u.expireAt = some expire) (hlt : expire < now) (lib : NetLib) (ip ua : Option String) :
    (resolveUserRequest lib now p ip ua db).2 = some (.expired, u) := by
  have hact : ∀ db', activateWith now u db' = (db', some u) := fun db' => by
    rw [activateWith, if_pos (Option.isSome_iff_ne_none.mpr ha)]
  have hexp : isExpired now u = true := by
    rw [isExpired, he]
    exact decide_eq_true hlt
  have hserve : ∀ db', serveRequest lib now ip ua u db' = (db', .expired) := fun db' => by
    rw [serveRequest, if_pos hexp]
  rw [resolveUserRequest, hp, resolveUserRequestWith, hs]
  simp only [hact, hserve]

/-- The user `i` still expires: his row carries an expiry, and a fetch of his link past it is
answered `expired` while he is active. -/
def StillExpires (lib : NetLib) (i : ℕ) (db : Db) : Prop :=
  ∃ u expire, db.user i = some u ∧ u.expireAt = some expire
    ∧ ∀ now p ip ua, db.userByPath p = some u → u.status = .active → expire < now →
        (resolveUserRequest lib now p ip ua db).2 = some (.expired, u)

/-- The tables after a series of renewals of one user. -/
def extendAll (i : ℕ) (db : Db) (es : List (Timed Stamp PyValue)) : Db :=
  Runs.run (fun db e => (extendUser e.at_ i e.ev db).1) db es

/-- The days of the renewals of a series. -/
def renewals (es : List (Timed Stamp PyValue)) : List (Timed Stamp ℤ) :=
  es.map fun e => ⟨e.at_, e.ev.toInt?.getD 0⟩

/-- A series of renewals, seen on the clock. -/
lemma clockOf_extendAll {db : Db} {i : ℕ} {c : Clock} (hc : db.clockOf i = some c)
    (es : List (Timed Stamp PyValue)) (hes : ∀ e ∈ es, ∃ d, extendDays e.ev = .ok d) :
    (extendAll i db es).clockOf i = some (c.extendAll (renewals es)) := by
  induction es generalizing db c with
  | nil => exact hc
  | cons e es ih =>
      obtain ⟨d, hd⟩ := hes e List.mem_cons_self
      have hd' : e.ev.toInt?.getD 0 = d := by rw [(extendDays_ok hd).1, Option.getD_some]
      have hstep := clockOf_extendUser hc hd e.at_
      rw [← hd'] at hstep
      exact ih hstep fun e' he' => hes e' (List.mem_cons_of_mem _ he')

lemma Clock.extendAll_activatedAt (c : Clock) (es : List (Timed Stamp ℤ)) :
    (c.extendAll es).activatedAt = c.activatedAt := by
  induction es generalizing c with
  | nil => rfl
  | cons e es ih =>
      refine (ih (c.extend e.at_ e.ev)).trans ?_
      rw [extend]
      split_ifs <;> rfl

/-- **Renewals and the end of the calendar.**  A series of accepted renewals of an activated
finite plan keeps it expiring, after each of them, exactly if all the days bought fit before the
end of the year 9999: on top of the expiry, and unless the plan is paused, counted from each
renewal on. -/
theorem renewals_keep_expiry_iff (lib : NetLib) {db : Db} {i : ℕ} {c : Clock} {expire : Stamp}
    (hc : db.clockOf i = some c) (ha : c.activatedAt ≠ none) (hn : 0 < c.durationDays)
    (he : c.expireAt = some expire) {es : List (Timed Stamp PyValue)}
    (hes : ∀ e ∈ es, ∃ d, extendDays e.ev = .ok d) :
    (∀ pre, pre <+: es → StillExpires lib i (extendAll i db pre))
      ↔ RenewalsFit c.status expire (renewals es) := by
  have hpos : ∀ e ∈ renewals es, 0 < e.ev := by
    intro e he
    obtain ⟨e₀, he₀, rfl⟩ := List.mem_map.mp he
    obtain ⟨d, hd⟩ := hes e₀ he₀
    obtain ⟨hv, hd0, -⟩ := extendDays_ok hd
    simpa [hv] using hd0
  have hstill : ∀ pre, pre <+: es → (StillExpires lib i (extendAll i db pre)
      ↔ (c.extendAll (renewals pre)).expireAt ≠ none) := by
    intro pre hpre
    have hclock := clockOf_extendAll hc pre fun e he => hes e (hpre.subset he)
    have hact : (c.extendAll (renewals pre)).activatedAt ≠ none := by
      rwa [Clock.extendAll_activatedAt]
    obtain ⟨u, hu, hclk⟩ := Option.map_eq_some_iff.mp hclock
    rw [← hclk] at hact ⊢
    constructor
    · rintro ⟨u', expire', hu', he', -⟩
      rw [hu] at hu'
      cases hu'
      rw [show u.clock.expireAt = some expire' from he']
      exact Option.some_ne_none _
    · intro hne
      obtain ⟨expire', he'⟩ := Option.ne_none_iff_exists'.mp hne
      exact ⟨u, expire', hu, he', fun now p ip ua hp hs hlt =>
        resolveUserRequest_expired hp hs hact he' hlt lib ip ua⟩
  rw [← Clock.extendAll_expireAt_iff ha hn he hpos]
  constructor
  · intro h pre hpre
    obtain ⟨pre₀, hpre₀, rfl⟩ := List.prefix_map_iff.mp hpre
    exact (hstill pre₀ hpre₀).mp (h pre₀ hpre₀)
  · exact fun h pre hpre => (hstill pre hpre).mpr (h _ (hpre.map _))

/-- The sample user activated on day 20000. -/
def sampleActivated : Db :=
  Runs.run (Db.step sampleLib) sampleDb
    [⟨Stamp.day 20000, sampleAdd⟩, ⟨Stamp.day 20000, sampleFetch⟩]

theorem renewals_keep_expiry_iff_sample :
    (∀ pre, pre <+: [⟨Stamp.day 20010, .int 30⟩, ⟨Stamp.day 20100, .str " 36500 "⟩] →
        StillExpires sampleLib 1 (extendAll 1 sampleActivated pre))
      ↔ RenewalsFit .active (Stamp.day 20030)
          (renewals [⟨Stamp.day 20010, .int 30⟩, ⟨Stamp.day 20100, .str " 36500 "⟩]) :=
  renewals_keep_expiry_iff sampleLib
    (c := { status := .active, durationDays := 30, activatedAt := some (Stamp.day 20000),
            expireAt := some (Stamp.day 20030), pausedAt := none })
    (by decide) (by decide) (by decide) rfl (by
      intro e he
      rcases List.mem_cons.mp he with rfl | he
      · exact ⟨30, rfl⟩
      · rw [List.mem_singleton.mp he]
        exact ⟨36500, by decide⟩)

set_option maxRecDepth 20000 in
/-- Eighty renewals of a hundred years each are accepted, and leave the sample user served long
after every date he paid for. -/
theorem renewals_past_calendar :
    (∀ e ∈ List.replicate 80 (⟨Stamp.day 20010, .int 36500⟩ : Timed Stamp PyValue),
        extendDays e.ev = .ok 36500)
      ∧ sampleActivated.clockOf 1 = some
          { status := .active, durationDays := 30, activatedAt := some (Stamp.day 20000),
            expireAt := some (Stamp.day 20030), pausedAt := none }
      ∧ ¬ StillExpires sampleLib 1
          (extendAll 1 sampleActivated (List.replicate 80 ⟨Stamp.day 20010, .int 36500⟩)) := by
  have hclock : sampleActivated.clockOf 1 = some
      { status := .active, durationDays := 30, activatedAt := some (Stamp.day 20000),
        expireAt := some (Stamp.day 20030), pausedAt := none } := by decide
  refine ⟨by decide, hclock, ?_⟩
  rintro ⟨u, expire, hu, he, -⟩
  have hend := clockOf_extendAll hclock (List.replicate 80 ⟨Stamp.day 20010, .int 36500⟩)
    fun e he => ⟨36500, by rw [List.eq_of_mem_replicate he]; rfl⟩
  have hnone : (Clock.extendAll
      { status := .active, durationDays := 30, activatedAt := some (Stamp.day 20000),
        expireAt := some (Stamp.day 20030), pausedAt := none }
      (renewals (List.replicate 80 ⟨Stamp.day 20010, .int 36500⟩))).expireAt = none := by
    decide
  have huser := congrArg (Option.map Clock.expireAt) hend
  rw [Option.map_some, hnone, Db.clockOf, hu] at huser
  simp only [Option.map_some, Option.some.injEq] at huser
  rw [show u.clock.expireAt = some expire from he] at huser
  cases huser

end V2raySub
