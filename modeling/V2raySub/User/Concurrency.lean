import V2raySub.Base.Interleave
import V2raySub.User.Renewal

/-!
A renewal at the same time as another operation on the same user.

Both operations are a read (`SELECT`) followed by a write (`UPDATE` and commit); the partner of
the renewal writes values it computed from what it read.

* `renewalTxn`, `Partner.txn`: the operations of the service as such pairs of steps, and
  `renewTxn`, `Partner.clockTxn` the same on the clock columns; `sim_renewal` and
  `sim_partner` are the simulation between the two levels.
* `Clash`: the rows on which a partner that read before the renewal and writes after it ends
  with dates no serial order gives.
* `split_resume_iff`, `split_update_iff`, `split_fetch_iff`: that schedule, by partner.
* `renewal_serial_iff`: so **the renewals that another operation can undo** are those it splits
  on a row with a clash.
-/

namespace V2raySub

open Interleave

/-! ### The clock columns -/

/-- The columns a subscriber paid for. -/
def Clock.plan (c : Clock) : ℤ × Option Stamp := (c.durationDays, c.expireAt)

/-- The renewal, on the clock columns: it reads the duration only. -/
def renewTxn (now : Stamp) (days : ℤ) : Txn Clock ℤ where
  read := Clock.durationDays
  write := fun n c => if n = 0 then c else c.extend now days

/-- The operation a renewal runs at the same time as. -/
inductive Partner where
  | resume (now : Stamp)
  | update (now : Stamp) (durationDays : PyValue)
  | fetch (now : Stamp) (subPath : String) (ip userAgent : Option String)

/-- What a partner writes, on the strength of the columns it read. -/
def Partner.write : Partner → Clock → Clock → Clock
  | .resume now => Clock.resumeWith now
  | .update _ v => Clock.editWith v
  | .fetch now _ _ _ => Clock.fetchWith now

/-- The partner, on the clock columns. -/
def Partner.clockTxn (P : Partner) : Txn Clock Clock where
  read := id
  write := P.write

/-- The days of a change of the duration that `update_user` accepts. -/
def acceptedDays (v : PyValue) : Option ℤ :=
  v.toInt?.filter fun n => 0 ≤ n && n ≤ userMaxDurationDays

/-- The rows on which a partner that reads before a renewal by `days` at `now`, and writes after
it, leaves dates that no serial order leaves. -/
def Clash (now : Stamp) (days : ℤ) (c : Clock) : Partner → Prop
  | .resume later =>
    c.status = .paused ∧ c.activatedAt ≠ none
      ∧ ∃ expire ∈ c.expireAt, ∃ p ∈ c.pausedAt,
          minSecs ≤ expire.secs + (later.secs - p.secs)
            ∧ expire.secs + (later.secs - p.secs) ≤ maxSecs
            -- the resumption alone fits the calendar, the one after the renewal does not, and
            -- the pause was as long as the renewal
            ∧ ¬ (expire.secs + days * daySecs ≤ maxSecs
                  ∧ maxSecs < expire.secs + days * daySecs + (later.secs - p.secs)
                  ∧ later.secs - p.secs = days * daySecs)
  | .update _ v =>
    c.activatedAt ≠ none ∧ ∃ n ∈ acceptedDays v, n ≠ 0 ∧
      if n = c.durationDays then (c.base now).secs + days * daySecs ≤ maxSecs
      else
        match c.expireAt with
        | none => now.secs + days * daySecs ≤ maxSecs ∧ n ≠ c.durationDays + days
        | some expire =>
          minSecs ≤ expire.secs + (n - c.durationDays) * daySecs
            ∧ expire.secs + (n - c.durationDays) * daySecs ≤ maxSecs
            ∧ ((c.base now).secs = expire.secs → maxSecs < expire.secs + days * daySecs)
  | .fetch later _ _ _ =>
    c.status = .active ∧ c.activatedAt = none
      ∧ later.secs + c.durationDays * daySecs ≤ maxSecs
      ∧ (maxSecs < later.secs + (c.durationDays + days) * daySecs →
          ∀ expire ∈ c.expireAt, expire.secs ≠ later.secs + c.durationDays * daySecs)

namespace Clock

variable {now later : Stamp} {days : ℤ} {c read : Clock}

lemma extend_eq (now : Stamp) (days : ℤ) (hn : c.durationDays ≠ 0) : c.extend now days
    = { c with expireAt := extendedExpiry now days c, durationDays := c.durationDays + days } := by
  rw [extend, if_neg hn]

/-- The expiry a renewal writes: the base and the days, or nothing past the calendar. -/
lemma extendedExpiry_cases (now : Stamp) (ha : c.activatedAt ≠ none) (hd : 0 ≤ days) :
    (∃ e : Stamp, extendedExpiry now days c = some e
        ∧ e.secs = (c.base now).secs + days * daySecs
        ∧ (c.base now).secs + days * daySecs ≤ maxSecs)
      ∨ extendedExpiry now days c = none ∧ maxSecs < (c.base now).secs + days * daySecs := by
  have hpos : 0 ≤ days * daySecs := Int.mul_nonneg hd (by decide)
  rw [extendedExpiry_eq now days ha]
  by_cases hcal : (c.base now).secs + days * daySecs ≤ maxSecs
  · obtain ⟨e, he⟩ := Option.isSome_iff_exists.mp ((Stamp.add?_isSome_iff hpos).mpr hcal)
    exact Or.inl ⟨e, he, Stamp.add?_eq_some_iff.mp he, hcal⟩
  · exact Or.inr ⟨Stamp.add?_eq_none_iff.mpr (Or.inr (by omega)), by omega⟩

lemma base_paused (now : Stamp) {expire : Stamp} (hs : c.status = .paused)
    (he : c.expireAt = some expire) :
    c.base now = expire := by rw [base, if_pos hs, he, Option.getD_some]

lemma base_none (now : Stamp) (he : c.expireAt = none) : c.base now = now := by
  rw [base, he, Option.getD_none, Stamp.later, if_pos (Int.le_refl _), ite_self]

/-- A renewal never leaves the expiry it found. -/
lemma expireAt_extend_ne {expire : Stamp} (ha : c.activatedAt ≠ none) (hn : c.durationDays ≠ 0)
    (hd : 0 < days) (he : c.expireAt = some expire) :
    (c.extend now days).expireAt ≠ some expire := by
  have hpos : 0 < days * daySecs := Int.mul_pos hd (by decide)
  rw [extend_eq now days hn]
  show extendedExpiry now days c ≠ some expire
  rcases extendedExpiry_cases now ha hd.le with ⟨e, hE, hsecs, -⟩ | ⟨hE, -⟩
  · have hle := expire_le_base now he
    rw [hE, ne_eq, Option.some.injEq, Stamp.ext_iff]
    omega
  · rw [hE]
    exact (Option.some_ne_none expire).symm

lemma resumeWith_of_ne (hs : read.status ≠ .paused) : resumeWith later read c = c := by
  rw [resumeWith, if_neg hs]

lemma resumeWith_nil (hs : read.status = .paused) (h : resumeShift later read = .ok []) :
    resumeWith later read c = { c with status := .active, pausedAt := none } := by
  rw [resumeWith, if_pos hs, h]
  rfl

lemma resumeWith_some {e : Stamp} (hs : read.status = .paused)
    (h : resumeShift later read = .ok [.expireAt (some e)]) : resumeWith later read c
      = { c with expireAt := some e, status := .active, pausedAt := none } := by
  rw [resumeWith, if_pos hs, h]
  rfl

lemma resumeWith_error {m : String} (hs : read.status = .paused)
    (h : resumeShift later read = .error m) : resumeWith later read c = c := by
  rw [resumeWith, if_pos hs, h]

/-- A row with a missing date is resumed without a shift. -/
lemma resumeShift_nil (later : Stamp)
    (h : read.activatedAt = none ∨ read.pausedAt = none ∨ read.expireAt = none) :
    resumeShift later read = .ok [] := by
  rw [resumeShift]
  rcases h with h | h | h
  · rw [h]
  · rw [h]
    cases read.activatedAt <;> rfl
  · rw [h]
    cases read.activatedAt <;> cases read.pausedAt <;> rfl

/-! ### A change of the duration by what was read before -/

variable {v : PyValue} {n : ℤ}

lemma acceptedDays_eq_some (hn : v.toInt? = some n) (h0 : 0 ≤ n) (h1 : n ≤ userMaxDurationDays) :
    acceptedDays v = some n := by
  rw [acceptedDays, hn, Option.filter_some, if_pos]
  simpa using ⟨h0, h1⟩

lemma editWith_of_none (h : acceptedDays v = none) : editWith v read c = c := by
  unfold editWith
  cases hd : durationSets read v with
  | error e => rfl
  | ok sets =>
      rcases durationSets_ok hd with ⟨-, rfl⟩ | ⟨n, s, hn, h0, h1, -⟩
      · rfl
      · rw [acceptedDays_eq_some hn h0 h1] at h
        cases h

lemma durationSets_of_some (h : acceptedDays v = some n) :
    durationSets read v = (expireSets read n).map (.durationDays n :: ·) := by
  obtain ⟨hn, hr⟩ := Option.filter_eq_some_iff.mp h
  obtain ⟨h0, h1⟩ : 0 ≤ n ∧ n ≤ userMaxDurationDays := by simpa using hr
  unfold durationSets
  cases v with
  | none => cases hn
  | _ =>
      dsimp only
      rw [hn]
      dsimp only
      rw [if_neg (by omega), if_neg (by omega)]

lemma editWith_nil (h : acceptedDays v = some n) (hs : expireSets read n = .ok []) :
    editWith v read c = { c with durationDays := n } := by
  rw [editWith, durationSets_of_some h, hs]
  rfl

lemma editWith_set {e : Option Stamp} (h : acceptedDays v = some n)
    (hs : expireSets read n = .ok [.expireAt e]) :
    editWith v read c = { c with durationDays := n, expireAt := e } := by
  rw [editWith, durationSets_of_some h, hs]
  rfl

lemma editWith_error {m : String} (h : acceptedDays v = some n)
    (hs : expireSets read n = .error m) : editWith v read c = c := by
  rw [editWith, durationSets_of_some h, hs]
  rfl

lemma expireSets_nil (h : read.activatedAt = none ∨ n = read.durationDays) :
    expireSets read n = .ok [] := by
  rw [expireSets]
  cases ha : read.activatedAt with
  | none => rfl
  | some act =>
      rcases h with h | h
      · rw [ha] at h; cases h
      · exact if_pos h

lemma expireSets_zero (ha : read.activatedAt ≠ none) (hn : read.durationDays ≠ 0) :
    expireSets read 0 = .ok [.expireAt none] := by
  obtain ⟨act, ha⟩ := Option.ne_none_iff_exists'.mp ha
  rw [expireSets, ha]
  dsimp only
  rw [if_neg hn.symm, if_pos rfl]

/-- From finite to finite, the expiry shifts by the difference. -/
lemma expireSets_finite (ha : read.activatedAt ≠ none) (hne : n ≠ read.durationDays)
    (h0 : n ≠ 0) (hn : read.durationDays ≠ 0) : expireSets read n
      = match read.expireAt with
        | none => .ok []
        | some expire =>
          match expire.add? ((n - read.durationDays) * daySecs) with
          | none => .error msgUpdateError
          | some e => .ok [.expireAt (some e)] := by
  obtain ⟨act, ha⟩ := Option.ne_none_iff_exists'.mp ha
  rw [expireSets, ha]
  dsimp only
  refine (if_neg hne).trans ((if_neg h0).trans ((if_neg hn).trans ?_))
  cases read.expireAt <;> rfl

end Clock

/-! ### The partner reads before the renewal and writes after it -/

section Split

variable {now : Stamp} {days : ℤ} {c : Clock}

/-- The dates after the split schedule are those of a serial order. -/
def SplitSerial (now : Stamp) (days : ℤ) (c : Clock) (P : Partner) : Prop :=
  (P.write c (c.extend now days)).plan = (P.write (c.extend now days) (c.extend now days)).plan
    ∨ (P.write c (c.extend now days)).plan = ((P.write c c).extend now days).plan

/-- A resumption that shifts no dates leaves the renewal as it was. -/
lemma split_resume_nil (later : Stamp) (hn : c.durationDays ≠ 0) (hs : c.status = .paused)
    (h : c.activatedAt = none ∨ c.pausedAt = none ∨ c.expireAt = none) :
    SplitSerial now days c (.resume later) := by
  have hext := Clock.extend_eq now days hn
  have hs' : (c.extend now days).status = .paused := by rw [hext]; exact hs
  have hout : Clock.resumeWith later c (c.extend now days)
      = { c.extend now days with status := .active, pausedAt := none } :=
    Clock.resumeWith_nil hs (Clock.resumeShift_nil later h)
  by_cases h' : c.activatedAt = none ∨ c.pausedAt = none
  · -- the renewed row misses the same date
    left
    have hshift : resumeShift later (c.extend now days) = .ok [] := by
      refine Clock.resumeShift_nil later ?_
      rw [hext]
      exact h'.imp id Or.inl
    show (Clock.resumeWith later c (c.extend now days)).plan
      = (Clock.resumeWith later (c.extend now days) (c.extend now days)).plan
    rw [hout, Clock.resumeWith_nil hs' hshift]
  · -- no expiry: the renewal counts from now, paused or not
    right
    have he : c.expireAt = none := by tauto
    show (Clock.resumeWith later c (c.extend now days)).plan
      = ((Clock.resumeWith later c c).extend now days).plan
    have hres := Clock.resumeWith_nil (c := c) hs (Clock.resumeShift_nil later h)
    rw [hout, hres, Clock.extend_eq now days hn, Clock.extend_eq now days (by exact hn)]
    obtain ⟨act, ha⟩ := Option.ne_none_iff_exists'.mp fun ha => h' (Or.inl ha)
    have hlater : Stamp.later now now = now := by rw [Stamp.later, if_pos (Int.le_refl _)]
    simp [Clock.plan, extendedExpiry, ha, he, hs, hlater]

/-- A split resumption keeps the renewal exactly if there is no clash. -/
theorem split_resume_iff (later : Stamp) (hn : c.durationDays ≠ 0) (hd : 0 < days) :
    SplitSerial now days c (.resume later) ↔ ¬ Clash now days c (.resume later) := by
  have hext := Clock.extend_eq now days hn
  have hpos : 0 < days * daySecs := Int.mul_pos hd (by decide)
  by_cases hs : c.status = .paused
  swap
  · -- nothing is resumed
    have hs' : (c.extend now days).status ≠ .paused := by rw [hext]; exact hs
    refine iff_of_true (Or.inl ?_) fun h => hs h.1
    show (Clock.resumeWith later c (c.extend now days)).plan
      = (Clock.resumeWith later (c.extend now days) (c.extend now days)).plan
    rw [Clock.resumeWith_of_ne hs, Clock.resumeWith_of_ne hs']
  have hs' : (c.extend now days).status = .paused := by rw [hext]; exact hs
  by_cases hnil : c.activatedAt = none ∨ c.pausedAt = none ∨ c.expireAt = none
  · refine iff_of_true (split_resume_nil later hn hs hnil) ?_
    rintro ⟨-, ha, expire, he, p, hp, -⟩
    rcases hnil with h | h | h
    · exact ha h
    · rw [h] at hp; cases hp
    · rw [h] at he; cases he
  obtain ⟨ha, hp, he⟩ : c.activatedAt ≠ none ∧ c.pausedAt ≠ none ∧ c.expireAt ≠ none := by
    tauto
  obtain ⟨act, hact⟩ := Option.ne_none_iff_exists'.mp ha
  obtain ⟨p, hp⟩ := Option.ne_none_iff_exists'.mp hp
  obtain ⟨expire, he⟩ := Option.ne_none_iff_exists'.mp he
  have hbase := Clock.base_paused now hs he
  cases hx : expire.add? (later.secs - p.secs) with
  | none =>
      -- the resumption raises in every order
      have herr : ∃ m, resumeShift later c = .error m := by simp [resumeShift, hact, hp, he, hx]
      obtain ⟨m, herr⟩ := herr
      refine iff_of_true (Or.inr ?_) ?_
      · show (Clock.resumeWith later c (c.extend now days)).plan
          = ((Clock.resumeWith later c c).extend now days).plan
        rw [Clock.resumeWith_error hs herr, Clock.resumeWith_error hs herr]
      · rintro ⟨-, -, e, he', p', hp', h1, h2, -⟩
        rw [he] at he'
        rw [hp] at hp'
        cases he'
        cases hp'
        have := Stamp.add?_eq_none_iff.mp hx
        omega
  | some x =>
      have hx' := Stamp.add?_eq_some_iff.mp hx
      have hlo := x.lo
      have hhi := x.hi
      have hshift : resumeShift later c = .ok [.expireAt (some x)] := by
        simp [resumeShift, hact, hp, he, hx]
      have hout : (Clock.resumeWith later c (c.extend now days)).plan
          = (c.durationDays + days, some x) := by
        rw [Clock.resumeWith_some hs hshift, hext]
        rfl
      -- the resumption first: the renewal adds its days to the shifted expiry
      have hne : (Clock.resumeWith later c (c.extend now days)).plan
          ≠ ((Clock.resumeWith later c c).extend now days).plan := by
        rw [hout, Clock.resumeWith_some hs hshift]
        intro heq
        exact Clock.expireAt_extend_ne
          (c := { c with expireAt := some x, status := .active, pausedAt := none })
          ha hn hd rfl (congrArg Prod.snd heq).symm
      have hclash : Clash now days c (.resume later)
          ↔ ¬ (expire.secs + days * daySecs ≤ maxSecs
            ∧ maxSecs < expire.secs + days * daySecs + (later.secs - p.secs)
            ∧ later.secs - p.secs = days * daySecs) := by
        constructor
        · rintro ⟨-, -, e, he', p', hp', -, -, h⟩
          rw [he] at he'
          rw [hp] at hp'
          cases he'
          cases hp'
          exact h
        · exact fun h => ⟨hs, ha, expire, he, p, hp, by omega, by omega, h⟩
      rw [hclash, not_not, SplitSerial]
      refine (or_iff_left hne).trans ?_
      show (Clock.resumeWith later c (c.extend now days)).plan
        = (Clock.resumeWith later (c.extend now days) (c.extend now days)).plan ↔ _
      rw [hout]
      -- the renewal first
      rcases Clock.extendedExpiry_cases now ha hd.le with ⟨y, hE, hy, hcal⟩ | ⟨hE, hcal⟩
      · rw [hbase] at hy hcal
        cases hz : y.add? (later.secs - p.secs) with
        | none =>
            have herr : ∃ m, resumeShift later (c.extend now days) = .error m := by
              simp [hext, resumeShift, hact, hp, hE, hz]
            obtain ⟨m, herr⟩ := herr
            have hz' := Stamp.add?_eq_none_iff.mp hz
            rw [Clock.resumeWith_error hs' herr, hext]
            simp only [Clock.plan, hE, Prod.mk.injEq, true_and, Option.some.injEq, Stamp.ext_iff]
            omega
        | some z =>
            have hz' := Stamp.add?_eq_some_iff.mp hz
            have hshift' : resumeShift later (c.extend now days) = .ok [.expireAt (some z)] := by
              simp [hext, resumeShift, hact, hp, hE, hz]
            have hzhi := z.hi
            rw [Clock.resumeWith_some hs' hshift', hext]
            simp only [Clock.plan, Prod.mk.injEq, true_and, Option.some.injEq, Stamp.ext_iff]
            omega
      · rw [hbase] at hcal
        have hshift' : resumeShift later (c.extend now days) = .ok [] :=
          Clock.resumeShift_nil later (Or.inr (Or.inr (by rw [hext]; exact hE)))
        rw [Clock.resumeWith_nil hs' hshift', hext]
        simp only [Clock.plan, hE, Prod.mk.injEq, true_and, reduceCtorEq, false_iff]
        omega

/-- A change to `n` days of a plan with `old` days and the expiry `e`: the dates it leaves. -/
def changed (old n : ℤ) (e : Option Stamp) : ℤ × Option Stamp :=
  if n = old then (n, e)
  else
    match e with
    | none => (n, none)
    | some expire =>
      match expire.add? ((n - old) * daySecs) with
      | none => (old, some expire)
      | some e => (n, some e)

/-- A change of the duration of a finite plan by its own columns. -/
lemma plan_editWith_self {v : PyValue} {n : ℤ} (hv : acceptedDays v = some n) (h0 : n ≠ 0)
    (ha : c.activatedAt ≠ none) (hn : c.durationDays ≠ 0) :
    (Clock.editWith v c c).plan = changed c.durationDays n c.expireAt := by
  unfold changed
  split_ifs with hsame
  · rw [Clock.editWith_nil hv (Clock.expireSets_nil (Or.inr hsame))]
    rfl
  · have hsets := Clock.expireSets_finite ha hsame h0 hn
    cases he : c.expireAt with
    | none =>
        rw [he] at hsets
        rw [Clock.editWith_nil hv hsets, Clock.plan]
        simp [he]
    | some expire =>
        rw [he] at hsets
        dsimp only at hsets ⊢
        cases hx : expire.add? ((n - c.durationDays) * daySecs) with
        | none =>
            rw [hx] at hsets
            rw [Clock.editWith_error hv hsets, Clock.plan, he]
        | some e =>
            rw [hx] at hsets
            rw [Clock.editWith_set hv hsets, Clock.plan]

/-- The renewal after a change of the duration leaves other days than the split schedule. -/
lemma plan_extend_ne {c' : Clock} (hn : c'.durationDays ≠ 0) {o : ℤ × Option Stamp}
    (ho : o.1 ≠ c'.durationDays + days) : o ≠ (c'.extend now days).plan := by
  intro h
  rw [h, Clock.extend_eq now days hn] at ho
  exact ho rfl

/-- A split change to as many days as the plan had. -/
lemma split_update_same {v : PyValue} (tu : Stamp) (hv : acceptedDays v = some c.durationDays)
    (hn : 0 < c.durationDays) (hd : 0 < days) (ha : c.activatedAt ≠ none) :
    SplitSerial now days c (.update tu v) ↔ maxSecs < (c.base now).secs + days * daySecs := by
  have hext := Clock.extend_eq now days hn.ne'
  have hpos : 0 < days * daySecs := Int.mul_pos hd (by decide)
  have hself : ∀ x, Clock.editWith v c x = { x with durationDays := c.durationDays } :=
    fun x => Clock.editWith_nil hv (Clock.expireSets_nil (Or.inr rfl))
  have hout : (Clock.editWith v c (c.extend now days)).plan
      = (c.durationDays, extendedExpiry now days c) := by
    rw [hself, hext]
    rfl
  have hne : (Clock.editWith v c (c.extend now days)).plan
      ≠ ((Clock.editWith v c c).extend now days).plan := by
    rw [hself c]
    refine plan_extend_ne hn.ne' ?_
    rw [hout]
    show c.durationDays ≠ c.durationDays + days
    omega
  refine (or_iff_left hne).trans ?_
  show (Clock.editWith v c (c.extend now days)).plan
    = (Clock.editWith v (c.extend now days) (c.extend now days)).plan ↔ _
  have hlong : (c.extend now days).durationDays ≠ 0 := by
    rw [hext]
    show c.durationDays + days ≠ 0
    omega
  rw [hout, plan_editWith_self hv hn.ne' (by rw [hext]; exact ha) hlong, hext]
  dsimp only
  unfold changed
  rw [if_neg (by omega)]
  rcases Clock.extendedExpiry_cases now ha hd.le with ⟨y, hE, hy, hcal⟩ | ⟨hE, hcal⟩
  · rw [hE]
    dsimp only
    cases hx : y.add? ((c.durationDays - (c.durationDays + days)) * daySecs) with
    | none =>
        simp only [Prod.mk.injEq]
        omega
    | some x =>
        have hx' := Stamp.add?_eq_some_iff.mp hx
        simp only [Prod.mk.injEq, true_and, Option.some.injEq, Stamp.ext_iff, daySecs] at *
        omega
  · rw [hE]
    simpa using hcal

/-- A split change to another number of days of a plan without an expiry. -/
lemma split_update_none {v : PyValue} {n : ℤ} (tu : Stamp) (hv : acceptedDays v = some n)
    (h0 : n ≠ 0) (hne : n ≠ c.durationDays) (hn : 0 < c.durationDays) (hd : 0 < days)
    (ha : c.activatedAt ≠ none) (he : c.expireAt = none) :
    SplitSerial now days c (.update tu v)
      ↔ ¬ (now.secs + days * daySecs ≤ maxSecs ∧ n ≠ c.durationDays + days) := by
  have hext := Clock.extend_eq now days hn.ne'
  have hbase := Clock.base_none now he
  have hsets : expireSets c n = .ok [] := by
    rw [Clock.expireSets_finite ha hne h0 hn.ne', he]
  have hself : ∀ x, Clock.editWith v c x = { x with durationDays := n } :=
    fun x => Clock.editWith_nil hv hsets
  have hout : (Clock.editWith v c (c.extend now days)).plan
      = (n, extendedExpiry now days c) := by
    rw [hself, hext]
    rfl
  have hneq : (Clock.editWith v c (c.extend now days)).plan
      ≠ ((Clock.editWith v c c).extend now days).plan := by
    rw [hself c]
    refine plan_extend_ne h0 ?_
    rw [hout]
    show n ≠ n + days
    omega
  refine (or_iff_left hneq).trans ?_
  show (Clock.editWith v c (c.extend now days)).plan
    = (Clock.editWith v (c.extend now days) (c.extend now days)).plan ↔ _
  have hn' : c.durationDays + days ≠ 0 := by omega
  rw [hout, plan_editWith_self hv h0 (by rw [hext]; exact ha) (by rw [hext]; exact hn'), hext]
  unfold changed
  dsimp only
  split_ifs with hsame
  · simp [hsame]
  rcases Clock.extendedExpiry_cases now ha hd.le with ⟨y, hE, hy, hcal⟩ | ⟨hE, hcal⟩
  · rw [hE]
    rw [hbase] at hy hcal
    dsimp only
    cases hx : y.add? ((n - (c.durationDays + days)) * daySecs) with
    | none => simp [hsame, hcal]
    | some x =>
        have hx' := Stamp.add?_eq_some_iff.mp hx
        simp only [Prod.mk.injEq, true_and, Option.some.injEq, Stamp.ext_iff, daySecs] at *
        omega
  · rw [hE]
    rw [hbase] at hcal
    simp [hcal]

/-- A split change to another number of days of a plan with an expiry. -/
lemma split_update_some {v : PyValue} {n : ℤ} (tu : Stamp) (hv : acceptedDays v = some n)
    (h0 : n ≠ 0) (hne : n ≠ c.durationDays) (hn : 0 < c.durationDays) (hd : 0 < days)
    (ha : c.activatedAt ≠ none) {expire : Stamp} (he : c.expireAt = some expire) :
    SplitSerial now days c (.update tu v)
      ↔ ¬ (minSecs ≤ expire.secs + (n - c.durationDays) * daySecs
            ∧ expire.secs + (n - c.durationDays) * daySecs ≤ maxSecs
            ∧ ((c.base now).secs = expire.secs → maxSecs < expire.secs + days * daySecs)) := by
  have hext := Clock.extend_eq now days hn.ne'
  have hsets := Clock.expireSets_finite ha hne h0 hn.ne'
  have hbase := Clock.expire_le_base now he
  rw [he] at hsets
  dsimp only at hsets
  cases hx : expire.add? ((n - c.durationDays) * daySecs) with
  | none =>
      -- the change alone raises: the renewal is all that happens
      rw [hx] at hsets
      have hx' := Stamp.add?_eq_none_iff.mp hx
      refine iff_of_true (Or.inr ?_) (by omega)
      show (Clock.editWith v c (c.extend now days)).plan
        = ((Clock.editWith v c c).extend now days).plan
      rw [Clock.editWith_error hv hsets, Clock.editWith_error hv hsets]
  | some y =>
      rw [hx] at hsets
      have hy := Stamp.add?_eq_some_iff.mp hx
      have hlo := y.lo
      have hhi := y.hi
      have hself : ∀ x, Clock.editWith v c x = { x with durationDays := n, expireAt := some y } :=
        fun x => Clock.editWith_set hv hsets
      have hout : (Clock.editWith v c (c.extend now days)).plan = (n, some y) := by
        rw [hself]
        rfl
      have hneq : (Clock.editWith v c (c.extend now days)).plan
          ≠ ((Clock.editWith v c c).extend now days).plan := by
        rw [hself c]
        refine plan_extend_ne h0 ?_
        rw [hout]
        show n ≠ n + days
        omega
      have hin : (minSecs ≤ expire.secs + (n - c.durationDays) * daySecs
            ∧ expire.secs + (n - c.durationDays) * daySecs ≤ maxSecs
            ∧ ((c.base now).secs = expire.secs → maxSecs < expire.secs + days * daySecs))
          ↔ ((c.base now).secs = expire.secs → maxSecs < expire.secs + days * daySecs) :=
        ⟨fun h => h.2.2, fun h => ⟨by omega, by omega, h⟩⟩
      refine (or_iff_left hneq).trans ?_
      show (Clock.editWith v c (c.extend now days)).plan
        = (Clock.editWith v (c.extend now days) (c.extend now days)).plan ↔ _
      have hn' : c.durationDays + days ≠ 0 := by omega
      rw [hin, hout, plan_editWith_self hv h0 (by rw [hext]; exact ha) (by rw [hext]; exact hn'),
        hext]
      unfold changed
      dsimp only
      rcases Clock.extendedExpiry_cases now ha hd.le with ⟨z, hE, hz, hcal⟩ | ⟨hE, hcal⟩
      · rw [hE]
        dsimp only
        split_ifs with hsame
        · simp only [Prod.mk.injEq, true_and, Option.some.injEq, Stamp.ext_iff, daySecs] at *
          omega
        · cases hw : z.add? ((n - (c.durationDays + days)) * daySecs) with
          | none =>
              have hw' := Stamp.add?_eq_none_iff.mp hw
              simp only [Prod.mk.injEq, hsame, false_and, false_iff, daySecs] at *
              omega
          | some w =>
              have hw' := Stamp.add?_eq_some_iff.mp hw
              simp only [Prod.mk.injEq, true_and, Option.some.injEq, Stamp.ext_iff, daySecs] at *
              omega
      · rw [hE]
        dsimp only
        split_ifs with hsame
        · simp only [Prod.mk.injEq, true_and, reduceCtorEq, false_iff]
          omega
        · simp only [Prod.mk.injEq, true_and, reduceCtorEq, false_iff]
          omega

/-- A split change of the duration keeps the renewal exactly if there is no clash. -/
theorem split_update_iff (tu : Stamp) (v : PyValue) (hn : 0 < c.durationDays) (hd : 0 < days) :
    SplitSerial now days c (.update tu v) ↔ ¬ Clash now days c (.update tu v) := by
  have hext := Clock.extend_eq now days hn.ne'
  cases hv : acceptedDays v with
  | none =>
      refine iff_of_true (Or.inl ?_) ?_
      · show (Clock.editWith v c (c.extend now days)).plan
          = (Clock.editWith v (c.extend now days) (c.extend now days)).plan
        rw [Clock.editWith_of_none hv, Clock.editWith_of_none hv]
      · rintro ⟨-, n, hn, -⟩
        rw [hv] at hn
        cases hn
  | some n =>
      by_cases ha : c.activatedAt = none
      · -- not started: only the duration is written
        have ha' : (c.extend now days).activatedAt = none := by rw [hext]; exact ha
        refine iff_of_true (Or.inl ?_) fun h => h.1 ha
        show (Clock.editWith v c (c.extend now days)).plan
          = (Clock.editWith v (c.extend now days) (c.extend now days)).plan
        rw [Clock.editWith_nil hv (Clock.expireSets_nil (Or.inl ha)),
          Clock.editWith_nil hv (Clock.expireSets_nil (Or.inl ha'))]
      have hclash : Clash now days c (.update tu v) ↔ n ≠ 0 ∧
          if n = c.durationDays then (c.base now).secs + days * daySecs ≤ maxSecs
          else
            match c.expireAt with
            | none => now.secs + days * daySecs ≤ maxSecs ∧ n ≠ c.durationDays + days
            | some expire =>
              minSecs ≤ expire.secs + (n - c.durationDays) * daySecs
                ∧ expire.secs + (n - c.durationDays) * daySecs ≤ maxSecs
                ∧ ((c.base now).secs = expire.secs → maxSecs < expire.secs + days * daySecs) := by
        constructor
        · rintro ⟨-, k, hk, h⟩
          rw [hv] at hk
          cases hk
          exact h
        · exact fun h => ⟨ha, n, hv, h⟩
      by_cases h0 : n = 0
      · -- made unlimited: nothing is left of the dates
        subst h0
        have ha' : (c.extend now days).activatedAt ≠ none := by rw [hext]; exact ha
        have hn' : (c.extend now days).durationDays ≠ 0 := by
          rw [hext]
          show c.durationDays + days ≠ 0
          omega
        refine iff_of_true (Or.inl ?_) (by rw [hclash]; simp)
        show (Clock.editWith v c (c.extend now days)).plan
          = (Clock.editWith v (c.extend now days) (c.extend now days)).plan
        rw [Clock.editWith_set hv (Clock.expireSets_zero ha hn.ne'),
          Clock.editWith_set hv (Clock.expireSets_zero ha' hn')]
      by_cases hsame : n = c.durationDays
      · subst hsame
        rw [hclash, if_pos rfl, split_update_same tu hv hn hd ha]
        omega
      · rw [hclash, if_neg hsame]
        cases he : c.expireAt with
        | none => simpa [h0] using split_update_none tu hv h0 hsame hn hd ha he
        | some expire =>
            rw [split_update_some tu hv h0 hsame hn hd ha he]
            simp only [ne_eq, h0, not_false_eq_true, true_and]

/-! ### First use -/

lemma fetchWith_of_not {later : Stamp} {read x : Clock}
    (h : ¬ (read.status = .active ∧ read.activatedAt = none)) :
    Clock.fetchWith later read x = x := by rw [Clock.fetchWith, if_neg h]

/-- First use by columns not started: the expiry counts the days that were read. -/
lemma fetchWith_cases (later : Stamp) {read x : Clock}
    (h : read.status = .active ∧ read.activatedAt = none) (hx : x.activatedAt = none)
    (hn : 0 < read.durationDays) :
    (∃ e : Stamp, e.secs = later.secs + read.durationDays * daySecs
        ∧ Clock.fetchWith later read x
            = { x with activatedAt := some later, expireAt := some e })
      ∨ maxSecs < later.secs + read.durationDays * daySecs
          ∧ Clock.fetchWith later read x = x := by
  have hpos : 0 ≤ read.durationDays * daySecs := Int.mul_nonneg hn.le (by decide)
  rw [Clock.fetchWith, if_pos h, activationExpiry, if_neg (by omega)]
  cases he : later.add? (read.durationDays * daySecs) with
  | none =>
      have he' := Stamp.add?_eq_none_iff.mp he
      have hlo := later.lo
      exact Or.inr ⟨by omega, rfl⟩
  | some e => exact Or.inl ⟨e, Stamp.add?_eq_some_iff.mp he, if_pos hx⟩

/-- A split first use keeps the renewal exactly if there is no clash. -/
theorem split_fetch_iff (later : Stamp) (p : String) (ip ua : Option String)
    (hn : 0 < c.durationDays) (hd : 0 < days) :
    SplitSerial now days c (.fetch later p ip ua) ↔ ¬ Clash now days c (.fetch later p ip ua) := by
  have hext := Clock.extend_eq now days hn.ne'
  have hpos : 0 < days * daySecs := Int.mul_pos hd (by decide)
  by_cases hact : c.status = .active ∧ c.activatedAt = none
  swap
  · have hact' : ¬ ((c.extend now days).status = .active
        ∧ (c.extend now days).activatedAt = none) := by rw [hext]; exact hact
    refine iff_of_true (Or.inl ?_) fun h => hact ⟨h.1, h.2.1⟩
    show (Clock.fetchWith later c (c.extend now days)).plan
      = (Clock.fetchWith later (c.extend now days) (c.extend now days)).plan
    rw [fetchWith_of_not hact, fetchWith_of_not hact']
  have hx : (c.extend now days).activatedAt = none := by rw [hext]; exact hact.2
  have hact' : (c.extend now days).status = .active
      ∧ (c.extend now days).activatedAt = none := by rw [hext]; exact hact
  have hdur : (c.extend now days).durationDays = c.durationDays + days := by rw [hext]
  rcases fetchWith_cases later hact hx hn with ⟨e, he, hout⟩ | ⟨hcal, hout⟩
  · have hhi := e.hi
    rcases fetchWith_cases later hact hact.2 hn with ⟨e', he', hfst⟩ | ⟨hcal, -⟩
    swap
    · omega
    obtain rfl : e' = e := Stamp.ext (by omega)
    -- first use first: the renewal adds its days to the new expiry
    have hne : (Clock.fetchWith later c (c.extend now days)).plan
        ≠ ((Clock.fetchWith later c c).extend now days).plan := by
      rw [hout, hfst]
      intro heq
      exact Clock.expireAt_extend_ne
        (c := { c with activatedAt := some later, expireAt := some e' })
        (Option.some_ne_none _) hn.ne' hd rfl (congrArg Prod.snd heq).symm
    refine (or_iff_left hne).trans ?_
    show (Clock.fetchWith later c (c.extend now days)).plan
      = (Clock.fetchWith later (c.extend now days) (c.extend now days)).plan ↔ _
    have hclash : Clash now days c (.fetch later p ip ua)
        ↔ (maxSecs < later.secs + (c.durationDays + days) * daySecs →
          ∀ expire ∈ c.expireAt, expire.secs ≠ later.secs + c.durationDays * daySecs) :=
      ⟨fun h => h.2.2.2, fun h => ⟨hact.1, hact.2, by omega, h⟩⟩
    have hmul := Int.add_mul c.durationDays days daySecs
    rw [hout, hclash]
    rcases fetchWith_cases later hact' hx (by omega) with ⟨z, hz, hsec⟩ | ⟨hcal, hsec⟩
    · have hzhi := z.hi
      rw [hdur] at hz
      rw [hsec]
      simp only [Clock.plan, Prod.mk.injEq, true_and, Option.some.injEq, Stamp.ext_iff]
      refine iff_of_false (by omega) fun h => h fun hgt => ?_
      omega
    · rw [hdur] at hcal
      rw [hsec]
      have hexp : (c.extend now days).expireAt = c.expireAt := by
        rw [hext, extendedExpiry, hact.2]
      simp only [Clock.plan, hexp, Prod.mk.injEq, true_and, hcal, true_implies]
      cases hE : c.expireAt with
      | none => simp
      | some expire =>
          simp only [Option.some.injEq, Option.mem_def, forall_eq', ne_eq, not_not]
          rw [Stamp.ext_iff]
          omega
  · -- first use raises in the split schedule and before the renewal
    refine iff_of_true (Or.inr ?_) fun h => by have := h.2.2.1; omega
    rcases fetchWith_cases later hact hact.2 hn with ⟨e', he', -⟩ | ⟨-, hfst⟩
    · have := e'.hi
      omega
    · show (Clock.fetchWith later c (c.extend now days)).plan
        = ((Clock.fetchWith later c c).extend now days).plan
      rw [hout, hfst]

/-- **The split schedule** ends with the dates of a serial order exactly if there is no clash. -/
theorem split_serial_iff (P : Partner) (hn : 0 < c.durationDays) (hd : 0 < days) :
    SplitSerial now days c P ↔ ¬ Clash now days c P := by
  cases P with
  | resume later => exact split_resume_iff later hn.ne' hd
  | update tu v => exact split_update_iff tu v hn hd
  | fetch later p ip ua => exact split_fetch_iff later p ip ua hn hd

end Split

/-! ### Every schedule, on the clock columns -/

lemma renewTxn_write {n : ℤ} (hn : n ≠ 0) (now : Stamp) (days : ℤ) (c : Clock) :
    (renewTxn now days).write n c = c.extend now days := if_neg hn

lemma renewTxn_run (now : Stamp) (days : ℤ) (c : Clock) :
    (renewTxn now days).run c = c.extend now days := by
  by_cases hn : c.durationDays = 0
  · rw [Clock.extend, if_pos hn]
    exact if_pos hn
  · exact renewTxn_write hn now days c

/-- The dates that a schedule and the two serial orders leave. -/
def Serial (now : Stamp) (days : ℤ) (P : Partner) (w : List Step) (c : Clock) : Prop :=
  (outcome (renewTxn now days) P.clockTxn w c).plan
      = (P.clockTxn.run ((renewTxn now days).run c)).plan
    ∨ (outcome (renewTxn now days) P.clockTxn w c).plan
      = ((renewTxn now days).run (P.clockTxn.run c)).plan

lemma serial_iff {now : Stamp} {days : ℤ} {c : Clock} (P : Partner) (hn : 0 < c.durationDays)
    (hd : 0 < days) {w : List Step} (hw : w ∈ schedules) :
    Serial now days P w c ↔ ¬ (Splits w ∧ Clash now days c P) := by
  by_cases hsplit : Splits w
  · rw [Serial, outcome_of_splits _ _ hw hsplit, renewTxn_run, renewTxn_run]
    refine (split_serial_iff P hn hd).trans ?_
    simp only [hsplit, true_and]
  · refine iff_of_true ?_ fun h => hsplit h.1
    rcases outcome_of_not_splits (renewTxn now days) P.clockTxn hw hsplit c with h | h | h
    · exact Or.inl (by rw [h])
    · exact Or.inr (by rw [h])
    · -- the renewal read the duration before the partner and writes after it
      refine Or.inr ?_
      rw [h, renewTxn_run]
      exact congrArg Clock.plan (renewTxn_write hn.ne' now days _)

/-! ### The service -/

/-- The renewal by the service: `SELECT duration_days`, then the rest of `extend_user`. -/
def renewalTxn (now : Stamp) (i : ℕ) (days : ℤ) : Txn Db (Option ℤ) where
  read := fun db => db.durationOf i
  write := fun row db => (extendUserWith now i days row db).1

/-- The arguments of an `update_user` that changes the duration only. -/
def durationOnly (v : PyValue) : UpdateArgs :=
  { name := none, durationDays := v, customPath := none, note := none, maxDevices := .none }

/-- The partner by the service: its `SELECT`, then the rest of the operation. -/
def Partner.txn (lib : NetLib) (i : ℕ) : Partner → Txn Db (Option UserRow)
  | .resume now => ⟨fun db => db.user i, fun row db => (resumeUserWith now i row db).1⟩
  | .update now v =>
    ⟨fun db => db.user i, fun row db => (updateUserWith now i (durationOnly v) row db).1⟩
  | .fetch now p ip ua =>
    ⟨fun db => db.userByPath p, fun row db => (resolveUserRequestWith lib now ip ua row db).1⟩

/-- The partner works on the user `i`. -/
def Partner.Concerns (i : ℕ) (db : Db) : Partner → Prop
  | .fetch _ p _ _ => (db.userByPath p).map UserRow.id = some i
  | _ => True

/-- The transactions are the operations of the service, cut after their `SELECT`. -/
lemma Partner.txn_run (lib : NetLib) (i : ℕ) (P : Partner) (db : Db) :
    (P.txn lib i).run db = match P with
      | .resume now => (resumeUser now i db).1
      | .update now v => (updateUser now i (durationOnly v) db).1
      | .fetch now p ip ua => (resolveUserRequest lib now p ip ua db).1 := by
  cases P <;> rfl

/-- The paths of the users. -/
def Db.names (db : Db) : List (String × ℕ) := db.users.map fun u => (u.path, u.id)

lemma Db.userByPath_id (db : Db) (p : String) :
    (db.userByPath p).map UserRow.id
      = (db.names.find? fun n => n.1 = p).map Prod.snd := by
  rw [userByPath, Rows.get, names, List.find?_map, Option.map_map]
  rfl

lemma Partner.Concerns.congr {i : ℕ} {db db' : Db} {P : Partner} (h : P.Concerns i db)
    (hn : db'.names = db.names) : P.Concerns i db' := by
  cases P with
  | resume now => trivial
  | update now v => trivial
  | fetch now p ip ua =>
      show (db'.userByPath p).map UserRow.id = some i
      rw [Db.userByPath_id, hn, ← Db.userByPath_id]
      exact h

lemma Db.names_updateUsers (db : Db) (i : ℕ) (q : UserRow → Bool) {f : UserRow → UserRow}
    (hf : ∀ u, ((f u).path, (f u).id) = (u.path, u.id)) :
    (db.updateUsers i q f).names = db.names := by
  simp only [names, updateUsers, Rows.update, List.map_map, List.map_inj_left,
    Function.comp_apply]
  intro u _
  split_ifs
  · exact hf u
  · rfl

/-- The `SET` clause of an edit of the duration only. -/
lemma updateSets_durationOnly {db : Db} {i : ℕ} {u : UserRow} {v : PyValue} :
    updateSets db i u (durationOnly v) = durationSets u.clock v := by
  rw [updateSets, durationOnly]
  cases h : durationSets u.clock v with
  | error e => simp [nameSets, pathSets, maxDevicesSets, bind, Except.bind]
  | ok sets =>
      have hbind := bindSets_of_durationSets h
      simp [nameSets, pathSets, maxDevicesSets, noteSets, bind, Except.bind, hbind]

/-- The tables hold the clock `c` of the user `i`, whom the partner works on. -/
structure Views (i : ℕ) (P : Partner) (db : Db) (c : Clock) : Prop where
  sound : db.Sound
  clock : db.clockOf i = some c
  concerns : P.Concerns i db

/-- The renewal of the service is the one on the clock columns. -/
lemma sim_renewal (now : Stamp) (i : ℕ) (days : ℤ) (P : Partner) :
    Sim (Views i P) (fun row n => row = some n) (renewalTxn now i days) (renewTxn now days) where
  read := by
    intro db c h
    obtain ⟨u, hu, rfl⟩ := Option.map_eq_some_iff.mp h.clock
    show (db.user i).map UserRow.durationDays = some u.clock.durationDays
    rw [hu]
    rfl
  write := by
    rintro row n db c rfl h
    obtain ⟨u, hu, hc⟩ := Option.map_eq_some_iff.mp h.clock
    refine ⟨h.sound.extendUserWith now i days _, ?_, h.concerns.congr ?_⟩
    · exact (movesClock_extendUserWith hu now days n).self h.clock
    · show (extendUserWith now i days (some n) db).1.names = db.names
      rw [extendUserWith]
      dsimp only
      split_ifs
      · rfl
      · exact db.names_updateUsers i _ fun _ => rfl
      · exact db.names_updateUsers i _ fun _ => rfl

lemma names_resolve {db : Db} (lib : NetLib) (now : Stamp) (ip ua : Option String)
    (u : UserRow) : (resolveUserRequestWith lib now ip ua (some u) db).1.names = db.names := by
  have hcontact : (db.setUser u.id (contactRow now ip ua)).names = db.names :=
    db.names_updateUsers _ _ fun _ => rfl
  have hact : (activateWith now u (db.setUser u.id (contactRow now ip ua))).1.names
      = db.names := by
    rw [activateWith]
    split_ifs
    · exact hcontact
    · split
      · exact hcontact
      · rename_i expire he
        have hrow : ∀ v, ((activateRow now expire v).path, (activateRow now expire v).id)
            = (v.path, v.id) := fun v => rfl
        exact (Db.names_updateUsers _ _ _ hrow).trans hcontact
  rw [resolveUserRequestWith]
  dsimp only
  cases u.status with
  | disabled => exact hcontact
  | paused => exact hcontact
  | active =>
      rcases ha : activateWith now u (db.setUser u.id (contactRow now ip ua)) with ⟨db', _ | v⟩
      · rw [ha] at hact
        exact hact
      · rw [ha] at hact
        dsimp only at hact ⊢
        rw [Db.names, serveRequest_users]
        exact hact

/-- The partner of the service is the one on the clock columns. -/
lemma sim_partner (lib : NetLib) (i : ℕ) (P : Partner) :
    Sim (Views i P) (fun row c => ∃ u : UserRow, row = some u ∧ u.id = i ∧ u.clock = c)
      (P.txn lib i) P.clockTxn where
  read := by
    intro db c h
    obtain ⟨u, hu, rfl⟩ := Option.map_eq_some_iff.mp h.clock
    cases P with
    | resume now => exact ⟨u, hu, Db.id_of_user hu, rfl⟩
    | update now v => exact ⟨u, hu, Db.id_of_user hu, rfl⟩
    | fetch now p ip ua =>
        obtain ⟨w, hw, hid⟩ := Option.map_eq_some_iff.mp h.concerns
        have hw' := h.sound.user_of_path hw
        rw [hid, hu] at hw'
        cases hw'
        exact ⟨u, hw, hid, rfl⟩
  write := by
    rintro row c₀ db c ⟨u, rfl, hid, rfl⟩ h
    obtain ⟨v, hv, hc⟩ := Option.map_eq_some_iff.mp h.clock
    cases P with
    | resume now =>
        exact ⟨h.sound.resumeUserWith now i _,
          (movesClock_resumeUserWith hv now u).self h.clock, trivial⟩
    | update now days =>
        refine ⟨h.sound.updateUserWith now i _ _, ?_, trivial⟩
        cases hs : updateSets db i u (durationOnly days) with
        | error e =>
            have hd : durationSets u.clock days = .error e := by rwa [updateSets_durationOnly] at hs
            have hdb : (updateUserWith now i (durationOnly days) (some u) db).1 = db := by
              simp only [updateUserWith, hs]
            show (updateUserWith now i (durationOnly days) (some u) db).1.clockOf i
              = some (Clock.editWith days u.clock c)
            rw [hdb, h.clock, Clock.editWith, hd]
        | ok sets => exact (movesClock_updateUserWith hv now hs).self h.clock
    | fetch now p ip ua =>
        exact ⟨h.sound.resolveUserRequestWith lib now ip ua _,
          (movesClock_resolveUserRequestWith hv hid lib now ip ua).self h.clock,
          h.concerns.congr (names_resolve lib now ip ua u)⟩

/-- The dates of the user `i`. -/
def Db.planOf (db : Db) (i : ℕ) : Option (ℤ × Option Stamp) := (db.clockOf i).map Clock.plan

/-- **Renewals at the same time as another operation.**  A schedule of the reads and writes of a
renewal and a resumption, a change of the duration or a first use of the same finite plan leaves
the dates of one of the two serial orders, unless the renewal writes between the partner's read
and write, on a row with a clash. -/
theorem renewal_serial_iff (lib : NetLib) {db : Db} (hdb : db.Sound) {i : ℕ} {c : Clock}
    (hc : db.clockOf i = some c) (hn : 0 < c.durationDays) {P : Partner} (hP : P.Concerns i db)
    {v : PyValue} {days : ℤ} (hv : extendDays v = .ok days) (now : Stamp) {w : List Step}
    (hw : w ∈ schedules) :
    ((outcome (renewalTxn now i days) (P.txn lib i) w db).planOf i
          = ((P.txn lib i).run (extendUser now i v db).1).planOf i
        ∨ (outcome (renewalTxn now i days) (P.txn lib i) w db).planOf i
          = (extendUser now i v ((P.txn lib i).run db)).1.planOf i)
      ↔ ¬ (Splits w ∧ Clash now days c P) := by
  have hview : Views i P db c := ⟨hdb, hc, hP⟩
  have h₁ := sim_renewal now i days P
  have h₂ := sim_partner lib i P
  have hrun : ∀ db, (extendUser now i v db).1 = (renewalTxn now i days).run db := fun db => by
    rw [extendUser, hv]
    rfl
  have hplan : ∀ {db c}, Views i P db c → db.planOf i = some c.plan := fun h => by
    rw [Db.planOf, h.clock, Option.map_some]
  rw [hrun, hrun, hplan (outcome_sim h₁ h₂ w hview), hplan (h₂.run (h₁.run hview)),
    hplan (h₁.run (h₂.run hview)), Option.some.injEq, Option.some.injEq]
  exact serial_iff P hn (extendDays_ok hv).2.1 hw

/-- The first fetch of the sample user's link. -/
def sampleFirstUse : Partner := .fetch (Stamp.day 1) "k3XbQ9pLm2TzR7vW" none (some "v2rayNG/1.8.5")

/-- The renewal reads first and writes last: the schedule is as good as a serial one. -/
theorem renewal_serial_iff_sample :
    ((outcome (renewalTxn (Stamp.day 1) 1 30) (sampleFirstUse.txn sampleLib 1)
            [.read₁, .read₂, .write₂, .write₁] sampleAdded).planOf 1
          = ((sampleFirstUse.txn sampleLib 1).run
              (extendUser (Stamp.day 1) 1 (.int 30) sampleAdded).1).planOf 1
        ∨ (outcome (renewalTxn (Stamp.day 1) 1 30) (sampleFirstUse.txn sampleLib 1)
            [.read₁, .read₂, .write₂, .write₁] sampleAdded).planOf 1
          = (extendUser (Stamp.day 1) 1 (.int 30)
              ((sampleFirstUse.txn sampleLib 1).run sampleAdded)).1.planOf 1)
      ↔ ¬ (Splits [.read₁, .read₂, .write₂, .write₁]
            ∧ Clash (Stamp.day 1) 30 (Clock.fresh 30) sampleFirstUse) :=
  renewal_serial_iff (P := sampleFirstUse) sampleLib sampleAdded_sound (by decide) (by decide)
    (by show (sampleAdded.userByPath "k3XbQ9pLm2TzR7vW").map UserRow.id = some 1; decide) rfl
    (Stamp.day 1) (by rw [mem_schedules]; decide)

/-- The renewal writes between the fetch's read and write: sixty days are on record, and the
plan ends after thirty, as no serial order leaves it. -/
theorem renewal_lost_to_first_use :
    [Step.read₂, .read₁, .write₁, .write₂] ∈ schedules
      ∧ extendDays (.int 30) = .ok 30 ∧ sampleAdded.clockOf 1 = some (Clock.fresh 30)
      ∧ (outcome (renewalTxn (Stamp.day 1) 1 30) (sampleFirstUse.txn sampleLib 1)
            [.read₂, .read₁, .write₁, .write₂] sampleAdded).planOf 1
          = some (60, some (Stamp.day 31))
      ∧ ((sampleFirstUse.txn sampleLib 1).run
            (extendUser (Stamp.day 1) 1 (.int 30) sampleAdded).1).planOf 1
          = some (60, some (Stamp.day 61))
      ∧ (extendUser (Stamp.day 1) 1 (.int 30)
            ((sampleFirstUse.txn sampleLib 1).run sampleAdded)).1.planOf 1
          = some (60, some (Stamp.day 61)) := by
  refine ⟨by rw [mem_schedules]; decide, rfl, by decide, by decide, by decide, by decide⟩

end V2raySub
