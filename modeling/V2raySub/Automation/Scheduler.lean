import Mathlib.Algebra.Order.Group.Defs
import Mathlib.Algebra.Order.Group.Int
import Mathlib.Data.List.TakeWhile
import V2raySub.Base.Between

/-!
The timing loop of the background scheduler (`scheduler.py`, `scheduler_worker`).

* `tick` is one round of the loop: a due health check goes first and takes the turn of a discovery
  that is due with it.  The instants of the clock are of any type with a difference and an order.
* `log` is what the rounds of a run did; `NoStarvation`: between two health checks that took a
  discovery's turn there is a discovery.
* `noStarvation_iff`: a run has it exactly if each such health check is `Relieved`, which is a
  condition on the two intervals and on when no scan is running.
* `starves`: no setting of the intervals is safe.
-/

namespace V2raySub
namespace Scheduler

/-! ### The loop -/

/-- A scan the loop starts. -/
inductive Job where
  | discovery
  | healthCheck
  deriving DecidableEq

/-- `last_discovery` and `last_health`. -/
@[ext] structure Timers (T : Type*) where
  lastDiscovery : T
  lastHealth : T
  deriving DecidableEq

/-- What a round finds: the clock, and whether `is_scan_active()` holds.  A round in which the
settings cannot be read does what a round with a running scan does. -/
structure Tick (T : Type*) where
  now : T
  scanActive : Bool
  deriving DecidableEq

/-- What a round did, and whether a discovery was due in it. -/
structure Round where
  launched : Option Job
  discoveryDue : Bool
  deriving DecidableEq

section
variable {T : Type*} [Sub T] [LE T] [DecidableLE T] (scanInterval healthInterval : T)

/-- `discovery_due`. -/
def discoveryDue (s : Timers T) (now : T) : Bool := scanInterval ≤ now - s.lastDiscovery

/-- `health_due`. -/
def healthDue (s : Timers T) (now : T) : Bool := healthInterval ≤ now - s.lastHealth

/-- One round of the loop: the timers it leaves and what it starts. -/
def tick (s : Timers T) (t : Tick T) : Timers T × Option Job :=
  if (discoveryDue scanInterval s t.now || healthDue healthInterval s t.now)
      && !t.scanActive then
    if healthDue healthInterval s t.now then
      ({ lastDiscovery :=
          if discoveryDue scanInterval s t.now then t.now else s.lastDiscovery
         lastHealth := t.now }, some .healthCheck)
    else if discoveryDue scanInterval s t.now then
      ({ s with lastDiscovery := t.now }, some .discovery)
    else (s, none)
  else (s, none)

/-- What the rounds of a run did. -/
def log : Timers T → List (Tick T) → List Round
  | _, [] => []
  | s, t :: ts =>
    ⟨(tick scanInterval healthInterval s t).2, discoveryDue scanInterval s t.now⟩
      :: log (tick scanInterval healthInterval s t).1 ts

/-- The timers after some rounds. -/
def after (s : Timers T) (ts : List (Tick T)) : Timers T :=
  ts.foldl (fun s t => (tick scanInterval healthInterval s t).1) s

/-- A health check was started while a discovery was due. -/
def Round.TookTurn (r : Round) : Prop := r.launched = some .healthCheck ∧ r.discoveryDue

/-- Between two health checks that took a discovery's turn, a discovery is started. -/
def NoStarvation (s : Timers T) (ts : List (Tick T)) : Prop :=
  Between Round.TookTurn (fun r => r.launched = some .discovery)
    (log scanInterval healthInterval s ts)

/-! ### When a discovery comes in time -/

/-- The rounds at which no scan is running. -/
def freeTimes (ts : List (Tick T)) : List T := (ts.filter fun t => !t.scanActive).map Tick.now

/-- The turn of the health check after a free round: it moves there if it has come. -/
def healthTurn (turn now : T) : T := if healthInterval ≤ now - turn then now else turn

/-- The free rounds before a discovery is due. -/
def early (lastDiscovery : T) (ts : List (Tick T)) : List T :=
  (freeTimes ts).takeWhile fun now => !decide (scanInterval ≤ now - lastDiscovery)

/-- The first free round at which it is. -/
def firstDue (lastDiscovery : T) (ts : List (Tick T)) : Option T :=
  ((freeTimes ts).dropWhile fun now => !decide (scanInterval ≤ now - lastDiscovery)).head?

/-- The first free round at which a discovery is due comes before the health check is due again;
the health check takes its turns at the free rounds before. -/
def Relieved (s : Timers T) (ts : List (Tick T)) : Prop :=
  ∀ now, firstDue scanInterval s.lastDiscovery ts = some now →
    ¬healthInterval ≤ now
      - (early scanInterval s.lastDiscovery ts).foldl (healthTurn healthInterval) s.lastHealth

/-- Both are due and no scan is running. -/
def Collides (s : Timers T) (t : Tick T) : Prop :=
  t.scanActive = false ∧ discoveryDue scanInterval s t.now ∧ healthDue healthInterval s t.now

/-- After each collision the discovery comes in time. -/
def AllRelieved (s : Timers T) (ts : List (Tick T)) : Prop :=
  ∀ before t rest, ts = before ++ t :: rest →
    Collides scanInterval healthInterval (after scanInterval healthInterval s before) t →
    Relieved scanInterval healthInterval ⟨t.now, t.now⟩ rest

/-! ### One round -/

variable {scanInterval healthInterval} {s : Timers T} {t : Tick T} {ts : List (Tick T)}

variable (scanInterval healthInterval) in
/-- What one round can do. -/
lemma tick_cases (s : Timers T) (t : Tick T) :
    (Collides scanInterval healthInterval s t
      ∧ tick scanInterval healthInterval s t = (⟨t.now, t.now⟩, some .healthCheck))
    ∨ (t.scanActive = false ∧ discoveryDue scanInterval s t.now = true
      ∧ healthDue healthInterval s t.now = false
      ∧ tick scanInterval healthInterval s t = ({ s with lastDiscovery := t.now }, some .discovery))
    ∨ (t.scanActive = false ∧ discoveryDue scanInterval s t.now = false
      ∧ tick scanInterval healthInterval s t
        = ({ s with lastHealth := healthTurn healthInterval s.lastHealth t.now },
          if healthDue healthInterval s t.now then some .healthCheck else none))
    ∨ (t.scanActive = true ∧ tick scanInterval healthInterval s t = (s, none)) := by
  cases ha : t.scanActive with
  | true => exact .inr (.inr (.inr ⟨rfl, by simp [tick, ha]⟩))
  | false =>
      cases hd : discoveryDue scanInterval s t.now with
      | true =>
          cases hh : healthDue healthInterval s t.now with
          | true => exact .inl ⟨⟨ha, hd, hh⟩, by simp [tick, ha, hd, hh]⟩
          | false => exact .inr (.inl ⟨rfl, rfl, rfl, by simp [tick, ha, hd, hh]⟩)
      | false =>
          refine .inr (.inr (.inl ⟨rfl, rfl, ?_⟩))
          have hturn : healthTurn healthInterval s.lastHealth t.now
              = if healthDue healthInterval s t.now then t.now else s.lastHealth := by
            simp [healthTurn, healthDue]
          rw [hturn]
          cases hh : healthDue healthInterval s t.now <;> simp [tick, ha, hd, hh]

lemma tookTurn_tick_iff :
    Round.TookTurn ⟨(tick scanInterval healthInterval s t).2, discoveryDue scanInterval s t.now⟩
      ↔ Collides scanInterval healthInterval s t := by
  rcases tick_cases scanInterval healthInterval s t with
    ⟨hc, he⟩ | ⟨-, hd, hh, he⟩ | ⟨-, hd, he⟩ | ⟨ha, he⟩
  · exact iff_of_true ⟨by rw [he], hc.2.1⟩ hc
  · refine iff_of_false (fun h => ?_) fun h => ?_
    · have h1 := h.1
      rw [he] at h1
      cases h1
    · simp [Collides, hh] at h
  · refine iff_of_false (fun h => ?_) fun h => ?_
    · simp [Round.TookTurn, hd] at h
    · simp [Collides, hd] at h
  · refine iff_of_false (fun h => ?_) fun h => ?_
    · have h1 := h.1
      rw [he] at h1
      cases h1
    · simp [Collides, ha] at h

/-! ### The rounds up to the next discovery -/

lemma relieved_nil : Relieved scanInterval healthInterval s [] := by
  intro now h
  cases h

lemma relieved_cons_of_active (ha : t.scanActive = true) :
    Relieved scanInterval healthInterval s (t :: ts)
      ↔ Relieved scanInterval healthInterval s ts := by
  have hfree : freeTimes (t :: ts) = freeTimes ts := by simp [freeTimes, ha]
  rw [Relieved, Relieved, firstDue, firstDue, early, early, hfree]

omit [Sub T] [LE T] [DecidableLE T] in
lemma freeTimes_cons (ha : t.scanActive = false) : freeTimes (t :: ts) = t.now :: freeTimes ts := by
  simp [freeTimes, ha]

/-- At the first free round at which a discovery is due, the health check decides. -/
lemma relieved_cons_of_due (ha : t.scanActive = false)
    (hd : discoveryDue scanInterval s t.now = true) :
    Relieved scanInterval healthInterval s (t :: ts)
      ↔ healthDue healthInterval s t.now = false := by
  have hdue : scanInterval ≤ t.now - s.lastDiscovery := by simpa [discoveryDue] using hd
  have hfirst : firstDue scanInterval s.lastDiscovery (t :: ts) = some t.now := by
    simp [firstDue, freeTimes_cons ha, hdue]
  have hearly : early scanInterval s.lastDiscovery (t :: ts) = [] := by
    simp [early, freeTimes_cons ha, hdue]
  rw [Relieved, hfirst, hearly]
  simp [healthDue]

/-- Before it, the health check may take its turn. -/
lemma relieved_cons_of_not_due (ha : t.scanActive = false)
    (hd : discoveryDue scanInterval s t.now = false) :
    Relieved scanInterval healthInterval s (t :: ts) ↔ Relieved scanInterval healthInterval
      { s with lastHealth := healthTurn healthInterval s.lastHealth t.now } ts := by
  have hdue : ¬scanInterval ≤ t.now - s.lastDiscovery := by simpa [discoveryDue] using hd
  have hfirst : firstDue scanInterval s.lastDiscovery (t :: ts)
      = firstDue scanInterval s.lastDiscovery ts := by
    simp [firstDue, freeTimes_cons ha, hdue]
  have hearly : early scanInterval s.lastDiscovery (t :: ts)
      = t.now :: early scanInterval s.lastDiscovery ts := by
    simp [early, freeTimes_cons ha, hdue]
  rw [Relieved, Relieved, hfirst, hearly]
  rfl

/-- Before the next turn it loses, a discovery is started exactly if it comes in time. -/
theorem before_log_iff (s : Timers T) (ts : List (Tick T)) :
    Before Round.TookTurn (fun r => r.launched = some .discovery)
      (log scanInterval healthInterval s ts) ↔ Relieved scanInterval healthInterval s ts := by
  induction ts generalizing s with
  | nil => exact iff_of_true before_nil relieved_nil
  | cons t ts ih =>
      rw [log, before_cons, tookTurn_tick_iff, ih]
      rcases tick_cases scanInterval healthInterval s t with
        ⟨hc, he⟩ | ⟨ha, hd, hh, he⟩ | ⟨ha, hd, he⟩ | ⟨ha, he⟩
      · rw [relieved_cons_of_due hc.1 hc.2.1]
        exact iff_of_false (fun h => h.1 hc) fun h => by simp [hc.2.2] at h
      · rw [relieved_cons_of_due ha hd, he]
        exact iff_of_true ⟨fun h => by simp [Collides, hh] at h, .inl rfl⟩ hh
      · rw [relieved_cons_of_not_due ha hd, he]
        have hno : ¬Collides scanInterval healthInterval s t := fun h => by simp [Collides, hd] at h
        have hl : ¬(if healthDue healthInterval s t.now then some Job.healthCheck else none)
            = some .discovery := by split_ifs <;> simp
        simp [hno, hl]
      · rw [relieved_cons_of_active ha, he]
        simp [Collides, ha]

/-! ### The whole run -/

lemma allRelieved_nil : AllRelieved scanInterval healthInterval s [] := by
  intro before t rest h
  simp at h

lemma allRelieved_cons :
    AllRelieved scanInterval healthInterval s (t :: ts)
      ↔ (Collides scanInterval healthInterval s t →
          Relieved scanInterval healthInterval ⟨t.now, t.now⟩ ts)
        ∧ AllRelieved scanInterval healthInterval
          (tick scanInterval healthInterval s t).1 ts := by
  refine ⟨fun h => ⟨h [] t ts rfl, fun before u rest he => ?_⟩, fun h before u rest he hc => ?_⟩
  · exact h (t :: before) u rest (congrArg (t :: ·) he)
  · cases before with
    | nil =>
        cases he
        exact h.1 hc
    | cons b before =>
        cases he
        exact h.2 before u rest rfl hc

/-- A run starves no discovery exactly if after each collision the first free round at which the
discovery is due comes before the health check is due again. -/
theorem noStarvation_iff (scanInterval healthInterval : T) (s : Timers T) (ts : List (Tick T)) :
    NoStarvation scanInterval healthInterval s ts
      ↔ AllRelieved scanInterval healthInterval s ts := by
  induction ts generalizing s with
  | nil => exact iff_of_true between_nil allRelieved_nil
  | cons t ts ih =>
      rw [NoStarvation, log, between_cons, tookTurn_tick_iff, before_log_iff, allRelieved_cons]
      refine and_congr (imp_congr_right fun hc => ?_) (ih _)
      rcases tick_cases scanInterval healthInterval s t with
        ⟨-, he⟩ | ⟨-, -, hh, -⟩ | ⟨-, hd, -⟩ | ⟨ha, -⟩
      · rw [he]
      · simp [Collides, hh] at hc
      · simp [Collides, hd] at hc
      · simp [Collides, ha] at hc

end

/-! ### The intervals -/

section
variable {T : Type*} [AddCommGroup T] [LinearOrder T] [IsOrderedAddMonoid T]
  {scanInterval healthInterval : T}

omit [IsOrderedAddMonoid T] in
/-- Where the health check is not the more frequent one, what counts is a free round between the
two intervals. -/
theorem relieved_iff_of_le (h : scanInterval ≤ healthInterval) (now : T) (ts : List (Tick T)) :
    Relieved scanInterval healthInterval ⟨now, now⟩ ts
      ↔ ∀ u, firstDue scanInterval now ts = some u → u - now < healthInterval := by
  have hturn : ∀ l : List T, (∀ u ∈ l, ¬scanInterval ≤ u - now) →
      l.foldl (healthTurn healthInterval) now = now := by
    intro l hl
    induction l with
    | nil => rfl
    | cons u l ih =>
        have hu : ¬healthInterval ≤ u - now := fun hle => hl u List.mem_cons_self (h.trans hle)
        rw [List.foldl_cons, healthTurn, if_neg hu]
        exact ih fun v hv => hl v (List.mem_cons_of_mem _ hv)
  have hearly : ∀ u ∈ early scanInterval now ts, ¬scanInterval ≤ u - now := by
    intro u hu
    simpa using List.mem_takeWhile_imp hu
  rw [Relieved, hturn _ hearly]
  simp only [not_le]

/-- Whatever the two intervals are, two rounds may come so that the discovery loses both turns. -/
theorem starves (hs : 0 < scanInterval) (healthInterval start : T) :
    ∃ t u : Tick T, start < t.now ∧ t.now < u.now
      ∧ ¬NoStarvation scanInterval healthInterval ⟨start, start⟩ [t, u] := by
  obtain ⟨gap, hgap, hle, hle'⟩ : ∃ gap : T, 0 < gap ∧ scanInterval ≤ gap ∧ healthInterval ≤ gap :=
    ⟨max scanInterval healthInterval, lt_max_of_lt_left hs, le_max_left _ _, le_max_right _ _⟩
  have hcollides : ∀ now, Collides scanInterval healthInterval ⟨now, now⟩ ⟨now + gap, false⟩ :=
    fun now => ⟨rfl, by simpa [discoveryDue] using hle, by simpa [healthDue] using hle'⟩
  have hnext : (tick scanInterval healthInterval ⟨start, start⟩ ⟨start + gap, false⟩).1
      = ⟨start + gap, start + gap⟩ := by
    rcases tick_cases scanInterval healthInterval
      ⟨start, start⟩ ⟨start + gap, false⟩ with ⟨-, he⟩ | ⟨-, -, hno, -⟩ | ⟨-, hno, -⟩ | ⟨ha, -⟩
    · rw [he]
    · exact absurd hno (by simp [(hcollides start).2.2])
    · exact absurd hno (by simp [(hcollides start).2.1])
    · cases ha
  refine ⟨⟨start + gap, false⟩, ⟨start + gap + gap, false⟩, lt_add_of_pos_right _ hgap,
    lt_add_of_pos_right _ hgap, fun h => ?_⟩
  have hsecond := tookTurn_tick_iff.mpr (hcollides (start + gap))
  rw [← hnext] at hsecond
  obtain ⟨k, z, hk, hk', -⟩ := h 0 1 _ _ Nat.zero_lt_one rfl rfl
    (tookTurn_tick_iff.mpr (hcollides start)) hsecond
  omega

/-! ### Two equal intervals -/

/-- Ten minutes for both, and a round every ten seconds while no scan is running. -/
def sampleTicks : List (Tick ℤ) := (List.range 120).map fun n : ℕ => ⟨10 * ((n : ℤ) + 1), false⟩

/-- The discovery loses its turn after ten minutes and again after twenty. -/
theorem discovery_starves : ¬NoStarvation (600 : ℤ) 600 ⟨0, 0⟩ sampleTicks := by
  intro h
  have hnone : ∀ r ∈ log (600 : ℤ) 600 ⟨0, 0⟩ sampleTicks, r.launched ≠ some .discovery := by
    decide +kernel
  obtain ⟨k, z, -, -, hz, hd⟩ := h 59 119 ⟨some .healthCheck, true⟩ ⟨some .healthCheck, true⟩
    (by decide) (by decide +kernel) (by decide +kernel) ⟨rfl, rfl⟩ ⟨rfl, rfl⟩
  exact hnone z (List.mem_of_getElem? hz) hd

end

end Scheduler
end V2raySub
