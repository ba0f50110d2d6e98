import V2raySub.Automation.ScanLock

/-!
Whom a refused scan meets (`run_scan`, `is_scan_active`, `InterProcessLock.is_locked_elsewhere`).

* `Owned`: whoever has the file locked is a thread between its `flock` and its unlock, or a scan
  that an exception ended before its `try`; `owned_of_reachable`, in every reachable state.
* `Refuses`: the moves that end in `"Another scan is already in progress."`.
* `Unprobed`: a scan that cannot lock the file does not meet `is_scan_active` of another process.
* `underway_of_refused`: **in every run whose steps are `Unprobed`, a scan is refused only while
  another scan or test is between taking and giving back its locks**.
-/

namespace V2raySub
namespace ScanLock

variable {P T : Type*} [DecidableEq P] [DecidableEq T]

/-! ### Who has the file locked -/

/-- The caller for which the thread has the file locked, from the `flock` to the `close`. -/
def owner : Pc → Option Caller
  | .acquireStore c _ => some c
  | .acquireExit c ok => if ok then some c else none
  | .body => some .scan
  | .release c | .releaseTest c | .releaseUnlock c | .releaseClose c => some c
  | .idle | .takeLock | .refused | .dropLock | .readLock | .elsewhere
  | .elsewhereTest | .elsewhereExit => none
  | .acquire _ | .acquireTest _ | .acquireOpen _ | .acquireFlock _ _ | .acquireClose _ _ => none
  | .releaseClear _ | .releaseExit _ => none

/-- `SCAN_LOCK` of the process is taken by a call that an exception has ended. -/
def Left (s : Workers P T) (p : P) : Prop :=
  (s.proc p).scanLock = true ∧ ∀ t, inScan (s.pc p t) = false

/-- What a process that has the file locked knows. -/
structure Owned (s : Workers P T) (p : P) : Prop where
  handle : ∀ n, s.common = some (p, n) →
    (s.proc p).fh = some n ∨ ∃ t c, s.pc p t = .acquireStore c n
  closed : ∀ t c, s.pc p t = .releaseClear c → ∀ n, s.common ≠ some (p, n)
  owner : ∀ n, s.common = some (p, n) → Left s p ∨ ∃ t, owner (s.pc p t) ≠ none

variable {p q : P} {t u : T} {r r' : Locks T} {fl fl' : Flock P} {k k' : Pc} {n : ℕ}

/-- The file is locked by a `flock` only. -/
lemma move_flock (hm : Move p t r fl k r' fl' k') (h : fl' = some (q, n)) :
    fl = some (q, n) ∨ q = p ∧ ∃ c, k = .acquireFlock c n ∧ k' = .acquireStore c n := by
  have hunlock : ∀ m, unlock fl p m = some (q, n) → fl = some (q, n) := by
    intro m hu
    rw [unlock] at hu
    split_ifs at hu
    exact hu
  cases hm
  case flock_ok c m =>
    cases h
    exact .inr ⟨rfl, c, rfl, rfl⟩
  case acquire_close c m => exact .inl (hunlock m h)
  case unlock_ok c m hfh => exact .inl (hunlock m h)
  case close c m hfh => exact .inl (hunlock m h)
  all_goals exact .inl h

/-- The handle is left alone, stored, or removed. -/
lemma move_fh (hm : Move p t r fl k r' fl' k') :
    r'.fh = r.fh ∨ (∃ c m, k = .acquireStore c m ∧ r'.fh = some m)
      ∨ ∃ c, k = .releaseClear c := by
  cases hm <;> simp

/-- A thread that stores its handle. -/
lemma fh_of_store (hm : Move p t r fl k r' fl' k') {c : Caller} (hk : k = .acquireStore c n) :
    r'.fh = some n := by
  subst hk
  cases hm
  rfl

/-- A thread that has closed its file. -/
lemma close_of_clear (hm : Move p t r fl k r' fl' k') {c : Caller} (hk : k' = .releaseClear c) :
    k = .releaseClose c ∧ ∃ m, r.fh = some m ∧ fl' = unlock fl p m := by
  cases hm
  case acquire_exit c' ok => cases c' <;> cases ok <;> simp [Caller.acquired] at hk
  case release_exit c' => cases c' <;> simp [Caller.released] at hk
  case close c' m hfh =>
    cases hk
    exact ⟨rfl, m, hfh, rfl⟩
  all_goals cases hk

lemma unlock_self (p : P) (n : ℕ) : unlock (some (p, n)) p n = none := if_pos rfl

/-- A thread that has the file locked keeps it, unlocks it, or is ended by an exception. -/
lemma owner_move (ht : Sound p t r fl k) (hm : Move p t r fl k r' fl' k') (hk : owner k ≠ none)
    (hfh : ∀ c, k = .releaseClose c → r.fh = some n) (hfl : fl = some (p, n))
    (hfl' : fl' = some (p, n)) : owner k' ≠ none ∨ k = .body ∧ k' = .idle := by
  subst hfl
  cases hm
  case acquire_exit c ok => cases c <;> cases ok <;> simp_all [owner, Caller.acquired]
  case raise => exact .inr ⟨rfl, rfl⟩
  case release_none c hnone =>
    obtain ⟨m, hm', -⟩ := ht.held (by simp [holding])
    rw [hnone] at hm'
    cases hm'
  case unlock_ok c m hfh' =>
    obtain ⟨m', hm', he⟩ := ht.held (by simp [holding])
    simp only [Option.some.injEq, Prod.mk.injEq, true_and] at he
    rw [hfh', Option.some.injEq] at hm'
    rw [hm', ← he, unlock_self] at hfl'
    cases hfl'
  case close c m hfh' =>
    rw [hfh c rfl, Option.some.injEq] at hfh'
    rw [← hfh', unlock_self] at hfl'
    cases hfl'
  all_goals simp_all [owner]

/-! ### One step -/

variable {s : Workers P T}

/-- What no other process changes. -/
lemma Owned.other (h : Owned s q) (hqp : q ≠ p)
    (hm : Move p t (s.proc p) s.common (s.pc p t) r' fl' k') :
    Owned (s.moved p t r' fl' k') q := by
  have hback : ∀ m, fl' = some (q, m) → s.common = some (q, m) := fun m hm' =>
    (move_flock hm hm').resolve_right fun h' => hqp h'.1
  have hpc : ∀ u, (s.moved p t r' fl' k').pc q u = s.pc q u := fun u =>
    s.moved_pc_of_ne hqp ..
  have hproc : (s.moved p t r' fl' k').proc q = s.proc q := s.moved_proc_of_ne hqp ..
  refine ⟨fun m hm' => ?_, fun u c hu m hm' => ?_, fun m hm' => ?_⟩
  · rw [hproc]
    simp only [hpc]
    exact h.handle m (hback m hm')
  · rw [hpc] at hu
    exact h.closed u c hu m (hback m hm')
  · rw [Left, hproc]
    simp only [hpc]
    exact h.owner m (hback m hm')

/-- A lock that was left behind stays taken. -/
lemma Left.move (h : Left s p) (hm : Move p t (s.proc p) s.common (s.pc p t) r' fl' k') :
    Left (s.moved p t r' fl' k') p := by
  have hlock := move_lock hm
  refine ⟨?_, fun u => ?_⟩
  · rw [s.moved_proc_self]
    rcases hlock with ⟨h1, -⟩ | ⟨-, h1⟩ | ⟨h1, -⟩
    · rw [h1, h.1]
    · exact h1
    · rw [h.2 t] at h1
      cases h1
  · by_cases hu : u = t
    · subst hu
      rw [s.moved_pc_self]
      rcases hlock with ⟨-, h1⟩ | ⟨h1, -⟩ | ⟨-, h1⟩
      · rw [← Bool.not_eq_true]
        intro hk
        have hin := h1 hk
        rw [h.2 u] at hin
        cases hin
      · rw [h.1] at h1
        cases h1
      · exact h1
    · rw [s.moved_pc_peer p hu]
      exact h.2 u

lemma raise_lock (hm : Move p t r fl k r' fl' k') (hk : k = .body) (hk' : k' = .idle) :
    r'.scanLock = r.scanLock := by
  subst hk hk'
  cases hm
  rfl

/-- An exception leaves `SCAN_LOCK` behind. -/
lemma left_of_raise (hinv : (lockProof P T).Inv s) (hk : s.pc p t = .body)
    (hm : Move p t (s.proc p) s.common (s.pc p t) r' fl' .idle) :
    Left (s.moved p t r' fl' .idle) p := by
  have hin : inScan (s.pc p t) := by rw [hk]; rfl
  have hlock := (hinv.thread p t).lock hin
  refine ⟨?_, fun u => ?_⟩
  · rw [s.moved_proc_self, (raise_lock hm hk rfl), hlock]
  · by_cases hu : u = t
    · subst hu
      rw [s.moved_pc_self]
      rfl
    · rw [s.moved_pc_peer p hu, ← Bool.not_eq_true]
      exact fun hu' => (hinv.pair p t u (Ne.symm hu)).scan ⟨hin, hu'⟩

/-- Two threads are not both past a guard. -/
lemma eq_of_depth (hinv : (lockProof P T).Inv s) (ht : s.pc p t = k) (hu : s.pc p u = k')
    (hk : depth k ≠ 0) (hk' : depth k' ≠ 0) : t = u := by
  subst ht hu
  exact not_not.mp fun htu => (hinv.pair p t u htu).guard.elim hk hk'

/-- Its own steps keep what a process knows of its lock. -/
lemma Owned.own (hinv : (lockProof P T).Inv s) (h : Owned s p)
    (hm : Move p t (s.proc p) s.common (s.pc p t) r' fl' k') :
    Owned (s.moved p t r' fl' k') p := by
  have hpeer : ∀ u, u ≠ t → (s.moved p t r' fl' k').pc p u = s.pc p u := fun u hu =>
    s.moved_pc_peer p hu ..
  have hself : (s.moved p t r' fl' k').pc p t = k' := s.moved_pc_self ..
  have hproc : (s.moved p t r' fl' k').proc p = r' := s.moved_proc_self ..
  refine ⟨fun m hfl => ?_, fun u c hu m hfl => ?_, fun m hfl => ?_⟩
  · rcases move_flock hm hfl with hold | ⟨-, c, -, hk'⟩
    · rcases h.handle m hold with hfh | ⟨u, c, hu⟩
      · rcases move_fh hm with hsame | ⟨c, m', hstore, hnew⟩ | ⟨c, hclear⟩
        · exact .inl (by rw [hproc, hsame, hfh])
        · have htaken := (hinv.thread p t).taken c m' hstore
          simp only [hold, Option.some.injEq, Prod.mk.injEq, true_and] at htaken
          exact .inl (by rw [hproc, hnew, htaken])
        · exact absurd hold (h.closed t c hclear m)
      · by_cases hut : u = t
        · subst hut
          exact .inl (by rw [hproc, fh_of_store hm hu])
        · exact .inr ⟨u, c, by rw [hpeer u hut, hu]⟩
    · exact .inr ⟨t, c, by rw [hself, hk']⟩
  · by_cases hut : u = t
    · subst hut
      rw [hself] at hu
      obtain ⟨hclose, m', hfh, hun⟩ := close_of_clear hm hu
      rcases move_flock hm hfl with hold | ⟨-, c', hk, -⟩
      · rcases h.handle m hold with hfh' | ⟨v, c', hv⟩
        · rw [hfh, Option.some.injEq] at hfh'
          have hnone : fl' = none := by rw [hun, hold, hfh', unlock_self]
          rw [show (s.moved p u r' fl' k').common = fl' from rfl, hnone] at hfl
          cases hfl
        · have huv : u = v := eq_of_depth hinv hclose hv (by simp [depth]) (by simp [depth])
          rw [huv, hv] at hclose
          cases hclose
      · rw [hclose] at hk
        cases hk
    · rw [hpeer u hut] at hu
      rcases move_flock hm hfl with hold | ⟨-, c', hk, -⟩
      · exact h.closed u c hu m hold
      · exact hut (eq_of_depth hinv hu hk (by simp [depth]) (by simp [depth]))
  · rcases move_flock hm hfl with hold | ⟨-, c, -, hk'⟩
    · rcases h.owner m hold with hleft | ⟨u, hu⟩
      · exact .inl (hleft.move hm)
      · by_cases hut : u = t
        · subst hut
          have hfh : ∀ c, s.pc p u = .releaseClose c → (s.proc p).fh = some m := by
            intro c hclose
            refine (h.handle m hold).resolve_right ?_
            rintro ⟨v, c', hv⟩
            have huv : u = v := eq_of_depth hinv hclose hv (by simp [depth]) (by simp [depth])
            rw [huv, hv] at hclose
            cases hclose
          rcases owner_move (hinv.thread p u) hm hu hfh hold hfl with hk' | ⟨hbody, hidle⟩
          · exact .inr ⟨u, by rwa [hself]⟩
          · subst hidle
            exact .inl (left_of_raise hinv hbody hm)
        · exact .inr ⟨u, by rwa [hpeer u hut]⟩
    · exact .inr ⟨t, by rw [hself, hk']; simp [ScanLock.owner]⟩

/-- **Who has the file locked**, in every reachable state. -/
theorem owned_of_reachable (h : Reachable s) (p : P) : Owned s p := by
  induction h with
  | init h₀ =>
      obtain ⟨-, hfl, hpc⟩ := h₀
      refine ⟨fun n hn => ?_, fun t c ht => ?_, fun n hn => ?_⟩
      · rw [hfl] at hn
        cases hn
      · rw [hpc] at ht
        cases ht
      · rw [hfl] at hn
        cases hn
  | step hr hs ih =>
      have hinv := (lockProof P T).sound (fun _ => Initial.inv) hr
      cases hs with
      | move q t hm =>
          by_cases hpq : p = q
          · subst hpq
            exact ih.own hinv hm
          · exact ih.other hpq hm

/-! ### Refusals -/

/-- The thread observes: `is_locked_elsewhere` has the file locked. -/
def Observing (k : Pc) : Prop := owner k = some .probe

/-- The moves of `run_scan` that end in `"Another scan is already in progress."`. -/
inductive Refuses : Pc → Pc → Prop where
  /-- `SCAN_LOCK` is taken. -/
  | busy : Refuses .takeLock .idle
  /-- The lock file cannot be opened. -/
  | unopened : Refuses (.acquireOpen .scan) (.acquireExit .scan false)
  /-- `flock` raises. -/
  | unlocked (n : ℕ) : Refuses (.acquireFlock .scan n) (.acquireClose .scan n)

/-- A call of `run_scan` or `run_manual_test` other than the thread `t` of `p` is between taking and
giving back its locks: it runs, or an exception has ended it before its `try`. -/
def Underway (s : Workers P T) (p : P) (t : T) : Prop :=
  (∃ q u, (q, u) ≠ (p, t) ∧ inScan (s.pc q u)) ∨ ∃ q, Left s q

/-- The attempt of a scan to lock the file: the file opens, and where `flock` raises it is locked,
and not by a thread that observes. -/
structure Unprobed (s : Workers P T) (p : P) (t : T) (k' : Pc) : Prop where
  opens : s.pc p t = .acquireOpen .scan → k' ≠ .acquireExit .scan false
  locked : ∀ n, s.pc p t = .acquireFlock .scan n → k' = .acquireClose .scan n →
    ∃ q m, s.common = some (q, m) ∧ ∀ u, ¬ Observing (s.pc q u)

/-- The states of the runs whose steps are all `Unprobed`. -/
def ReachedUnprobed (s : Workers P T) : Prop :=
  Threads.ReachableBy (machine P T) Unprobed Initial s

/-- Whoever has the file locked and does not observe is a scan. -/
lemma inScan_of_owner (hk : owner k ≠ none) (ho : ¬ Observing k) : inScan k := by
  have hscan : owner k = some .scan := by
    cases hc : owner k with
    | none => exact absurd hc hk
    | some c =>
        cases c with
        | scan => rfl
        | probe => exact absurd hc ho
  cases k
  case acquireExit c ok => cases ok <;> simp_all [owner, inScan]
  all_goals simp_all [owner, inScan]

lemma lock_of_busy (hm : Move p t r fl .takeLock r' fl' .idle) : r.scanLock = true := by
  cases hm
  assumption

/-- A refusal at `SCAN_LOCK`. -/
lemma underway_of_busy (hk : s.pc p t = .takeLock)
    (hm : Move p t (s.proc p) s.common (s.pc p t) r' fl' .idle) : Underway s p t := by
  have hlock : (s.proc p).scanLock = true := by
    rw [hk] at hm
    exact lock_of_busy hm
  by_cases hall : ∀ u, inScan (s.pc p u) = false
  · exact .inr ⟨p, hlock, hall⟩
  · obtain ⟨u, hu⟩ := not_forall.mp hall
    rw [Bool.not_eq_false] at hu
    refine .inl ⟨p, u, fun heq => ?_, hu⟩
    rw [(Prod.mk.inj heq).2, hk] at hu
    cases hu

/-- A refusal at the file, which another thread has locked. -/
lemma underway_of_locked (h : Reachable s) (hk : s.pc p t = .acquireFlock .scan n) {m : ℕ}
    (hfl : s.common = some (q, m)) (ho : ∀ u, ¬ Observing (s.pc q u)) : Underway s p t := by
  rcases (owned_of_reachable h q).owner m hfl with hleft | ⟨u, hu⟩
  · exact .inr ⟨q, hleft⟩
  · refine .inl ⟨q, u, fun heq => ?_, inScan_of_owner hu (ho u)⟩
    obtain ⟨rfl, rfl⟩ := Prod.mk.inj heq
    rw [hk] at hu
    exact hu rfl

/-- **Whom a refused scan meets.**  In every run whose attempts to lock the file do not meet
`is_scan_active` of another process (and in which the file opens), a scan is refused only while
another scan or test is between taking and giving back its locks. -/
theorem underway_of_refused (h : ReachedUnprobed s)
    (hm : Move p t (s.proc p) s.common (s.pc p t) r' fl' k') (hstep : Unprobed s p t k')
    (hr : Refuses (s.pc p t) k') : Underway s p t := by
  generalize hk : s.pc p t = k at hr
  cases hr with
  | busy => exact underway_of_busy hk hm
  | unopened => exact absurd rfl (hstep.opens hk)
  | unlocked n =>
      obtain ⟨q, m, hfl, ho⟩ := hstep.locked n hk rfl
      exact underway_of_locked h.reachable hk hfl ho

/-! ### Two workers -/

/-- Two processes of one thread each. -/
abbrev workers (r₀ r₁ : Locks Unit) (fl : Flock Bool) (k₀ k₁ : Pc) : Workers Bool Unit :=
  Threads.two r₀ r₁ fl k₀ k₁

/-- A worker that has just started. -/
abbrev started : Locks Unit := ⟨false, none, none, 0⟩

variable {r₀ r₁ : Locks Unit} {gl gl' : Flock Bool} {k₀ k₁ : Pc}

lemma workers_started : ReachedUnprobed (workers started started none .idle .idle) :=
  .init ⟨fun p => by cases p <;> rfl, rfl, fun p _ => by cases p <;> rfl⟩

omit [DecidableEq P] [DecidableEq T] in
lemma unprobed_of_ne {s : Workers P T} (hk : k ≠ .acquireExit .scan false)
    (hk' : ∀ n, k ≠ .acquireClose .scan n) : Unprobed s p t k :=
  ⟨fun _ => hk, fun n _ h => absurd h (hk' n)⟩

lemma ReachedUnprobed.first (h : ReachedUnprobed (workers r₀ r₁ gl k₀ k₁)) {r : Locks Unit}
    (hm : Move false () r₀ gl k₀ r gl' k) (hk : k ≠ .acquireExit .scan false)
    (hk' : ∀ n, k ≠ .acquireClose .scan n) : ReachedUnprobed (workers r r₁ gl' k k₁) := by
  have hs := h.step (p := false) (t := ()) hm (unprobed_of_ne hk hk')
  rwa [Threads.two_moved_false] at hs

lemma ReachedUnprobed.second (h : ReachedUnprobed (workers r₀ r₁ gl k₀ k₁)) {r : Locks Unit}
    (hm : Move true () r₁ gl k₁ r gl' k) (hk : k ≠ .acquireExit .scan false)
    (hk' : ∀ n, k ≠ .acquireClose .scan n) : ReachedUnprobed (workers r₀ r gl' k₀ k) := by
  have hs := h.step (p := true) (t := ()) hm (unprobed_of_ne hk hk')
  rwa [Threads.two_moved_true] at hs

/-- A scan of the second worker up to its `flock`. -/
lemma ReachedUnprobed.flock (h : ReachedUnprobed (workers r₀ started gl k₀ .idle)) :
    ReachedUnprobed (workers r₀ ⟨true, some ((), 1), none, 1⟩ gl k₀ (.acquireFlock .scan 0)) := by
  have hlock := (h.second .call_scan (by simp) (by simp)).second (.lock_taken rfl) (by simp)
    (by simp)
  have htest := (hlock.second (.acquire_enter .scan rfl) (by simp) (by simp)).second
    (.acquire_try .scan rfl) (by simp) (by simp)
  exact htest.second (.open_ok .scan) (by simp) (by simp)

/-- The first worker scans, and the scan of the second one finds the file locked. -/
lemma workers_scanning : ReachedUnprobed (workers ⟨true, some ((), 1), none, 1⟩
    ⟨true, some ((), 1), none, 1⟩ (some (false, 0)) (.acquireStore .scan 0)
    (.acquireFlock .scan 0)) := by
  have hlock := (workers_started.first .call_scan (by simp) (by simp)).first (.lock_taken rfl)
    (by simp) (by simp)
  have htest := (hlock.first (.acquire_enter .scan rfl) (by simp) (by simp)).first
    (.acquire_try .scan rfl) (by simp) (by simp)
  have hfile := (htest.first (.open_ok .scan) (by simp) (by simp)).first (.flock_ok .scan 0)
    (by simp) (by simp)
  exact hfile.flock

/-- The first worker asks whether a scan is active, and the scan of the second one finds the file
locked. -/
lemma workers_observing : ReachedUnprobed (workers ⟨false, some ((), 2), none, 1⟩
    ⟨true, some ((), 1), none, 1⟩ (some (false, 0)) (.acquireStore .probe 0)
    (.acquireFlock .scan 0)) := by
  have hread := (workers_started.first .call_active (by simp) (by simp)).first
    (.lock_read_false rfl) (by simp) (by simp)
  have hempty := (hread.first (.elsewhere_enter rfl) (by simp) (by simp)).first
    (.elsewhere_try rfl) (by simp) (by simp)
  have htest := (hempty.first (.acquire_enter .probe rfl) (by simp) (by simp)).first
    (.acquire_try .probe rfl) (by simp) (by simp)
  have hfile := (htest.first (.open_ok .probe) (by simp) (by simp)).first (.flock_ok .probe 0)
    (by simp) (by simp)
  exact hfile.flock

/-- A scan that is refused because of the scan of another worker. -/
theorem underway_of_refused_sample :
    Underway (workers ⟨true, some ((), 1), none, 1⟩ ⟨true, some ((), 1), none, 1⟩
      (some (false, 0)) (.acquireStore .scan 0) (.acquireFlock .scan 0)) true () := by
  refine underway_of_refused workers_scanning (.flock_raises .scan 0) ⟨nofun, fun n _ _ => ?_⟩
    (.unlocked 0)
  exact ⟨false, 0, rfl, fun u => by simp [Threads.two, Observing, owner]⟩

/-- A scan that is refused because another worker asks whether one is active. -/
theorem observer_refuses_scan :
    ∃ s : Workers Bool Unit, Reachable s
      ∧ (∃ r fl, Move true () (s.proc true) s.common (s.pc true ()) r fl (.acquireClose .scan 0))
      ∧ Refuses (s.pc true ()) (.acquireClose .scan 0)
      ∧ Observing (s.pc false ()) ∧ ¬ Underway s true () := by
  refine ⟨_, workers_observing.reachable, ⟨_, _, .flock_raises .scan 0⟩, .unlocked 0, rfl, ?_⟩
  rintro (⟨q, u, hne, hin⟩ | ⟨q, hlock, hall⟩)
  · cases q with
    | false => cases hin
    | true => exact hne rfl
  · cases q with
    | false => cases hlock
    | true => cases hall ()

end ScanLock
end V2raySub
