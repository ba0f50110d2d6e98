import Mathlib.Data.Nat.Notation
import Mathlib.Tactic.Common
import V2raySub.Base.Threads

/-!
The two locks of a scan (`automation_service.py`, `run_scan`, `run_manual_test`,
`is_scan_active`; `process_lock.py`, `InterProcessLock`).

Each worker process has a `SCAN_LOCK`, and one `InterProcessLock` on the file all of them lock.
A thread's control point says where it is in `run_scan` or `run_manual_test` (which take and drop
the locks in the same steps), in `is_scan_active`, and in the methods of the file lock they call;
every access to a lock, to the handle or to the file is a move of its own.

* `Move` is the table of moves, `Reachable` the states that any schedule of any number of
  processes and threads reaches.
* `lockProof` is the invariant: a process has the file locked whenever one of its threads is past
  the acquisition, the guard admits one thread at a time, and no thread of `is_scan_active` gives
  back a lock that a scan holds.
* `scan_mutual_exclusion`: at most one body of a scan or test runs, across all processes.
-/

namespace V2raySub
namespace ScanLock

/-! ### The locks -/

/-- Who called a method of the file lock: a scan or a test, or `is_locked_elsewhere`. -/
inductive Caller where
  | scan
  | probe
  deriving DecidableEq

/-- The control point of a thread. -/
inductive Pc where
  /-- In none of the functions. -/
  | idle
  /-- `SCAN_LOCK.acquire(blocking=False)` of `run_scan` and `run_manual_test`. -/
  | takeLock
  /-- `SCAN_LOCK.release()` after the file lock was refused. -/
  | refused
  /-- Past both acquisitions, before the release. -/
  | body
  /-- `SCAN_LOCK.release()` of the `finally`. -/
  | dropLock
  /-- `SCAN_LOCK.locked()` of `is_scan_active`. -/
  | readLock
  /-- `with self._guard` of `is_locked_elsewhere`. -/
  | elsewhere
  /-- `if self._fh is not None` of `is_locked_elsewhere`. -/
  | elsewhereTest
  /-- The end of the `with` of `is_locked_elsewhere`. -/
  | elsewhereExit
  /-- `with self._guard` of `acquire`. -/
  | acquire (c : Caller)
  /-- `if self._fh is not None` of `acquire`. -/
  | acquireTest (c : Caller)
  /-- `open(self.path, 'a+')`. -/
  | acquireOpen (c : Caller)
  /-- `fcntl.flock(fh, LOCK_EX | LOCK_NB)` on the file opened as number `n`. -/
  | acquireFlock (c : Caller) (n : ℕ)
  /-- `fh.close()` after `flock` raised. -/
  | acquireClose (c : Caller) (n : ℕ)
  /-- `self._fh = fh`. -/
  | acquireStore (c : Caller) (n : ℕ)
  /-- The end of the `with` of `acquire`, with its answer. -/
  | acquireExit (c : Caller) (ok : Bool)
  /-- `with self._guard` of `release`. -/
  | release (c : Caller)
  /-- `if self._fh is None` of `release`. -/
  | releaseTest (c : Caller)
  /-- `fcntl.flock(self._fh, LOCK_UN)`. -/
  | releaseUnlock (c : Caller)
  /-- `self._fh.close()`. -/
  | releaseClose (c : Caller)
  /-- `self._fh = None`. -/
  | releaseClear (c : Caller)
  /-- The end of the `with` of `release`. -/
  | releaseExit (c : Caller)
  deriving DecidableEq

variable {P T : Type*}

/-- The locks of one process: `SCAN_LOCK`, and of the file lock the guard (the thread that holds
it and how often it took it), the handle `_fh` and the number of files opened so far. -/
structure Locks (T : Type*) where
  scanLock : Bool
  guard : Option (T × ℕ)
  fh : Option ℕ
  opened : ℕ

/-- The open file description that has the `flock`, by process and number. -/
abbrev Flock (P : Type*) := Option (P × ℕ)

variable [DecidableEq P] [DecidableEq T]

/-- Entering a `with self._guard`: the guard if it is free, once more if the thread has it. -/
def enter (t : T) : Option (T × ℕ) → Option (Option (T × ℕ))
  | none => some (some (t, 1))
  | some (u, d) => if u = t then some (some (t, d + 1)) else none

/-- Leaving a `with self._guard`. -/
def leave : Option (T × ℕ) → Option (T × ℕ)
  | some (t, d + 2) => some (t, d + 1)
  | _ => none

/-- `LOCK_UN` or `close` on a file: its `flock` goes, nobody else's. -/
def unlock (fl : Flock P) (p : P) (n : ℕ) : Flock P := if fl = some (p, n) then none else fl

/-- Where a call of `acquire` returns to. -/
def Caller.acquired : Caller → Bool → Pc
  | .scan, true => .body
  | .scan, false => .refused
  | .probe, true => .release .probe
  | .probe, false => .elsewhereExit

/-- Where a call of `release` returns to. -/
def Caller.released : Caller → Pc
  | .scan => .dropLock
  | .probe => .elsewhereExit

/-- The moves of a thread. -/
inductive Move (p : P) (t : T) : Locks T → Flock P → Pc → Locks T → Flock P → Pc → Prop where
  -- `run_scan`, `run_manual_test`
  | call_scan {r fl} : Move p t r fl .idle r fl .takeLock
  | lock_busy {r fl} : r.scanLock = true → Move p t r fl .takeLock r fl .idle
  | lock_taken {r fl} : r.scanLock = false →
      Move p t r fl .takeLock { r with scanLock := true } fl (.acquire .scan)
  | lock_given_back {r fl} : Move p t r fl .refused { r with scanLock := false } fl .idle
  | work {r fl} : Move p t r fl .body r fl .body
  -- an exception before the `try` leaves both locks behind
  | raise {r fl} : Move p t r fl .body r fl .idle
  | finish {r fl} : Move p t r fl .body r fl (.release .scan)
  | lock_dropped {r fl} : Move p t r fl .dropLock { r with scanLock := false } fl .idle
  -- `is_scan_active`
  | call_active {r fl} : Move p t r fl .idle r fl .readLock
  | lock_read_true {r fl} : r.scanLock = true → Move p t r fl .readLock r fl .idle
  | lock_read_false {r fl} : r.scanLock = false → Move p t r fl .readLock r fl .elsewhere
  | elsewhere_enter {r fl g} : enter t r.guard = some g →
      Move p t r fl .elsewhere { r with guard := g } fl .elsewhereTest
  | elsewhere_own {r fl} : r.fh ≠ none → Move p t r fl .elsewhereTest r fl .elsewhereExit
  | elsewhere_try {r fl} : r.fh = none → Move p t r fl .elsewhereTest r fl (.acquire .probe)
  | elsewhere_exit {r fl} :
      Move p t r fl .elsewhereExit { r with guard := leave r.guard } fl .idle
  -- `InterProcessLock.acquire`
  | acquire_enter {r fl g} (c : Caller) : enter t r.guard = some g →
      Move p t r fl (.acquire c) { r with guard := g } fl (.acquireTest c)
  | acquire_own {r fl} (c : Caller) : r.fh ≠ none →
      Move p t r fl (.acquireTest c) r fl (.acquireExit c true)
  | acquire_try {r fl} (c : Caller) : r.fh = none →
      Move p t r fl (.acquireTest c) r fl (.acquireOpen c)
  | open_ok {r fl} (c : Caller) :
      Move p t r fl (.acquireOpen c) { r with opened := r.opened + 1 } fl
        (.acquireFlock c r.opened)
  | open_raises {r fl} (c : Caller) :
      Move p t r fl (.acquireOpen c) r fl (.acquireExit c false)
  | flock_ok {r} (c : Caller) (n : ℕ) :
      Move p t r none (.acquireFlock c n) r (some (p, n)) (.acquireStore c n)
  -- held elsewhere, or another `OSError`
  | flock_raises {r fl} (c : Caller) (n : ℕ) :
      Move p t r fl (.acquireFlock c n) r fl (.acquireClose c n)
  | acquire_close {r fl} (c : Caller) (n : ℕ) :
      Move p t r fl (.acquireClose c n) r (unlock fl p n) (.acquireExit c false)
  | acquire_store {r fl} (c : Caller) (n : ℕ) :
      Move p t r fl (.acquireStore c n) { r with fh := some n } fl (.acquireExit c true)
  | acquire_exit {r fl} (c : Caller) (ok : Bool) :
      Move p t r fl (.acquireExit c ok) { r with guard := leave r.guard } fl (c.acquired ok)
  -- `InterProcessLock.release`
  | release_enter {r fl g} (c : Caller) : enter t r.guard = some g →
      Move p t r fl (.release c) { r with guard := g } fl (.releaseTest c)
  | release_none {r fl} (c : Caller) : r.fh = none →
      Move p t r fl (.releaseTest c) r fl (.releaseExit c)
  | release_some {r fl} (c : Caller) : r.fh ≠ none →
      Move p t r fl (.releaseTest c) r fl (.releaseUnlock c)
  | unlock_ok {r fl} (c : Caller) {n : ℕ} : r.fh = some n →
      Move p t r fl (.releaseUnlock c) r (unlock fl p n) (.releaseClose c)
  | unlock_raises {r fl} (c : Caller) :
      Move p t r fl (.releaseUnlock c) r fl (.releaseClose c)
  | close {r fl} (c : Caller) {n : ℕ} : r.fh = some n →
      Move p t r fl (.releaseClose c) r (unlock fl p n) (.releaseClear c)
  | clear {r fl} (c : Caller) :
      Move p t r fl (.releaseClear c) { r with fh := none } fl (.releaseExit c)
  | release_exit {r fl} (c : Caller) :
      Move p t r fl (.releaseExit c) { r with guard := leave r.guard } fl c.released

/-- The workers. -/
def machine (P T : Type*) [DecidableEq P] [DecidableEq T] :
    Threads.Machine P T (Locks T) (Flock P) Pc where
  move := Move

/-- A state of all workers. -/
abbrev Workers (P T : Type*) := Threads.State P T (Locks T) (Flock P) Pc

/-- The workers have just been started: nobody has a lock or is in one of the functions. -/
def Initial (s : Workers P T) : Prop :=
  (∀ p, s.proc p = ⟨false, none, none, 0⟩) ∧ s.common = none ∧ ∀ p t, s.pc p t = .idle

/-- The states the workers can get into. -/
def Reachable (s : Workers P T) : Prop := Threads.Reachable (machine P T) Initial s

/-! ### Control points -/

/-- How often a caller has entered the guard when it calls a method of the file lock. -/
def Caller.depth : Caller → ℕ
  | .scan => 0
  | .probe => 1

/-- How often a thread has entered the guard and not left it. -/
def depth : Pc → ℕ
  | .idle | .takeLock | .refused | .body | .dropLock | .readLock | .elsewhere => 0
  | .elsewhereTest | .elsewhereExit => 1
  | .acquire c | .release c => c.depth
  | .acquireTest c | .acquireOpen c | .acquireFlock c _ | .acquireClose c _
  | .acquireStore c _ | .acquireExit c _ => c.depth + 1
  | .releaseTest c | .releaseUnlock c | .releaseClose c | .releaseClear c
  | .releaseExit c => c.depth + 1

/-- Between taking `SCAN_LOCK` and dropping it. -/
def inScan : Pc → Bool
  | .idle | .takeLock | .readLock | .elsewhere | .elsewhereTest | .elsewhereExit => false
  | .refused | .body | .dropLock => true
  | .acquire c | .acquireTest c | .acquireOpen c | .acquireFlock c _ | .acquireClose c _
  | .acquireStore c _ | .acquireExit c _ => c = .scan
  | .release c | .releaseTest c | .releaseUnlock c | .releaseClose c | .releaseClear c
  | .releaseExit c => c = .scan

/-- Past a test that found no handle and before the new one is stored. -/
def opening : Pc → Bool
  | .acquire c | .acquireTest c => c = .probe
  | .acquireOpen _ | .acquireFlock _ _ | .acquireClose _ _ | .acquireStore _ _ => true
  | .idle | .takeLock | .refused | .body | .dropLock | .readLock | .elsewhere
  | .elsewhereTest | .elsewhereExit | .acquireExit _ _ => false
  | .release _ | .releaseTest _ | .releaseUnlock _ | .releaseClose _ | .releaseClear _
  | .releaseExit _ => false

/-- The caller for which the thread has acquired the file lock, until the release begins to undo
it. -/
def holding : Pc → Option Caller
  | .body => some .scan
  | .acquireExit c ok => if ok then some c else none
  | .release c | .releaseTest c | .releaseUnlock c => some c
  | .idle | .takeLock | .refused | .dropLock | .readLock | .elsewhere
  | .elsewhereTest | .elsewhereExit => none
  | .acquire _ | .acquireTest _ | .acquireOpen _ | .acquireFlock _ _ | .acquireClose _ _
  | .acquireStore _ _ => none
  | .releaseClose _ | .releaseClear _ | .releaseExit _ => none

/-- The caller for which the thread is between the unlock and the removal of the handle. -/
def closing : Pc → Option Caller
  | .releaseClose c | .releaseClear c => some c
  | .idle | .takeLock | .refused | .body | .dropLock | .readLock | .elsewhere
  | .elsewhereTest | .elsewhereExit => none
  | .acquire _ | .acquireTest _ | .acquireOpen _ | .acquireFlock _ _ | .acquireClose _ _
  | .acquireStore _ _ | .acquireExit _ _ => none
  | .release _ | .releaseTest _ | .releaseUnlock _ | .releaseExit _ => none

/-! ### What a move does -/

variable {p q : P} {t u : T} {r r' : Locks T} {fl fl' : Flock P} {k k' l : Pc}

lemma enter_eq_some {g g' : Option (T × ℕ)} (h : enter t g = some g') :
    (g = none ∧ g' = some (t, 1)) ∨ ∃ d, g = some (t, d) ∧ g' = some (t, d + 1) := by
  cases g with
  | none => exact .inl ⟨rfl, by simpa [enter] using h.symm⟩
  | some x =>
      obtain ⟨v, d⟩ := x
      by_cases hv : v = t
      · subst hv
        exact .inr ⟨d, rfl, by simpa [enter] using h.symm⟩
      · simp [enter, hv] at h

/-- What holds of the guard as far as one thread goes. -/
def Guarded (t : T) (g : Option (T × ℕ)) (k : Pc) : Prop :=
  (depth k ≠ 0 → g = some (t, depth k)) ∧ (depth k = 0 → ∀ d, g ≠ some (t, d))

/-- The guard is left alone, taken (from nobody, or once more), or given back. -/
lemma move_guard (hm : Move p t r fl k r' fl' k') (hg : Guarded t r.guard k) :
    (r'.guard = r.guard ∧ depth k' = depth k)
    ∨ (depth k' ≠ 0 ∧ r'.guard = some (t, depth k') ∧ (r.guard = none ∨ depth k ≠ 0))
    ∨ (depth k ≠ 0 ∧ depth k' = 0 ∧ r'.guard = none) := by
  obtain ⟨hin, hout⟩ := hg
  cases hm
  case elsewhere_enter g he =>
    rcases enter_eq_some he with ⟨h1, rfl⟩ | ⟨d, h1, rfl⟩
    · simp [depth, h1]
    · exact absurd h1 (hout rfl d)
  case acquire_enter g c he =>
    rcases enter_eq_some he with ⟨h1, rfl⟩ | ⟨d, h1, rfl⟩ <;> cases c <;>
      simp_all [depth, Caller.depth]
  case release_enter g c he =>
    rcases enter_eq_some he with ⟨h1, rfl⟩ | ⟨d, h1, rfl⟩ <;> cases c <;>
      simp_all [depth, Caller.depth]
  case elsewhere_exit => simp_all [depth, leave]
  case acquire_exit c ok =>
    cases c <;> cases ok <;> simp_all [depth, Caller.depth, Caller.acquired, leave]
  case release_exit c => cases c <;> simp_all [depth, Caller.depth, Caller.released, leave]
  all_goals simp [depth, Caller.depth]

/-- `SCAN_LOCK` is left alone, taken when it is free, or dropped by the thread that took it. -/
lemma move_lock (hm : Move p t r fl k r' fl' k') :
    (r'.scanLock = r.scanLock ∧ (inScan k' → inScan k))
    ∨ (r.scanLock = false ∧ r'.scanLock = true)
    ∨ (inScan k ∧ inScan k' = false) := by
  cases hm
  case acquire_exit c ok => cases c <;> cases ok <;> simp [inScan, Caller.acquired]
  case release_exit c => cases c <;> simp [inScan, Caller.released]
  all_goals simp_all [inScan]

/-- The handle and the file are touched inside the guard only, on the way to a new handle or on
the way to its removal. -/
lemma move_files (hm : Move p t r fl k r' fl' k') :
    (r'.fh = r.fh ∧ fl' = fl)
    ∨ depth k ≠ 0 ∧ (opening k ∨ holding k ≠ none ∨ closing k ≠ none) := by
  cases hm <;> simp [depth, opening, holding, closing]

/-- The file lock of another process is left alone. -/
lemma move_other (hm : Move p t r fl k r' fl' k') (hpq : p ≠ q) {n : ℕ}
    (h : fl = some (q, n)) : fl' = some (q, n) := by
  subst h
  cases hm <;> simp [unlock, hpq.symm]

/-! ### The invariant -/

/-- The thread has acquired the file lock, or is giving it back. -/
def Busy (k : Pc) : Prop := holding k ≠ none ∨ closing k ≠ none

/-- What holds of a process whose guard is free: its handle, if it has one, is locked. -/
def Settled (p : P) (r : Locks T) (fl : Flock P) : Prop :=
  r.guard = none → ∀ n, r.fh = some n → fl = some (p, n)

/-- What holds of one thread. -/
structure Sound (p : P) (t : T) (r : Locks T) (fl : Flock P) (k : Pc) : Prop where
  guarded : Guarded t r.guard k
  lock : inScan k → r.scanLock = true
  shut : opening k → r.fh = none
  taken : ∀ c n, k = .acquireStore c n → fl = some (p, n)
  settled : depth k ≠ 0 → closing k = none → ∀ n, r.fh = some n → fl = some (p, n)
  held : holding k ≠ none → ∃ n, r.fh = some n ∧ fl = some (p, n)

/-- What holds of two threads of one process. -/
structure Apart (k l : Pc) : Prop where
  scan : ¬ (inScan k ∧ inScan l)
  guard : depth k = 0 ∨ depth l = 0
  busy : ¬ (Busy k ∧ Busy l)

/-- A new handle is made inside the guard. -/
lemma depth_of_opening (h : opening k) : depth k ≠ 0 := by
  cases k
  case acquire c => cases c <;> simp_all [opening, depth, Caller.depth]
  all_goals simp_all [opening, depth]

/-- A thread outside the guard that has the lock is a scan past its acquisition. -/
lemma inScan_of_busy (hb : Busy k) (hd : depth k = 0) : inScan k ∧ holding k ≠ none := by
  cases k
  case acquireExit c ok => cases ok <;> simp_all [Busy, holding, closing, depth]
  case release c => cases c <;> simp_all [holding, depth, Caller.depth, inScan]
  all_goals simp_all [Busy, holding, closing, depth, inScan]

/-- A thread becomes busy inside the guard, with a new handle or as a scan. -/
lemma move_busy (hm : Move p t r fl k r' fl' k') (hb : Busy k') :
    Busy k ∨ depth k ≠ 0 ∧ (opening k ∨ inScan k) := by
  cases hm
  case acquire_exit c ok =>
    cases c <;> cases ok <;> simp_all [Busy, holding, closing, Caller.acquired]
  case release_exit c => cases c <;> simp_all [Busy, holding, closing, Caller.released]
  case acquire_own c hfh => cases c <;> simp [depth, opening, inScan]
  all_goals simp_all [Busy, holding, closing, depth, opening]

omit [DecidableEq P] in
/-- A thread that may enter the guard finds the handle locked. -/
lemma Sound.settled_of_enter (ht : Sound p t r fl k) (hp : Settled p r fl)
    {g : Option (T × ℕ)} (he : enter t r.guard = some g) (hc : closing k = none) :
    ∀ n, r.fh = some n → fl = some (p, n) := by
  by_cases hd : depth k = 0
  · rcases enter_eq_some he with ⟨h, -⟩ | ⟨d, h, -⟩
    · exact hp h
    · exact absurd h (ht.guarded.2 hd d)
  · exact ht.settled hd hc

lemma Sound.move (ht : Sound p t r fl k) (hm : Move p t r fl k r' fl' k')
    (hp : Settled p r fl) : Sound p t r' fl' k' where
  guarded := by
    have hg := ht.guarded
    rcases move_guard hm hg with ⟨h1, h2⟩ | ⟨h1, h2, -⟩ | ⟨-, h1, h2⟩
    · rw [Guarded, h1, h2]
      exact hg
    · exact ⟨fun _ => h2, fun h => absurd h h1⟩
    · exact ⟨fun h => absurd h1 h, fun _ d => by rw [h2]; simp⟩
  lock := by
    intro hk'
    rcases move_lock hm with ⟨h1, h2⟩ | ⟨-, h1⟩ | ⟨-, h1⟩
    · rw [h1, ht.lock (h2 hk')]
    · exact h1
    · rw [h1] at hk'
      cases hk'
  shut := by
    have hs := ht.shut
    cases hm
    case acquire_exit c ok => cases c <;> cases ok <;> simp [opening, Caller.acquired]
    case release_exit c => cases c <;> simp [opening, Caller.released]
    all_goals simp_all [opening]
  taken := by
    intro c n hk'
    cases hm
    case acquire_exit c ok => cases c <;> cases ok <;> simp [Caller.acquired] at hk'
    case release_exit c => cases c <;> simp [Caller.released] at hk'
    all_goals simp_all
  settled := by
    have h1 := ht.settled
    have h2 := ht.shut
    have h3 := ht.taken
    cases hm
    case elsewhere_enter g he => exact fun _ _ => ht.settled_of_enter hp he rfl
    case acquire_enter g c he => exact fun _ _ => ht.settled_of_enter hp he rfl
    case release_enter g c he => exact fun _ _ => ht.settled_of_enter hp he rfl
    case acquire_exit c ok => exact fun _ _ => h1 (Nat.succ_ne_zero _) rfl
    case release_exit c => exact fun _ _ => h1 (Nat.succ_ne_zero _) rfl
    all_goals simp_all [depth, Caller.depth, closing, opening]
  held := by
    have h1 := ht.settled
    have h2 := ht.held
    have h3 := ht.taken
    cases hm
    case acquire_exit c ok => cases c <;> cases ok <;> simp_all [holding, Caller.acquired]
    case release_exit c => cases c <;> simp [holding, Caller.released]
    case acquire_own c hfh =>
      obtain ⟨n, hn⟩ := Option.ne_none_iff_exists'.mp hfh
      exact fun _ => ⟨n, hn, h1 (Nat.succ_ne_zero _) rfl n hn⟩
    all_goals simp_all [holding, depth, closing]

lemma Settled.move (hp : Settled p r fl) (ht : Sound p t r fl k)
    (hm : Move p t r fl k r' fl' k') : Settled p r' fl' := by
  intro hg n hn
  by_cases hd : depth k = 0
  · obtain ⟨h1, rfl⟩ : r'.fh = r.fh ∧ fl' = fl := by
      rcases move_files hm with h | ⟨h, -⟩
      · exact h
      · exact absurd hd h
    rcases move_guard hm ht.guarded with ⟨h2, -⟩ | ⟨-, h2, -⟩ | ⟨h2, -⟩
    · exact hp (h2 ▸ hg) n (h1 ▸ hn)
    · rw [hg] at h2
      cases h2
    · exact absurd hd h2
  · -- the thread has left the guard, with nothing half done
    have hset := ht.settled hd
    rcases move_guard hm ht.guarded with ⟨h2, -⟩ | ⟨-, h2, -⟩ | ⟨-, h2, -⟩
    · rw [hg, (ht.guarded.1 hd)] at h2
      cases h2
    · rw [hg] at h2
      cases h2
    · cases hm
      case elsewhere_exit => exact hset rfl n hn
      case acquire_exit c ok => exact hset rfl n hn
      case release_exit c => exact hset rfl n hn
      all_goals simp_all [depth, Caller.depth]

/-- Another thread of the process keeps what holds of it. -/
lemma Sound.peer (htu : t ≠ u) (hm : Move p t r fl k r' fl' k') (ht : Sound p t r fl k)
    (hu : Sound p u r fl l) (h : Apart k l) : Sound p u r' fl' l := by
  -- a peer that relies on the handle or the file finds them untouched
  have hsame : depth l ≠ 0 ∨ Busy l → r'.fh = r.fh ∧ fl' = fl := by
    intro hl
    rcases move_files hm with he | ⟨hd, hopen | hbusy⟩
    · exact he
    · have hd' : depth l = 0 := h.guard.resolve_left hd
      have hb := inScan_of_busy (hl.resolve_left (absurd hd')) hd'
      obtain ⟨n, hn, -⟩ := hu.held hb.2
      rw [ht.shut hopen] at hn
      cases hn
    · rcases hl with hl | hl
      · exact absurd (h.guard.resolve_left hd) hl
      · exact absurd ⟨hbusy, hl⟩ h.busy
  have hguard : Guarded u r'.guard l := by
    refine ⟨fun hd => ?_, fun hd d => ?_⟩
    · have hk := h.guard.resolve_right hd
      rcases move_guard hm ht.guarded with ⟨h1, -⟩ | ⟨-, -, h1 | h1⟩ | ⟨h1, -⟩
      · rw [h1, hu.guarded.1 hd]
      · rw [hu.guarded.1 hd] at h1
        cases h1
      · exact absurd hk h1
      · exact absurd hk h1
    · rcases move_guard hm ht.guarded with ⟨h1, -⟩ | ⟨-, h1, -⟩ | ⟨-, -, h1⟩
      · rw [h1]
        exact hu.guarded.2 hd d
      · rw [h1]
        simp [htu]
      · simp [h1]
  refine ⟨hguard, fun hl => ?_, fun hl => ?_, fun c n hl => ?_, fun hd hc n hn => ?_,
    fun hh => ?_⟩
  · rcases move_lock hm with ⟨h1, -⟩ | ⟨-, h1⟩ | ⟨h1, -⟩
    · rw [h1, hu.lock hl]
    · exact h1
    · exact absurd ⟨h1, hl⟩ h.scan
  · rw [(hsame (.inl (depth_of_opening hl))).1, hu.shut hl]
  · rw [(hsame (.inl (by simp [hl, depth]))).2, hu.taken c n hl]
  · obtain ⟨h1, rfl⟩ := hsame (.inl hd)
    exact hu.settled hd hc n (h1 ▸ hn)
  · obtain ⟨h1, rfl⟩ := hsame (.inr (.inl hh))
    rw [h1]
    exact hu.held hh

lemma Apart.symm (h : Apart k l) : Apart l k :=
  ⟨fun hs => h.scan hs.symm, h.guard.symm, fun hb => h.busy hb.symm⟩

/-- Two threads of the process stay apart. -/
lemma Apart.move (h : Apart k l) (hm : Move p t r fl k r' fl' k') (ht : Sound p t r fl k)
    (hu : Sound p u r fl l) : Apart k' l := by
  refine ⟨?_, ?_, ?_⟩
  · rintro ⟨hk', hl⟩
    rcases move_lock hm with ⟨-, h1⟩ | ⟨h1, -⟩ | ⟨-, h1⟩
    · exact h.scan ⟨h1 hk', hl⟩
    · rw [hu.lock hl] at h1
      cases h1
    · rw [h1] at hk'
      cases hk'
  · rcases move_guard hm ht.guarded with ⟨-, h1⟩ | ⟨-, -, h1 | h1⟩ | ⟨-, h1, -⟩
    · rw [h1]
      exact h.guard
    · refine .inr (not_not.mp fun hd => ?_)
      rw [hu.guarded.1 hd] at h1
      cases h1
    · exact .inr (h.guard.resolve_left h1)
    · exact .inl h1
  · rintro ⟨hk', hl⟩
    rcases move_busy hm hk' with hk | ⟨hd, hk⟩
    · exact h.busy ⟨hk, hl⟩
    · obtain ⟨hscan, hhold⟩ := inScan_of_busy hl (h.guard.resolve_left hd)
      rcases hk with hopen | hk
      · obtain ⟨n, hn, -⟩ := hu.held hhold
        rw [ht.shut hopen] at hn
        cases hn
      · exact h.scan ⟨hk, hscan⟩

/-- What holds of a thread or a process survives the moves of another process. -/
lemma Settled.other (hpq : p ≠ q) (hm : Move p t r fl k r' fl' k') {r₁ : Locks T}
    (h : Settled q r₁ fl) : Settled q r₁ fl' :=
  fun hg n hn => move_other hm hpq (h hg n hn)

lemma Sound.other (hpq : p ≠ q) (hm : Move p t r fl k r' fl' k') {r₁ : Locks T}
    (h : Sound q u r₁ fl l) : Sound q u r₁ fl' l where
  guarded := h.guarded
  lock := h.lock
  shut := h.shut
  taken c n hl := move_other hm hpq (h.taken c n hl)
  settled hd hc n hn := move_other hm hpq (h.settled hd hc n hn)
  held hh := by
    obtain ⟨n, hn, hf⟩ := h.held hh
    exact ⟨n, hn, move_other hm hpq hf⟩

/-- The invariant of the locks. -/
def lockProof (P T : Type*) [DecidableEq P] [DecidableEq T] :
    Threads.Proof (machine P T) where
  process := Settled
  thread := Sound
  pair := Apart
  own hm hp ht := ⟨hp.move ht hm, ht.move hm hp⟩
  peer htu hm ht hu h _ :=
    ⟨.peer htu hm ht hu h, h.move hm ht hu, (h.move hm ht hu).symm⟩
  other hpq hm := ⟨fun _ h => h.other hpq hm, fun _ _ _ h => h.other hpq hm⟩

omit [DecidableEq P] [DecidableEq T] in
lemma Initial.settled {s : Workers P T} (h : Initial s) (p : P) :
    Settled p (s.proc p) s.common := by
  intro _ n hn
  rw [h.1 p] at hn
  cases hn

omit [DecidableEq P] [DecidableEq T] in
lemma Initial.sound {s : Workers P T} (h : Initial s) (p : P) (t : T) :
    Sound p t (s.proc p) s.common (s.pc p t) := by
  rw [h.1 p, h.2.2 p t]
  constructor <;> simp [Guarded, depth, inScan, opening, holding]

lemma Initial.inv {s : Workers P T} (h : Initial s) : (lockProof P T).Inv s where
  process := h.settled
  thread := h.sound
  pair p t u _ := by
    rw [h.2.2 p t, h.2.2 p u]
    constructor <;> simp [inScan, depth, Busy, holding, closing]

/-- The thread is in a scan or a test that has acquired both locks and not begun to undo it. -/
def Scanning (k : Pc) : Prop := holding k = some .scan

lemma Scanning.inScan (h : Scanning k) : inScan k := by
  cases k
  case acquireExit c ok => cases ok <;> simp_all [Scanning, holding, ScanLock.inScan]
  all_goals simp_all [Scanning, holding, ScanLock.inScan]

lemma scanning_body : Scanning .body := rfl

/-- **Mutual exclusion**: at most one scan or test is past the acquisition of both locks, across
all processes. -/
theorem scan_mutual_exclusion {s : Workers P T} (h : Reachable s) {p q : P} {t u : T}
    (hp : Scanning (s.pc p t)) (hq : Scanning (s.pc q u)) : p = q ∧ t = u := by
  have hinv := (lockProof P T).sound (fun _ => Initial.inv) h
  obtain ⟨n, -, hn⟩ := (hinv.thread p t).held (by rw [hp]; simp)
  obtain ⟨m, -, hm⟩ := (hinv.thread q u).held (by rw [hq]; simp)
  rw [hn, Option.some.injEq, Prod.mk.injEq] at hm
  obtain ⟨rfl, -⟩ := hm
  refine ⟨rfl, not_not.mp fun htu => ?_⟩
  exact (hinv.pair p t u htu).scan ⟨hp.inScan, hq.inScan⟩

/-! ### A sample schedule -/

/-- A reachable state with the thread `t` of process `p` at the control point `k`. -/
def At (p : P) (t : T) (r : Locks T) (fl : Flock P) (k : Pc) (s : Workers P T) : Prop :=
  Reachable s ∧ s.proc p = r ∧ s.common = fl ∧ s.pc p t = k

lemma At.step (h : ∃ s, At p t r fl k s) (hm : Move p t r fl k r' fl' k') :
    ∃ s, At p t r' fl' k' s := by
  obtain ⟨s, hr, rfl, rfl, rfl⟩ := h
  exact ⟨s.moved p t r' fl' k', hr.step (.move p t hm), s.moved_proc_self ..,
    rfl, s.moved_pc_self ..⟩

/-- A worker that takes both locks. -/
lemma exists_scanning :
    ∃ s : Workers ℕ ℕ, At 0 0 ⟨true, none, some 0, 1⟩ (some (0, 0)) .body s := by
  have h : ∃ s : Workers ℕ ℕ, At 0 0 ⟨false, none, none, 0⟩ none .idle s :=
    ⟨⟨fun _ => ⟨false, none, none, 0⟩, none, fun _ _ => .idle⟩,
      .init ⟨fun _ => rfl, rfl, fun _ _ => rfl⟩, rfl, rfl, rfl⟩
  have hlock := At.step (At.step h .call_scan) (.lock_taken rfl)
  have htest := At.step (At.step hlock (.acquire_enter .scan rfl)) (.acquire_try .scan rfl)
  have hfile := At.step (At.step htest (.open_ok .scan)) (.flock_ok .scan 0)
  exact At.step (At.step hfile (.acquire_store .scan 0)) (.acquire_exit .scan true)

theorem scan_mutual_exclusion_sample :
    ∃ s : Workers ℕ ℕ, Reachable s ∧ Scanning (s.pc 0 0)
      ∧ ¬ ∃ q u, (q, u) ≠ (0, 0) ∧ Scanning (s.pc q u) := by
  obtain ⟨s, hr, -, -, hpc⟩ := exists_scanning
  have hbody : Scanning (s.pc 0 0) := hpc ▸ scanning_body
  refine ⟨s, hr, hbody, ?_⟩
  rintro ⟨q, u, hne, hq⟩
  obtain ⟨h1, h2⟩ := scan_mutual_exclusion hr hbody hq
  exact hne (Prod.ext h1.symm h2.symm)

end ScanLock
end V2raySub
