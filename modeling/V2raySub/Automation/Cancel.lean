import V2raySub.Automation.ScanLock

/-!
The cancel flag of a scan (`automation_service.py`: `set_cancel_requested`,
`is_cancel_requested`, `cancel_scan`), between the locks of `ScanLock`.

The flag is kept twice: in the memory of each worker, and as a file all of them see.  A scan that
has both locks clears it, in three accesses; a `cancel_scan` of any worker sets it, in two; a check
reads the memory and then the file.

* `Move` is the table of moves; a thread in the code of the locks makes the moves of `ScanLock`, and
  `reachable_locks` says that nothing else happens to the locks.
* `Inv`: what an acknowledged cancel leaves to see, up to the end of the scan.
* `cancel_never_lost`: **in every run in which no scan removes a flag file that a cancel of this
  scan has written, the scan's own worker apart, every later check of the scan answers `True`**.
-/

namespace V2raySub
namespace ScanCancel

open ScanLock (Locks Flock)

/-! ### The moves -/

/-- Who asks `is_cancel_requested`: the scan, or a `_watch_for_cancel` of its worker. -/
inductive Checker where
  | scan
  | watcher
  deriving DecidableEq

/-- The control point of a thread. -/
inductive Pc where
  /-- In the code of the locks, or in none of the functions. -/
  | lock (k : ScanLock.Pc)
  /-- `_CANCEL_REQUESTED = False`, past both acquisitions. -/
  | clearMemory
  /-- `os.path.exists(SCAN_CANCEL_FLAG)` of `set_cancel_requested(False)`. -/
  | clearTest
  /-- `os.remove(SCAN_CANCEL_FLAG)`. -/
  | clearRemove
  /-- Past the clear. -/
  | scan
  /-- `_CANCEL_REQUESTED = True` of a `cancel_scan` called after the `e`-th acquisition. -/
  | cancelMemory (e : ℕ)
  /-- `open(SCAN_CANCEL_FLAG, 'w')`. -/
  | cancelFile (e : ℕ)
  /-- `os.path.exists(SCAN_CANCEL_FLAG)` of a check; the acquisition whose scan has to be told so,
  if there is one. -/
  | checkFile (c : Checker) (due : Option ℕ)
  /-- The check has answered; whether it had to be `True`. -/
  | checked (c : Checker) (due answer : Bool)
  deriving DecidableEq

/-- Where a check starts, and returns to. -/
def Checker.start : Checker → Pc
  | .scan => .scan
  | .watcher => .lock .idle

/-- Of a worker: its locks and `_CANCEL_REQUESTED`. -/
structure Worker (T : Type*) where
  locks : Locks T
  cancelRequested : Bool

/-- How far the scan that has acquired the locks is. -/
inductive Stage (P : Type*) where
  | clearing
  | scanning (p : P)
  | over
  deriving DecidableEq

/-- What all workers share: the `flock`, and whether the flag file exists; and what a run is judged
by, which no code reads: the number of acquisitions, whether a `cancel_scan` called since the last
one has been carried out, and how far its scan is. -/
structure Shared (P : Type*) where
  flock : Flock P
  flag : Bool
  epoch : ℕ
  acked : Bool
  stage : Stage P

variable {P T : Type*} [DecidableEq P] [DecidableEq T]

/-- A check of the process `p` has to answer `True`: a scan of it is past its clear, and a cancel
of this scan has been carried out. -/
def Shared.due (g : Shared P) (p : P) : Bool := g.acked && g.stage = .scanning p

/-- The moves of a thread. -/
inductive Move (p : P) (t : T) : Worker T → Shared P → Pc → Worker T → Shared P → Pc → Prop where
  | lock {r g k l fl k'} : ScanLock.Move p t r.locks g.flock k l fl k' → k ≠ .body → k' ≠ .body →
      Move p t r g (.lock k) { r with locks := l } { g with flock := fl } (.lock k')
  -- `run_scan`, `run_manual_test` between the locks
  | acquired {r g k l fl} : ScanLock.Move p t r.locks g.flock k l fl .body → k ≠ .body →
      Move p t r g (.lock k) { r with locks := l }
        { g with flock := fl, epoch := g.epoch + 1, acked := false, stage := .clearing }
        .clearMemory
  | clear_memory {r g} : Move p t r g .clearMemory { r with cancelRequested := false } g .clearTest
  | clear_absent {r g} : g.flag = false →
      Move p t r g .clearTest r { g with stage := .scanning p } .scan
  | clear_exists {r g} : g.flag = true → Move p t r g .clearTest r g .clearRemove
  | clear_remove {r g} :
      Move p t r g .clearRemove r { g with flag := false, stage := .scanning p } .scan
  -- an exception before the `try` leaves both locks behind
  | raise {r g} : Move p t r g .scan r { g with stage := .over } (.lock .idle)
  | finish {r g} : Move p t r g .scan r { g with stage := .over } (.lock (.release .scan))
  -- `cancel_scan`
  | cancel {r g} : Move p t r g (.lock .idle) r g (.cancelMemory g.epoch)
  | cancel_memory {r g} (e : ℕ) :
      Move p t r g (.cancelMemory e) { r with cancelRequested := true } g (.cancelFile e)
  | cancel_file {r g} (e : ℕ) : Move p t r g (.cancelFile e) r
      { g with flag := true, acked := g.acked || e = g.epoch } (.lock .idle)
  -- `is_cancel_requested`
  | check_set {r g} (c : Checker) : r.cancelRequested = true →
      Move p t r g c.start r g (.checked c (g.due p) true)
  | check_unset {r g} (c : Checker) : r.cancelRequested = false →
      Move p t r g c.start r g (.checkFile c (if g.due p then some g.epoch else none))
  | check_file {r g} (c : Checker) (due : Option ℕ) : Move p t r g (.checkFile c due) r g
      (.checked c (due = some g.epoch && g.stage = .scanning p) g.flag)
  | check_done {r g} (c : Checker) (due answer : Bool) :
      Move p t r g (.checked c due answer) r g c.start

/-- The workers. -/
def machine (P T : Type*) [DecidableEq P] [DecidableEq T] :
    Threads.Machine P T (Worker T) (Shared P) Pc where
  move := Move

/-- A state of all workers. -/
abbrev Workers (P T : Type*) := Threads.State P T (Worker T) (Shared P) Pc

/-- The workers have just been started; a flag file may be left over. -/
def Initial (s : Workers P T) : Prop :=
  (∀ p, s.proc p = ⟨⟨false, none, none, 0⟩, false⟩)
    ∧ (∃ flag, s.common = ⟨none, flag, 0, false, .over⟩) ∧ ∀ p t, s.pc p t = .lock .idle

/-- The states the workers can get into. -/
def Reachable (s : Workers P T) : Prop := Threads.Reachable (machine P T) Initial s

/-! ### The locks of a state -/

/-- Where the code of the locks sees a check. -/
def Checker.toLock : Checker → ScanLock.Pc
  | .scan => .body
  | .watcher => .idle

/-- Where the code of the locks sees a thread. -/
def Pc.toLock : Pc → ScanLock.Pc
  | .lock k => k
  | .clearMemory | .clearTest | .clearRemove | .scan => .body
  | .cancelMemory _ | .cancelFile _ => .idle
  | .checkFile c _ | .checked c _ _ => c.toLock

/-- The locks of all workers. -/
def locks (s : Workers P T) : ScanLock.Workers P T := s.map Worker.locks Shared.flock Pc.toLock

variable {p q : P} {t u : T} {r r' : Worker T} {g g' : Shared P} {k k' l : Pc}

omit [DecidableEq P] [DecidableEq T] in
lemma toLock_start (c : Checker) : c.start.toLock = c.toLock := by
  cases c with
  | scan => rfl
  | watcher => rfl

/-- A move is one of the locks, or none to them. -/
lemma move_toLock (hm : Move p t r g k r' g' k') :
    ScanLock.Move p t r.locks g.flock k.toLock r'.locks g'.flock k'.toLock
      ∨ r'.locks = r.locks ∧ g'.flock = g.flock ∧ k'.toLock = k.toLock := by
  cases hm
  case lock k l fl k' hlock _ _ => exact .inl hlock
  case acquired k l fl hlock _ => exact .inl hlock
  case raise => exact .inl .raise
  case finish => exact .inl .finish
  case check_set c _ => exact .inr ⟨rfl, rfl, (toLock_start c).symm⟩
  case check_unset c _ => exact .inr ⟨rfl, rfl, (toLock_start c).symm⟩
  case check_done c due b => exact .inr ⟨rfl, rfl, toLock_start c⟩
  all_goals exact .inr ⟨rfl, rfl, rfl⟩

/-- The locks go through a run of `ScanLock`. -/
theorem reachable_locks {s : Workers P T} (h : Reachable s) : ScanLock.Reachable (locks s) := by
  refine Threads.Reachable.map _ _ _ (fun s hs => ?_) move_toLock h
  obtain ⟨hproc, ⟨flag, hcommon⟩, hpc⟩ := hs
  refine ⟨fun p => ?_, ?_, fun p t => ?_⟩
  · exact congrArg Worker.locks (hproc p)
  · exact congrArg Shared.flock hcommon
  · exact congrArg Pc.toLock (hpc p t)

/-- At most one thread is past both acquisitions, across all workers. -/
lemma body_unique {s : Workers P T} (h : Reachable s) (hp : (s.pc p t).toLock = .body)
    (hq : (s.pc q u).toLock = .body) : p = q ∧ t = u := by
  have hscan : ∀ p t, (s.pc p t).toLock = .body → ScanLock.Scanning ((locks s).pc p t) := by
    intro p t hk
    have hlocks : (locks s).pc p t = .body := hk
    rw [hlocks]
    exact ScanLock.scanning_body
  exact ScanLock.scan_mutual_exclusion (reachable_locks h) (hscan p t hp) (hscan q u hq)

/-! ### The invariant -/

/-- The thread clears the flag. -/
def Clearing : Pc → Prop
  | .clearMemory | .clearTest | .clearRemove => True
  | _ => False

/-- The thread is in a scan past its clear. -/
def Scanning : Pc → Prop
  | .scan | .checkFile .scan _ | .checked .scan _ _ => True
  | _ => False

/-- What holds of one thread. -/
structure Sound (p : P) (g : Shared P) (k : Pc) : Prop where
  clearing : Clearing k → g.stage = .clearing
  scanning : Scanning k → g.stage = .scanning p
  due : ∀ c e, k = .checkFile c (some e) →
    e ≤ g.epoch ∧ (e = g.epoch → g.stage ≠ .clearing ∧ g.flag = true)
  answered : ∀ c b, k = .checked c true b → b = true

/-- What an acknowledged cancel leaves: until the scan is past its clear the flag file, then the
file or the memory of the scan's worker. -/
structure Visible (proc : P → Worker T) (g : Shared P) : Prop where
  fresh : g.stage = .clearing → g.acked = true → g.flag = true
  seen : ∀ p, g.stage = .scanning p → g.acked = true →
    g.flag = true ∨ (proc p).cancelRequested = true

/-- The clear of a scan removes no flag file that a cancel of this scan has written, except where
the memory of the worker is set by now. -/
def Unraced (s : Workers P T) (p : P) (t : T) : Prop :=
  s.pc p t = .clearRemove → s.common.acked = true → (s.proc p).cancelRequested = true

/-- A thread keeps what holds of it. -/
lemma Sound.own (h : Sound p g k) (hseen : g.stage = .scanning p → g.acked = true →
    g.flag = true ∨ r.cancelRequested = true) (hm : Move p t r g k r' g' k') :
    Sound p g' k' := by
  cases hm
  case lock k l fl k' hlock _ _ =>
    exact ⟨fun hk => hk.elim, fun hk => hk.elim, nofun, nofun⟩
  case acquired k l fl hlock _ =>
    exact ⟨fun _ => rfl, fun hk => hk.elim, nofun, nofun⟩
  case clear_memory => exact ⟨fun _ => h.clearing trivial, fun hk => hk.elim, nofun, nofun⟩
  case clear_absent _ => exact ⟨fun hk => hk.elim, fun _ => rfl, nofun, nofun⟩
  case clear_exists _ => exact ⟨fun _ => h.clearing trivial, fun hk => hk.elim, nofun, nofun⟩
  case clear_remove => exact ⟨fun hk => hk.elim, fun _ => rfl, nofun, nofun⟩
  case raise => exact ⟨fun hk => hk.elim, fun hk => hk.elim, nofun, nofun⟩
  case finish => exact ⟨fun hk => hk.elim, fun hk => hk.elim, nofun, nofun⟩
  case cancel => exact ⟨fun hk => hk.elim, fun hk => hk.elim, nofun, nofun⟩
  case cancel_memory e => exact ⟨fun hk => hk.elim, fun hk => hk.elim, nofun, nofun⟩
  case cancel_file e => exact ⟨fun hk => hk.elim, fun hk => hk.elim, nofun, nofun⟩
  case check_set c hset =>
    refine ⟨fun hk => hk.elim, fun hk => ?_, nofun, fun c' b hb => ?_⟩
    · cases c with
      | scan => exact h.scanning trivial
      | watcher => exact hk.elim
    · exact (Pc.checked.inj hb).2.2.symm
  case check_unset c hunset =>
    refine ⟨fun hk => hk.elim, fun hk => ?_, fun c' e he => ?_, nofun⟩
    · cases c with
      | scan => exact h.scanning trivial
      | watcher => exact hk.elim
    · simp only [Pc.checkFile.injEq, Option.ite_none_right_eq_some, Option.some.injEq] at he
      obtain ⟨-, hdue, rfl⟩ := he
      simp only [Shared.due, Bool.and_eq_true, decide_eq_true_eq] at hdue
      refine ⟨Nat.le_refl _, fun _ => ⟨by rw [hdue.2]; nofun, ?_⟩⟩
      refine (hseen hdue.2 hdue.1).resolve_right ?_
      rw [hunset]
      exact Bool.false_ne_true
  case check_file c due =>
    refine ⟨fun hk => hk.elim, fun hk => ?_, nofun, fun c' b hb => ?_⟩
    · cases c with
      | scan => exact h.scanning trivial
      | watcher => exact hk.elim
    · simp only [Pc.checked.injEq, Bool.and_eq_true, decide_eq_true_eq] at hb
      obtain ⟨-, ⟨rfl, -⟩, rfl⟩ := hb
      exact ((h.due c _ rfl).2 rfl).2
  case check_done c due b =>
    refine ⟨fun hk => ?_, fun hk => ?_, fun c' e he => ?_, fun c' b' hb => ?_⟩
    · cases c with
      | _ => exact hk.elim
    · cases c with
      | scan => exact h.scanning trivial
      | watcher => exact hk.elim
    · cases c with
      | _ => cases he
    · cases c with
      | _ => cases hb

/-- Another thread keeps what holds of it, where only one is past both acquisitions. -/
lemma Sound.peer (h : Sound q g l) (ht : Sound p g k) (hm : Move p t r g k r' g' k')
    (hbefore : ¬ (k.toLock = .body ∧ l.toLock = .body))
    (hafter : ¬ (k'.toLock = .body ∧ l.toLock = .body)) : Sound q g' l := by
  have hbody : Clearing l ∨ Scanning l → l.toLock = .body := by
    intro hl
    cases l
    case checkFile c due => cases c <;> simp_all [Clearing, Scanning, Pc.toLock, Checker.toLock]
    case checked c due b => cases c <;> simp_all [Clearing, Scanning, Pc.toLock, Checker.toLock]
    all_goals simp_all [Clearing, Scanning, Pc.toLock]
  have hstage : Clearing l ∨ Scanning l → g'.stage = g.stage := by
    intro hl
    have hl' := hbody hl
    cases hm
    case acquired k l' fl hlock _ => exact absurd ⟨rfl, hl'⟩ hafter
    case clear_absent _ => exact absurd ⟨rfl, hl'⟩ hbefore
    case clear_remove => exact absurd ⟨rfl, hl'⟩ hbefore
    case raise => exact absurd ⟨rfl, hl'⟩ hbefore
    case finish => exact absurd ⟨rfl, hl'⟩ hbefore
    all_goals rfl
  refine ⟨fun hl => ?_, fun hl => ?_, fun c e he => ?_, h.answered⟩
  · rw [hstage (.inl hl)]
    exact h.clearing hl
  · rw [hstage (.inr hl)]
    exact h.scanning hl
  · obtain ⟨hle, hsame⟩ := h.due c e he
    cases hm
    case acquired k l' fl hlock _ =>
      refine ⟨Nat.le_succ_of_le hle, fun heq => ?_⟩
      dsimp only at heq
      omega
    case clear_absent _ => exact ⟨hle, fun heq => absurd (ht.clearing trivial) (hsame heq).1⟩
    case clear_remove => exact ⟨hle, fun heq => absurd (ht.clearing trivial) (hsame heq).1⟩
    case raise => exact ⟨hle, fun heq => ⟨nofun, (hsame heq).2⟩⟩
    case finish => exact ⟨hle, fun heq => ⟨nofun, (hsame heq).2⟩⟩
    case cancel_file e' => exact ⟨hle, fun heq => ⟨(hsame heq).1, rfl⟩⟩
    all_goals exact ⟨hle, hsame⟩

/-- What is left of a cancel, after a move. -/
lemma Visible.move {proc : P → Worker T} (h : Visible proc g) (ht : Sound p g k)
    (hm : Move p t (proc p) g k r' g' k')
    (hu : k = .clearRemove → g.acked = true → (proc p).cancelRequested = true) :
    Visible (Function.update proc p r') g' := by
  have hsame : r'.cancelRequested = (proc p).cancelRequested → ∀ q,
      (Function.update proc p r' q).cancelRequested = (proc q).cancelRequested := by
    intro hr q
    by_cases hq : q = p
    · subst hq
      rw [Function.update_self, hr]
    · rw [Function.update_of_ne hq]
  have hkeep : r'.cancelRequested = (proc p).cancelRequested → g'.stage = g.stage →
      g'.acked = g.acked → g'.flag = g.flag → Visible (Function.update proc p r') g' := by
    intro hr hs ha hf
    refine ⟨fun hc hack => ?_, fun q hq hack => ?_⟩
    · rw [hf]
      exact h.fresh (hs ▸ hc) (ha ▸ hack)
    · rw [hf, hsame hr q]
      exact h.seen q (hs ▸ hq) (ha ▸ hack)
  cases hm
  case acquired k l fl hlock _ => exact ⟨fun _ => nofun, fun _ => nofun⟩
  case clear_memory =>
    have hs := ht.clearing trivial
    refine ⟨h.fresh, fun q hq => ?_⟩
    rw [hs] at hq
    cases hq
  case clear_absent habs => exact ⟨nofun, fun _ _ hack => .inl (h.fresh (ht.clearing trivial) hack)⟩
  case clear_remove =>
    refine ⟨nofun, fun q hq hack => .inr ?_⟩
    rw [hsame rfl q, ← Stage.scanning.inj hq]
    exact hu rfl hack
  case raise => exact ⟨nofun, nofun⟩
  case finish => exact ⟨nofun, nofun⟩
  case cancel_memory e =>
    refine ⟨h.fresh, fun q hq hack => ?_⟩
    by_cases hqp : q = p
    · subst hqp
      exact .inr (by rw [Function.update_self])
    · rw [Function.update_of_ne hqp]
      exact h.seen q hq hack
  case cancel_file e => exact ⟨fun _ _ => rfl, fun _ _ _ => .inl rfl⟩
  all_goals exact hkeep rfl rfl rfl rfl

/-- The invariant of the flag. -/
structure Inv (s : Workers P T) : Prop where
  sound : ∀ p t, Sound p s.common (s.pc p t)
  visible : Visible s.proc s.common

/-- The states of the runs whose steps are all `Unraced`. -/
def ReachedUnraced (s : Workers P T) : Prop :=
  Threads.ReachableBy (machine P T) (fun s p t _ => Unraced s p t) Initial s

variable {s : Workers P T}

lemma Inv.step (h : Inv s) (hs : Reachable s)
    (hm : Move p t (s.proc p) s.common (s.pc p t) r' g' k') (hu : Unraced s p t) :
    Inv (s.moved p t r' g' k') := by
  have hs' : Reachable (s.moved p t r' g' k') := hs.step (.move p t hm)
  refine ⟨fun q u => ?_, h.visible.move (h.sound p t) hm hu⟩
  by_cases hqu : q = p ∧ u = t
  · obtain ⟨rfl, rfl⟩ := hqu
    rw [s.moved_pc_self]
    exact (h.sound q u).own (h.visible.seen q) hm
  · -- another thread, which is not where only one can be
    have hpc : (s.moved p t r' g' k').pc q u = s.pc q u := by
      by_cases hq : q = p
      · subst hq
        exact s.moved_pc_peer q (fun hu => hqu ⟨rfl, hu⟩) ..
      · exact s.moved_pc_of_ne hq ..
    rw [hpc]
    refine (h.sound q u).peer (h.sound p t) hm (fun hboth => hqu ?_) fun hboth => hqu ?_
    · exact body_unique hs hboth.2 hboth.1
    · refine body_unique hs' ?_ ?_
      · rw [hpc]
        exact hboth.2
      · rw [s.moved_pc_self]
        exact hboth.1

lemma inv_of_reachedUnraced (h : ReachedUnraced s) : Inv s := by
  induction h with
  | init h₀ =>
      obtain ⟨-, ⟨flag, hcommon⟩, hpc⟩ := h₀
      refine ⟨fun p t => ?_, ?_⟩
      · rw [hpc]
        exact ⟨fun hk => hk.elim, fun hk => hk.elim, nofun, nofun⟩
      · rw [hcommon]
        exact ⟨nofun, nofun⟩
  | step hr hm hu ih => exact ih.step hr.reachable hm hu

/-- What the workers can go on to from a state. -/
def ReachedFrom (s s' : Workers P T) : Prop := Threads.Reachable (machine P T) (· = s) s'

/-- A clear that is not `Unraced` loses the cancel: a check right after it answers `False`. -/
lemma lost_of_raced (h : ¬ Unraced s p t) :
    ∃ s', ReachedFrom s s' ∧ s'.pc p t = .checked .scan true false := by
  obtain ⟨hpc, hrest⟩ := Classical.not_imp.mp h
  obtain ⟨hack, hmem⟩ := Classical.not_imp.mp hrest
  rw [Bool.not_eq_true] at hmem
  let g : Shared P := { s.common with flag := false, stage := .scanning p }
  have hdue : g.due p = true := by simp [g, Shared.due, hack]
  have hremove : Move p t (s.proc p) s.common (s.pc p t) (s.proc p) g .scan := by
    rw [hpc]
    exact .clear_remove
  have hread : Move p t (s.proc p) g .scan (s.proc p) g (.checkFile .scan (some g.epoch)) := by
    have hm := Move.check_unset (p := p) (t := t) (g := g) .scan hmem
    rwa [hdue, if_pos rfl] at hm
  have hfile : Move p t (s.proc p) g (.checkFile .scan (some g.epoch)) (s.proc p) g
      (.checked .scan true false) := by
    have hm := Move.check_file (p := p) (t := t) (r := s.proc p) (g := g) .scan (some g.epoch)
    simpa [g] using hm
  have hstep : ∀ {s₁ : Workers P T} {k k'}, ReachedFrom s s₁ → s₁.proc p = s.proc p →
      s₁.common = g → s₁.pc p t = k → Move p t (s.proc p) g k (s.proc p) g k' →
      ∃ s₂, ReachedFrom s s₂ ∧ s₂.proc p = s.proc p ∧ s₂.common = g ∧ s₂.pc p t = k' := by
    rintro s₁ k k' hr hproc hg rfl hm
    rw [← hproc, ← hg] at hm
    exact ⟨_, Threads.Reachable.step hr (.move p t hm), by rw [s₁.moved_proc_self, hproc],
      hg, s₁.moved_pc_self ..⟩
  have hcleared : ReachedFrom s (s.moved p t (s.proc p) g .scan) :=
    Threads.Reachable.step (.init rfl) (.move p t hremove)
  obtain ⟨s₂, hr₂, hp₂, hg₂, hk₂⟩ :=
    hstep hcleared (s.moved_proc_self ..) rfl (s.moved_pc_self ..) hread
  obtain ⟨s₃, hr₃, -, -, hk₃⟩ := hstep hr₂ hp₂ hg₂ hk₂ hfile
  exact ⟨s₃, hr₃, hk₃⟩

/-- **No acknowledged cancel is lost.**  In every run in which the clear of a scan removes no flag
file that a cancel of this scan has written, unless the memory of the scan's worker is set by then,
every check of a scan after such a cancel has answered `True`; and where a run comes to a clear that
does, the scan can be told `False`. -/
theorem cancel_never_lost (h : ReachedUnraced s) :
    (∀ p t c answer, s.pc p t = .checked c true answer → answer = true)
      ∧ ∀ p t, ¬ Unraced s p t →
        ∃ s', ReachedFrom s s' ∧ s'.pc p t = .checked .scan true false :=
  ⟨fun p t => ((inv_of_reachedUnraced h).sound p t).answered, fun _ _ => lost_of_raced⟩

/-! ### Two workers -/

variable {r₀ r₁ : Worker Unit} {gg gg' : Shared Bool} {k₀ k₁ : Pc}

lemma ReachedUnraced.first (h : ReachedUnraced (Threads.two r₀ r₁ gg k₀ k₁)) {r : Worker Unit}
    (hm : Move false () r₀ gg k₀ r gg' k) (hk : k₀ ≠ .clearRemove) :
    ReachedUnraced (Threads.two r r₁ gg' k k₁) := by
  have hs := h.step (p := false) (t := ()) hm fun he => absurd he hk
  rwa [Threads.two_moved_false] at hs

lemma ReachedUnraced.second (h : ReachedUnraced (Threads.two r₀ r₁ gg k₀ k₁)) {r : Worker Unit}
    (hm : Move true () r₁ gg k₁ r gg' k) (hk : k₁ ≠ .clearRemove) :
    ReachedUnraced (Threads.two r₀ r gg' k₀ k) := by
  have hs := h.step (p := true) (t := ()) hm fun he => absurd he hk
  rwa [Threads.two_moved_true] at hs

/-- The first worker has acquired the locks. -/
lemma two_acquired : ReachedUnraced (Threads.two ⟨⟨true, none, some 0, 1⟩, false⟩
    ⟨⟨false, none, none, 0⟩, false⟩ ⟨some (false, 0), false, 1, false, .clearing⟩ .clearMemory
    (.lock .idle)) := by
  have hstart : ReachedUnraced (Threads.two ⟨⟨false, none, none, 0⟩, false⟩
      ⟨⟨false, none, none, 0⟩, false⟩ ⟨none, false, 0, false, .over⟩ (.lock .idle)
      (.lock .idle)) :=
    .init ⟨fun p => by cases p <;> rfl, ⟨false, rfl⟩, fun p _ => by cases p <;> rfl⟩
  have hlock := (hstart.first (.lock .call_scan nofun nofun) nofun).first
    (.lock (.lock_taken rfl) nofun nofun) nofun
  have htest := (hlock.first (.lock (.acquire_enter .scan rfl) nofun nofun) nofun).first
    (.lock (.acquire_try .scan rfl) nofun nofun) nofun
  have hfile := (htest.first (.lock (.open_ok .scan) nofun nofun) nofun).first
    (.lock (.flock_ok .scan 0) nofun nofun) nofun
  exact (hfile.first (.lock (.acquire_store .scan 0) nofun nofun) nofun).first
    (.acquired (.acquire_exit .scan true) nofun) nofun

/-- The other worker cancels after the clear, and the scan is told so. -/
theorem cancel_never_lost_sample :
    ∃ s : Workers Bool Unit, s.pc false () = .checked .scan true true
      ∧ ∀ answer, s.pc false () = .checked .scan true answer → answer = true := by
  have hclear := (two_acquired.first .clear_memory nofun).first (.clear_absent rfl) nofun
  have hcancel := ((hclear.second .cancel nofun).second (.cancel_memory 1) nofun).second
    (.cancel_file 1) nofun
  have hcheck := (hcancel.first (.check_unset .scan rfl) nofun).first
    (.check_file .scan (some 1)) nofun
  exact ⟨_, rfl, (cancel_never_lost hcheck).1 false () .scan⟩

/-- The other worker cancels between the acquisition and the clear: it is acknowledged, the clear
removes its flag file, and the scan is told `False`. -/
theorem cancel_lost_at_start :
    ∃ s : Workers Bool Unit, Reachable s ∧ s.pc false () = .checked .scan true false := by
  have hcancel := ((two_acquired.second .cancel nofun).second (.cancel_memory 1) nofun).second
    (.cancel_file 1) nofun
  have hclear := (hcancel.first .clear_memory nofun).first (.clear_exists rfl) nofun
  have hremove := hclear.reachable.step (.move false () .clear_remove)
  have hread := hremove.step (.move false () (.check_unset .scan rfl))
  exact ⟨_, hread.step (.move false () (.check_file .scan (some 1))), rfl⟩

end ScanCancel
end V2raySub
