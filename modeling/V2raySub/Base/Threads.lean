import Mathlib.Logic.Function.Basic

/-!
Processes with threads: each process has a state of its own that its threads share, and there is
one state all processes share (the file system).  A thread moves by itself, one atomic access at
a time; the threads are scheduled in any order.

* `Threads.Machine`, `Step`, `Reachable`: the moves of one thread, and the runs they make up;
  `ReachableBy`: the runs whose steps meet a condition.
* `Threads.Proof`: an invariant in three parts (of a process, of one thread, of two threads of
  one process) with what one move owes to each: to its own thread, to the other threads of its
  process, to the other processes.  `Proof.sound` is the invariant in every reachable state.
* `Reachable.map`: simulation, through a map of the states.
-/

namespace Threads

variable {P T R G K : Type*}

/-- The moves of the thread `t` of process `p`: from the state of the process, the common state
and the thread's control point to the next ones. -/
structure Machine (P T R G K : Type*) where
  move : P → T → R → G → K → R → G → K → Prop

/-- The processes, the common state, and where every thread is. -/
structure State (P T R G K : Type*) where
  proc : P → R
  common : G
  pc : P → T → K

variable [DecidableEq P] [DecidableEq T]

/-- The state after a thread has moved. -/
def State.moved (s : State P T R G K) (p : P) (t : T) (r : R) (g : G) (k : K) :
    State P T R G K where
  proc := Function.update s.proc p r
  common := g
  pc := Function.update s.pc p (Function.update (s.pc p) t k)

variable (m : Machine P T R G K)

/-- One thread of one process moves. -/
inductive Step (s : State P T R G K) : State P T R G K → Prop where
  | move (p : P) (t : T) {r : R} {g : G} {k : K} :
      m.move p t (s.proc p) s.common (s.pc p t) r g k → Step s (s.moved p t r g k)

/-- The states that some schedule reaches from an initial one. -/
inductive Reachable (init : State P T R G K → Prop) : State P T R G K → Prop where
  | init {s : State P T R G K} : init s → Reachable init s
  | step {s s' : State P T R G K} : Reachable init s → Step m s s' → Reachable init s'

/-- The states of the runs whose steps all meet a condition. -/
inductive ReachableBy (C : State P T R G K → P → T → K → Prop) (init : State P T R G K → Prop) :
    State P T R G K → Prop where
  | init {s : State P T R G K} : init s → ReachableBy C init s
  | step {s : State P T R G K} {p : P} {t : T} {r : R} {g : G} {k : K} :
      ReachableBy C init s → m.move p t (s.proc p) s.common (s.pc p t) r g k → C s p t k →
      ReachableBy C init (s.moved p t r g k)

variable {m} in
lemma ReachableBy.reachable {C : State P T R G K → P → T → K → Prop}
    {init : State P T R G K → Prop} {s : State P T R G K} (h : ReachableBy m C init s) :
    Reachable m init s := by
  induction h with
  | init h₀ => exact .init h₀
  | step _ hm _ ih => exact ih.step (.move _ _ hm)

/-- An invariant in three parts, and what a move owes to each of them. -/
structure Proof where
  process : P → R → G → Prop
  thread : P → T → R → G → K → Prop
  pair : K → K → Prop
  own : ∀ {p t r g k r' g' k'}, m.move p t r g k r' g' k' →
    process p r g → thread p t r g k → process p r' g' ∧ thread p t r' g' k'
  peer : ∀ {p t u r g k r' g' k' l}, t ≠ u → m.move p t r g k r' g' k' →
    thread p t r g k → thread p u r g l → pair k l → pair l k →
    thread p u r' g' l ∧ pair k' l ∧ pair l k'
  other : ∀ {p q t r g k r' g' k'}, p ≠ q → m.move p t r g k r' g' k' →
    (∀ r₁, process q r₁ g → process q r₁ g')
    ∧ ∀ u r₁ l, thread q u r₁ g l → thread q u r₁ g' l

variable {m}

/-- The invariant of a proof, of the whole state. -/
structure Proof.Inv (π : Proof m) (s : State P T R G K) : Prop where
  process : ∀ p, π.process p (s.proc p) s.common
  thread : ∀ p t, π.thread p t (s.proc p) s.common (s.pc p t)
  pair : ∀ p t u, t ≠ u → π.pair (s.pc p t) (s.pc p u)

lemma State.moved_proc_self (s : State P T R G K) (p : P) (t : T) (r : R) (g : G) (k : K) :
    (s.moved p t r g k).proc p = r := Function.update_self ..

lemma State.moved_proc_of_ne (s : State P T R G K) {p q : P} (h : q ≠ p) (t : T) (r : R) (g : G)
    (k : K) : (s.moved p t r g k).proc q = s.proc q := Function.update_of_ne h ..

lemma State.moved_pc_self (s : State P T R G K) (p : P) (t : T) (r : R) (g : G) (k : K) :
    (s.moved p t r g k).pc p t = k := by
  simp [moved]

lemma State.moved_pc_peer (s : State P T R G K) (p : P) {t u : T} (h : u ≠ t) (r : R) (g : G)
    (k : K) : (s.moved p t r g k).pc p u = s.pc p u := by
  simp [moved, h]

lemma State.moved_pc_of_ne (s : State P T R G K) {p q : P} (h : q ≠ p) (t u : T) (r : R) (g : G)
    (k : K) : (s.moved p t r g k).pc q u = s.pc q u := by
  simp [moved, h]

/-- One step keeps the invariant. -/
theorem Proof.Inv.step {π : Proof m} {s s' : State P T R G K} (h : π.Inv s)
    (hs : Step m s s') : π.Inv s' := by
  cases hs with
  | @move p t r g k hm =>
      have hown := π.own hm (h.process p) (h.thread p t)
      refine ⟨fun q => ?_, fun q u => ?_, fun q u v huv => ?_⟩
      · by_cases hq : q = p
        · subst hq
          rw [s.moved_proc_self]
          exact hown.1
        · rw [s.moved_proc_of_ne hq]
          exact (π.other (Ne.symm hq) hm).1 _ (h.process q)
      · by_cases hq : q = p
        · subst hq
          rw [s.moved_proc_self]
          by_cases hu : u = t
          · subst hu
            rw [s.moved_pc_self]
            exact hown.2
          · rw [s.moved_pc_peer q hu]
            exact (π.peer (Ne.symm hu) hm (h.thread q t) (h.thread q u)
              (h.pair q t u (Ne.symm hu)) (h.pair q u t hu)).1
        · rw [s.moved_proc_of_ne hq, s.moved_pc_of_ne hq]
          exact (π.other (Ne.symm hq) hm).2 u _ _ (h.thread q u)
      · by_cases hq : q = p
        · subst hq
          by_cases hu : u = t
          · subst hu
            rw [s.moved_pc_self, s.moved_pc_peer q huv.symm]
            exact (π.peer huv hm (h.thread q u) (h.thread q v) (h.pair q u v huv)
              (h.pair q v u huv.symm)).2.1
          · rw [s.moved_pc_peer q hu]
            by_cases hv : v = t
            · subst hv
              rw [s.moved_pc_self]
              exact (π.peer huv.symm hm (h.thread q v) (h.thread q u) (h.pair q v u huv.symm)
                (h.pair q u v huv)).2.2
            · rw [s.moved_pc_peer q hv]
              exact h.pair q u v huv
        · rw [s.moved_pc_of_ne hq, s.moved_pc_of_ne hq]
          exact h.pair q u v huv

/-- **The invariant rule**: it holds in every state some schedule reaches. -/
theorem Proof.sound (π : Proof m) {init : State P T R G K → Prop}
    (hinit : ∀ s, init s → π.Inv s) {s : State P T R G K} (h : Reachable m init s) :
    π.Inv s := by
  induction h with
  | init h0 => exact hinit _ h0
  | step _ hs ih => exact ih.step hs

/-! ### Simulation -/

section Map

variable {R' G' K' : Type*} (f : R → R') (g : G → G') (h : K → K')

/-- The same processes and threads, each state seen through a map. -/
def State.map (s : State P T R G K) : State P T R' G' K' where
  proc p := f (s.proc p)
  common := g s.common
  pc p t := h (s.pc p t)

lemma State.map_moved (s : State P T R G K) (p : P) (t : T) (r : R) (c : G) (k : K) :
    (s.moved p t r c k).map f g h = (s.map f g h).moved p t (f r) (g c) (h k) := by
  have hproc : ∀ q, f ((s.moved p t r c k).proc q)
      = ((s.map f g h).moved p t (f r) (g c) (h k)).proc q := by
    intro q
    by_cases hq : q = p
    · subst hq
      rw [moved_proc_self, moved_proc_self]
    · rw [moved_proc_of_ne _ hq, moved_proc_of_ne _ hq]
      rfl
  have hpc : ∀ q u, h ((s.moved p t r c k).pc q u)
      = ((s.map f g h).moved p t (f r) (g c) (h k)).pc q u := by
    intro q u
    by_cases hq : q = p
    · subst hq
      by_cases hu : u = t
      · subst hu
        rw [moved_pc_self, moved_pc_self]
      · rw [moved_pc_peer _ _ hu, moved_pc_peer _ _ hu]
        rfl
    · rw [moved_pc_of_ne _ hq, moved_pc_of_ne _ hq]
      rfl
  rw [map, funext hproc, funext fun q => funext (hpc q)]
  rfl

lemma State.moved_same (s : State P T R G K) (p : P) (t : T) :
    s.moved p t (s.proc p) s.common (s.pc p t) = s := by
  rw [moved, Function.update_eq_self, Function.update_eq_self, Function.update_eq_self]

/-- **Simulation**: where every move is, through the maps, a move of the other machine or changes
nothing, what one machine reaches the other reaches. -/
theorem Reachable.map {m' : Machine P T R' G' K'} {init : State P T R G K → Prop}
    {init' : State P T R' G' K' → Prop} (hinit : ∀ s, init s → init' (s.map f g h))
    (hmove : ∀ {p t r c k r' c' k'}, m.move p t r c k r' c' k' →
      m'.move p t (f r) (g c) (h k) (f r') (g c') (h k')
        ∨ f r' = f r ∧ g c' = g c ∧ h k' = h k)
    {s : State P T R G K} (hs : Reachable m init s) : Reachable m' init' (s.map f g h) := by
  induction hs with
  | init h₀ => exact .init (hinit _ h₀)
  | step _ hstep ih =>
      cases hstep with
      | @move p t r c k hm =>
          rw [State.map_moved]
          rcases hmove hm with hm' | ⟨hr, hc, hk⟩
          · exact ih.step (.move p t hm')
          · rw [hr, hc, hk]
            exact (State.moved_same _ p t).symm ▸ ih

end Map

/-! ### Two processes of one thread each -/

/-- A state of two processes of one thread each. -/
def two (r₀ r₁ : R) (g : G) (k₀ k₁ : K) : State Bool Unit R G K where
  proc p := bif p then r₁ else r₀
  common := g
  pc p _ := bif p then k₁ else k₀

lemma two_moved_false (r₀ r₁ r : R) (g g' : G) (k₀ k₁ k : K) :
    (two r₀ r₁ g k₀ k₁).moved false () r g' k = two r r₁ g' k k₁ := by
  rw [State.moved, two, two]
  congr 1
  · funext b
    cases b <;> rfl
  · funext b u
    cases b <;> rfl

lemma two_moved_true (r₀ r₁ r : R) (g g' : G) (k₀ k₁ k : K) :
    (two r₀ r₁ g k₀ k₁).moved true () r g' k = two r₀ r g' k₀ k := by
  rw [State.moved, two, two]
  congr 1
  · funext b
    cases b <;> rfl
  · funext b u
    cases b <;> rfl

end Threads
