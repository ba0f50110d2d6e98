import Mathlib.Data.Nat.Notation
import Mathlib.Tactic.SplitIfs

/-!
A program as a list of actions, of which a fault strikes one: the actions before it go through or
raise by themselves, the one that is struck leaves what it may leave, and the rest is not run.

* `Machine`: what an action does, and what it leaves when it is struck.
* `Machine.run`: the state left and the exception raised, with the fault at a given action; a
  number past the end stands for no fault.
* `Machine.run_append`: a program in two stages; `Machine.run_preserves`: what every action keeps,
  the run keeps.
-/

namespace Faults

/-- What an action does to a state, and what it leaves of it when a fault strikes. -/
structure Machine (α σ ε : Type*) where
  exec : α → σ → Except ε σ
  struck : α → σ → σ

variable {α σ ε : Type*} (m : Machine α σ ε)

/-- The run with the fault `e` at the action number `n`. -/
def Machine.run (e : ε) : ℕ → List α → σ → σ × Option ε
  | _, [], s => (s, none)
  | 0, a :: _, s => (m.struck a s, some e)
  | n + 1, a :: as, s =>
    match m.exec a s with
    | .error e' => (s, some e')
    | .ok s' => Machine.run e n as s'

variable {m} {e : ε}

/-- The second stage runs if the first raises nothing, with the fault as far on as is left. -/
lemma Machine.run_append (n : ℕ) (as bs : List α) (s : σ) :
    m.run e n (as ++ bs) s
      = match m.run e n as s with
        | (s', some e') => (s', some e')
        | (s', none) => m.run e (n - as.length) bs s' := by
  induction as generalizing n s with
  | nil => simp [Machine.run]
  | cons a as ih =>
      cases n with
      | zero => simp [Machine.run]
      | succ n =>
          rw [List.cons_append, Machine.run, Machine.run]
          cases m.exec a s with
          | error e' => rfl
          | ok s' => simpa using ih n s'

/-- A stage that raises ends the run. -/
lemma Machine.run_append_of_raised {n : ℕ} {as bs : List α} {s : σ} {e' : ε}
    (h : (m.run e n as s).2 = some e') : m.run e n (as ++ bs) s = m.run e n as s := by
  rcases hr : m.run e n as s with ⟨s', r⟩
  rw [hr] at h
  obtain rfl : r = some e' := h
  rw [Machine.run_append, hr]

/-- What is kept by every action that goes through and by every action that is struck is kept by
the run. -/
lemma Machine.run_preserves {P : σ → Prop} {as : List α}
    (hexec : ∀ a ∈ as, ∀ s s', P s → m.exec a s = .ok s' → P s')
    (hstruck : ∀ a ∈ as, ∀ s, P s → P (m.struck a s)) (n : ℕ) {s : σ} (hs : P s) :
    P (m.run e n as s).1 := by
  induction as generalizing n s with
  | nil => simpa [Machine.run] using hs
  | cons a as ih =>
      cases n with
      | zero => exact hstruck a List.mem_cons_self s hs
      | succ n =>
          rw [Machine.run]
          cases h : m.exec a s with
          | error e' => exact hs
          | ok s' =>
              exact ih (fun a ha => hexec a (List.mem_cons_of_mem _ ha))
                (fun a ha => hstruck a (List.mem_cons_of_mem _ ha)) n
                (hexec a List.mem_cons_self s s' hs h)

end Faults
