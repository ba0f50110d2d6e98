import Mathlib.Data.List.Count
import Mathlib.Order.Basic

/-!
Systems whose steps may be refused: `step s e` is the state after the event, or `none` where the
event cannot happen.

* `run`: the state after some events, all of which could happen.
* `run_inv`, `run_inv_of_mem`, `run_rel`: what every step keeps, or does to the state, every run
  does.
* `countP_le_of_run`: **a run is no longer than the work there is**, if every event that counts does
  some of it.
* `exists_run_of_progress`: such a system, if it can always go on unless it is done, gets done.
-/

namespace Guarded

variable {σ ε : Type*} (step : σ → ε → Option σ)

/-- The state after the events. -/
def run : σ → List ε → Option σ
  | s, [] => some s
  | s, e :: es => (step s e).bind fun s' => run s' es

variable {step}

lemma run_cons_eq_some {s s' : σ} {e : ε} {es : List ε} :
    run step s (e :: es) = some s' ↔ ∃ s₁, step s e = some s₁ ∧ run step s₁ es = some s' :=
  Option.bind_eq_some_iff

lemma run_append_eq_some {s s' : σ} {es fs : List ε} :
    run step s (es ++ fs) = some s' ↔ ∃ s₁, run step s es = some s₁ ∧ run step s₁ fs = some s' := by
  induction es generalizing s with
  | nil => simp [run]
  | cons e es ih =>
      rw [List.cons_append, run_cons_eq_some]
      constructor
      · rintro ⟨s₁, hstep, hrun⟩
        obtain ⟨s₂, hes, hfs⟩ := ih.mp hrun
        exact ⟨s₂, run_cons_eq_some.mpr ⟨s₁, hstep, hes⟩, hfs⟩
      · rintro ⟨s₂, hes, hfs⟩
        obtain ⟨s₁, hstep, hes⟩ := run_cons_eq_some.mp hes
        exact ⟨s₁, hstep, ih.mpr ⟨s₂, hes, hfs⟩⟩

/-- The invariant rule, for the events of one run. -/
theorem run_inv_of_mem {I : σ → Prop} {es : List ε}
    (hstep : ∀ {s e s'}, e ∈ es → step s e = some s' → I s → I s') {s s' : σ}
    (h : run step s es = some s') (hI : I s) : I s' := by
  induction es generalizing s with
  | nil => exact Option.some.inj h ▸ hI
  | cons e es ih =>
      obtain ⟨s₁, h₁, hrun⟩ := run_cons_eq_some.mp h
      exact ih (fun he => hstep (List.mem_cons_of_mem _ he)) hrun
        (hstep List.mem_cons_self h₁ hI)

/-- **The invariant rule.** -/
theorem run_inv {I : σ → Prop} (hstep : ∀ {s e s'}, step s e = some s' → I s → I s') {s s' : σ}
    {es : List ε} (h : run step s es = some s') (hI : I s) : I s' :=
  run_inv_of_mem (fun _ => hstep) h hI

/-- The rule for two states of a run. -/
theorem run_rel {I : σ → Prop} {R : σ → σ → Prop} (hrefl : ∀ s, R s s)
    (htrans : ∀ {a b c}, R a b → R b c → R a c)
    (hstep : ∀ {s e s'}, step s e = some s' → I s → I s' ∧ R s s') {s s' : σ} {es : List ε}
    (h : run step s es = some s') (hI : I s) : R s s' := by
  induction es generalizing s with
  | nil => exact Option.some.inj h ▸ hrefl s
  | cons e es ih =>
      obtain ⟨s₁, h₁, hrun⟩ := run_cons_eq_some.mp h
      obtain ⟨hI₁, hR⟩ := hstep h₁ hI
      exact htrans hR (ih hrun hI₁)

/-- **The measure rule**: the events that count lower the measure, and the others do not raise
it. -/
theorem countP_le_of_run {I : σ → Prop} {work : σ → ℕ} {counts : ε → Bool}
    (hstep : ∀ {s e s'}, step s e = some s' → I s →
      I s' ∧ work s' + (if counts e then 1 else 0) ≤ work s) {s s' : σ} {es : List ε}
    (h : run step s es = some s') (hI : I s) : work s' + es.countP counts ≤ work s := by
  induction es generalizing s with
  | nil =>
      obtain rfl := Option.some.inj h
      exact Nat.le_refl _
  | cons e es ih =>
      obtain ⟨s₁, h₁, hrun⟩ := run_cons_eq_some.mp h
      obtain ⟨hI₁, hwork⟩ := hstep h₁ hI
      have hrest := ih hrun hI₁
      rw [List.countP_cons]
      split_ifs at hwork ⊢ <;> omega

/-- From every state of a run it can be brought to its end. -/
theorem exists_run_of_progress {I : σ → Prop} {work : σ → ℕ} (ended : σ → Prop)
    (hgo : ∀ {s}, I s → ¬ended s → ∃ e s', step s e = some s' ∧ I s' ∧ work s' < work s) {s : σ}
    (hI : I s) : ∃ es s', run step s es = some s' ∧ ended s' := by
  induction hn : work s using Nat.strongRecOn generalizing s with
  | ind n ih =>
      by_cases hended : ended s
      · exact ⟨[], s, rfl, hended⟩
      · obtain ⟨e, s₁, hstep, hI₁, hlt⟩ := hgo hI hended
        obtain ⟨es, s', hrun, hended'⟩ := ih (work s₁) (hn ▸ hlt) hI₁ rfl
        exact ⟨e :: es, s', run_cons_eq_some.mpr ⟨s₁, hstep, hrun⟩, hended'⟩

end Guarded
