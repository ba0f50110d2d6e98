import Mathlib.Data.List.Basic
import Mathlib.Order.Basic

/-!
Runs of a system whose steps read a clock: a run is a list of events, each with the clock
reading it was taken at.

* `Timed`: an event and its clock reading; `run` folds the step function over the events.
* `Allowed`: the readings never go back and every step is one the environment permits;
  `allowed_append` splits it along the run.
* `EndsAt`: the events end at the first state that has a property.
* `Allowed.inv`: an invariant (of the state and the clock) that every permitted step keeps
  holds at the end of every permitted run, and `Reachable.inv` is the same for the states
  reached from an initial one.
-/

/-- An event together with the clock reading it is taken at. -/
structure Timed (τ ε : Type*) where
  at_ : τ
  ev : ε
  deriving DecidableEq

namespace Runs

variable {σ τ ε : Type*} (next : σ → Timed τ ε → σ)

/-- The state after the events. -/
def run (s : σ) (es : List (Timed τ ε)) : σ := es.foldl next s

@[simp] lemma run_nil (s : σ) : run next s [] = s := rfl

@[simp] lemma run_cons (s : σ) (e : Timed τ ε) (es : List (Timed τ ε)) :
    run next s (e :: es) = run next (next s e) es := rfl

/-- A run in two parts. -/
lemma run_append (s : σ) (es fs : List (Timed τ ε)) :
    run next s (es ++ fs) = run next (run next s es) fs := List.foldl_append

/-- The clock after the events, from the reading `t`. -/
def clock (t : τ) : List (Timed τ ε) → τ
  | [] => t
  | e :: es => clock e.at_ es

@[simp] lemma clock_nil (t : τ) : clock t ([] : List (Timed τ ε)) = t := rfl

@[simp] lemma clock_cons (t : τ) (e : Timed τ ε) (es : List (Timed τ ε)) :
    clock t (e :: es) = clock e.at_ es := rfl

/-- The clock after a run in two parts. -/
lemma clock_append (t : τ) (es fs : List (Timed τ ε)) :
    clock t (es ++ fs) = clock (clock t es) fs := by
  induction es generalizing t with
  | nil => rfl
  | cons e es ih => exact ih e.at_

/-- The events end at the first state after the start that has the property. -/
def EndsAt (P : σ → Prop) : σ → List (Timed τ ε) → Prop
  | _, [] => False
  | s, e :: es => (P (next s e) ∧ es = []) ∨ (¬ P (next s e) ∧ EndsAt P (next s e) es)

instance decidableEndsAt [DecidableEq τ] [DecidableEq ε] (P : σ → Prop) [DecidablePred P] :
    ∀ (s : σ) (es : List (Timed τ ε)), Decidable (EndsAt next P s es)
  | _, [] => isFalse id
  | s, e :: es =>
      have := decidableEndsAt P (next s e) es
      inferInstanceAs (Decidable ((P (next s e) ∧ es = [])
        ∨ (¬ P (next s e) ∧ EndsAt next P (next s e) es)))

/-- The first event that leads to the property is the last one. -/
lemma EndsAt.nil_of_holds {next : σ → Timed τ ε → σ} {P : σ → Prop} {s : σ} {e : Timed τ ε}
    {es : List (Timed τ ε)} (h : EndsAt next P s (e :: es)) (hP : P (next s e)) : es = [] := by
  rcases h with ⟨-, hes⟩ | ⟨hnot, -⟩
  · exact hes
  · exact absurd hP hnot

/-- A run that does not end with its first event ends with the others. -/
lemma EndsAt.tail {next : σ → Timed τ ε → σ} {P : σ → Prop} {s : σ} {e : Timed τ ε}
    {es : List (Timed τ ε)} (h : EndsAt next P s (e :: es)) (hP : ¬P (next s e)) :
    EndsAt next P (next s e) es := by
  rcases h with ⟨hholds, -⟩ | ⟨-, hes⟩
  · exact absurd hholds hP
  · exact hes

/-- A statement about every event of a run and the events before it. -/
lemma forall_step_cons {P : List (Timed τ ε) → Timed τ ε → Prop} {a : Timed τ ε}
    {es : List (Timed τ ε)} :
    (∀ es₁ e, es₁ ++ [e] <+: a :: es → P es₁ e)
      ↔ P [] a ∧ ∀ es₁ e, es₁ ++ [e] <+: es → P (a :: es₁) e := by
  constructor
  · intro h
    exact ⟨h [] a (List.prefix_append [a] es), fun es₁ e hpre =>
      h (a :: es₁) e (List.cons_prefix_cons.mpr ⟨rfl, hpre⟩)⟩
  · rintro ⟨h0, h⟩ es₁ e hpre
    cases es₁ with
    | nil =>
        obtain ⟨rfl, -⟩ := List.cons_prefix_cons.mp hpre
        exact h0
    | cons b es₁ =>
        obtain ⟨rfl, hrest⟩ := List.cons_prefix_cons.mp hpre
        exact h es₁ e hrest

/-- An empty run has no step. -/
lemma forall_step_nil {P : List (Timed τ ε) → Timed τ ε → Prop} :
    ∀ es₁ e, es₁ ++ [e] <+: [] → P es₁ e := by
  intro es₁ e hpre
  simp at hpre

variable [LE τ] (ok : σ → Timed τ ε → Prop)

/-- A permitted run from the state `s` at the clock reading `t`: the clock never goes back
and every step is permitted where it is taken. -/
inductive Allowed : τ → σ → List (Timed τ ε) → Prop where
  | nil {t : τ} {s : σ} : Allowed t s []
  | cons {t : τ} {s : σ} {e : Timed τ ε} {es : List (Timed τ ε)} :
      t ≤ e.at_ → ok s e → Allowed e.at_ (next s e) es → Allowed t s (e :: es)

variable {next ok}

/-- A run is allowed if its first event is, and what follows it. -/
lemma allowed_cons {t : τ} {s : σ} {e : Timed τ ε} {es : List (Timed τ ε)} :
    Allowed next ok t s (e :: es)
      ↔ t ≤ e.at_ ∧ ok s e ∧ Allowed next ok e.at_ (next s e) es := by
  refine ⟨fun h => ?_, fun h => Allowed.cons h.1 h.2.1 h.2.2⟩
  cases h with
  | cons h1 h2 h3 => exact ⟨h1, h2, h3⟩

instance decidableAllowed [DecidableLE τ] [∀ s e, Decidable (ok s e)] :
    ∀ (es : List (Timed τ ε)) (t : τ) (s : σ), Decidable (Allowed next ok t s es)
  | [], _, _ => isTrue .nil
  | e :: es, t, s =>
      have := decidableAllowed es e.at_ (next s e)
      decidable_of_iff (t ≤ e.at_ ∧ ok s e ∧ Allowed next ok e.at_ (next s e) es)
        allowed_cons.symm

/-- A run is allowed if both parts are. -/
lemma allowed_append {t : τ} {s : σ} {es fs : List (Timed τ ε)} :
    Allowed next ok t s (es ++ fs)
      ↔ Allowed next ok t s es ∧ Allowed next ok (clock t es) (run next s es) fs := by
  induction es generalizing t s with
  | nil => simpa using fun _ => Allowed.nil
  | cons e es ih =>
      simp only [List.cons_append, allowed_cons, ih, clock_cons, run_cons]
      exact ⟨fun h => ⟨⟨h.1, h.2.1, h.2.2.1⟩, h.2.2.2⟩,
        fun h => ⟨h.1.1, h.1.2.1, h.1.2.2, h.2⟩⟩

/-- **The invariant rule**: what every permitted step keeps, every permitted run keeps. -/
theorem Allowed.inv {I : τ → σ → Prop}
    (hstep : ∀ t s e, I t s → t ≤ e.at_ → ok s e → I e.at_ (next s e))
    {t : τ} {s : σ} {es : List (Timed τ ε)} (h : Allowed next ok t s es) (h0 : I t s) :
    I (clock t es) (run next s es) := by
  induction h with
  | nil => exact h0
  | cons h1 h2 _ ih => exact ih (hstep _ _ _ h0 h1 h2)

/-- A permission that does not look at the state is one on the events. -/
lemma Allowed.forall_ok {P : Timed τ ε → Prop} {t : τ} {s : σ} {es : List (Timed τ ε)}
    (h : Allowed next (fun _ e => P e) t s es) : ∀ e ∈ es, P e := by
  induction h with
  | nil => exact fun e he => by cases he
  | cons _ h2 _ ih => exact List.forall_mem_cons.mpr ⟨h2, ih⟩

/-- A permission that asks for less permits the same run. -/
lemma Allowed.mono {ok' : σ → Timed τ ε → Prop} (himp : ∀ s e, ok s e → ok' s e)
    {t : τ} {s : σ} {es : List (Timed τ ε)} (h : Allowed next ok t s es) :
    Allowed next ok' t s es := by
  induction h with
  | nil => exact .nil
  | cons h1 h2 _ ih => exact .cons h1 (himp _ _ h2) ih

variable (next ok)

/-- The states some permitted run reaches from an initial state, with the clock there. -/
def Reachable (init : σ → Prop) (t : τ) (s : σ) : Prop :=
  ∃ t₀ s₀ es, init s₀ ∧ Allowed next ok t₀ s₀ es ∧ t = clock t₀ es ∧ s = run next s₀ es

variable {next ok}

/-- What holds initially and is kept by every allowed step holds in every reachable state. -/
theorem Reachable.inv {init : σ → Prop} {I : τ → σ → Prop} (hinit : ∀ t s, init s → I t s)
    (hstep : ∀ t s e, I t s → t ≤ e.at_ → ok s e → I e.at_ (next s e))
    {t : τ} {s : σ} (h : Reachable next ok init t s) : I t s := by
  obtain ⟨t₀, s₀, es, h0, hes, rfl, rfl⟩ := h
  exact hes.inv hstep (hinit t₀ s₀ h0)

/-- A permitted step from a reachable state reaches the next one. -/
lemma Reachable.step {init : σ → Prop} {t : τ} {s : σ} (h : Reachable next ok init t s)
    {e : Timed τ ε} (ht : t ≤ e.at_) (he : ok s e) : Reachable next ok init e.at_ (next s e) := by
  obtain ⟨t₀, s₀, es, h0, hes, rfl, rfl⟩ := h
  refine ⟨t₀, s₀, es ++ [e], h0, ?_, by rw [clock_append]; rfl, by rw [run_append]; rfl⟩
  exact allowed_append.mpr ⟨hes, .cons ht he .nil⟩

end Runs
