import Mathlib.Data.List.Basic
import Mathlib.Data.Int.Notation
import Mathlib.Tactic.Common

/-!
A prepaid meter, and the length of the time a condition holds.

* `Meter`: what was sold, what was used and what is left.  The structure carries its bound, so
  that a meter on which more was used than sold cannot be built; `buy`, `use` and `lose` are its
  moves.
* `heldFor`: the number of unit steps between two readings of a clock at both ends of which a
  condition holds; `heldFor_le` computes it for a condition that holds up to a deadline.
-/

/-- A prepaid meter. -/
structure Meter where
  sold : ℤ
  used : ℤ
  left : ℤ
  left_nonneg : 0 ≤ left
  bound : used + left ≤ sold

namespace Meter

/-- More is bought. -/
def buy (m : Meter) {n : ℤ} (hn : 0 ≤ n) : Meter where
  sold := m.sold + n
  used := m.used
  left := m.left + n
  left_nonneg := Int.add_nonneg m.left_nonneg hn
  bound := by have := m.bound; omega

/-- A part of what is left is used. -/
def use (m : Meter) {n : ℤ} (hn : n ≤ m.left) : Meter where
  sold := m.sold
  used := m.used + n
  left := m.left - n
  left_nonneg := by omega
  bound := by have := m.bound; omega

/-- A part of what is left is lost unused. -/
def lose (m : Meter) {n : ℤ} (h0 : 0 ≤ n) (hn : n ≤ m.left) : Meter where
  sold := m.sold
  used := m.used
  left := m.left - n
  left_nonneg := by omega
  bound := by have := m.bound; omega

/-- What a meter shows. -/
structure Shows (m : Meter) (sold used left : ℤ) : Prop where
  sold_eq : m.sold = sold
  used_eq : m.used = used
  left_eq : m.left = left

/-- What a meter can show after a use of `n` and a loss. -/
lemma Shows.use {m : Meter} {sold used left : ℤ} (h : m.Shows sold used left) {n left' : ℤ}
    (h0 : 0 ≤ left') (hn : n + left' ≤ left) : ∃ m' : Meter, m'.Shows sold (used + n) left' := by
  obtain ⟨rfl, rfl, rfl⟩ := h
  refine ⟨(m.use (n := n) (by omega)).lose (n := m.left - n - left') (by omega)
    (by show m.left - n - left' ≤ m.left - n; omega), rfl, rfl, ?_⟩
  show m.left - n - (m.left - n - left') = left'
  omega

/-- What a meter can show after a purchase of `n` and a loss. -/
lemma Shows.buy {m : Meter} {sold used left : ℤ} (h : m.Shows sold used left) {n left' : ℤ}
    (hn : 0 ≤ n) (h0 : 0 ≤ left') (hle : left' ≤ left + n) :
    ∃ m' : Meter, m'.Shows (sold + n) used left' := by
  obtain ⟨rfl, rfl, rfl⟩ := h
  refine ⟨(m.buy hn).lose (n := m.left + n - left') (by omega)
    (by show m.left + n - left' ≤ m.left + n; omega), rfl, rfl, ?_⟩
  show m.left + n - (m.left + n - left') = left'
  omega

/-- What a meter can show after a loss. -/
lemma Shows.lose {m : Meter} {sold used left : ℤ} (h : m.Shows sold used left) {left' : ℤ}
    (h0 : 0 ≤ left') (hle : left' ≤ left) : ∃ m' : Meter, m'.Shows sold used left' := by
  obtain ⟨m', h'⟩ := h.use (n := 0) h0 (by omega)
  exact ⟨m', h'.sold_eq, by rw [h'.used_eq, Int.add_zero], h'.left_eq⟩

end Meter

/-! ### The time a condition holds -/

/-- The number of unit steps from `a` to `b` at both ends of which the condition holds. -/
def heldFor (P : ℤ → Prop) [DecidablePred P] (a b : ℤ) : ℤ :=
  ((List.range (b - a).toNat).countP fun k : ℕ => P (a + k) ∧ P (a + k + 1) : ℕ)

/-- A condition that holds up to a deadline holds from `a` for what is left of it. -/
lemma heldFor_le (a b deadline : ℤ) :
    heldFor (fun x => x ≤ deadline) a b = max 0 (min b deadline - a) := by
  have hcount : ∀ n : ℕ, ((List.range n).countP fun k : ℕ =>
      decide (a + k ≤ deadline ∧ a + k + 1 ≤ deadline)) = min n (deadline - a).toNat := by
    intro n
    induction n with
    | zero => simp
    | succ n ih =>
        rw [List.range_succ, List.countP_append, ih, List.countP_singleton]
        split_ifs with h
        · simp only [decide_eq_true_eq] at h
          omega
        · simp only [decide_eq_true_eq] at h
          omega
  rw [heldFor, hcount]
  omega

lemma heldFor_congr {P Q : ℤ → Prop} [DecidablePred P] [DecidablePred Q]
    (h : ∀ x, P x ↔ Q x) (a b : ℤ) : heldFor P a b = heldFor Q a b := by
  rw [heldFor, heldFor]
  congr 2
  funext k
  rw [decide_eq_decide, h, h]

lemma heldFor_false {P : ℤ → Prop} [DecidablePred P] (h : ∀ x, ¬ P x) (a b : ℤ) :
    heldFor P a b = 0 := by
  rw [heldFor, List.countP_eq_zero.mpr fun k _ => by simp [h]]
  rfl
