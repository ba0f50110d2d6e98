import Mathlib.Data.List.Dedup
import Mathlib.Data.List.Perm.Subperm
import Mathlib.Algebra.BigOperators.Group.List.Basic
import Mathlib.Tactic.Linarith
import Mathlib.Tactic.Ring

/-!
Counting the members of a list in buckets.

* `InBucket`: the half-open intervals of one width that follow each other from a start;
  `sum_countP_inBucket`: together they count what lies between the start of the first and the end
  of the last, each member once.
* `sum_countP_fibers`: counts by a label add up to what has one of the labels.
* `distinct`: how many values a function takes; it is at most the count, and grows with it.
-/

namespace Buckets

variable {α β γ : Type*}

/-- The bucket number `i`. -/
def InBucket (start width : ℤ) (i : ℕ) (t : ℤ) : Prop :=
  start + i * width ≤ t ∧ t < start + (i + 1) * width

instance (start width : ℤ) (i : ℕ) (t : ℤ) : Decidable (InBucket start width i t) :=
  inferInstanceAs (Decidable (_ ∧ _))

/-- What is between the start of the first of `n` buckets and the end of the last. -/
def Covered (start width : ℤ) (n : ℕ) (t : ℤ) : Prop := start ≤ t ∧ t < start + n * width

instance (start width : ℤ) (n : ℕ) (t : ℤ) : Decidable (Covered start width n t) :=
  inferInstanceAs (Decidable (_ ∧ _))

/-- Two properties that exclude each other are counted one after the other. -/
lemma countP_add_countP {l : List α} {p q r : α → Prop} [DecidablePred p] [DecidablePred q]
    [DecidablePred r] (hor : ∀ a ∈ l, r a ↔ p a ∨ q a) (hdisjoint : ∀ a ∈ l, p a → ¬ q a) :
    l.countP (fun a => p a) + l.countP (fun a => q a) = l.countP fun a => r a := by
  induction l with
  | nil => rfl
  | cons a l ih =>
      obtain ⟨hor, hors⟩ := List.forall_mem_cons.mp hor
      obtain ⟨hdisjoint, hdisjoints⟩ := List.forall_mem_cons.mp hdisjoint
      have hrest := ih hors hdisjoints
      by_cases hp : p a
      · have hr : r a := hor.mpr (.inl hp)
        simp only [List.countP_cons, hp, hdisjoint hp, hr, decide_true, decide_false, if_true,
          Bool.false_eq_true, if_false]
        omega
      · have hr : r a ↔ q a := hor.trans (or_iff_right hp)
        simp only [List.countP_cons, hp, hr, decide_false, Bool.false_eq_true, if_false]
        omega

/-- Of two properties the stronger one counts as many members exactly if the weaker one has no
others. -/
lemma countP_eq_countP_iff {l : List α} {p q : α → Prop} [DecidablePred p] [DecidablePred q]
    (h : ∀ a ∈ l, p a → q a) :
    l.countP (fun a => p a) = l.countP (fun a => q a) ↔ ∀ a ∈ l, q a → p a := by
  have hsplit := countP_add_countP (l := l) (p := p) (q := fun a => q a ∧ ¬ p a) (r := q)
    (fun a ha => ⟨fun hq => (em (p a)).imp_right fun hp => ⟨hq, hp⟩,
      fun hor => hor.elim (h a ha) And.left⟩)
    fun _ _ hp hq => hq.2 hp
  rw [← hsplit, Nat.left_eq_add, List.countP_eq_zero]
  refine forall₂_congr fun a _ => ?_
  rw [decide_eq_true_eq, not_and, not_not]

variable {start width : ℤ} {key : α → ℤ} {l : List α}

/-- **Buckets that follow each other count every covered member once.** -/
theorem sum_countP_inBucket (hwidth : 0 ≤ width) (n : ℕ) :
    ((List.range n).map fun i => l.countP fun a => InBucket start width i (key a)).sum
      = l.countP fun a => Covered start width n (key a) := by
  induction n with
  | zero =>
      have hnone : l.countP (fun a => Covered start width 0 (key a)) = 0 := by
        refine List.countP_eq_zero.mpr fun a _ => ?_
        simp only [Covered, Nat.cast_zero, zero_mul, add_zero, decide_eq_true_eq]
        omega
      rw [hnone]
      rfl
  | succ n ih =>
      have hn : 0 ≤ (n : ℤ) * width := mul_nonneg (Int.natCast_nonneg n) hwidth
      have hsucc : ((n : ℤ) + 1) * width = n * width + width := by ring
      rw [List.range_succ, List.map_append, List.sum_append, ih, List.map_singleton,
        List.sum_singleton]
      refine countP_add_countP (fun a _ => ?_) fun a _ => ?_ <;>
        simp only [Covered, InBucket, Nat.cast_succ, hsucc] <;> omega

/-- **Counts by a label add up** to what has one of the labels. -/
theorem sum_countP_fibers [DecidableEq γ] {labels : List γ} (hnodup : labels.Nodup) (f : α → γ) :
    (labels.map fun c => l.countP fun a => f a = c).sum = l.countP fun a => f a ∈ labels := by
  induction labels with
  | nil => simp
  | cons c labels ih =>
      obtain ⟨hc, hnodup⟩ := List.nodup_cons.mp hnodup
      rw [List.map_cons, List.sum_cons, ih hnodup]
      exact countP_add_countP (fun a _ => List.mem_cons) fun a _ h => h ▸ hc

/-- How many values `f` takes on the list. -/
def distinct [DecidableEq β] (f : α → β) (l : List α) : ℕ := (l.map f).dedup.length

lemma distinct_le_length [DecidableEq β] (f : α → β) (l : List α) : distinct f l ≤ l.length := by
  have h := (List.dedup_sublist (l.map f)).length_le
  rwa [List.length_map] at h

lemma distinct_le_of_subset [DecidableEq β] (f : α → β) {l l' : List α} (h : l ⊆ l') :
    distinct f l ≤ distinct f l' := by
  have hsub : (l.map f).dedup ⊆ (l'.map f).dedup := by
    intro b hb
    rw [List.mem_dedup] at hb ⊢
    exact List.map_subset f h hb
  exact ((List.nodup_dedup _).subperm hsub).length_le

end Buckets
