import Mathlib.Data.List.Sort

/-!
Keeping the latest `k` of a list: it is sorted, and all but the last `k` are dropped.

* `mem_latest_iff`: a member stays exactly if fewer than `k` of the others come strictly after it.
* `length_latest_le`: at most `k` stay, none if `k` is negative.
* `rel_of_dropped`: what is dropped comes before what stays.
-/

namespace Latest

variable {α : Type*} (r : α → α → Prop) [DecidableRel r] (k : ℤ)

/-- The members that are dropped. -/
def dropped (l : List α) : List α := (l.insertionSort r).take (l.length - k).toNat

/-- The members that stay. -/
def latest (l : List α) : List α := (l.insertionSort r).drop (l.length - k).toNat

/-- How many members come strictly after `a`. -/
def later (l : List α) (a : α) : ℕ := l.countP fun b => r a b ∧ ¬ r b a

variable {r k} {l : List α} {a b : α}

/-- Every member is dropped or stays, once. -/
lemma perm_dropped_latest (r : α → α → Prop) [DecidableRel r] (k : ℤ) (l : List α) :
    (dropped r k l ++ latest r k l).Perm l := by
  rw [dropped, latest, List.take_append_drop]
  exact List.perm_insertionSort r l

lemma length_latest_le (r : α → α → Prop) [DecidableRel r] (k : ℤ) (l : List α) :
    ((latest r k l).length : ℤ) ≤ max 0 k := by
  rw [latest, List.length_drop, List.length_insertionSort]
  omega

/-- In a sorted list without ties, what follows a member is what comes after it. -/
lemma later_append_cons {l₁ l₂ : List α} (hsorted : (l₁ ++ a :: l₂).Pairwise r)
    (hties : (l₁ ++ a :: l₂).Pairwise fun b c => ¬ (r b c ∧ r c b)) :
    later r (l₁ ++ a :: l₂) a = l₂.length := by
  obtain ⟨-, hcons, hbefore⟩ := List.pairwise_append.mp hsorted
  obtain ⟨-, hties₂, hties₁⟩ := List.pairwise_append.mp hties
  have hfirst : l₁.countP (fun b => r a b ∧ ¬ r b a) = 0 := by
    refine List.countP_eq_zero.mpr fun b hb => ?_
    rw [decide_eq_true_eq]
    exact fun h => h.2 (hbefore b hb a List.mem_cons_self)
  have hself : decide (r a a ∧ ¬ r a a) = false := by
    rw [decide_eq_false_iff_not]
    exact fun h => h.2 h.1
  have hrest : l₂.countP (fun b => r a b ∧ ¬ r b a) = l₂.length := by
    refine List.countP_eq_length.mpr fun b hb => ?_
    have hab : r a b := List.rel_of_pairwise_cons hcons hb
    rw [decide_eq_true_eq]
    exact ⟨hab, fun hba => List.rel_of_pairwise_cons hties₂ hb ⟨hab, hba⟩⟩
  rw [later, List.countP_append, List.countP_cons, hself, hfirst, hrest]
  simp

section

variable [Std.Total r] [IsTrans α r]

lemma rel_of_dropped (ha : a ∈ dropped r k l) (hb : b ∈ latest r k l) : r a b := by
  have hsorted : (dropped r k l ++ latest r k l).Pairwise r := by
    rw [dropped, latest, List.take_append_drop]
    exact List.pairwise_insertionSort r l
  exact (List.pairwise_append.mp hsorted).2.2 a ha b hb

/-- **A member stays exactly if fewer than `k` come after it.** -/
theorem mem_latest_iff (hties : l.Pairwise fun b c => ¬ (r b c ∧ r c b)) (ha : a ∈ l) :
    a ∈ latest r k l ↔ (later r l a : ℤ) < k := by
  have hperm := List.perm_insertionSort r l
  have hsorted := List.pairwise_insertionSort r l
  have hties' : (l.insertionSort r).Pairwise fun b c => ¬ (r b c ∧ r c b) :=
    hties.perm hperm.symm fun h hba => h ⟨hba.2, hba.1⟩
  obtain ⟨l₁, l₂, hsplit⟩ := List.append_of_mem (hperm.mem_iff.mpr ha)
  have hlater : later r l a = l₂.length := by
    rw [later, ← hperm.countP_eq, hsplit]
    exact later_append_cons (hsplit ▸ hsorted) (hsplit ▸ hties')
  have hlength : l.length = l₁.length + (l₂.length + 1) := by
    rw [← hperm.length_eq, hsplit, List.length_append, List.length_cons]
  rw [latest, hlater, hsplit]
  constructor
  · intro hmem
    by_contra hle
    -- the cut is past `a`, so that `a` would stand in its own tail
    have hcut : l₁.length + 1 ≤ (l.length - k).toNat := by omega
    obtain ⟨n, hn⟩ := Nat.exists_eq_add_of_le hcut
    have hdrop : (l₁ ++ a :: l₂).drop (l₁.length + 1 + n) = l₂.drop n := by
      rw [← List.drop_drop, ← List.singleton_append, ← List.append_assoc,
        List.drop_left' (by simp)]
    rw [hn, hdrop] at hmem
    have hcons := (List.pairwise_append.mp (hsplit ▸ hties')).2.1
    have hrefl : r a a := (Std.Total.total a a).elim id id
    exact List.rel_of_pairwise_cons hcons (List.mem_of_mem_drop hmem) ⟨hrefl, hrefl⟩
  · intro hlt
    have hcut : (l.length - k).toNat ≤ l₁.length := by omega
    rw [List.drop_append_of_le_length hcut]
    exact List.mem_append_right _ List.mem_cons_self

end

end Latest
