import Mathlib.Data.Nat.Notation
import Mathlib.Tactic.Common

/-!
What stands between the entries of a log.

* `Between P Q l`: between two entries with `P` there is one with `Q`; `Before P Q l`: before each
  entry with `P` there is one with `Q`.
* `before_cons`, `between_cons`: both by the first entry, for inductions along the log.
-/

variable {α : Type*} {P Q : α → Prop} {x : α} {l : List α}

/-- Between two entries with `P` there is one with `Q`. -/
def Between (P Q : α → Prop) (l : List α) : Prop :=
  ∀ (i j : ℕ) (x y : α), i < j → l[i]? = some x → l[j]? = some y → P x → P y →
    ∃ k z, i < k ∧ k < j ∧ l[k]? = some z ∧ Q z

/-- Before each entry with `P` there is one with `Q`. -/
def Before (P Q : α → Prop) (l : List α) : Prop :=
  ∀ (j : ℕ) (y : α), l[j]? = some y → P y → ∃ k z, k < j ∧ l[k]? = some z ∧ Q z

lemma before_nil : Before P Q [] := by
  intro j y hy
  simp at hy

lemma between_nil : Between P Q [] := by
  intro i j x y _ hx
  simp at hx

/-- The first of a list is looked at first. -/
lemma before_cons : Before P Q (x :: l) ↔ ¬P x ∧ (Q x ∨ Before P Q l) := by
  refine ⟨fun h => ⟨fun hp => ?_, ?_⟩, ?_⟩
  · obtain ⟨k, -, hk, -⟩ := h 0 x rfl hp
    exact absurd hk (Nat.not_lt_zero k)
  · by_cases hq : Q x
    · exact .inl hq
    · refine .inr fun j y hy hp => ?_
      obtain ⟨k, z, hk, hz, hqz⟩ := h (j + 1) y hy hp
      cases k with
      | zero =>
          cases hz
          exact absurd hqz hq
      | succ k => exact ⟨k, z, Nat.lt_of_succ_lt_succ hk, hz, hqz⟩
  · rintro ⟨hnp, h⟩ j y hy hp
    cases j with
    | zero =>
        cases hy
        exact absurd hp hnp
    | succ j =>
        rcases h with hq | h
        · exact ⟨0, x, Nat.succ_pos j, rfl, hq⟩
        · obtain ⟨k, z, hk, hz, hqz⟩ := h j y hy hp
          exact ⟨k + 1, z, Nat.succ_lt_succ hk, hz, hqz⟩

/-- Between the marks of a list, read from its first. -/
lemma between_cons : Between P Q (x :: l) ↔ (P x → Before P Q l) ∧ Between P Q l := by
  refine ⟨fun h => ⟨fun hp j y hy hpy => ?_, fun i j y z hij hy hz hpy hpz => ?_⟩, ?_⟩
  · obtain ⟨k, z, hk, hkj, hz, hqz⟩ := h 0 (j + 1) x y (Nat.succ_pos j) rfl hy hp hpy
    obtain ⟨k, rfl⟩ := Nat.exists_eq_succ_of_ne_zero (Nat.pos_iff_ne_zero.mp hk)
    exact ⟨k, z, Nat.lt_of_succ_lt_succ hkj, hz, hqz⟩
  · obtain ⟨k, w, hik, hkj, hw, hqw⟩ :=
      h (i + 1) (j + 1) y z (Nat.succ_lt_succ hij) hy hz hpy hpz
    obtain ⟨k, rfl⟩ := Nat.exists_eq_succ_of_ne_zero (Nat.ne_zero_of_lt hik)
    exact ⟨k, w, Nat.lt_of_succ_lt_succ hik, Nat.lt_of_succ_lt_succ hkj, hw, hqw⟩
  · rintro ⟨hfirst, hrest⟩ i j y z hij hy hz hpy hpz
    obtain ⟨j, rfl⟩ := Nat.exists_eq_succ_of_ne_zero (Nat.ne_zero_of_lt hij)
    cases i with
    | zero =>
        cases hy
        obtain ⟨k, w, hkj, hw, hqw⟩ := hfirst hpy j z hz hpz
        exact ⟨k + 1, w, Nat.succ_pos k, Nat.succ_lt_succ hkj, hw, hqw⟩
    | succ i =>
        obtain ⟨k, w, hik, hkj, hw, hqw⟩ :=
          hrest i j y z (Nat.lt_of_succ_lt_succ hij) hy hz hpy hpz
        exact ⟨k + 1, w, Nat.succ_lt_succ hik, Nat.succ_lt_succ hkj, hw, hqw⟩
