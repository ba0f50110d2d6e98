import Mathlib.Data.List.Infix

/-!
One script of idempotent statements, run by several parties at once.

* `Script.Idempotent`: a statement that has been carried out stays so, and carrying it out again
  changes nothing.
* `Script.Reached`: the store is that of a prefix of one run of the script; a party whose own part
  is within that prefix has `Script.Reached.Done`.
* `Reached.advance`: whichever party goes next, the store is again that of a prefix of one run, and
  nobody has lost anything.
-/

namespace Script

variable {σ α : Type*}

/-- Carrying out a statement (`ensure`), and having carried it out (`has`). -/
structure Idempotent (ensure : σ → α → σ) (has : σ → α → Prop) : Prop where
  skip : ∀ {s a}, has s a → ensure s a = s
  self : ∀ s a, has (ensure s a) a
  keep : ∀ {s a} b, has s a → has (ensure s b) a

variable {ensure : σ → α → σ} {has : σ → α → Prop}

lemma Idempotent.keep_foldl (h : Idempotent ensure has) (as : List α) {s : σ} {a : α}
    (ha : has s a) : has (as.foldl ensure s) a := by
  induction as generalizing s with
  | nil => exact ha
  | cons b as ih => exact ih (h.keep b ha)

/-- After a run, each of its statements has been carried out. -/
lemma Idempotent.has_foldl (h : Idempotent ensure has) {as : List α} {a : α} (ha : a ∈ as)
    (s : σ) : has (as.foldl ensure s) a := by
  induction as generalizing s with
  | nil => cases ha
  | cons b as ih =>
      rcases List.mem_cons.mp ha with rfl | ha
      · exact h.keep_foldl as (h.self s a)
      · exact ih ha _

/-- The store `s` is that of the prefix `pre` of one run of `all` from `s₀`. -/
structure Reached (ensure : σ → α → σ) (all : List α) (s₀ : σ) (pre : List α) (s : σ) : Prop where
  run : pre <+: all
  store : s = pre.foldl ensure s₀

variable {all pre mine rest : List α} {s₀ s : σ}

lemma Reached.start : Reached ensure all s₀ [] s₀ := ⟨List.nil_prefix, rfl⟩

/-- A party with the part `mine` behind it carries out its next statement. -/
lemma Reached.advance (h : Idempotent ensure has) (hs : Reached ensure all s₀ pre s) {a : α}
    (hall : all = mine ++ a :: rest) (hmine : mine <+: pre) :
    ∃ pre', pre <+: pre' ∧ mine ++ [a] <+: pre' ∧ Reached ensure all s₀ pre' (ensure s a) := by
  obtain ⟨t, rfl⟩ := hmine
  have hrun := hs.run
  rw [hall] at hrun
  cases t with
  | nil =>
      -- nobody is further: the prefix grows by the statement
      refine ⟨mine ++ [a], by simp, List.prefix_rfl, ⟨rest, by simp [hall]⟩, ?_⟩
      rw [hs.store, List.append_nil, List.foldl_append]
      rfl
  | cons b t =>
      -- somebody has carried it out already
      obtain ⟨rfl, -⟩ := List.cons_prefix_cons.mp ((List.prefix_append_right_inj mine).mp hrun)
      have hhas : has s b := by
        rw [hs.store]
        exact h.has_foldl (by simp) s₀
      rw [h.skip hhas]
      exact ⟨_, List.prefix_rfl, ⟨t, by simp⟩, hs⟩

/-- The same for several statements at once. -/
lemma Reached.advance_list (h : Idempotent ensure has) {as : List α}
    (hs : Reached ensure all s₀ pre s) (hall : all = mine ++ as ++ rest) (hmine : mine <+: pre) :
    ∃ pre', pre <+: pre' ∧ mine ++ as <+: pre'
      ∧ Reached ensure all s₀ pre' (as.foldl ensure s) := by
  induction as generalizing mine pre s with
  | nil => exact ⟨pre, List.prefix_rfl, by simpa using hmine, hs⟩
  | cons a as ih =>
      have hall₁ : all = mine ++ a :: (as ++ rest) := by simpa using hall
      obtain ⟨pre₁, hpre₁, hmine₁, hs₁⟩ := hs.advance h hall₁ hmine
      obtain ⟨pre₂, hpre₂, hmine₂, hs₂⟩ := ih hs₁ (by simpa using hall) hmine₁
      exact ⟨pre₂, hpre₁.trans hpre₂, by simpa using hmine₂, hs₂⟩

/-- A party that has the whole script behind it leaves the store of one run. -/
lemma Reached.complete (hs : Reached ensure all s₀ pre s) (hall : all <+: pre) :
    s = all.foldl ensure s₀ := by
  rw [hs.store, hs.run.eq_of_length (Nat.le_antisymm hs.run.length_le hall.length_le)]

end Script
