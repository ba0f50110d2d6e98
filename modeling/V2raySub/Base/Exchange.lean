import Mathlib.Algebra.Order.Group.Defs
import Mathlib.Data.List.Pairwise
import Mathlib.Data.List.TakeDrop
import Mathlib.Order.Defs.LinearOrder

/-!
Swapping the elements of a pool for better candidates, one by one.

* `novel`: the candidates whose key is new; `novel_of_taken` says that once the first of them are
  taken in, the new ones are the others.
* `swaps`: the greedy exchange of a sorted list of candidates against the worst of the pool, as long
  as a candidate gains more than a gap.
* `swaps_gain`, `swaps_maximal`: every swap gains, and **an exchange that stops before its budget is
  spent leaves no candidate that would gain against any element left**.
-/

namespace Exchange

/-! ### New candidates -/

section Novel

variable {α κ : Type*} [DecidableEq κ] (key : α → Option κ)

/-- The candidates with a key that is not known, the first of each key. -/
def novel : List κ → List α → List α
  | _, [] => []
  | known, a :: l =>
    match key a with
    | none => novel known l
    | some k => if k ∈ known then novel known l else a :: novel (k :: known) l

variable {key} {known known' : List κ} {a : α} {l : List α}

/-- An element without a key is not new. -/
lemma novel_cons_of_none (h : key a = none) : novel key known (a :: l) = novel key known l := by
  rw [novel, h]

/-- An element with a known key is not new. -/
lemma novel_cons_of_mem {k : κ} (h : key a = some k) (hk : k ∈ known) :
    novel key known (a :: l) = novel key known l := by
  rw [novel, h]
  exact if_pos hk

/-- An element with another key is new, and makes its key known. -/
lemma novel_cons_of_notMem {k : κ} (h : key a = some k) (hk : k ∉ known) :
    novel key known (a :: l) = a :: novel key (k :: known) l := by
  rw [novel, h]
  exact if_neg hk

/-- What is new was listed, in this order. -/
lemma novel_sublist (known : List κ) (l : List α) : List.Sublist (novel key known l) l := by
  induction l generalizing known with
  | nil => exact List.Sublist.refl _
  | cons a l ih =>
      cases h : key a with
      | none =>
          rw [novel_cons_of_none h]
          exact (ih known).cons a
      | some k =>
          by_cases hk : k ∈ known
          · rw [novel_cons_of_mem h hk]
            exact (ih known).cons a
          · rw [novel_cons_of_notMem h hk]
            exact (ih (k :: known)).cons_cons a

/-- What is new has a key. -/
lemma key_of_mem_novel (h : a ∈ novel key known l) : ∃ k, key a = some k := by
  induction l generalizing known with
  | nil => cases h
  | cons b l ih =>
      cases hb : key b with
      | none =>
          rw [novel_cons_of_none hb] at h
          exact ih h
      | some k =>
          by_cases hk : k ∈ known
          · rw [novel_cons_of_mem hb hk] at h
            exact ih h
          · rw [novel_cons_of_notMem hb hk] at h
            rcases List.mem_cons.mp h with rfl | h
            · exact ⟨k, hb⟩
            · exact ih h

/-- Which keys are known matters, not their order. -/
lemma novel_congr (h : ∀ k, k ∈ known ↔ k ∈ known') : novel key known l = novel key known' l := by
  induction l generalizing known known' with
  | nil => rfl
  | cons a l ih =>
      cases ha : key a with
      | none => rw [novel_cons_of_none ha, novel_cons_of_none ha, ih h]
      | some k =>
          by_cases hk : k ∈ known
          · rw [novel_cons_of_mem ha hk, novel_cons_of_mem ha ((h k).mp hk), ih h]
          · rw [novel_cons_of_notMem ha hk, novel_cons_of_notMem ha fun hk' => hk ((h k).mpr hk')]
            refine congrArg (a :: ·) (ih fun k' => ?_)
            rw [List.mem_cons, List.mem_cons, h k']

/-- Once the first new candidates are taken in, the new ones are the others. -/
lemma novel_of_taken (n : ℕ) (hknown : ∀ k, k ∈ known' ↔
      k ∈ known ∨ ∃ a ∈ (novel key known l).take n, key a = some k) :
    novel key known' l = (novel key known l).drop n := by
  induction l generalizing known n with
  | nil => exact List.drop_nil.symm
  | cons a l ih =>
      cases ha : key a with
      | none =>
          rw [novel_cons_of_none ha] at hknown ⊢
          rw [novel_cons_of_none ha]
          exact ih n hknown
      | some k =>
          by_cases hk : k ∈ known
          · rw [novel_cons_of_mem ha hk] at hknown ⊢
            rw [novel_cons_of_mem ha ((hknown k).mpr (.inl hk))]
            exact ih n hknown
          · cases n with
            | zero =>
                refine novel_congr fun k' => ?_
                rw [hknown k', List.take_zero]
                simp
            | succ n =>
                rw [novel_cons_of_notMem ha hk] at hknown ⊢
                rw [List.take_succ_cons] at hknown
                have hin : k ∈ known' := (hknown k).mpr (.inr ⟨a, List.mem_cons_self, ha⟩)
                rw [novel_cons_of_mem ha hin, List.drop_succ_cons]
                refine ih n fun k' => ?_
                rw [hknown k', List.mem_cons]
                constructor
                · rintro (h | ⟨b, hb, hbk⟩)
                  · exact .inl (.inr h)
                  · rcases List.mem_cons.mp hb with rfl | hb
                    · exact .inl (.inl (Option.some.inj (hbk.symm.trans ha)))
                    · exact .inr ⟨b, hb, hbk⟩
                · rintro ((rfl | h) | ⟨b, hb, hbk⟩)
                  · exact .inr ⟨a, List.mem_cons_self, ha⟩
                  · exact .inl h
                  · exact .inr ⟨b, List.mem_cons_of_mem _ hb, hbk⟩

/-- In a sorted list, a candidate whose key is new stands behind the new one with its key. -/
lemma exists_novel {R : α → α → Prop} (hrefl : ∀ a, R a a) (hl : l.Pairwise R) {k : κ}
    (ha : a ∈ l) (hk : key a = some k) (hnew : k ∉ known) :
    ∃ b ∈ novel key known l, key b = some k ∧ R b a := by
  induction l generalizing known with
  | nil => cases ha
  | cons c l ih =>
      obtain ⟨hc, hl⟩ := List.pairwise_cons.mp hl
      cases hck : key c with
      | none =>
          rw [novel_cons_of_none hck]
          rcases List.mem_cons.mp ha with rfl | ha
          · rw [hk] at hck
            cases hck
          · exact ih hl ha hnew
      | some k' =>
          by_cases hmem : k' ∈ known
          · rw [novel_cons_of_mem hck hmem]
            rcases List.mem_cons.mp ha with rfl | ha
            · rw [hk, Option.some.injEq] at hck
              exact absurd (hck ▸ hmem) hnew
            · exact ih hl ha hnew
          · rw [novel_cons_of_notMem hck hmem]
            by_cases hsame : k = k'
            · refine ⟨c, List.mem_cons_self, hsame ▸ hck, ?_⟩
              rcases List.mem_cons.mp ha with rfl | ha
              · exact hrefl a
              · exact hc a ha
            · rcases List.mem_cons.mp ha with rfl | ha
              · exact absurd (Option.some.inj (hk.symm.trans hck)) hsame
              · obtain ⟨b, hb, hbk, hR⟩ := ih hl ha fun hmem' =>
                  (List.mem_cons.mp hmem').elim hsame hnew
                exact ⟨b, List.mem_cons_of_mem _ hb, hbk, hR⟩

end Novel

/-! ### The exchange -/

section Swaps

variable {α β τ : Type*} [AddCommMonoid τ] [LinearOrder τ] (cost : α → τ) (worth : β → τ) (gap : τ)

/-- At most `n` swaps: each candidate against the next of the pool, while it gains more than the
gap. -/
def swaps : ℕ → List α → List β → List (α × β)
  | n + 1, a :: as, b :: bs =>
    if worth b ≤ cost a + gap then [] else (a, b) :: swaps n as bs
  | _, _, _ => []

variable {cost worth gap} {n : ℕ} {as : List α} {bs : List β}

@[simp] lemma swaps_zero : swaps cost worth gap 0 as bs = [] := by
  rw [swaps]
  intro n a as b bs h
  cases h

@[simp] lemma swaps_nil_left : swaps cost worth gap n ([] : List α) bs = [] := by
  rw [swaps]
  intro n a as b bs _ h
  cases h

@[simp] lemma swaps_nil_right : swaps cost worth gap n as ([] : List β) = [] := by
  rw [swaps]
  intro n a as b bs _ _ h
  cases h

/-- The first pair that gains too little ends the exchange. -/
lemma swaps_cons_of_le {a : α} {b : β} (h : worth b ≤ cost a + gap) :
    swaps cost worth gap (n + 1) (a :: as) (b :: bs) = [] := by
  rw [swaps, if_pos h]

/-- A pair that gains enough is swapped. -/
lemma swaps_cons_of_lt {a : α} {b : β} (h : cost a + gap < worth b) :
    swaps cost worth gap (n + 1) (a :: as) (b :: bs)
      = (a, b) :: swaps cost worth gap n as bs := by
  rw [swaps, if_neg (not_le.mpr h)]

/-- The swaps are within the budget, of the first candidates for the first of the pool. -/
lemma swaps_take :
    (swaps cost worth gap n as bs).length ≤ n
      ∧ (swaps cost worth gap n as bs).map Prod.fst
        = as.take (swaps cost worth gap n as bs).length
      ∧ (swaps cost worth gap n as bs).map Prod.snd
        = bs.take (swaps cost worth gap n as bs).length := by
  induction n generalizing as bs with
  | zero => simp
  | succ n ih =>
      cases as with
      | nil => simp
      | cons a as =>
          cases bs with
          | nil => simp
          | cons b bs =>
              rcases le_or_gt (worth b) (cost a + gap) with h | h
              · rw [swaps_cons_of_le h]
                simp
              · rw [swaps_cons_of_lt h]
                obtain ⟨hlen, hfst, hsnd⟩ := @ih as bs
                simp only [List.length_cons, List.map_cons, List.take_succ_cons]
                exact ⟨Nat.succ_le_succ hlen, congrArg (a :: ·) hfst, congrArg (b :: ·) hsnd⟩

/-- Every swap gains more than the gap. -/
lemma swaps_gain {p : α × β} (h : p ∈ swaps cost worth gap n as bs) :
    cost p.1 + gap < worth p.2 := by
  induction n generalizing as bs with
  | zero => simp at h
  | succ n ih =>
      cases as with
      | nil => simp at h
      | cons a as =>
          cases bs with
          | nil => simp at h
          | cons b bs =>
              rcases le_or_gt (worth b) (cost a + gap) with hle | hlt
              · rw [swaps_cons_of_le hle] at h
                cases h
              · rw [swaps_cons_of_lt hlt] at h
                rcases List.mem_cons.mp h with rfl | h
                · exact hlt
                · exact ih h

/-- **The exchange is maximal**: with budget left, no candidate that is left gains against any
element that is left. -/
theorem swaps_maximal [IsOrderedAddMonoid τ] (has : as.Pairwise fun a a' => cost a ≤ cost a')
    (hbs : bs.Pairwise fun b b' => worth b' ≤ worth b)
    (hn : (swaps cost worth gap n as bs).length < n) :
    ∀ a ∈ as.drop (swaps cost worth gap n as bs).length,
      ∀ b ∈ bs.drop (swaps cost worth gap n as bs).length, worth b ≤ cost a + gap := by
  induction n generalizing as bs with
  | zero => exact absurd hn (Nat.not_lt_zero _)
  | succ n ih =>
      cases as with
      | nil => simp
      | cons a as =>
          cases bs with
          | nil => simp
          | cons b bs =>
              obtain ⟨ha, has⟩ := List.pairwise_cons.mp has
              obtain ⟨hb, hbs⟩ := List.pairwise_cons.mp hbs
              rcases le_or_gt (worth b) (cost a + gap) with hle | hlt
              · rw [swaps_cons_of_le hle, List.length_nil, List.drop_zero, List.drop_zero]
                intro a' ha' b' hb'
                have hcost : cost a ≤ cost a' := by
                  rcases List.mem_cons.mp ha' with rfl | ha'
                  · exact le_refl _
                  · exact ha a' ha'
                have hworth : worth b' ≤ worth b := by
                  rcases List.mem_cons.mp hb' with rfl | hb'
                  · exact le_refl _
                  · exact hb b' hb'
                calc worth b' ≤ worth b := hworth
                  _ ≤ cost a + gap := hle
                  _ ≤ cost a' + gap := add_le_add_left hcost gap
              · rw [swaps_cons_of_lt hlt, List.length_cons] at hn ⊢
                exact ih has hbs (Nat.lt_of_succ_lt_succ hn)

end Swaps

end Exchange
