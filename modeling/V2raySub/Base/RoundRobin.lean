import Mathlib.Data.List.Count
import Mathlib.Data.List.Perm.Basic
import Mathlib.Order.Basic
import Mathlib.Tactic.Common

/-!
Queues that take turns: in each round every queue that is not empty gives its first element.

* `rounds n qs`: what `n` rounds take; `perm_rounds` and `filter_rounds` say that enough rounds take
  every element once, and those of one queue in its order.
* `countP_take_rounds_succ`: what a queue has given at a moment of the first round or later.
* `fair_rounds`: **at every moment a queue has given as many elements as the queues behind it, and
  at most one more**, unless the one that is behind is empty.
-/

open scoped List

namespace RoundRobin

variable {α : Type*}

/-- What one round takes. -/
def heads (qs : List (List α)) : List α := qs.filterMap List.head?

/-- What one round leaves. -/
def tails (qs : List (List α)) : List (List α) := qs.map List.tail

/-- What `n` rounds take. -/
def rounds : ℕ → List (List α) → List α
  | 0, _ => []
  | n + 1, qs => heads qs ++ rounds n (tails qs)

@[simp] lemma heads_nil : heads ([] : List (List α)) = [] := rfl

@[simp] lemma heads_cons (q : List α) (qs : List (List α)) :
    heads (q :: qs) = q.head?.toList ++ heads qs := by
  cases q with
  | nil => rfl
  | cons a q => rfl

@[simp] lemma heads_append (qs qs' : List (List α)) : heads (qs ++ qs') = heads qs ++ heads qs' :=
  List.filterMap_append

@[simp] lemma tails_nil : tails ([] : List (List α)) = [] := rfl

@[simp] lemma tails_cons (q : List α) (qs : List (List α)) :
    tails (q :: qs) = q.tail :: tails qs := rfl

@[simp] lemma tails_append (qs qs' : List (List α)) : tails (qs ++ qs') = tails qs ++ tails qs' :=
  List.map_append

/-- What is first in a queue is in it. -/
lemma mem_of_mem_heads {qs : List (List α)} {a : α} (h : a ∈ heads qs) : ∃ q ∈ qs, a ∈ q := by
  obtain ⟨q, hq, ha⟩ := List.mem_filterMap.mp h
  exact ⟨q, hq, List.mem_of_mem_head? ha⟩

/-! ### Every element once -/

/-- A round takes elements away and leaves the others. -/
lemma perm_heads_tails (qs : List (List α)) : heads qs ++ (tails qs).flatten ~ qs.flatten := by
  induction qs with
  | nil => exact .refl _
  | cons q qs ih =>
      have hq : q.head?.toList ++ q.tail = q := by cases q <;> rfl
      rw [heads_cons, tails_cons, List.flatten_cons, List.flatten_cons]
      calc q.head?.toList ++ heads qs ++ (q.tail ++ (tails qs).flatten)
          ~ q.head?.toList ++ q.tail ++ (heads qs ++ (tails qs).flatten) := by
            simp only [List.append_assoc]
            exact .append_left _ (by simpa using List.perm_append_comm.append_right _)
        _ = q ++ (heads qs ++ (tails qs).flatten) := by rw [hq]
        _ ~ q ++ qs.flatten := ih.append_left q

/-- A round takes what it leaves out of the queues. -/
lemma length_heads_add (qs : List (List α)) :
    (heads qs).length + (tails qs).flatten.length = qs.flatten.length := by
  rw [← List.length_append]
  exact (perm_heads_tails qs).length_eq

/-- As many rounds as the longest queue is long take every element once. -/
theorem perm_rounds {n : ℕ} {qs : List (List α)} (h : ∀ q ∈ qs, q.length ≤ n) :
    rounds n qs ~ qs.flatten := by
  induction n generalizing qs with
  | zero =>
      have hnil : qs.flatten = [] := List.flatten_eq_nil_iff.mpr fun q hq =>
        List.length_eq_zero_iff.mp (Nat.le_zero.mp (h q hq))
      rw [hnil, rounds]
  | succ n ih =>
      have htails : ∀ q ∈ tails qs, q.length ≤ n := by
        intro q hq
        obtain ⟨q', hq', rfl⟩ := List.mem_map.mp hq
        have := h q' hq'
        rw [List.length_tail]
        omega
      rw [rounds]
      exact ((ih htails).append_left _).trans (perm_heads_tails qs)

/-! ### One queue among the others -/

/-- The elements of `q` are those with `P`, and no other queue has one. -/
structure Picks (P : α → Prop) (q : List α) (others : List (List α)) : Prop where
  all : ∀ a ∈ q, P a
  none : ∀ q' ∈ others, ∀ a ∈ q', ¬P a

variable {P Q : α → Prop} {q : List α} {l₁ l₂ others : List (List α)}

/-- After a round the elements with `P` are still in this queue alone. -/
lemma Picks.tails (h : Picks P q (l₁ ++ l₂)) :
    Picks P q.tail (RoundRobin.tails l₁ ++ RoundRobin.tails l₂) where
  all a ha := h.all a (List.mem_of_mem_tail ha)
  none q' hq' a ha := by
    rw [← tails_append] at hq'
    obtain ⟨p, hp, rfl⟩ := List.mem_map.mp hq'
    exact h.none p hp a (List.mem_of_mem_tail ha)

/-- The other queues give none of the elements with `P`. -/
lemma Picks.not_of_mem_heads (h : Picks P q others) {a : α} (ha : a ∈ heads others) : ¬P a := by
  obtain ⟨q', hq', ha⟩ := mem_of_mem_heads ha
  exact h.none q' hq' a ha

/-- What this queue gives has `P`. -/
lemma Picks.of_mem_head (h : Picks P q others) {a : α} (ha : a ∈ q.head?.toList) : P a :=
  h.all a (List.mem_of_mem_head? (by simpa using ha))

variable [DecidablePred P] [DecidablePred Q]

/-- The elements of a queue are taken in its order. -/
theorem filter_rounds (h : Picks P q (l₁ ++ l₂)) (n : ℕ) :
    (rounds n (l₁ ++ q :: l₂)).filter (fun a => P a) = q.take n := by
  induction n generalizing q l₁ l₂ with
  | zero => simp [rounds]
  | succ n ih =>
      have hnone : ∀ {l : List α}, (∀ a ∈ l, ¬P a) → l.filter (fun a => P a) = [] := fun hl =>
        List.filter_eq_nil_iff.mpr fun a ha => by simpa using hl a ha
      have h₁ : (heads l₁).filter (fun a => P a) = [] := hnone fun a ha =>
        h.not_of_mem_heads (by rw [heads_append]; exact List.mem_append_left _ ha)
      have h₂ : (heads l₂).filter (fun a => P a) = [] := hnone fun a ha =>
        h.not_of_mem_heads (by rw [heads_append]; exact List.mem_append_right _ ha)
      have hq : q.head?.toList.filter (fun a => P a) = q.head?.toList :=
        List.filter_eq_self.mpr fun a ha => by simpa using h.of_mem_head ha
      rw [rounds, heads_append, heads_cons, tails_append, tails_cons, List.filter_append,
        List.filter_append, List.filter_append, ih h.tails, h₁, h₂, hq]
      cases q <;> simp

/-! ### Fairness -/

/-- The elements with `P` are those of one block. -/
lemma countP_take_block {l₁ l l₂ : List α} (h : ∀ a ∈ l, P a) (h₁ : ∀ a ∈ l₁, ¬P a)
    (h₂ : ∀ a ∈ l₂, ¬P a) (m : ℕ) :
    ((l₁ ++ (l ++ l₂)).take m).countP (fun a => P a) = min (m - l₁.length) l.length := by
  have hnone : ∀ {l : List α} (k : ℕ), (∀ a ∈ l, ¬P a) →
      (l.take k).countP (fun a => P a) = 0 := fun k hl =>
    List.countP_eq_zero.mpr fun a ha => by simpa using hl a (List.mem_of_mem_take ha)
  have hall : (l.take (m - l₁.length)).countP (fun a => P a)
      = (l.take (m - l₁.length)).length :=
    List.countP_eq_length.mpr fun a ha => by simpa using h a (List.mem_of_mem_take ha)
  rw [List.take_append, List.take_append, List.countP_append, List.countP_append, hnone m h₁,
    hnone _ h₂, hall, List.length_take]
  omega

/-- What a queue has given after `m` elements: at most one in the first round, and what it gives
afterwards. -/
lemma countP_take_rounds_succ (h : Picks P q (l₁ ++ l₂)) (n m : ℕ) :
    ((rounds (n + 1) (l₁ ++ q :: l₂)).take m).countP (fun a => P a)
      = min (m - (heads l₁).length) (min 1 q.length)
        + ((rounds n (tails l₁ ++ q.tail :: tails l₂)).take
            (m - (heads (l₁ ++ q :: l₂)).length)).countP (fun a => P a) := by
  have hone : q.head?.toList.length = min 1 q.length := by cases q <;> simp
  rw [rounds, List.take_append, List.countP_append, tails_append, tails_cons, ← hone]
  congr 1
  rw [heads_append, heads_cons]
  refine countP_take_block (fun a ha => h.of_mem_head ha) (fun a ha => ?_) (fun a ha => ?_) m
  · exact h.not_of_mem_heads (by rw [heads_append]; exact List.mem_append_left _ ha)
  · exact h.not_of_mem_heads (by rw [heads_append]; exact List.mem_append_right _ ha)

/-- A queue gives no more than it has. -/
lemma countP_take_rounds_le (h : Picks P q (l₁ ++ l₂)) (n m : ℕ) :
    ((rounds n (l₁ ++ q :: l₂)).take m).countP (fun a => P a) ≤ min n q.length := by
  calc ((rounds n (l₁ ++ q :: l₂)).take m).countP (fun a => P a)
      ≤ (rounds n (l₁ ++ q :: l₂)).countP (fun a => P a) :=
        List.Sublist.countP_le (List.take_sublist m _)
    _ = min n q.length := by
        rw [List.countP_eq_length_filter, filter_rounds h, List.length_take]

/-- Among the first `m` no more than `m` are counted. -/
lemma countP_take_le (l : List α) (m : ℕ) : (l.take m).countP (fun a => P a) ≤ m :=
  Nat.le_trans List.countP_le_length (List.length_take_le m l)

/-- One round more, in numbers: the queues have `a` and `b` elements, `x`, `y` and `z` is what the
others give in the first round, and `c` and `d` is what is given afterwards. -/
lemma fair_step {n m x y z a b c d : ℕ}
    (hc : c ≤ m - (x + (min 1 a + (y + (min 1 b + z)))) ∧ c ≤ min n (a - 1))
    (hd : d ≤ m - (x + (min 1 a + (y + (min 1 b + z)))) ∧ d ≤ min n (b - 1))
    (h : (d ≤ c ∨ c = min n (a - 1)) ∧ (c ≤ d + 1 ∨ d = min n (b - 1))) :
    (min (m - (x + (min 1 a + y))) (min 1 b) + d ≤ min (m - x) (min 1 a) + c
        ∨ min (m - x) (min 1 a) + c = min (n + 1) a)
      ∧ (min (m - x) (min 1 a) + c ≤ min (m - (x + (min 1 a + y))) (min 1 b) + d + 1
        ∨ min (m - (x + (min 1 a + y))) (min 1 b) + d = min (n + 1) b) := by
  have hsucc : ∀ k, min (n + 1) (k + 1) = min n k + 1 := fun k => by omega
  have hone : ∀ k, min 1 (k + 1) = 1 := fun k => by omega
  cases a with
  | zero =>
      obtain rfl : c = 0 := by omega
      exact ⟨.inr (by omega), .inl (by omega)⟩
  | succ a =>
      cases b with
      | zero =>
          obtain rfl : d = 0 := by omega
          exact ⟨.inl (by omega), .inr (by omega)⟩
      | succ b =>
          simp only [hone, hsucc, Nat.add_sub_cancel] at *
          constructor <;> omega

/-- **The queues take turns**: at every moment the queue before another one has given as many
elements, or all it has; the other one has given at most one less, or all it has. -/
theorem fair_rounds {a b : List α} {l₁ l₂ l₃ : List (List α)}
    (ha : Picks P a (l₁ ++ (l₂ ++ b :: l₃))) (hb : Picks Q b (l₁ ++ a :: l₂ ++ l₃)) (n m : ℕ) :
    let taken := (rounds n (l₁ ++ a :: (l₂ ++ b :: l₃))).take m
    (taken.countP (fun x => Q x) ≤ taken.countP (fun x => P x)
        ∨ taken.countP (fun x => P x) = min n a.length)
      ∧ (taken.countP (fun x => P x) ≤ taken.countP (fun x => Q x) + 1
        ∨ taken.countP (fun x => Q x) = min n b.length) := by
  intro taken
  induction n generalizing a b l₁ l₂ l₃ m with
  | zero => simp [taken, rounds]
  | succ n ih =>
      have hone : ∀ q : List α, q.head?.toList.length = min 1 q.length := by
        intro q
        cases q <;> simp
      have hsplit : l₁ ++ a :: (l₂ ++ b :: l₃) = l₁ ++ a :: l₂ ++ b :: l₃ := by simp
      have hP := countP_take_rounds_succ ha n m
      have hQ := countP_take_rounds_succ hb n m
      rw [← hsplit] at hQ
      simp only [tails_append, tails_cons, List.append_assoc, List.cons_append, heads_append,
        heads_cons, List.length_append, hone] at hP hQ
      have hatail : Picks P a.tail (tails l₁ ++ (tails l₂ ++ b.tail :: tails l₃)) := by
        simpa using ha.tails
      have hbtail : Picks Q b.tail (tails l₁ ++ a.tail :: tails l₂ ++ tails l₃) := by
        simpa using hb.tails
      have hafter := ih hatail hbtail (m := m - ((heads l₁).length + (min 1 a.length
        + ((heads l₂).length + (min 1 b.length + (heads l₃).length)))))
      have hboundP := countP_take_rounds_le hatail n
      have hboundQ := countP_take_rounds_le hbtail n
      simp only [List.append_assoc, List.cons_append] at hboundP hboundQ
      simp only [List.length_tail] at hafter hboundP hboundQ
      simp only [taken, hP, hQ]
      exact fair_step ⟨countP_take_le _ _, hboundP _⟩ ⟨countP_take_le _ _, hboundQ _⟩ hafter

/-! ### The loop -/

/-- Rounds are taken until as many elements were taken as there are. -/
def loop (count : ℕ) : ℕ → List (List α) → List α → List α
  | 0, _, taken => taken
  | fuel + 1, qs, taken =>
    if taken.length < count then loop count fuel (tails qs) (taken ++ heads qs) else taken

/-- Empty queues give nothing. -/
lemma rounds_of_nil {n : ℕ} {qs : List (List α)} (h : qs.flatten = []) : rounds n qs = [] := by
  have hlen : ∀ q ∈ qs, q.length ≤ n := fun q hq => by
    rw [List.flatten_eq_nil_iff.mp h q hq]
    exact Nat.zero_le n
  exact List.Perm.eq_nil ((perm_rounds hlen).trans (.of_eq h))

/-- The loop is the rounds, if it is to take all there is. -/
lemma loop_eq_rounds {count : ℕ} (fuel : ℕ) {qs : List (List α)} {taken : List α}
    (h : taken.length + qs.flatten.length = count) :
    loop count fuel qs taken = taken ++ rounds fuel qs := by
  induction fuel generalizing qs taken with
  | zero => rw [loop, rounds, List.append_nil]
  | succ fuel ih =>
      rw [loop]
      split_ifs with hlt
      · have hlength := length_heads_add qs
        rw [ih (by rw [List.length_append]; omega), rounds, List.append_assoc]
      · have hnil : qs.flatten = [] := List.length_eq_zero_iff.mp (by omega)
        rw [rounds_of_nil hnil, List.append_nil]

end RoundRobin
