import Mathlib.Data.List.Count
import Mathlib.Order.Lattice

/-!
Slots under a rolling window: a slot carries the date it was last seen, and is inside the window
while that date is not before the window's cutoff.

* `Move`: what a visit can do to the slots.  A slot that is there is seen again, whether it is
  inside the window or not; a new one is taken only while fewer than `m` are inside.
* `returned`: the keys of the slots that a move brings back into the window.
* `Move.steady_le`: no move makes the slots inside the window outnumber the limit, if those that
  came back are not counted.
-/

namespace Window

/-- A slot and the date it was last seen. -/
structure Slot (κ τ : Type*) where
  key : κ
  seen : τ
  deriving DecidableEq

variable {κ τ : Type*} [DecidableEq κ] [LinearOrder τ]

/-- The number of slots inside the window with the cutoff `c`. -/
def inside (c : τ) (s : List (Slot κ τ)) : ℕ := s.countP fun x => c ≤ x.seen

/-- The slot with the key `k` is seen at `t`. -/
def touch (k : κ) (t : τ) (s : List (Slot κ τ)) : List (Slot κ τ) :=
  s.map fun x => if x.key = k then { x with seen := t } else x

/-- What a visit at `t`, when the cutoff is `c`, can do to the slots. -/
inductive Move (m : ℕ) (c t : τ) (s : List (Slot κ τ)) : List (Slot κ τ) → Prop where
  | stay : Move m c t s s
  | touch (k : κ) : Move m c t s (touch k t s)
  | enter (k : κ) : inside c s < m → Move m c t s (s ++ [⟨k, t⟩])

/-- The keys of the slots outside the window that are inside it after the move. -/
def returned (c : τ) (s s' : List (Slot κ τ)) : List κ :=
  (s.filter fun x => x.seen < c ∧ s'.any fun y => y.key = x.key ∧ c ≤ y.seen).map Slot.key

/-- The number of slots inside the window, those with a key in `B` apart. -/
def steady (c : τ) (B : List κ) (s : List (Slot κ τ)) : ℕ :=
  s.countP fun x => c ≤ x.seen ∧ x.key ∉ B

lemma steady_le_inside (c : τ) (B : List κ) (s : List (Slot κ τ)) : steady c B s ≤ inside c s :=
  List.countP_mono_left fun x _ h => by simp only [decide_eq_true_eq] at h ⊢; exact h.1

/-- Time takes slots out of the window, and the keys of more slots may be left out. -/
lemma steady_anti {c c' : τ} (hc : c ≤ c') {B B' : List κ} (hB : B ⊆ B')
    (s : List (Slot κ τ)) : steady c' B' s ≤ steady c B s :=
  List.countP_mono_left fun x _ h => by
    simp only [decide_eq_true_eq] at h ⊢
    exact ⟨hc.trans h.1, fun hx => h.2 (hB hx)⟩

/-- A slot outside the window that is touched is one that came back. -/
lemma mem_returned_touch {c t : τ} {k : κ} {s : List (Slot κ τ)} {x : Slot κ τ} (hx : x ∈ s)
    (hk : x.key = k) (hout : x.seen < c) (hc : c ≤ t) : k ∈ returned c s (touch k t s) := by
  refine List.mem_map.mpr ⟨x, List.mem_filter.mpr ⟨hx, ?_⟩, hk⟩
  simp only [decide_eq_true_eq, List.any_eq_true]
  refine ⟨hout, { x with seen := t }, List.mem_map.mpr ⟨x, hx, if_pos hk⟩, rfl, hc⟩

lemma steady_touch_le (c t : τ) (B : List κ) (k : κ) (s : List (Slot κ τ)) :
    steady c (B ++ returned c s (touch k t s)) (touch k t s) ≤ steady c B s := by
  rw [steady]
  conv_lhs => arg 2; rw [touch]
  rw [List.countP_map]
  refine List.countP_mono_left fun x hx h => ?_
  simp only [Function.comp_apply, decide_eq_true_eq, List.mem_append, not_or] at h ⊢
  by_cases hk : x.key = k
  · rw [if_pos hk] at h
    refine ⟨?_, h.2.1⟩
    by_contra hout
    have hmem := mem_returned_touch hx hk (not_le.mp hout) h.1
    exact h.2.2 (by rw [show x.key = k from hk]; exact hmem)
  · rw [if_neg hk] at h
    exact ⟨h.1, h.2.1⟩

/-- **The limit of the window**: a move keeps the slots inside it within the limit, those that
came back apart. -/
theorem Move.steady_le {m : ℕ} {c t : τ} {s s' : List (Slot κ τ)} (h : Move m c t s s')
    {B : List κ} (hs : steady c B s ≤ m) : steady c (B ++ returned c s s') s' ≤ m := by
  cases h with
  | stay => exact Nat.le_trans (steady_anti (le_refl c) (List.subset_append_left _ _) s) hs
  | touch k => exact Nat.le_trans (steady_touch_le c t B k s) hs
  | enter k hlt =>
      calc steady c (B ++ returned c s (s ++ [⟨k, t⟩])) (s ++ [⟨k, t⟩])
          ≤ inside c (s ++ [⟨k, t⟩]) := steady_le_inside _ _ _
        _ = inside c s + inside c [⟨k, t⟩] := by rw [inside]; exact List.countP_append
        _ ≤ inside c s + 1 := Nat.add_le_add_left List.countP_le_length _
        _ ≤ m := hlt

end Window
