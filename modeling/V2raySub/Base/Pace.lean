import Mathlib.Algebra.Order.Group.Defs
import Mathlib.Algebra.Order.Sub.Basic
import Mathlib.Data.List.Count
import Mathlib.Tactic.Abel

/-!
The pace of admissions under a rolling window: a record carries the date it entered and the date
it was last used, and a new one is taken only while fewer than `m` were in use over the last `w`.

* `Visit`: what a visit at a date can do to the records.
* `Paced`: no record is used before it enters, and over no interval of the length `w` do more than
  `m` of them enter.
* `Paced.visit`: **every visit keeps the pace**, since a record that entered within the window is
  still in use there.
-/

namespace Pace

variable {α τ : Type*} [LinearOrder τ] (first seen : α → τ)

/-- The number of records in use since `c`. -/
def used (c : τ) (l : List α) : ℕ := l.countP fun x => c ≤ seen x

/-- The number of records that entered between `a` and `b`. -/
def entered (a b : τ) (l : List α) : ℕ := l.countP fun x => a ≤ first x ∧ first x ≤ b

section

variable {first}

lemma entered_map {f : α → α} (hf : ∀ x, first (f x) = first x) (a b : τ) (l : List α) :
    entered first a b (l.map f) = entered first a b l := by
  rw [entered, entered, List.countP_map]
  congr 1
  funext x
  rw [Function.comp_apply, hf]

lemma entered_append (a b : τ) (l l' : List α) :
    entered first a b (l ++ l') = entered first a b l + entered first a b l' :=
  List.countP_append

end

variable [AddCommGroup τ]

/-- What a visit at `t` can do to the records. -/
inductive Visit (m : ℕ) (w t : τ) (l : List α) : List α → Prop where
  | stay : Visit m w t l l
  | touch (f : α → α) : (∀ x, first (f x) = first x) → (∀ x, seen (f x) = seen x ∨ seen (f x) = t) →
      Visit m w t l (l.map f)
  | enter (x : α) : first x = t → seen x = t → used seen (t - w) l < m →
      Visit m w t l (l ++ [x])

/-- The records by the date `t`. -/
structure Paced (m : ℕ) (w t : τ) (l : List α) : Prop where
  dates : ∀ x ∈ l, first x ≤ seen x ∧ seen x ≤ t
  entered : ∀ a, entered first a (a + w) l ≤ m

variable {first seen}

lemma paced_nil (m : ℕ) (w t : τ) : Paced first seen m w t [] :=
  ⟨fun _ hx => absurd hx List.not_mem_nil, fun _ => Nat.zero_le m⟩

variable {m : ℕ} {w t t' : τ} {l l' : List α}

/-- What entered since a date is in use since that date. -/
lemma Paced.entered_le_used (h : Paced first seen m w t l) {a b c : τ} (hc : c ≤ a) :
    Pace.entered first a b l ≤ used seen c l :=
  List.countP_mono_left fun x hx hin => by
    rw [decide_eq_true_eq] at hin ⊢
    calc c ≤ a := hc
      _ ≤ first x := hin.1
      _ ≤ seen x := (h.dates x hx).1

/-- Time alone changes nothing. -/
lemma Paced.later (h : Paced first seen m w t l) (ht : t ≤ t') : Paced first seen m w t' l :=
  ⟨fun x hx => ⟨(h.dates x hx).1, (h.dates x hx).2.trans ht⟩, h.entered⟩

/-- **Every visit keeps the pace.** -/
theorem Paced.visit [IsOrderedAddMonoid τ] (h : Paced first seen m w t l) (ht : t ≤ t')
    (hv : Visit first seen m w t' l l') : Paced first seen m w t' l' := by
  cases hv with
  | stay => exact h.later ht
  | touch f hfirst hseen =>
      refine ⟨fun x hx => ?_, fun a => ?_⟩
      · obtain ⟨y, hy, rfl⟩ := List.mem_map.mp hx
        obtain ⟨hle, hnow⟩ := h.dates y hy
        rw [hfirst]
        rcases hseen y with hs | hs
        · rw [hs]
          exact ⟨hle, hnow.trans ht⟩
        · rw [hs]
          have hdate : first y ≤ t' := by
            calc first y ≤ seen y := hle
              _ ≤ t := hnow
              _ ≤ t' := ht
          exact ⟨hdate, le_refl t'⟩
      · rw [entered_map hfirst]
        exact h.entered a
  | enter x hfirst hseen hfree =>
      refine ⟨fun y hy => ?_, fun a => ?_⟩
      · rcases List.mem_append.mp hy with hy | hy
        · exact ((h.later ht).dates y hy)
        · rw [List.mem_singleton.mp hy, hfirst, hseen]
          exact ⟨le_refl t', le_refl t'⟩
      · rw [entered_append]
        by_cases hin : t' ≤ a + w
        · -- the interval ends after the visit, so what entered in it is in use in the window
          have hcut : t' - w ≤ a := sub_le_iff_le_add.mpr hin
          have hone : Pace.entered first a (a + w) [x] ≤ 1 := List.countP_le_length
          calc Pace.entered first a (a + w) l + Pace.entered first a (a + w) [x]
              ≤ used seen (t' - w) l + 1 := Nat.add_le_add (h.entered_le_used hcut) hone
            _ ≤ m := hfree
        · -- the interval ended before it
          have hzero : Pace.entered first a (a + w) [x] = 0 := by
            refine List.countP_eq_zero.mpr fun y hy => ?_
            rw [List.mem_singleton.mp hy, hfirst, decide_eq_true_eq]
            exact fun hboth => hin hboth.2
          rw [hzero, Nat.add_zero]
          exact h.entered a

end Pace
