import Mathlib.Data.List.Sort
import Mathlib.Tactic.Common

/-!
Sorting by a comparison function, stably.

* `Le cmp`: `a` may stand before `b`; total and transitive where the comparison is.
* `sortBy`: the sorted list; `perm_sortBy`, `pairwise_sortBy`.
* `sortBy_of_perm`: **the sorted list depends only on what is in the list**, as long as the
  comparison tells the elements of the list apart.
-/

open scoped List

namespace SortBy

variable {α : Type*}

/-- `a` may stand before `b`. -/
def Le (cmp : α → α → Ordering) (a b : α) : Prop := (cmp a b).isLE = true

instance (cmp : α → α → Ordering) : DecidableRel (Le cmp) := fun a b =>
  inferInstanceAs (Decidable ((cmp a b).isLE = true))

/-- The stable sort by a comparison function. -/
def sortBy (cmp : α → α → Ordering) (l : List α) : List α := l.insertionSort (Le cmp)

variable {cmp : α → α → Ordering}

instance [Std.OrientedCmp cmp] : Std.Total (Le cmp) where
  total a b := by
    have hswap : cmp b a = (cmp a b).swap := Std.OrientedCmp.eq_swap
    rw [Le, Le, hswap]
    cases cmp a b <;> simp

instance [Std.TransCmp cmp] : IsTrans α (Le cmp) where
  trans _ _ _ h₁ h₂ := Std.TransCmp.isLE_trans h₁ h₂

/-- What is greater does not come first. -/
lemma not_le_of_eq_gt {a b : α} (h : cmp a b = .gt) : ¬Le cmp a b := by
  rw [Le, h]
  simp

/-- A sort changes nothing but the order. -/
lemma perm_sortBy (l : List α) : sortBy cmp l ~ l := List.perm_insertionSort _ _

@[simp] lemma sortBy_singleton (a : α) : sortBy cmp [a] = [a] := rfl

@[simp] lemma length_sortBy (l : List α) : (sortBy cmp l).length = l.length :=
  List.length_insertionSort _ _

/-- A list that is in order stays as it is. -/
lemma sortBy_of_pairwise {l : List α} (h : l.Pairwise (Le cmp)) : sortBy cmp l = l :=
  h.insertionSort_eq

variable [Std.TransCmp cmp]

/-- A sorted list is in order. -/
lemma pairwise_sortBy (l : List α) : (sortBy cmp l).Pairwise (Le cmp) :=
  List.pairwise_insertionSort _ _

/-- Two lists with the same elements are sorted the same, if no two of the elements tie. -/
theorem sortBy_of_perm {l l' : List α} (h : l ~ l')
    (htie : ∀ a ∈ l, ∀ b ∈ l, cmp a b = .eq → a = b) : sortBy cmp l = sortBy cmp l' := by
  have hperm : sortBy cmp l ~ l := perm_sortBy l
  have hperm' : sortBy cmp l' ~ l := (perm_sortBy l').trans h.symm
  have hanti : ∀ a b, a ∈ sortBy cmp l → b ∈ sortBy cmp l' → Le cmp a b → Le cmp b a → a = b :=
    fun a b ha hb hab hba => htie a (hperm.mem_iff.mp ha) b (hperm'.mem_iff.mp hb)
      (Std.OrientedCmp.isLE_antisymm hab hba)
  exact List.Perm.eq_of_pairwise hanti (pairwise_sortBy l) (pairwise_sortBy l')
    (hperm.trans hperm'.symm)

end SortBy
