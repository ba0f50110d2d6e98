import Mathlib.Data.List.Basic
import Mathlib.Data.List.Perm.Basic

/-!
`INSERT OR REPLACE`: a row that goes into a table puts out the rows that clash with it on a unique
key.

* `replaceInto`, `replaceAll`: one row, and one row after another.
* `replaceAll_of_pairwise`: rows that do not clash with one another all stay, and of the table
  those that clash with none of them.
* `replaceAll_nil`: an empty table then holds exactly these rows.
-/

namespace Rows

variable {ρ : Type*} (clash : ρ → ρ → Bool)

/-- `INSERT OR REPLACE` of one row. -/
def replaceInto (rows : List ρ) (r : ρ) : List ρ := rows.filter (fun r' => !clash r r') ++ [r]

/-- `INSERT OR REPLACE` of one row after another. -/
def replaceAll (rows : List ρ) (new : List ρ) : List ρ := new.foldl (replaceInto clash) rows

variable {clash}

/-- Rows that do not clash with one another all stay, after the rows of the table that clash with
none of them. -/
theorem replaceAll_of_pairwise {new : List ρ} (h : new.Pairwise fun r r' => clash r' r = false)
    (rows : List ρ) :
    replaceAll clash rows new
      = rows.filter (fun r' => new.all fun r => !clash r r') ++ new := by
  induction new generalizing rows with
  | nil => simp [replaceAll]
  | cons a new ih =>
      obtain ⟨ha, hnew⟩ := List.pairwise_cons.mp h
      have hstay : new.all (fun r => !clash r a) = true := by
        rw [List.all_eq_true]
        intro r hr
        rw [ha r hr]
        rfl
      calc replaceAll clash rows (a :: new)
          = replaceAll clash (replaceInto clash rows a) new := rfl
        _ = (replaceInto clash rows a).filter (fun r' => new.all fun r => !clash r r') ++ new :=
            ih hnew _
        _ = _ := by
            rw [replaceInto, List.filter_append, List.filter_filter, List.filter_singleton, hstay,
              List.append_assoc]
            simp only [List.all_cons, Bool.and_comm, cond_true, List.singleton_append]

/-- An empty table takes rows that do not clash with one another as they are. -/
lemma replaceAll_nil {new : List ρ} (h : new.Pairwise fun r r' => clash r' r = false) :
    replaceAll clash [] new = new := by
  rw [replaceAll_of_pairwise h, List.filter_nil, List.nil_append]

/-- The order of the table does not matter. -/
lemma perm_replaceAll {rows rows' : List ρ} (h : rows.Perm rows') (new : List ρ) :
    (replaceAll clash rows new).Perm (replaceAll clash rows' new) := by
  induction new generalizing rows rows' with
  | nil => exact h
  | cons a new ih => exact ih ((h.filter _).append_right _)

end Rows
