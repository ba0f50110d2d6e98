import Mathlib.Order.Lattice
import Mathlib.Order.Basic
import Mathlib.Tactic.Common

/-!
Calendar instants to the second, between the years 1 and 9999: the range in which a naive
UTC date exists both for the host language and for the database.

* `Stamp` carries the bounds, so a date outside the calendar cannot be built.
* `Stamp.add?` shifts a date by a number of seconds and answers `none` when the result leaves
  the calendar; `add?_eq_some_iff` and `add?_eq_none_iff` reduce it to integer arithmetic.
-/

/-- 0001-01-01 00:00:00, in seconds since 1970-01-01 00:00:00. -/
def minSecs : ℤ := -62135596800

/-- 9999-12-31 23:59:59, in seconds since 1970-01-01 00:00:00. -/
def maxSecs : ℤ := 253402300799

/-- The seconds of a day. -/
def daySecs : ℤ := 86400

/-- A date of the calendar, in whole seconds since 1970-01-01 00:00:00. -/
@[ext] structure Stamp where
  secs : ℤ
  lo : minSecs ≤ secs
  hi : secs ≤ maxSecs
  deriving DecidableEq

namespace Stamp

instance : LE Stamp := ⟨fun a b => a.secs ≤ b.secs⟩

instance : LT Stamp := ⟨fun a b => a.secs < b.secs⟩

instance : DecidableLE Stamp := fun a b => inferInstanceAs (Decidable (a.secs ≤ b.secs))

instance : DecidableLT Stamp := fun a b => inferInstanceAs (Decidable (a.secs < b.secs))

/-- The later of two dates. -/
def later (a b : Stamp) : Stamp := if a.secs ≤ b.secs then b else a

@[simp] lemma later_secs (a b : Stamp) : (later a b).secs = max a.secs b.secs := by
  rw [later]
  split_ifs with h
  · exact (max_eq_right h).symm
  · exact (max_eq_left (by omega)).symm

/-- A date shifted by `d` seconds, `none` when it leaves the calendar. -/
def add? (t : Stamp) (d : ℤ) : Option Stamp :=
  if h : minSecs ≤ t.secs + d ∧ t.secs + d ≤ maxSecs then some ⟨t.secs + d, h.1, h.2⟩ else none

/-- A shift is an addition of seconds. -/
lemma add?_eq_some_iff {t u : Stamp} {d : ℤ} : t.add? d = some u ↔ u.secs = t.secs + d := by
  rw [add?]
  split_ifs with h
  · simp only [Option.some.injEq, Stamp.ext_iff]
    exact eq_comm
  · refine ⟨fun h' => by simp at h', fun h' => ?_⟩
    have h1 := u.lo
    have h2 := u.hi
    exact absurd ⟨by omega, by omega⟩ h

/-- A shift fails where it leaves the calendar. -/
lemma add?_eq_none_iff {t : Stamp} {d : ℤ} :
    t.add? d = none ↔ t.secs + d < minSecs ∨ maxSecs < t.secs + d := by
  rw [add?]
  split_ifs with h
  · simp only [false_iff]
    omega
  · simp only [true_iff]
    omega

/-- A shift forward leaves the calendar only over its end. -/
lemma add?_isSome_iff {t : Stamp} {d : ℤ} (hd : 0 ≤ d) :
    (t.add? d).isSome ↔ t.secs + d ≤ maxSecs := by
  rw [Option.isSome_iff_ne_none, ne_eq, add?_eq_none_iff]
  have := t.lo
  omega

end Stamp
