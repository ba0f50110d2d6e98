import Mathlib.Data.List.Sublists

/-!
Two transactions over one store, each a read step followed by a write step that uses what
was read, and every interleaving of the four steps.

* `interleave`: all the merges of two lists, each list in its own order.
* `Txn`: a read and a write that is computed from the value read; `Txn.run` does both at once.
* `Sim`, `outcome_sim`: a relation between two stores that the reads and the writes of both
  transactions respect holds after every schedule.
* `outcome`: the store after a schedule of the four steps.  `Splits` says that the first
  transaction writes between the other's read and write; `outcome_of_splits` and
  `outcome_of_not_splits` are the store each kind of schedule ends in.
-/

namespace Interleave

/-- All the merges of two lists that keep the order of each. -/
def interleave {α : Type*} : List α → List α → List (List α)
  | [], v => [v]
  | a :: u, [] => [a :: u]
  | a :: u, b :: v =>
      (interleave u (b :: v)).map (a :: ·) ++ (interleave (a :: u) v).map (b :: ·)
  termination_by u v => u.length + v.length

/-- A transaction: what it reads, and what it writes on the strength of it. -/
structure Txn (σ ρ : Type*) where
  read : σ → ρ
  write : ρ → σ → σ

/-- The transaction with nothing in between. -/
def Txn.run {σ ρ : Type*} (T : Txn σ ρ) (s : σ) : σ := T.write (T.read s) s

/-- The steps of two transactions. -/
inductive Step where
  | read₁
  | write₁
  | read₂
  | write₂
  deriving DecidableEq

/-- The orders in which the four steps can come. -/
def schedules : List (List Step) := interleave [.read₁, .write₁] [.read₂, .write₂]

/-- The first transaction's write falls between the second's read and write. -/
def Splits (w : List Step) : Prop := [.read₂, .write₁, .write₂].Sublist w

instance : DecidablePred Splits := fun w =>
  inferInstanceAs (Decidable ([.read₂, .write₁, .write₂].Sublist w))

variable {σ ρ₁ ρ₂ : Type*}

/-- The store and what each transaction has read so far. -/
structure Conf (σ ρ₁ ρ₂ : Type*) where
  store : σ
  snap₁ : Option ρ₁
  snap₂ : Option ρ₂

/-- One step; a write uses the value its own transaction read. -/
def exec (T₁ : Txn σ ρ₁) (T₂ : Txn σ ρ₂) (c : Conf σ ρ₁ ρ₂) : Step → Conf σ ρ₁ ρ₂
  | .read₁ => { c with snap₁ := some (T₁.read c.store) }
  | .write₁ => { c with store := c.snap₁.elim c.store (T₁.write · c.store) }
  | .read₂ => { c with snap₂ := some (T₂.read c.store) }
  | .write₂ => { c with store := c.snap₂.elim c.store (T₂.write · c.store) }

/-- The store a schedule ends in. -/
def outcome (T₁ : Txn σ ρ₁) (T₂ : Txn σ ρ₂) (w : List Step) (s : σ) : σ :=
  (w.foldl (exec T₁ T₂) ⟨s, none, none⟩).store

lemma mem_schedules {w : List Step} : w ∈ schedules ↔
    w = [.read₁, .write₁, .read₂, .write₂] ∨ w = [.read₁, .read₂, .write₁, .write₂]
      ∨ w = [.read₁, .read₂, .write₂, .write₁] ∨ w = [.read₂, .read₁, .write₁, .write₂]
      ∨ w = [.read₂, .read₁, .write₂, .write₁] ∨ w = [.read₂, .write₂, .read₁, .write₁] := by
  simp [schedules, interleave]

/-- A split schedule: the second transaction writes on the strength of the store before the
first one's write. -/
theorem outcome_of_splits (T₁ : Txn σ ρ₁) (T₂ : Txn σ ρ₂) {w : List Step}
    (hw : w ∈ schedules) (hs : Splits w) (s : σ) :
    outcome T₁ T₂ w s = T₂.write (T₂.read s) (T₁.run s) := by
  rcases mem_schedules.mp hw with rfl | rfl | rfl | rfl | rfl | rfl <;>
    first | rfl | exact absurd hs (by decide)

/-- Every other schedule is a serial one, or the first transaction writes after the second
on the strength of what it read before it. -/
theorem outcome_of_not_splits (T₁ : Txn σ ρ₁) (T₂ : Txn σ ρ₂) {w : List Step}
    (hw : w ∈ schedules) (hs : ¬ Splits w) (s : σ) :
    outcome T₁ T₂ w s = T₂.run (T₁.run s) ∨ outcome T₁ T₂ w s = T₁.run (T₂.run s)
      ∨ outcome T₁ T₂ w s = T₁.write (T₁.read s) (T₂.run s) := by
  rcases mem_schedules.mp hw with rfl | rfl | rfl | rfl | rfl | rfl
  · exact Or.inl rfl
  · exact absurd (by decide) hs
  · exact Or.inr (Or.inr rfl)
  · exact absurd (by decide) hs
  · exact Or.inr (Or.inr rfl)
  · exact Or.inr (Or.inl rfl)

/-! ### Two levels of one pair of transactions -/

variable {σ' ρ ρ' ρ₁' ρ₂' : Type*}

/-- The reads and the writes of two transactions respect a relation between their stores, with
`Q` between the values they read. -/
structure Sim (R : σ → σ' → Prop) (Q : ρ → ρ' → Prop) (T : Txn σ ρ) (T' : Txn σ' ρ') : Prop where
  read : ∀ {s s'}, R s s' → Q (T.read s) (T'.read s')
  write : ∀ {r r' s s'}, Q r r' → R s s' → R (T.write r s) (T'.write r' s')

lemma Sim.run {R : σ → σ' → Prop} {Q : ρ → ρ' → Prop} {T : Txn σ ρ} {T' : Txn σ' ρ'}
    (h : Sim R Q T T') {s : σ} {s' : σ'} (hs : R s s') : R (T.run s) (T'.run s') :=
  h.write (h.read hs) hs

/-- Related stores, and related snapshots where there are any. -/
structure SimConf (R : σ → σ' → Prop) (Q₁ : ρ₁ → ρ₁' → Prop) (Q₂ : ρ₂ → ρ₂' → Prop)
    (c : Conf σ ρ₁ ρ₂) (c' : Conf σ' ρ₁' ρ₂') : Prop where
  store : R c.store c'.store
  snap₁ : Option.Rel Q₁ c.snap₁ c'.snap₁
  snap₂ : Option.Rel Q₂ c.snap₂ c'.snap₂

variable {R : σ → σ' → Prop} {Q₁ : ρ₁ → ρ₁' → Prop} {Q₂ : ρ₂ → ρ₂' → Prop} {T₁ : Txn σ ρ₁}
  {T₂ : Txn σ ρ₂} {T₁' : Txn σ' ρ₁'} {T₂' : Txn σ' ρ₂'}

/-- A write respects the relation, whether its transaction has read yet or not. -/
lemma Sim.elim {Q : ρ → ρ' → Prop} {T : Txn σ ρ} {T' : Txn σ' ρ'} (h : Sim R Q T T') {s : σ}
    {s' : σ'} (hs : R s s') {r : Option ρ} {r' : Option ρ'} (hr : Option.Rel Q r r') :
    R (r.elim s (T.write · s)) (r'.elim s' (T'.write · s')) := by
  cases hr with
  | none => exact hs
  | some hq => exact h.write hq hs

lemma SimConf.exec (h₁ : Sim R Q₁ T₁ T₁') (h₂ : Sim R Q₂ T₂ T₂') {c : Conf σ ρ₁ ρ₂}
    {c' : Conf σ' ρ₁' ρ₂'} (h : SimConf R Q₁ Q₂ c c') (a : Step) :
    SimConf R Q₁ Q₂ (exec T₁ T₂ c a) (exec T₁' T₂' c' a) := by
  cases a with
  | read₁ => exact ⟨h.store, .some (h₁.read h.store), h.snap₂⟩
  | write₁ => exact ⟨h₁.elim h.store h.snap₁, h.snap₁, h.snap₂⟩
  | read₂ => exact ⟨h.store, h.snap₁, .some (h₂.read h.store)⟩
  | write₂ => exact ⟨h₂.elim h.store h.snap₂, h.snap₁, h.snap₂⟩

/-- **Simulation**: what the reads and the writes respect, every schedule does. -/
theorem outcome_sim (h₁ : Sim R Q₁ T₁ T₁') (h₂ : Sim R Q₂ T₂ T₂') (w : List Step) {s : σ}
    {s' : σ'} (hs : R s s') : R (outcome T₁ T₂ w s) (outcome T₁' T₂' w s') := by
  have hrun : ∀ (w : List Step) (c : Conf σ ρ₁ ρ₂) (c' : Conf σ' ρ₁' ρ₂'),
      SimConf R Q₁ Q₂ c c' →
      SimConf R Q₁ Q₂ (w.foldl (exec T₁ T₂) c) (w.foldl (exec T₁' T₂') c') := by
    intro w
    induction w with
    | nil => exact fun c c' h => h
    | cons a w ih => exact fun c c' h => ih _ _ (h.exec h₁ h₂ a)
  exact (hrun w _ _ ⟨hs, .none, .none⟩).store

end Interleave
