import Mathlib.Algebra.BigOperators.Group.Finset.Basic
import Mathlib.Data.Fintype.Basic

/-!
Any number of calls on one store, each a read followed by a write that uses what was read, in
every interleaving of their steps.

* `Call`: a read, and a write at a time, with an answer; `Event`: a step of one of the calls.
* `IsSchedule`: each call reads once and then writes once; `run`: the store, what each call has
  seen and what it has answered.
* `Blind`: under an invariant, what a call has read makes no difference to its write.
* `run_of_blind`: then every schedule ends like its writes in their order, and every call gets its
  answer; `sum_updates`: each call is among the writes once.
-/

namespace Race

/-- The two steps of a call. -/
inductive Act where
  | read
  | write
  deriving DecidableEq

/-- A step of the call `who` at the time `at_`. -/
structure Event (ι τ : Type*) where
  who : ι
  act : Act
  at_ : τ
  deriving DecidableEq

/-- A call: what it reads, and what it writes and answers on the strength of it. -/
structure Call (σ ρ τ β : Type*) where
  read : σ → ρ
  write : τ → ρ → σ → σ × β

/-- The store, and what each call has seen and answered so far. -/
structure Conf (ι σ ρ β : Type*) where
  store : σ
  seen : ι → Option ρ
  answer : ι → Option β

variable {ι σ ρ τ β : Type*} [DecidableEq ι]

/-- The write of a call that has read. -/
def Conf.write (calls : ι → Call σ ρ τ β) (c : Conf ι σ ρ β) (e : Event ι τ) (r : ρ) :
    Conf ι σ ρ β :=
  let out := (calls e.who).write e.at_ r c.store
  { c with store := out.1, answer := Function.update c.answer e.who (some out.2) }

/-- One step; a write uses what its own call has read. -/
def exec (calls : ι → Call σ ρ τ β) (c : Conf ι σ ρ β) (e : Event ι τ) : Conf ι σ ρ β :=
  match e.act with
  | .read =>
    { c with seen := Function.update c.seen e.who (some ((calls e.who).read c.store)) }
  | .write => (c.seen e.who).elim c (c.write calls e)

/-- The steps, one after the other. -/
def run (calls : ι → Call σ ρ τ β) (s : σ) (evs : List (Event ι τ)) : Conf ι σ ρ β :=
  evs.foldl (exec calls) ⟨s, fun _ => none, fun _ => none⟩

/-- The steps of one call. -/
def actsOf (evs : List (Event ι τ)) (i : ι) : List Act :=
  (evs.filter fun e => e.who = i).map Event.act

/-- Each call reads once and then writes once. -/
def IsSchedule (evs : List (Event ι τ)) : Prop := ∀ i, actsOf evs i = [.read, .write]

/-- The writes in their order. -/
def updates (evs : List (Event ι τ)) : List (ι × τ) :=
  (evs.filter fun e => e.act = .write).map fun e => (e.who, e.at_)

lemma actsOf_cons_self (e : Event ι τ) (evs : List (Event ι τ)) :
    actsOf (e :: evs) e.who = e.act :: actsOf evs e.who := by simp [actsOf]

lemma actsOf_cons_of_ne {e : Event ι τ} {i : ι} (h : e.who ≠ i) (evs : List (Event ι τ)) :
    actsOf (e :: evs) i = actsOf evs i := by simp [actsOf, h]

/-! ### Writes that do not depend on what was read -/

/-- Under the invariant `P`, whatever a call has read, its write is `apply` and it answers
`reply`; `apply` keeps the invariant. -/
structure Blind (calls : ι → Call σ ρ τ β) (P : σ → Prop) (apply : ι → τ → σ → σ)
    (reply : ι → β) : Prop where
  write : ∀ i t s s', P s → P s' →
    (calls i).write t ((calls i).read s) s' = (apply i t s', reply i)
  keeps : ∀ i t s, P s → P (apply i t s)

/-- What a call that still has some steps to make has done so far. -/
def Ready (calls : ι → Call σ ρ τ β) (P : σ → Prop) (reply : ι → β) (c : Conf ι σ ρ β) (i : ι) :
    List Act → Prop
  | [.read, .write] => True
  | [.write] => ∃ s, P s ∧ c.seen i = some ((calls i).read s)
  | [] => c.answer i = some (reply i)
  | _ => False

variable {calls : ι → Call σ ρ τ β} {P : σ → Prop} {apply : ι → τ → σ → σ} {reply : ι → β}
  {c : Conf ι σ ρ β}

omit [DecidableEq ι] in
/-- A call that has not moved is as ready as before. -/
lemma Ready.congr {c' : Conf ι σ ρ β} {i : ι} {acts : List Act}
    (h : Ready calls P reply c i acts) (hs : c'.seen i = c.seen i)
    (ha : c'.answer i = c.answer i) : Ready calls P reply c' i acts := by
  unfold Ready at h ⊢
  rw [hs, ha]
  exact h

/-- One step: the store moves if it is a write, and every call is ready for what is left. -/
lemma exec_of_blind (hb : Blind calls P apply reply) (hs : P c.store) (e : Event ι τ)
    (evs : List (Event ι τ)) (hr : ∀ i, Ready calls P reply c i (actsOf (e :: evs) i)) :
    (exec calls c e).store
        = (if e.act = .write then apply e.who e.at_ c.store else c.store)
      ∧ ∀ i, Ready calls P reply (exec calls c e) i (actsOf evs i) := by
  have hself := hr e.who
  rw [actsOf_cons_self] at hself
  have hother : ∀ i, e.who ≠ i → Ready calls P reply c i (actsOf evs i) := fun i hi => by
    have h := hr i
    rwa [actsOf_cons_of_ne hi] at h
  cases ha : e.act with
  | read =>
      have hex : exec calls c e = { c with
          seen := Function.update c.seen e.who (some ((calls e.who).read c.store)) } := by
        rw [exec, ha]
      rw [ha] at hself
      rw [hex]
      refine ⟨rfl, fun i => ?_⟩
      by_cases hi : e.who = i
      · subst hi
        match hacts : actsOf evs e.who, hself with
        | [.write], _ => exact ⟨c.store, hs, by simp⟩
      · exact (hother i hi).congr (by simp [Ne.symm hi]) rfl
  | write =>
      rw [ha] at hself
      match hacts : actsOf evs e.who, hself with
      | [], ⟨s, hps, hseen⟩ =>
          have hex : exec calls c e = c.write calls e ((calls e.who).read s) := by
            rw [exec, ha, hseen]
            rfl
          have hw := hb.write e.who e.at_ s c.store hps hs
          rw [hex]
          refine ⟨?_, fun i => ?_⟩
          · simp only [Conf.write, hw, if_true]
          · by_cases hi : e.who = i
            · subst hi
              rw [hacts]
              show Function.update c.answer e.who _ e.who = _
              rw [Function.update_self, hw]
            · refine (hother i hi).congr rfl ?_
              show Function.update c.answer e.who _ i = _
              rw [Function.update_of_ne (Ne.symm hi)]

/-- **Every schedule ends like its writes in their order**, and every call gets its answer. -/
theorem run_of_blind (hb : Blind calls P apply reply) {s : σ} (hs : P s)
    {evs : List (Event ι τ)} (hw : IsSchedule evs) :
    (run calls s evs).store = (updates evs).foldl (fun s w => apply w.1 w.2 s) s
      ∧ ∀ i, (run calls s evs).answer i = some (reply i) := by
  have hrun : ∀ (evs : List (Event ι τ)) (c : Conf ι σ ρ β), P c.store →
      (∀ i, Ready calls P reply c i (actsOf evs i)) →
      (evs.foldl (exec calls) c).store
          = (updates evs).foldl (fun s w => apply w.1 w.2 s) c.store
        ∧ ∀ i, (evs.foldl (exec calls) c).answer i = some (reply i) := by
    intro evs
    induction evs with
    | nil => exact fun c _ hr => ⟨rfl, hr⟩
    | cons e evs ih =>
        intro c hc hr
        obtain ⟨hstore, hready⟩ := exec_of_blind hb hc e evs hr
        have hp : P (exec calls c e).store := by
          rw [hstore]
          split_ifs
          · exact hb.keeps _ _ _ hc
          · exact hc
        obtain ⟨h1, h2⟩ := ih (exec calls c e) hp hready
        refine ⟨?_, h2⟩
        rw [List.foldl_cons, h1, hstore]
        by_cases ha : e.act = .write
        · simp [updates, ha]
        · simp [updates, ha]
  refine hrun evs ⟨s, fun _ => none, fun _ => none⟩ hs fun i => ?_
  rw [hw i]
  trivial

/-! ### The writes of a schedule -/

lemma count_updates {evs : List (Event ι τ)} (hw : IsSchedule evs) (i : ι) :
    ((updates evs).map Prod.fst).count i = 1 := by
  have hfst : (updates evs).map Prod.fst
      = (evs.filter fun e => e.act = .write).map Event.who := by
    rw [updates, List.map_map]
    rfl
  have hacts : ((actsOf evs i).filter fun a => a = .write).length = 1 := by
    rw [hw i]
    rfl
  rw [actsOf, List.filter_map, List.length_map, List.filter_filter] at hacts
  rw [hfst, List.count, List.countP_map, List.countP_filter, ← hacts, List.countP_eq_length_filter]
  congr 1
  refine List.filter_congr fun e _ => ?_
  by_cases h : e.who = i <;> simp [h]

/-- Each call is among the writes once. -/
theorem sum_updates [Fintype ι] {M : Type*} [AddCommMonoid M] {evs : List (Event ι τ)}
    (hw : IsSchedule evs) (f : ι → M) :
    ((updates evs).map fun w => f w.1).sum = ∑ i, f i := by
  have hperm : (((updates evs).map Prod.fst : List ι) : Multiset ι) = Finset.univ.val := by
    refine Multiset.ext.mpr fun i => ?_
    rw [Multiset.coe_count, count_updates hw, Multiset.count_univ]
  have hmap : (updates evs).map (fun w => f w.1) = ((updates evs).map Prod.fst).map f := by
    rw [List.map_map]
    rfl
  rw [hmap, Finset.sum, ← hperm, Multiset.map_coe, Multiset.sum_coe]

end Race
