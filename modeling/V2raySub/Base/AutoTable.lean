import Mathlib.Data.List.Sort
import V2raySub.Base.Rows

/-!
Tables with an `INTEGER PRIMARY KEY AUTOINCREMENT`.

* `AutoTable`: the rows with their ids and the id the next `INSERT` hands out; no id is
  repeated and every id was handed out, so a table that breaks its key cannot be built.
* `insert`, `update`, `set`, `delete`, `count`: the statements, each with what it does to a
  later `get`; `count_set` and `count_insert` are what they do to a later count.
* `Fetch`: which row a `fetchone()` hands back when the query has no `ORDER BY`; `OrderBy`: in
  which order an `ORDER BY` puts the rows it does not tell apart.
-/

/-- A table under an `AUTOINCREMENT` key; `α` is the row without its id. -/
@[ext] structure AutoTable (α : Type*) where
  rows : List (ℕ × α)
  next : ℕ
  keyed : Rows.Keyed Prod.fst rows
  fresh : ∀ r ∈ rows, r.1 < next

namespace AutoTable

variable {α : Type*}

instance [DecidableEq α] : DecidableEq (AutoTable α) := fun s t =>
  decidable_of_iff (s.rows = t.rows ∧ s.next = t.next)
    (AutoTable.ext_iff (x := s) (y := t)).symm

/-- `SELECT * FROM t WHERE id = i`. -/
def get (t : AutoTable α) (i : ℕ) : Option α := (Rows.get Prod.fst t.rows i).map Prod.snd

/-- A lookup finds the row that is listed under the id. -/
lemma get_eq_some_iff {t : AutoTable α} {i : ℕ} {a : α} :
    t.get i = some a ↔ (i, a) ∈ t.rows := by
  refine ⟨fun h => ?_, fun h => ?_⟩
  · obtain ⟨r, hr, rfl⟩ := Option.map_eq_some_iff.mp h
    have hi := Rows.key_of_get hr
    subst hi
    exact Rows.get_mem hr
  · have hg : Rows.get Prod.fst t.rows i = some (i, a) := t.keyed.get_of_mem h
    rw [get, hg]
    rfl

/-! ### The statements -/

lemma keyed_nil : Rows.Keyed Prod.fst ([] : List (ℕ × α)) := List.nodup_nil

lemma fresh_nil : ∀ r ∈ ([] : List (ℕ × α)), r.1 < 1 := by simp

/-- The table as `CREATE TABLE` leaves it. -/
def empty : AutoTable α where
  rows := []
  next := 1
  keyed := keyed_nil
  fresh := fresh_nil

/-- The next id is a new one. -/
lemma keyed_insert (t : AutoTable α) (a : α) :
    Rows.Keyed Prod.fst (t.rows ++ [(t.next, a)]) :=
  t.keyed.insert fun r hr => Nat.ne_of_lt (t.fresh r hr)

/-- After an insertion the next id is still larger than all that were handed out. -/
lemma fresh_insert (t : AutoTable α) (a : α) :
    ∀ r ∈ t.rows ++ [(t.next, a)], r.1 < t.next + 1 := by
  intro r hr
  rcases List.mem_append.mp hr with h | h
  · exact Nat.lt_succ_of_lt (t.fresh r h)
  · rw [List.mem_singleton.mp h]
    exact Nat.lt_succ_self _

/-- `INSERT INTO t VALUES a`; its `lastrowid` is `t.next`. -/
def insert (t : AutoTable α) (a : α) : AutoTable α where
  rows := t.rows ++ [(t.next, a)]
  next := t.next + 1
  keyed := t.keyed_insert a
  fresh := t.fresh_insert a

/-- What `UPDATE … SET f WHERE p` makes of one row. -/
def updateRow (p : ℕ → α → Bool) (f : α → α) (r : ℕ × α) : ℕ × α :=
  if p r.1 r.2 then (r.1, f r.2) else r

@[simp] lemma updateRow_fst (p : ℕ → α → Bool) (f : α → α) (r : ℕ × α) :
    (updateRow p f r).1 = r.1 := by
  rw [updateRow]
  split_ifs <;> rfl

/-- An update changes the rows it is for. -/
@[simp] lemma updateRow_snd (p : ℕ → α → Bool) (f : α → α) (r : ℕ × α) :
    (updateRow p f r).2 = if p r.1 r.2 then f r.2 else r.2 := by
  rw [updateRow]
  split_ifs <;> rfl

/-- An update keeps the ids. -/
lemma keyed_update (t : AutoTable α) (p : ℕ → α → Bool) (f : α → α) :
    Rows.Keyed Prod.fst (t.rows.map (updateRow p f)) := by
  have h : (Prod.fst ∘ updateRow p f : ℕ × α → ℕ) = Prod.fst := funext (updateRow_fst p f)
  rw [Rows.Keyed, List.map_map, h]
  exact t.keyed

lemma fresh_update (t : AutoTable α) (p : ℕ → α → Bool) (f : α → α) :
    ∀ r ∈ t.rows.map (updateRow p f), r.1 < t.next := by
  intro r hr
  obtain ⟨r₀, h₀, rfl⟩ := List.mem_map.mp hr
  rw [updateRow_fst]
  exact t.fresh r₀ h₀

/-- `UPDATE t SET f WHERE p`. -/
def update (t : AutoTable α) (p : ℕ → α → Bool) (f : α → α) : AutoTable α where
  rows := t.rows.map (updateRow p f)
  next := t.next
  keyed := t.keyed_update p f
  fresh := t.fresh_update p f

/-- `UPDATE t SET f WHERE id = i`. -/
def set (t : AutoTable α) (i : ℕ) (f : α → α) : AutoTable α := t.update (fun j _ => j = i) f

lemma keyed_delete (t : AutoTable α) (p : α → Bool) :
    Rows.Keyed Prod.fst (t.rows.filter fun r => !p r.2) :=
  t.keyed.sublist (List.filter_sublist.map _)

lemma fresh_delete (t : AutoTable α) (p : α → Bool) :
    ∀ r ∈ t.rows.filter fun r => !p r.2, r.1 < t.next :=
  fun r hr => t.fresh r (List.mem_of_mem_filter hr)

/-- `DELETE FROM t WHERE p`. -/
def delete (t : AutoTable α) (p : α → Bool) : AutoTable α where
  rows := t.rows.filter fun r => !p r.2
  next := t.next
  keyed := t.keyed_delete p
  fresh := t.fresh_delete p

/-- `SELECT COUNT(*) FROM t WHERE p`. -/
def count (t : AutoTable α) (p : α → Bool) : ℕ := t.rows.countP fun r => p r.2

/-! ### What a statement does to a later read -/

variable {t : AutoTable α}

/-- The rows after an update. -/
lemma mem_update {p : ℕ → α → Bool} {f : α → α} {i : ℕ} {b : α} :
    (i, b) ∈ (t.update p f).rows ↔ ∃ a, (i, a) ∈ t.rows ∧ b = if p i a then f a else a := by
  refine ⟨fun h => ?_, ?_⟩
  · obtain ⟨⟨j, a⟩, ha, he⟩ := List.mem_map.mp h
    obtain rfl : j = i := by simpa using congrArg Prod.fst he
    exact ⟨a, ha, by simpa using (congrArg Prod.snd he).symm⟩
  · rintro ⟨a, ha, rfl⟩
    refine List.mem_map.mpr ⟨(i, a), ha, Prod.ext ?_ ?_⟩ <;> simp

/-- A lookup after an update. -/
@[simp] lemma get_update (t : AutoTable α) (p : ℕ → α → Bool) (f : α → α) (i : ℕ) :
    (t.update p f).get i = (t.get i).map fun a => if p i a then f a else a := by
  ext b
  simp only [get_eq_some_iff, mem_update, Option.map_eq_some_iff]
  exact ⟨fun ⟨a, h, e⟩ => ⟨a, h, e.symm⟩, fun ⟨a, h, e⟩ => ⟨a, h, e.symm⟩⟩

/-- A lookup after the update of one row. -/
lemma get_set (t : AutoTable α) (i : ℕ) (f : α → α) (j : ℕ) :
    (t.set i f).get j = if j = i then (t.get j).map f else t.get j := by
  rw [set, get_update]
  by_cases h : j = i
  · simp [h]
  · cases t.get j <;> simp [h]

@[simp] lemma get_set_self (t : AutoTable α) (i : ℕ) (f : α → α) :
    (t.set i f).get i = (t.get i).map f := by rw [get_set, if_pos rfl]

lemma get_set_of_ne (t : AutoTable α) {i j : ℕ} (f : α → α) (h : j ≠ i) :
    (t.set i f).get j = t.get j := by rw [get_set, if_neg h]

/-- What is found was handed out. -/
lemma lt_next_of_get {i : ℕ} {a : α} (h : t.get i = some a) : i < t.next :=
  t.fresh _ (get_eq_some_iff.mp h)

/-- The next id is free. -/
@[simp] lemma get_next (t : AutoTable α) : t.get t.next = none := by
  cases h : t.get t.next with
  | none => rfl
  | some a => exact absurd (lt_next_of_get h) (Nat.lt_irrefl _)

/-- A lookup after an insertion. -/
lemma get_insert (t : AutoTable α) (a : α) (i : ℕ) :
    (t.insert a).get i = if i = t.next then some a else t.get i := by
  ext b
  rw [get_eq_some_iff, insert, List.mem_append, List.mem_singleton, ← get_eq_some_iff,
    Prod.mk.injEq]
  by_cases h : i = t.next
  · simp [h, eq_comm]
  · simp [h]

/-- An insertion hides no row. -/
lemma get_insert_of_get {a b : α} {i : ℕ} (h : t.get i = some b) :
    (t.insert a).get i = some b := by
  rw [get_insert, if_neg (Nat.ne_of_lt (lt_next_of_get h)), h]

lemma get_empty (i : ℕ) : (empty : AutoTable α).get i = none := rfl

/-! ### Counting -/

/-- A count after an insertion. -/
lemma count_insert (t : AutoTable α) (a : α) (p : α → Bool) :
    (t.insert a).count p = t.count p + if p a then 1 else 0 := by
  simp [count, insert, List.countP_cons]

/-- The update of a row that is not there changes no count. -/
lemma countP_update_of_notMem {rows : List (ℕ × α)} {i : ℕ} (f : α → α) (p : α → Bool)
    (h : i ∉ rows.map Prod.fst) :
    (rows.map (updateRow (fun j _ => j = i) f)).countP (fun r => p r.2)
      = rows.countP fun r => p r.2 := by
  rw [List.countP_map]
  refine List.countP_congr fun r hr => ?_
  have hne : r.1 ≠ i := fun e => h (e ▸ List.mem_map_of_mem hr)
  simp [hne]

/-- A keyed update of a row that is there moves the count by what it does to that row. -/
lemma count_set {i : ℕ} {a : α} (f : α → α) (p : α → Bool) (h : t.get i = some a) :
    (t.set i f).count p + (if p a then 1 else 0)
      = t.count p + if p (f a) then 1 else 0 := by
  have hmem := get_eq_some_iff.mp h
  have hk := t.keyed
  show (t.rows.map (updateRow (fun j _ => j = i) f)).countP (fun r => p r.2) + _
    = t.rows.countP (fun r => p r.2) + _
  generalize t.rows = rows at hmem hk
  induction rows with
  | nil => simp at hmem
  | cons r rows ih =>
      rw [Rows.Keyed, List.map_cons, List.nodup_cons] at hk
      rw [List.map_cons, List.countP_cons, List.countP_cons]
      rcases List.mem_cons.mp hmem with rfl | hmem'
      · rw [countP_update_of_notMem f p hk.1]
        simp only [updateRow_snd, decide_true, if_true]
        omega
      · have hne : r.1 ≠ i := by
          intro e
          exact hk.1 (e ▸ List.mem_map_of_mem hmem')
        have hr := ih hmem' hk.2
        simp only [updateRow_snd, hne, decide_false, Bool.false_eq_true, if_false] at hr ⊢
        omega

end AutoTable

/-! ### Reads without an order -/

/-- The row one `fetchone()` hands back out of those that match, when the query has no
`ORDER BY`: some row if there is one. -/
structure Fetch (ρ : Type*) where
  one : List ρ → Option ρ
  mem : ∀ l r, one l = some r → r ∈ l
  total : ∀ l, l ≠ [] → (one l).isSome

namespace Fetch

variable {ρ : Type*}

/-- The row that is preferred is one of the list. -/
lemma prefer_mem (p : ρ → Bool) (l : List ρ) (r : ρ) (h : ((l.find? p).or l.head?) = some r) :
    r ∈ l := by
  rcases Option.or_eq_some_iff.mp h with h | ⟨-, h⟩
  · exact List.mem_of_find?_eq_some h
  · exact List.mem_of_mem_head? h

/-- A list with a row has one that is preferred. -/
lemma prefer_total (p : ρ → Bool) (l : List ρ) (h : l ≠ []) :
    ((l.find? p).or l.head?).isSome := by
  cases l with
  | nil => exact absurd rfl h
  | cons a l => cases hf : (a :: l).find? p <;> simp

/-- The fetch that hands back a row with the property `p` when one matches. -/
def prefer (p : ρ → Bool) : Fetch ρ where
  one l := (l.find? p).or l.head?
  mem := prefer_mem p
  total := prefer_total p

/-- Where a row has the property, the row that is preferred has it. -/
lemma one_prefer {p : ρ → Bool} {l : List ρ} (h : ∃ r ∈ l, p r) :
    ∃ r ∈ l, p r ∧ (prefer p).one l = some r := by
  obtain ⟨a, ha, hp⟩ := h
  obtain ⟨r, hr⟩ := Option.isSome_iff_exists.mp (List.find?_isSome.mpr ⟨a, ha, hp⟩)
  exact ⟨r, List.mem_of_find?_eq_some hr, List.find?_some hr, by simp [prefer, hr]⟩

/-- A series of fetches with one more in front. -/
def prepend (f : Fetch ρ) (fs : ℕ → Fetch ρ) : ℕ → Fetch ρ
  | 0 => f
  | n + 1 => fs n

end Fetch

/-- The order one `ORDER BY` puts the rows in: sorted by its columns, ties as the database likes. -/
structure OrderBy (ρ : Type*) (le : ρ → ρ → Prop) where
  sort : List ρ → List ρ
  perm : ∀ l, (sort l).Perm l
  sorted : ∀ l, (sort l).Pairwise le

namespace OrderBy

variable {ρ : Type*} {le : ρ → ρ → Prop}

/-- An ordered query gives the rows of the table. -/
@[simp] lemma mem_sort (o : OrderBy ρ le) {l : List ρ} {r : ρ} : r ∈ o.sort l ↔ r ∈ l :=
  (o.perm l).mem_iff

/-- Ties in the order of the table. -/
def stable [DecidableRel le] [Std.Total le] [IsTrans ρ le] : OrderBy ρ le where
  sort := List.insertionSort le
  perm := List.perm_insertionSort le
  sorted := List.pairwise_insertionSort le

end OrderBy
