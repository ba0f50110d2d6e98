import Mathlib.Data.List.Basic
import Mathlib.Data.List.Nodup

/-!
Tables as lists of rows with a key: the statements `SELECT … WHERE key = k`,
`UPDATE … WHERE key = k AND p`, `DELETE … WHERE p` and `INSERT` of a fresh row.

* `get`, `update`, `rowcount`: the three readings of a keyed statement; `get_update_self`
  and `get_update_of_ne` say what a keyed update does to a later read.
* `Keyed`: the primary key is not repeated, kept by `update` (`Keyed.update`) and by the
  insertion of a fresh key (`Keyed.insert`).
-/

namespace Rows

variable {ρ κ : Type*} [DecidableEq κ] (key : ρ → κ)

/-- The row a keyed `SELECT` fetches, if there is one. -/
def get (rows : List ρ) (k : κ) : Option ρ := rows.find? fun r => key r = k

/-- `UPDATE … SET f WHERE key = k AND p`. -/
def update (rows : List ρ) (k : κ) (p : ρ → Bool) (f : ρ → ρ) : List ρ :=
  rows.map fun r => if key r = k ∧ p r then f r else r

/-- The number of rows a keyed `UPDATE` touches. -/
def rowcount (rows : List ρ) (k : κ) (p : ρ → Bool) : ℕ :=
  rows.countP fun r => key r = k ∧ p r

/-- The key identifies a row: the primary key of the table. -/
def Keyed (rows : List ρ) : Prop := (rows.map key).Nodup

variable {key}

lemma get_mem {rows : List ρ} {k : κ} {r : ρ} (h : get key rows k = some r) : r ∈ rows :=
  List.mem_of_find?_eq_some h

lemma key_of_get {rows : List ρ} {k : κ} {r : ρ} (h : get key rows k = some r) : key r = k := by
  simpa [get] using List.find?_some h

/-- A keyed table fetches back each of its rows. -/
lemma Keyed.get_of_mem {rows : List ρ} (hk : Keyed key rows) {r : ρ} (hr : r ∈ rows) :
    get key rows (key r) = some r := by
  induction rows with
  | nil => simp at hr
  | cons a rows ih =>
      simp only [Keyed, List.map_cons, List.nodup_cons] at hk
      rcases List.mem_cons.mp hr with rfl | hr'
      · simp [get]
      · have hne : key a ≠ key r := fun h => hk.1 (h ▸ List.mem_map_of_mem hr')
        have := ih hk.2 hr'
        simpa [get, hne] using this

/-- A keyed update reaches the row with that key. -/
lemma get_update_self {rows : List ρ} {k : κ} {p : ρ → Bool} {f : ρ → ρ}
    (hf : ∀ r, key (f r) = key r) :
    get key (update key rows k p f) k
      = (get key rows k).map fun r => if p r then f r else r := by
  induction rows with
  | nil => rfl
  | cons a rows ih =>
      simp only [get, update, List.map_cons, List.find?_cons] at ih ⊢
      by_cases ha : key a = k
      · by_cases hp : p a <;> simp [ha, hp, hf]
      · simpa [ha] using ih

/-- A keyed update leaves the other keys alone. -/
lemma get_update_of_ne {rows : List ρ} {k k' : κ} {p : ρ → Bool} {f : ρ → ρ}
    (hf : ∀ r, key (f r) = key r) (hne : k' ≠ k) :
    get key (update key rows k p f) k' = get key rows k' := by
  induction rows with
  | nil => rfl
  | cons a rows ih =>
      simp only [get, update, List.map_cons, List.find?_cons] at ih ⊢
      by_cases ha : key a = k
      · have hak : key a ≠ k' := fun h => hne (h.symm.trans ha)
        by_cases hp : p a <;> simp [ha, hp, hf, hne.symm, ih]
      · by_cases hak : key a = k' <;> simp [ha, hak, hne, ih]

/-- A keyed update, read through another key that it keeps. -/
lemma get_update_other {κ' : Type*} [DecidableEq κ'] {key' : ρ → κ'} {rows : List ρ} {k : κ}
    {p : ρ → Bool} {f : ρ → ρ} (hf : ∀ r, key' (f r) = key' r) (k' : κ') :
    get key' (update key rows k p f) k'
      = (get key' rows k').map fun r => if key r = k ∧ p r then f r else r := by
  have hkey : ((fun r => decide (key' r = k')) ∘ fun r => if key r = k ∧ p r then f r else r)
      = fun r => decide (key' r = k') := by
    funext r
    rw [Function.comp_apply]
    split_ifs
    · rw [hf]
    · rfl
  rw [get, update, List.find?_map, hkey, get]

lemma mem_update {rows : List ρ} {k : κ} {p : ρ → Bool} {f : ρ → ρ} {r : ρ}
    (h : r ∈ update key rows k p f) :
    ∃ r₀ ∈ rows, r = if key r₀ = k ∧ p r₀ then f r₀ else r₀ := by
  obtain ⟨r₀, h₀, rfl⟩ := List.mem_map.mp h
  exact ⟨r₀, h₀, rfl⟩

/-- A property of every row survives an update that keeps it on the rows it touches. -/
lemma forall_mem_update {rows : List ρ} {k : κ} {p : ρ → Bool} {f : ρ → ρ} {P : ρ → Prop}
    (hP : ∀ r ∈ rows, P r) (hf : ∀ r ∈ rows, key r = k → p r → P (f r)) :
    ∀ r ∈ update key rows k p f, P r := by
  intro r hr
  obtain ⟨r₀, h₀, rfl⟩ := mem_update hr
  split_ifs with hc
  · exact hf r₀ h₀ hc.1 hc.2
  · exact hP r₀ h₀

lemma map_key_update {rows : List ρ} {k : κ} {p : ρ → Bool} {f : ρ → ρ}
    (hf : ∀ r, key (f r) = key r) : (update key rows k p f).map key = rows.map key := by
  simp only [update, List.map_map, List.map_inj_left, Function.comp_apply]
  intro r _
  split_ifs <;> simp [hf]

/-- A keyed update leaves a column alone that it keeps. -/
lemma map_update_other {β : Type*} {col : ρ → β} {rows : List ρ} {k : κ} {p : ρ → Bool}
    {f : ρ → ρ} (hf : ∀ r, col (f r) = col r) : (update key rows k p f).map col = rows.map col := by
  simp only [update, List.map_map, List.map_inj_left, Function.comp_apply]
  intro r _
  split_ifs
  · exact hf r
  · rfl

/-- An update of one row to a value no other row has keeps a second key. -/
lemma Keyed.update_second {κ' : Type*} {key' : ρ → κ'} {rows : List ρ} (hk : Keyed key rows)
    (hk' : Keyed key' rows) {k : κ} {v : κ'} {f : ρ → ρ} (hf : ∀ r, key' (f r) = v)
    (hv : ∀ r ∈ rows, key' r = v → key r = k) :
    Keyed key' (update key rows k (fun _ => true) f) := by
  rw [Keyed, Rows.update, List.map_map]
  refine (List.Nodup.of_map key hk).map_on fun a ha b hb hab => ?_
  have hinj : ∀ {x y}, x ∈ rows → y ∈ rows → key x = key y → x = y :=
    fun hx hy h => List.inj_on_of_nodup_map hk hx hy h
  by_cases hak : key a = k <;> by_cases hbk : key b = k <;>
    simp only [Function.comp_apply, hak, hbk, true_and, if_true, false_and, if_false] at hab
  · exact hinj ha hb (hak.trans hbk.symm)
  · exact absurd (hv b hb (hab.symm.trans (hf a))) hbk
  · exact absurd (hv a ha (hab.trans (hf b))) hak
  · exact List.inj_on_of_nodup_map hk' ha hb hab

lemma Keyed.update {rows : List ρ} (hk : Keyed key rows) {k : κ} {p : ρ → Bool} {f : ρ → ρ}
    (hf : ∀ r, key (f r) = key r) : Keyed key (update key rows k p f) := by
  rwa [Keyed, map_key_update hf]

omit [DecidableEq κ] in
lemma Keyed.filter {rows : List ρ} (hk : Keyed key rows) (p : ρ → Bool) :
    Keyed key (rows.filter p) :=
  hk.sublist (List.filter_sublist.map key)

omit [DecidableEq κ] in
/-- An insert under a key no row has keeps the table keyed. -/
lemma Keyed.insert {rows : List ρ} (hk : Keyed key rows) {r : ρ}
    (hr : ∀ r₀ ∈ rows, key r₀ ≠ key r) : Keyed key (rows ++ [r]) := by
  simp only [Keyed, List.map_append, List.map_cons, List.map_nil, List.nodup_append] at hk ⊢
  refine ⟨hk, by simp, ?_⟩
  intro a ha b hb
  obtain ⟨r₀, h₀, rfl⟩ := List.mem_map.mp ha
  rw [List.mem_singleton.mp hb]
  exact hr r₀ h₀

/-- A keyed update that finds its row touches it. -/
lemma rowcount_pos {rows : List ρ} {k : κ} {p : ρ → Bool} {r : ρ}
    (h : get key rows k = some r) (hp : p r) : 0 < rowcount key rows k p := by
  rw [rowcount, List.countP_pos_iff]
  exact ⟨r, get_mem h, by simp [key_of_get h, hp]⟩

end Rows
