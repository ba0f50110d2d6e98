import V2raySub.Base.AutoTable

/-!
Tables whose live rows are shown in the order of a rank.

* `Ranked.Distinct`: no two live rows have one rank, so that the ranks order them totally.
* `Ranked.Extends`: the rows that stay live keep their order, and new live rows come after them;
  `refl`, `trans`, and the statements that have the property: `insert` at the end, `update` of
  what is not the rank, and any change of the ranks that keeps their order (`of_get`).
* `Extends.distinct`: a table that extends one with distinct ranks has distinct ranks.
* `OrderBy.idxOf_lt`: where a query with an `ORDER BY` puts two rows it tells apart.
-/

namespace Ranked

variable {α : Type*} (live : α → Bool) (rank : α → ℤ)

/-- No two live rows have one rank. -/
def Distinct (t : AutoTable α) : Prop :=
  ∀ i j c d, t.get i = some c → t.get j = some d → live c → live d → rank c = rank d → i = j

/-- What becomes of the order when rows are added at its end or taken out of it. -/
structure Extends (t t' : AutoTable α) : Prop where
  stays : ∀ i c, t.get i = some c → ∃ c', t'.get i = some c'
  dead : ∀ i c c', t.get i = some c → t'.get i = some c' → live c' → live c
  /-- The rows that stay live keep their order. -/
  keeps : ∀ i j c d c' d', t.get i = some c → t.get j = some d → t'.get i = some c' →
    t'.get j = some d' → live c' → live d' → (rank c < rank d ↔ rank c' < rank d')
  /-- A new row comes after the others. -/
  last : ∀ i j c' d d', t.get i = none → t'.get i = some c' → t.get j = some d →
    t'.get j = some d' → live c' → live d' → rank d' < rank c'
  /-- So it does among the new rows. -/
  fresh : ∀ i j c' d', t.get i = none → t.get j = none → t'.get i = some c' →
    t'.get j = some d' → live c' → live d' → rank c' = rank d' → i = j

variable {live rank} {t t' t'' : AutoTable α}

lemma distinct_empty : Distinct live rank .empty := by
  intro i j c d hc
  rw [AutoTable.get_empty] at hc
  cases hc

/-- A change of the rows that are there, row by row. -/
lemma Extends.of_get {g : ℕ → α → α} (hget : ∀ i, t'.get i = (t.get i).map (g i))
    (hlive : ∀ i c, t.get i = some c → live (g i c) → live c)
    (hrank : ∀ i j c d, t.get i = some c → t.get j = some d → live c → live d →
      (rank c < rank d ↔ rank (g i c) < rank (g j d))) : Extends live rank t t' := by
  have hsome : ∀ {i c}, t.get i = some c → t'.get i = some (g i c) := fun {i c} hc => by
    rw [hget, hc, Option.map_some]
  have hnone : ∀ {i c'}, t.get i = none → t'.get i ≠ some c' := fun {i c'} hn hc => by
    rw [hget, hn] at hc
    cases hc
  refine ⟨fun i c hc => ⟨_, hsome hc⟩, fun i c c' hc hc' hl => ?_,
    fun i j c d c' d' hc hd hc' hd' hlc hld => ?_, fun i j c' d d' hn hc' => (hnone hn hc').elim,
    fun i j c' d' hn _ hc' => (hnone hn hc').elim⟩
  · rw [hsome hc, Option.some.injEq] at hc'
    exact hlive i c hc (hc' ▸ hl)
  · rw [hsome hc, Option.some.injEq] at hc'
    rw [hsome hd, Option.some.injEq] at hd'
    subst hc' hd'
    exact hrank i j c d hc hd (hlive i c hc hlc) (hlive j d hd hld)

lemma Extends.refl (t : AutoTable α) : Extends live rank t t :=
  .of_get (g := fun _ => id) (fun i => by rw [Option.map_id]; rfl) (fun _ _ _ h => h)
    fun _ _ _ _ _ _ _ _ => Iff.rfl

lemma Extends.trans (h : Extends live rank t t') (h' : Extends live rank t' t'') :
    Extends live rank t t'' := by
  refine ⟨fun i c hc => ?_, fun i c c'' hc hc'' hl => ?_,
    fun i j c d c'' d'' hc hd hc'' hd'' hlc hld => ?_,
    fun i j c'' d d'' hn hc'' hd hd'' hlc hld => ?_,
    fun i j c'' d'' hi hj hc'' hd'' hlc hld heq => ?_⟩
  · obtain ⟨c', hc'⟩ := h.stays i c hc
    exact h'.stays i c' hc'
  · obtain ⟨c', hc'⟩ := h.stays i c hc
    exact h.dead i c c' hc hc' (h'.dead i c' c'' hc' hc'' hl)
  · obtain ⟨c', hc'⟩ := h.stays i c hc
    obtain ⟨d', hd'⟩ := h.stays j d hd
    have hlc' := h'.dead i c' c'' hc' hc'' hlc
    have hld' := h'.dead j d' d'' hd' hd'' hld
    exact (h.keeps i j c d c' d' hc hd hc' hd' hlc' hld').trans
      (h'.keeps i j c' d' c'' d'' hc' hd' hc'' hd'' hlc hld)
  · obtain ⟨d', hd'⟩ := h.stays j d hd
    cases hc' : t'.get i with
    | none => exact h'.last i j c'' d' d'' hc' hc'' hd' hd'' hlc hld
    | some c' =>
        have hlt := h.last i j c' d d' hn hc' hd hd' (h'.dead i c' c'' hc' hc'' hlc)
          (h'.dead j d' d'' hd' hd'' hld)
        exact (h'.keeps j i d' c' d'' c'' hd' hc' hd'' hc'' hld hlc).mp hlt
  · cases hc' : t'.get i with
    | none =>
        cases hd' : t'.get j with
        | none => exact h'.fresh i j c'' d'' hc' hd' hc'' hd'' hlc hld heq
        | some d' =>
            have hlt := h'.last i j c'' d' d'' hc' hc'' hd' hd'' hlc hld
            omega
    | some c' =>
        cases hd' : t'.get j with
        | none =>
            have hlt := h'.last j i d'' c' c'' hd' hd'' hc' hc'' hld hlc
            omega
        | some d' =>
            have hlc' := h'.dead i c' c'' hc' hc'' hlc
            have hld' := h'.dead j d' d'' hd' hd'' hld
            have h1 := h'.keeps i j c' d' c'' d'' hc' hd' hc'' hd'' hlc hld
            have h2 := h'.keeps j i d' c' d'' c'' hd' hc' hd'' hc'' hld hlc
            exact h.fresh i j c' d' hi hj hc' hd' hlc' hld' (by omega)

/-- Distinct ranks stay distinct. -/
lemma Extends.distinct (h : Extends live rank t t') (ht : Distinct live rank t) :
    Distinct live rank t' := by
  intro i j c' d' hc' hd' hlc hld heq
  cases hc : t.get i with
  | none =>
      cases hd : t.get j with
      | none => exact h.fresh i j c' d' hc hd hc' hd' hlc hld heq
      | some d =>
          have hlt := h.last i j c' d d' hc hc' hd hd' hlc hld
          omega
  | some c =>
      cases hd : t.get j with
      | none =>
          have hlt := h.last j i d' c c' hd hd' hc hc' hld hlc
          omega
      | some d =>
          have h1 := h.keeps i j c d c' d' hc hd hc' hd' hlc hld
          have h2 := h.keeps j i d c d' c' hd hc hd' hc' hld hlc
          exact ht i j c d hc hd (h.dead i c c' hc hc' hlc) (h.dead j d d' hd hd' hld) (by omega)

/-- An insertion at the end. -/
lemma Extends.insert {a : α} (hlast : ∀ i c, t.get i = some c → live c → rank c < rank a) :
    Extends live rank t (t.insert a) := by
  have hold : ∀ {i c c'}, t.get i = some c → (t.insert a).get i = some c' → c' = c :=
    fun {i c c'} hc hc' => by
      rw [AutoTable.get_insert_of_get hc, Option.some.injEq] at hc'
      exact hc'.symm
  have hnew : ∀ {i c'}, t.get i = none → (t.insert a).get i = some c' → i = t.next ∧ c' = a :=
    fun {i c'} hn hc' => by
      rw [AutoTable.get_insert] at hc'
      split_ifs at hc' with hi
      · exact ⟨hi, (Option.some.inj hc').symm⟩
      · rw [hn] at hc'
        cases hc'
  refine ⟨fun i c hc => ⟨c, AutoTable.get_insert_of_get hc⟩, fun i c c' hc hc' hl => ?_,
    fun i j c d c' d' hc hd hc' hd' _ _ => ?_, fun i j c' d d' hn hc' hd hd' _ hld => ?_,
    fun i j c' d' hi hj hc' hd' _ _ _ => ?_⟩
  · rwa [hold hc hc'] at hl
  · rw [hold hc hc', hold hd hd']
  · rw [(hnew hn hc').2]
    rw [hold hd hd'] at hld ⊢
    exact hlast j d hd hld
  · rw [(hnew hi hc').1, (hnew hj hd').1]

/-- An update that leaves the rank alone and revives no row. -/
lemma Extends.update (t : AutoTable α) (p : ℕ → α → Bool) {f : α → α}
    (hf : ∀ i c, t.get i = some c → p i c → (live (f c) → live c) ∧ rank (f c) = rank c) :
    Extends live rank t (t.update p f) := by
  have hrank : ∀ i c, t.get i = some c → rank (if p i c then f c else c) = rank c := by
    intro i c hc
    split_ifs with hp
    · exact (hf i c hc hp).2
    · rfl
  refine .of_get (AutoTable.get_update t p f) (fun i c hc hl => ?_)
    fun i j c d hc hd _ _ => by rw [hrank i c hc, hrank j d hd]
  by_cases hp : p i c
  · rw [if_pos hp] at hl
    exact (hf i c hc hp).1 hl
  · rwa [if_neg hp] at hl

lemma Extends.set (t : AutoTable α) (i : ℕ) {f : α → α}
    (hf : ∀ c, t.get i = some c → (live (f c) → live c) ∧ rank (f c) = rank c) :
    Extends live rank t (t.set i f) := by
  refine Extends.update t _ fun j c hc hj => ?_
  obtain rfl : j = i := by simpa using hj
  exact hf c hc

end Ranked

namespace OrderBy

variable {ρ κ : Type*} {le : ρ → ρ → Prop} [DecidableEq κ] {key : ρ → κ}

/-- Of two rows an `ORDER BY` tells apart, the smaller one comes first. -/
lemma idxOf_lt [Std.Total le] (o : OrderBy ρ le) {l : List ρ} (hkey : (l.map key).Nodup)
    {a b : ρ} (ha : a ∈ l) (hb : b ∈ l) (h : ¬ le b a) :
    ((o.sort l).map key).idxOf (key a) < ((o.sort l).map key).idxOf (key b) := by
  have hnodup : ((o.sort l).map key).Nodup := (((o.perm l).map key).nodup_iff).mpr hkey
  have hidx : ∀ (m : ℕ) (hm : m < (o.sort l).length),
      ((o.sort l).map key).idxOf (key (o.sort l)[m]) = m := by
    intro m hm
    have hget := hnodup.idxOf_getElem m (by rwa [List.length_map])
    rwa [List.getElem_map] at hget
  obtain ⟨m, hm, rfl⟩ := List.getElem_of_mem (o.mem_sort.mpr ha)
  obtain ⟨n, hn, rfl⟩ := List.getElem_of_mem (o.mem_sort.mpr hb)
  rw [hidx m hm, hidx n hn]
  by_contra hle
  rcases Nat.lt_or_eq_of_le (not_lt.mp hle) with hlt | rfl
  · exact h (List.pairwise_iff_getElem.mp (o.sorted l) n m hn hm hlt)
  · rcases Std.Total.total (r := le) (o.sort l)[n] (o.sort l)[n] with hr | hr
    · exact h hr
    · exact h hr

end OrderBy

/-- The positions in a list without repetitions. -/
lemma List.map_idxOf_self {κ : Type*} [DecidableEq κ] {l : List κ} (h : l.Nodup) :
    l.map l.idxOf = List.range l.length := by
  refine List.ext_getElem (by rw [List.length_map, List.length_range]) fun n h1 _ => ?_
  rw [List.getElem_map, List.getElem_range]
  exact h.idxOf_getElem n (by rwa [List.length_map] at h1)
