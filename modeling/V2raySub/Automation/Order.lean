import V2raySub.Base.Ranked
import V2raySub.Automation.Pool

/-!
The display order of the pool (`sort_order`), over the operations that write it: `renumber_configs`
numbers from one, the insertions continue after the largest number, `reorder_configs` writes
positions in a list and has them renumbered.

* `rows_renumberFrom`, `renumbered_spec`: what a renumbering leaves, and that it extends an order
  without ties.
* `extends_orderStep`: every operation but `reorder_configs` keeps the order and adds at its end.
* `reordered`: what `reorder_configs` makes of an order without ties.
* `display_order`: **the order in every state the operations reach from an empty table**.
-/

namespace V2raySub

/-! ### The order of a table -/

/-- The `sort_order`s of the active rows. -/
def activeOrders (t : AutoTable ConfigRow) : List ℤ :=
  (t.rows.filter fun r => r.2.isActive).map fun r => r.2.sortOrder

/-- No two active rows have one `sort_order`. -/
abbrev DistinctOrders (t : AutoTable ConfigRow) : Prop :=
  Ranked.Distinct ConfigRow.isActive ConfigRow.sortOrder t

/-- The rows that stay active keep their order, and new ones come after them. -/
abbrev ExtendsOrder (t t' : AutoTable ConfigRow) : Prop :=
  Ranked.Extends ConfigRow.isActive ConfigRow.sortOrder t t'

/-- The `sort_order`s are `1, …, n`, for the `n` active rows. -/
def Numbered (t : AutoTable ConfigRow) : Prop :=
  (activeOrders t).Perm ((List.range (t.count ConfigRow.isActive)).map fun n : ℕ => 1 + (n : ℤ))

variable {lib : ConfigLib} {t t' : AutoTable ConfigRow}

namespace ConfigService

/-! ### Renumbering -/

/-- What `renumberFrom` makes of a row. -/
def renumberRow (n : ℤ) (ids : List ℕ) (i : ℕ) (c : ConfigRow) : ConfigRow :=
  if i ∈ ids then setSortOrder (n + ids.idxOf i) c else c

@[simp] lemma isActive_renumberRow (n : ℤ) (ids : List ℕ) (i : ℕ) (c : ConfigRow) :
    (renumberRow n ids i c).isActive = c.isActive := by
  rw [renumberRow]
  split_ifs <;> rfl

lemma sortOrder_renumberRow {n : ℤ} {ids : List ℕ} {i : ℕ} (h : i ∈ ids) (c : ConfigRow) :
    (renumberRow n ids i c).sortOrder = n + ids.idxOf i := by
  rw [renumberRow, if_pos h, setSortOrder]

lemma renumberRow_of_notMem {n : ℤ} {ids : List ℕ} {i : ℕ} (h : i ∉ ids) (c : ConfigRow) :
    renumberRow n ids i c = c := if_neg h

/-- The rows after a loop over distinct ids. -/
lemma rows_renumberFrom (n : ℤ) {ids : List ℕ} (h : ids.Nodup) (t : AutoTable ConfigRow) :
    (renumberFrom n ids t).rows = t.rows.map fun r => (r.1, renumberRow n ids r.1 r.2) := by
  induction ids generalizing n t with
  | nil => simp [renumberFrom, renumberRow]
  | cons j ids ih =>
      obtain ⟨hj, hids⟩ := List.nodup_cons.mp h
      rw [renumberFrom, ih (n + 1) hids, AutoTable.set, AutoTable.update, List.map_map]
      refine List.map_congr_left fun r _ => ?_
      rw [Function.comp_apply, AutoTable.updateRow_fst, AutoTable.updateRow_snd]
      by_cases hr : r.1 = j
      · rw [renumberRow_of_notMem (hr ▸ hj), renumberRow, if_pos (by rw [hr]; simp), hr]
        simp
      · have hmem : r.1 ∈ j :: ids ↔ r.1 ∈ ids := by simp [hr]
        have hidx : (j :: ids).idxOf r.1 = ids.idxOf r.1 + 1 := List.idxOf_cons_ne _ (Ne.symm hr)
        simp only [hr, decide_false, Bool.false_eq_true, if_false, renumberRow, hmem, hidx]
        split_ifs
        · simp only [setSortOrder, Nat.cast_add, Nat.cast_one]
          congr 2
          omega
        · rfl

lemma get_renumberFrom_of_nodup (n : ℤ) {ids : List ℕ} (h : ids.Nodup) (t : AutoTable ConfigRow)
    (i : ℕ) : (renumberFrom n ids t).get i = (t.get i).map (renumberRow n ids i) := by
  ext c
  rw [AutoTable.get_eq_some_iff, rows_renumberFrom n h, Option.map_eq_some_iff, List.mem_map]
  refine ⟨fun ⟨r, hr, he⟩ => ?_, fun ⟨d, hd, he⟩ => ?_⟩
  · obtain ⟨rfl, rfl⟩ := Prod.mk.inj he
    exact ⟨r.2, AutoTable.get_eq_some_iff.mpr hr, rfl⟩
  · exact ⟨(i, d), AutoTable.get_eq_some_iff.mp hd, by rw [he]⟩

variable (order : OrderBy (ℕ × ConfigRow) Before)

/-- The ids `renumber_configs` goes through. -/
def sortedIds (t : AutoTable ConfigRow) : List ℕ :=
  (order.sort (t.rows.filter fun r => r.2.isActive)).map Prod.fst

lemma nodup_activeIds (t : AutoTable ConfigRow) :
    ((t.rows.filter fun r => r.2.isActive).map Prod.fst).Nodup :=
  t.keyed.sublist (List.filter_sublist.map _)

lemma nodup_sortedIds (t : AutoTable ConfigRow) : (sortedIds order t).Nodup :=
  (((order.perm _).map Prod.fst).nodup_iff).mpr (nodup_activeIds t)

lemma mem_sortedIds {i : ℕ} {c : ConfigRow} (hc : t.get i = some c) (ha : c.isActive) :
    i ∈ sortedIds order t :=
  List.mem_map.mpr ⟨(i, c), order.mem_sort.mpr
    (List.mem_filter.mpr ⟨AutoTable.get_eq_some_iff.mp hc, ha⟩), rfl⟩

lemma get_renumbered (t : AutoTable ConfigRow) (i : ℕ) :
    (renumbered order t).get i = (t.get i).map (renumberRow 1 (sortedIds order t) i) :=
  get_renumberFrom_of_nodup 1 (nodup_sortedIds order t) t i

/-- A row with a smaller `sort_order` gets the smaller number. -/
lemma idxOf_sortedIds_lt {i j : ℕ} {c d : ConfigRow} (hc : t.get i = some c) (hd : t.get j = some d)
    (hca : c.isActive) (hda : d.isActive) (h : c.sortOrder < d.sortOrder) :
    (sortedIds order t).idxOf i < (sortedIds order t).idxOf j := by
  have hmem : ∀ {k e}, t.get k = some e → e.isActive →
      (k, e) ∈ t.rows.filter fun r => r.2.isActive := fun he ha =>
    List.mem_filter.mpr ⟨AutoTable.get_eq_some_iff.mp he, ha⟩
  have hbefore : ¬ Before (j, d) (i, c) := by
    simp only [Before]
    omega
  exact order.idxOf_lt (nodup_activeIds t) (hmem hc hca) (hmem hd hda) hbefore

/-- The new numbers of the active rows are `1, …, n`, whatever the old ones. -/
lemma numbered_renumbered (t : AutoTable ConfigRow) : Numbered (renumbered order t) := by
  have hrows := rows_renumberFrom 1 (nodup_sortedIds order t) t
  have hids := nodup_sortedIds order t
  have hactive : ((renumbered order t).rows.filter fun r => r.2.isActive)
      = (t.rows.filter fun r => r.2.isActive).map fun r =>
        (r.1, renumberRow 1 (sortedIds order t) r.1 r.2) := by
    rw [renumbered, ← sortedIds, hrows, List.filter_map]
    congr 1
    exact List.filter_congr fun r _ => by simp
  have horders : activeOrders (renumbered order t)
      = ((t.rows.filter fun r => r.2.isActive).map Prod.fst).map fun i =>
        1 + ((sortedIds order t).idxOf i : ℤ) := by
    rw [activeOrders, hactive, List.map_map, List.map_map]
    refine List.map_congr_left fun r hr => ?_
    obtain ⟨hmem, ha⟩ := List.mem_filter.mp hr
    exact sortOrder_renumberRow (mem_sortedIds order (AutoTable.get_eq_some_iff.mpr hmem) ha) r.2
  have hperm : ((t.rows.filter fun r => r.2.isActive).map Prod.fst).Perm (sortedIds order t) :=
    ((order.perm _).map Prod.fst).symm
  have hcount : (renumbered order t).count ConfigRow.isActive = (sortedIds order t).length := by
    rw [AutoTable.count, List.countP_eq_length_filter, hactive, List.length_map,
      ← hperm.length_eq, List.length_map]
  rw [Numbered, horders, hcount, ← List.map_idxOf_self hids, List.map_map (l := sortedIds order t)]
  exact hperm.map _

/-- Two active rows without a tie keep their order. -/
lemma renumbered_lt_iff {i j : ℕ} {c d : ConfigRow} (hc : t.get i = some c) (hd : t.get j = some d)
    (hca : c.isActive) (hda : d.isActive) (htie : c.sortOrder = d.sortOrder → i = j) :
    (renumberRow 1 (sortedIds order t) i c).sortOrder
        < (renumberRow 1 (sortedIds order t) j d).sortOrder
      ↔ c.sortOrder < d.sortOrder := by
  have hi := mem_sortedIds order hc hca
  have hj := mem_sortedIds order hd hda
  rw [sortOrder_renumberRow hi, sortOrder_renumberRow hj]
  refine ⟨fun hlt => ?_, fun hlt => ?_⟩
  · by_contra hle
    rcases lt_or_eq_of_le (not_lt.mp hle) with hgt | heq
    · have hidx := idxOf_sortedIds_lt order hd hc hda hca hgt
      omega
    · rw [htie heq.symm] at hlt
      omega
  · have hidx := idxOf_sortedIds_lt order hc hd hca hda hlt
    omega

/-- A renumbering keeps an order without ties. -/
lemma extends_renumbered (h : DistinctOrders t) : ExtendsOrder t (renumbered order t) :=
  .of_get (get_renumbered order t) (fun i c _ hl => by simpa using hl)
    fun i j c d hc hd hca hda =>
      (renumbered_lt_iff order hc hd hca hda (h i j c d hc hd hca hda)).symm

lemma extends_renumberConfigs (fault : RenumberFault) (h : DistinctOrders t) :
    ExtendsOrder t (renumberConfigs order fault t) := by
  rw [renumberConfigs]
  split_ifs
  · exact extends_renumbered order h
  · exact .refl t

/-! ### Insertions -/

/-- The largest `sort_order` bounds those of the active rows. -/
lemma le_maxSortOrder {i : ℕ} {c : ConfigRow} (hc : t.get i = some c) (ha : c.isActive) :
    c.sortOrder ≤ maxSortOrder t := by
  have hmem : c.sortOrder ∈ (t.rows.filter fun r => r.2.isActive).map fun r => r.2.sortOrder :=
    List.mem_map.mpr
      ⟨(i, c), List.mem_filter.mpr ⟨AutoTable.get_eq_some_iff.mp hc, ha⟩, rfl⟩
  rw [maxSortOrder]
  cases hmax : ((t.rows.filter fun r => r.2.isActive).map fun r => r.2.sortOrder).max? with
  | none =>
      rw [List.max?_eq_none_iff] at hmax
      rw [hmax] at hmem
      cases hmem
  | some m => exact (List.max?_eq_some_iff.mp hmax).2 _ hmem

/-- The loop of `add_configs` inserts at the end. -/
lemma extends_addLoop (now : Stamp) (startOrder : ℤ) (parsed : List (String × ConfigType))
    (identities : List Identity) (added duplicates : ℕ)
    (h : ∀ i c, t.get i = some c → c.isActive → c.sortOrder < startOrder + added) :
    ExtendsOrder t (addLoop lib now startOrder parsed t identities added duplicates).1 := by
  induction parsed generalizing t identities added duplicates with
  | nil => exact .refl t
  | cons line parsed ih =>
      rw [addLoop]
      by_cases hdup : getConfigIdentity lib line.1 line.2 ∈ identities
      · simp only [hdup, if_true]
        exact ih _ _ _ h
      · simp only [hdup, if_false]
        refine Ranked.Extends.trans (.insert h) (ih _ _ _ fun i c hc ha => ?_)
        rw [AutoTable.get_insert] at hc
        split_ifs at hc
        · cases hc
          simp only [newConfig, Nat.cast_add, Nat.cast_one]
          omega
        · have hlt := h i c hc ha
          push_cast
          omega

lemma extends_addConfigs (faults : Faults) (now : Stamp) {db : PanelDb} (text : String)
    (h : DistinctOrders db.configs) :
    ExtendsOrder db.configs (addConfigs lib order faults now db text).1.configs := by
  have hbound : ∀ i c, db.configs.get i = some c → c.isActive →
      c.sortOrder < maxSortOrder db.configs + 1 + ((0 : ℕ) : ℤ) := by
    intro i c hc ha
    have hle := le_maxSortOrder hc ha
    push_cast
    omega
  have hloop : ExtendsOrder db.configs (addLoop lib now (maxSortOrder db.configs + 1)
      (parseConfigs text) db.configs (existingIdentities lib db.configs) 0 0).1 :=
    extends_addLoop now _ _ _ 0 0 hbound
  rw [addConfigs]
  dsimp only
  generalize addLoop lib now _ _ _ _ _ _ = added at hloop ⊢
  split_ifs
  · exact .refl _
  · exact .refl _
  · exact hloop.trans (extends_renumberConfigs order _ (hloop.distinct h))
  · exact hloop.trans (extends_renumberConfigs order _ (hloop.distinct h))
  · exact hloop

/-! ### Switching and deleting -/

/-- A change that is followed by a renumbering. -/
lemma extends_then_renumber (fault : RenumberFault) (h : DistinctOrders t)
    (he : ExtendsOrder t t') :
    ExtendsOrder t (renumberConfigs order fault t') :=
  he.trans (extends_renumberConfigs order fault (he.distinct h))

lemma extends_setConfigEnabledStatus (faults : Faults) {db : PanelDb} (configId : ℕ)
    (enabled : Bool) (h : DistinctOrders db.configs) :
    ExtendsOrder db.configs
      (setConfigEnabledStatus order faults db configId enabled).1.configs := by
  have hset : ExtendsOrder db.configs (db.configs.set configId (setEnabled enabled)) :=
    .set _ _ fun c _ => ⟨id, rfl⟩
  rw [setConfigEnabledStatus]
  cases db.configs.get configId with
  | none =>
      dsimp only
      split_ifs
      · exact .refl _
      · exact .refl _
  | some c =>
      dsimp only
      split_ifs
      · exact .refl _
      · exact extends_then_renumber order _ h hset
      · exact extends_then_renumber order _ h hset

lemma extends_deleteConfig (faults : Faults) {db : PanelDb} (configId : ℕ)
    (h : DistinctOrders db.configs) :
    ExtendsOrder db.configs (deleteConfig order faults db configId).1.configs := by
  have hset : ExtendsOrder db.configs (db.configs.set configId setDeleted) :=
    .set _ _ fun c _ => ⟨fun h => by simp [setDeleted, ConfigRow.isActive] at h, rfl⟩
  rw [deleteConfig]
  dsimp only
  split_ifs
  · exact .refl _
  · exact extends_then_renumber order _ h hset
  · exact extends_then_renumber order _ h hset

lemma extends_bulkDeleteConfigs (faults : Faults) {db : PanelDb} (ids : List ℕ)
    (h : DistinctOrders db.configs) :
    ExtendsOrder db.configs (bulkDeleteConfigs order faults db ids).1.configs := by
  have hset : ExtendsOrder db.configs
      (db.configs.update (fun i _ => i ∈ ids) setDeleted) :=
    .update _ _ fun i c _ _ => ⟨fun h => by simp [setDeleted, ConfigRow.isActive] at h, rfl⟩
  rw [bulkDeleteConfigs]
  dsimp only
  split_ifs
  · exact .refl _
  · exact .refl _
  · exact extends_then_renumber order _ h hset
  · exact extends_then_renumber order _ h hset

/-! ### Reordering -/

/-- A row that `reorder_configs` leaves active was active, under its position if it is listed. -/
lemma get_reordered {orderList : List ℕ} (hlist : orderList.Nodup) {i : ℕ} {c' : ConfigRow}
    (hc' : (renumbered order (renumberFrom 1 orderList t)).get i = some c') (ha : c'.isActive) :
    ∃ c, t.get i = some c ∧ c.isActive
      ∧ (renumberFrom 1 orderList t).get i = some (renumberRow 1 orderList i c)
      ∧ c' = renumberRow 1 (sortedIds order (renumberFrom 1 orderList t)) i
        (renumberRow 1 orderList i c) := by
  have hget := get_renumberFrom_of_nodup 1 hlist t i
  rw [get_renumbered, hget, Option.map_map, Option.map_eq_some_iff] at hc'
  obtain ⟨c, hc, rfl⟩ := hc'
  exact ⟨c, hc, by simpa using ha, by rw [hget, hc, Option.map_some], rfl⟩

/-- The listed rows stand in the order of the list, whatever their order was, and whether they are
renumbered or not. -/
lemma lt_iff_of_listed (fault : RenumberFault) {orderList : List ℕ} (hlist : orderList.Nodup)
    {i j : ℕ} {c' d' : ConfigRow}
    (hc' : (renumberConfigs order fault (renumberFrom 1 orderList t)).get i = some c')
    (hd' : (renumberConfigs order fault (renumberFrom 1 orderList t)).get j = some d')
    (hca : c'.isActive) (hda : d'.isActive) (hi : i ∈ orderList) (hj : j ∈ orderList) :
    c'.sortOrder < d'.sortOrder ↔ orderList.idxOf i < orderList.idxOf j := by
  have hposition : ∀ {k : ℕ}, k ∈ orderList → ∀ e : ConfigRow,
      (renumberRow 1 orderList k e).sortOrder = 1 + orderList.idxOf k :=
    fun hk => sortOrder_renumberRow hk
  rw [renumberConfigs] at hc' hd'
  split_ifs at hc' hd'
  · obtain ⟨c, -, hac, hc₁, rfl⟩ := get_reordered order hlist hc' hca
    obtain ⟨d, -, had, hd₁, rfl⟩ := get_reordered order hlist hd' hda
    rw [renumbered_lt_iff order hc₁ hd₁ (by simpa using hac) (by simpa using had),
      hposition hi, hposition hj]
    · omega
    · rw [hposition hi, hposition hj]
      intro heq
      exact (List.idxOf_inj hi).mp (by omega)
  · rw [get_renumberFrom_of_nodup 1 hlist, Option.map_eq_some_iff] at hc' hd'
    obtain ⟨c, -, rfl⟩ := hc'
    obtain ⟨d, -, rfl⟩ := hd'
    rw [hposition hi, hposition hj]
    omega

/-- What `reorder_configs(L)` makes of the order: the same rows are active, they are numbered, those
in the list stand in the order of the list, and the others in the order they had. -/
structure Reordered (orderList : List ℕ) (t t' : AutoTable ConfigRow) : Prop where
  active : ∀ i, (t'.get i).map ConfigRow.isActive = (t.get i).map ConfigRow.isActive
  numbered : Numbered t'
  listed : ∀ i j c' d', t'.get i = some c' → t'.get j = some d' → c'.isActive → d'.isActive →
    i ∈ orderList → j ∈ orderList →
    (c'.sortOrder < d'.sortOrder ↔ orderList.idxOf i < orderList.idxOf j)
  others : ∀ i j c d c' d', t.get i = some c → t.get j = some d → t'.get i = some c' →
    t'.get j = some d' → c'.isActive → d'.isActive → i ∉ orderList → j ∉ orderList →
    (c'.sortOrder < d'.sortOrder ↔ c.sortOrder < d.sortOrder)

/-- `reorder_configs` of an order without ties. -/
lemma reordered {orderList : List ℕ} (hlist : orderList.Nodup) (h : DistinctOrders t) :
    Reordered orderList t (renumbered order (renumberFrom 1 orderList t)) := by
  have hnone : renumberConfigs order .none (renumberFrom 1 orderList t)
      = renumbered order (renumberFrom 1 orderList t) := if_pos rfl
  refine ⟨fun i => ?_, numbered_renumbered order _, fun i j c' d' hc' hd' hca hda hi hj => ?_,
    fun i j c d c' d' hc hd hc' hd' hca hda hi hj => ?_⟩
  · rw [get_renumbered, get_renumberFrom_of_nodup 1 hlist, Option.map_map, Option.map_map]
    cases t.get i with
    | none => rfl
    | some c => simp
  · rw [← hnone] at hc' hd'
    exact lt_iff_of_listed order .none hlist hc' hd' hca hda hi hj
  · obtain ⟨c₀, hc₀, hac, hc₁, rfl⟩ := get_reordered order hlist hc' hca
    obtain ⟨d₀, hd₀, had, hd₁, rfl⟩ := get_reordered order hlist hd' hda
    rw [hc, Option.some.injEq] at hc₀
    rw [hd, Option.some.injEq] at hd₀
    subst hc₀ hd₀
    rw [renumberRow_of_notMem hi] at hc₁ ⊢
    rw [renumberRow_of_notMem hj] at hd₁ ⊢
    exact renumbered_lt_iff order hc₁ hd₁ hac had (h i j c d hc hd hac had)

/-- Numbered rows have no ties. -/
lemma distinct_of_numbered (h : Numbered t) : DistinctOrders t := by
  have hnodup : (activeOrders t).Nodup := by
    refine h.nodup_iff.mpr (List.nodup_range.map fun m n hmn => ?_)
    omega
  intro i j c d hc hd hca hda heq
  have hmem : ∀ {i c}, t.get i = some c → c.isActive →
      (i, c) ∈ t.rows.filter fun r => r.2.isActive := fun hc ha =>
    List.mem_filter.mpr ⟨AutoTable.get_eq_some_iff.mp hc, ha⟩
  exact congrArg Prod.fst
    (List.inj_on_of_nodup_map hnodup (hmem hc hca) (hmem hd hda) heq)

end ConfigService

/-! ### The importer, the health check, the manual test -/

namespace ConfigImporter

variable {k : Scan} {s : Progress}

lemma extends_insertDiscovered (s : Progress) (item : ProbeResult) (protocol : ConfigType) :
    ExtendsOrder s.configs (insertDiscovered k s item protocol).configs :=
  .insert fun i c hc ha => by
    have hle := ConfigService.le_maxSortOrder hc ha
    simp only [discovered]
    omega

lemma extends_retire (policy : CleanupPolicy) (t : AutoTable ConfigRow) (i : ℕ) :
    ExtendsOrder t (t.set i (retire policy)) := by
  refine .set _ _ fun c _ => ?_
  rw [retire]
  split_ifs
  · exact ⟨fun h => by simp [ConfigRow.isActive] at h, rfl⟩
  · exact ⟨id, rfl⟩

lemma extends_additionPass (limit : ℤ) (items : List ProbeResult) (s : Progress)
    (added duplicates : ℕ) :
    ExtendsOrder s.configs (additionPass k limit items s added duplicates).progress.configs := by
  induction items generalizing s added duplicates with
  | nil => exact .refl _
  | cons item items ih =>
      rw [additionPass]
      cases detectConfigType item.uri with
      | none => exact ih _ _ _
      | some protocol =>
          by_cases hdup : getConfigIdentity k.lib item.uri protocol ∈ s.identities
          · simp only [hdup, if_true]
            exact ih _ _ _
          · simp only [hdup, if_false]
            split_ifs
            · exact .refl _
            · exact (extends_insertDiscovered s item protocol).trans (ih _ _ _)

lemma extends_replacementPass (policy : CleanupPolicy) (items : List ProbeResult)
    (worsts : List (ℕ × ConfigRow)) (budget : ℤ) (s : Progress) (replaced : ℕ) :
    ExtendsOrder s.configs
      (replacementPass k policy items worsts budget s replaced).1.configs := by
  induction items generalizing worsts budget s replaced with
  | nil =>
      rw [replacementPass]
      exact .refl _
  | cons item items ih =>
      cases worsts with
      | nil =>
          rw [replacementPass]
          exact .refl _
      | cons worst worsts =>
          rw [replacementPass]
          by_cases hbudget : budget ≤ 0
          · rw [if_pos hbudget]
            exact .refl _
          · rw [if_neg hbudget]
            cases detectConfigType item.uri with
            | none => exact ih _ _ _ _
            | some protocol =>
                by_cases hdup : getConfigIdentity k.lib item.uri protocol ∈ s.identities
                · simp only [hdup, if_true]
                  exact ih _ _ _ _
                · simp only [hdup, if_false]
                  split_ifs
                  · exact .refl _
                  · have hinsert := extends_insertDiscovered (k := k)
                      { s with configs := s.configs.set worst.1 (retire policy) } item protocol
                    exact ((extends_retire policy s.configs worst.1).trans hinsert).trans
                      (ih _ _ _ _)

lemma extends_importDiscoveredConfigs (env : Env) (k : Scan) (db : PanelDb)
    (results : List ProbeResult) :
    ExtendsOrder db.configs (importDiscoveredConfigs env k db results).1.configs := by
  rw [importDiscoveredConfigs]
  split
  · rename_i maxActive maxNew _ _
    have h1 : ExtendsOrder db.configs
        (afterAddition k db results maxActive maxNew).progress.configs :=
      extends_additionPass _ _ ⟨db.configs, _, _⟩ 0 0
    dsimp only
    generalize afterAddition k db results maxActive maxNew = first at h1 ⊢
    have h2 : ExtendsOrder first.progress.configs
        (afterReplacement env k db results maxNew first).1.configs := by
      rw [afterReplacement]
      split_ifs
      · exact extends_replacementPass _ _ _ _ _ 0
      · exact .refl _
    generalize afterReplacement env k db results maxNew first = second at h2 ⊢
    split_ifs
    · exact .refl _
    · exact h1.trans h2
  · exact .refl _

end ConfigImporter

lemma HealthManager.extends_probe (p : Params) (fetch : Fetch (ℕ × ConfigRow)) (s : State)
    (item : ProbeResult) : ExtendsOrder s.configs (probe p fetch s item).configs := by
  rcases probe_cases p fetch s item with ⟨-, he⟩ | ⟨i, c, -, hc, -, hact, he⟩
  · rw [he]
    exact .refl _
  · rw [he]
    refine .set _ _ fun c' hc' => ⟨fun _ => ?_, ?_⟩
    · rw [hc, Option.some.injEq] at hc'
      exact hc' ▸ hact
    · rw [Params.apply]
      split <;> rfl

lemma HealthManager.extends_processHealthResults (env : Env) (db : PanelDb)
    (results : List ProbeResult) (scanTime now : Stamp) (scanId : Option ℕ) :
    ExtendsOrder db.configs
      (processHealthResults env db results scanTime now scanId).1.configs := by
  have hrun : ∀ (p : Params) (fetch : ℕ → Fetch (ℕ × ConfigRow)) (s : State),
      ExtendsOrder s.configs (probes p fetch s results).configs := by
    intro p
    induction results with
    | nil => exact fun _ s => .refl _
    | cons item items ih => exact fun fetch s => (extends_probe p (fetch 0) s item).trans (ih _ _)
  rw [processHealthResults]
  split
  · exact .refl _
  · split_ifs
    · exact .refl _
    · exact hrun _ _ ⟨db.configs, _, _, _⟩

lemma ManualTest.extends_recordAll (checkedAt : Stamp) (results : List ProbeResult)
    (rows : List (ℕ × ConfigRow)) (t : AutoTable ConfigRow) :
    ExtendsOrder t (recordAll checkedAt results rows t) := by
  induction rows generalizing t with
  | nil => exact .refl _
  | cons r rows ih =>
      refine .trans (.set _ _ fun c _ => ?_) (ih _)
      rw [record.eq_def]
      split <;> exact ⟨id, rfl⟩

lemma ManualTest.extends_runManualTest (env : Env) (db : PanelDb) (configIds : List ℕ)
    (checkedAt : Stamp) :
    ExtendsOrder db.configs (runManualTest env db configIds checkedAt).1.configs := by
  have hall := extends_recordAll checkedAt
  rw [runManualTest]
  generalize hrows : wantedRows db.configs configIds = rows
  split_ifs
  · exact .refl _
  · exact .refl _
  · split
    · exact .refl _
    · dsimp only
      split_ifs
      · exact .refl _
      · exact .refl _
      · split
        · exact .refl _
        · split
          · exact .refl _
          · exact hall _ _ _

/-! ### Every operation, in any order -/

/-- The operations on the order: those of the pool, and `renumber_configs` by itself. -/
inductive OrderOp where
  | pool (op : PoolOp)
  | renumberConfigs (order : OrderBy (ℕ × ConfigRow) ConfigService.Before)
      (fault : ConfigService.RenumberFault)

/-- One operation. -/
def PanelDb.orderStep (lib : ConfigLib) (db : PanelDb) : OrderOp → PanelDb
  | .pool op => db.poolStep lib op
  | .renumberConfigs order fault =>
    { db with configs := ConfigService.renumberConfigs order fault db.configs }

/-- The operation is `reorder_configs`. -/
def OrderOp.IsReorder : OrderOp → Prop
  | .pool (.reorderConfigs _ _ _) => True
  | _ => False

/-- A `reorder_configs` that has written its positions also has them renumbered. -/
def OrderOp.Whole : OrderOp → Prop
  | .pool (.reorderConfigs _ faults _) => faults.raised = true ∨ faults.renumber = .none
  | _ => True

/-- The states the operations reach from an empty `configs` table. -/
inductive OrderReachable (lib : ConfigLib) : PanelDb → Prop where
  | empty {db : PanelDb} : db.configs = .empty → OrderReachable lib db
  | step {db : PanelDb} {op : OrderOp} :
      OrderReachable lib db → op.Whole → OrderReachable lib (db.orderStep lib op)

variable {db : PanelDb}

/-- Every operation but `reorder_configs` extends the order. -/
lemma extends_orderStep (h : DistinctOrders db.configs) {op : OrderOp} (hop : ¬ op.IsReorder) :
    ExtendsOrder db.configs (db.orderStep lib op).configs := by
  cases op with
  | renumberConfigs order fault => exact ConfigService.extends_renumberConfigs order fault h
  | pool op =>
      rw [PanelDb.orderStep]
      cases op with
      | addConfigs order faults now text =>
          rw [PanelDb.poolStep]
          exact ConfigService.extends_addConfigs order faults now text h
      | importDiscoveredConfigs env scanTime now scanId results =>
          rw [PanelDb.poolStep]
          exact ConfigImporter.extends_importDiscoveredConfigs env ⟨lib, scanTime, now, scanId⟩ db
            results
      | processHealthResults env scanTime now scanId results =>
          rw [PanelDb.poolStep]
          exact HealthManager.extends_processHealthResults env db results scanTime now scanId
      | setConfigEnabledStatus order faults configId enabled =>
          rw [PanelDb.poolStep]
          exact ConfigService.extends_setConfigEnabledStatus order faults configId enabled h
      | deleteConfig order faults configId =>
          rw [PanelDb.poolStep]
          exact ConfigService.extends_deleteConfig order faults configId h
      | bulkDeleteConfigs order faults ids =>
          rw [PanelDb.poolStep]
          exact ConfigService.extends_bulkDeleteConfigs order faults ids h
      | reorderConfigs order faults orderList => exact absurd trivial hop
      | runManualTest env configIds checkedAt =>
          rw [PanelDb.poolStep]
          exact ManualTest.extends_runManualTest env db configIds checkedAt
      | setSettings settings =>
          rw [PanelDb.poolStep]
          exact .refl _

/-- Every operation keeps the order free of ties, a `reorder_configs` that is cut short apart. -/
lemma distinct_orderStep (h : DistinctOrders db.configs) {op : OrderOp} (hop : op.Whole) :
    DistinctOrders (db.orderStep lib op).configs := by
  by_cases hre : op.IsReorder
  · cases op with
    | renumberConfigs order fault => exact hre.elim
    | pool op =>
        cases op with
        | reorderConfigs order faults orderList =>
            rw [PanelDb.orderStep, PanelDb.poolStep, ConfigService.reorderConfigs]
            dsimp only
            by_cases hnil : orderList = []
            · rw [if_pos hnil]
              exact h
            · rw [if_neg hnil]
              by_cases hraised : faults.raised = true
              · rw [if_pos hraised]
                exact h
              · rw [if_neg hraised, ConfigService.renumberConfigs,
                  if_pos (hop.resolve_left hraised)]
                exact ConfigService.distinct_of_numbered
                  (ConfigService.numbered_renumbered order _)
        | _ => exact hre.elim
  · exact (extends_orderStep h hre).distinct h

lemma OrderReachable.distinct (h : OrderReachable lib db) : DistinctOrders db.configs := by
  induction h with
  | empty he =>
      rw [he]
      exact Ranked.distinct_empty
  | step _ hop ih => exact distinct_orderStep ih hop

/-- **The display order**, in every state the operations reach: the active rows have distinct
`sort_order`s; every operation but `reorder_configs` keeps the order of the rows that stay active
and adds new ones after them; and `reorder_configs` of a nonempty list of distinct ids numbers the
active rows `1, …, n`, those in the list as the list has them, the others as they were. -/
theorem display_order (h : OrderReachable lib db) :
    DistinctOrders db.configs
      ∧ (∀ op : OrderOp, ¬ op.IsReorder →
        ExtendsOrder db.configs (db.orderStep lib op).configs)
      ∧ ∀ order (orderList : List ℕ), orderList ≠ [] → orderList.Nodup →
        ConfigService.Reordered orderList db.configs
          (ConfigService.reorderConfigs order ⟨false, .none⟩ db orderList).1.configs := by
  refine ⟨h.distinct, fun op hop => extends_orderStep h.distinct hop,
    fun order orderList hne hnodup => ?_⟩
  rw [ConfigService.reorderConfigs, if_neg hne]
  exact ConfigService.reordered order hnodup h.distinct

/-! ### A sample run -/

/-- The admin pastes two links into an empty pool. -/
def samplePaste : OrderOp :=
  .pool (.addConfigs .stable ⟨false, .none⟩ (Stamp.day 0)
    "trojan://pass@a.example:443#a\ntrojan://pass@b.example:443#b")

/-- The pool after it. -/
def samplePasted : PanelDb := sampleEmpty.orderStep ConfigImporter.sampleConfigLib samplePaste

lemma samplePasted_reachable : OrderReachable ConfigImporter.sampleConfigLib samplePasted :=
  .step (.empty rfl) trivial

/-- The first link fails a probe, and is deleted. -/
def sampleGap : PanelDb :=
  PanelDb.orderStep ConfigImporter.sampleConfigLib
    { samplePasted with settings := [("failure_threshold", "1"), ("cleanup_policy", "delete")] }
    (.pool (.processHealthResults
      ⟨false, fun _ => .prefer fun _ => true⟩ (Stamp.day 1) (Stamp.day 1) none
      [{ HealthManager.sampleTimeout with uri := "trojan://pass@a.example:443#a" }]))

lemma sampleGap_reachable : OrderReachable ConfigImporter.sampleConfigLib sampleGap :=
  have hsettings : OrderOp.Whole (.pool (.setSettings [("failure_threshold", "1"),
      ("cleanup_policy", "delete")])) := trivial
  .step (.step samplePasted_reachable hsettings) trivial

/-- The two links change places. -/
theorem display_order_sample :
    activeOrders (ConfigService.reorderConfigs .stable ⟨false, .none⟩ samplePasted
        [2, 1]).1.configs = [2, 1]
      ∧ ConfigService.Reordered [2, 1] samplePasted.configs
        (ConfigService.reorderConfigs .stable ⟨false, .none⟩ samplePasted [2, 1]).1.configs :=
  ⟨by decide +kernel,
    (display_order samplePasted_reachable).2.2 .stable [2, 1] (by simp) (by decide)⟩

/-- `reorder_configs([])` leaves a gap where it is; and a `reorder_configs` whose renumbering raises
leaves a tie. -/
theorem reorder_leaves_gap_or_tie :
    (OrderReachable ConfigImporter.sampleConfigLib sampleGap
      ∧ ¬ Numbered (ConfigService.reorderConfigs .stable ⟨false, .none⟩ sampleGap []).1.configs)
    ∧ OrderReachable ConfigImporter.sampleConfigLib samplePasted
      ∧ ¬ DistinctOrders
        (ConfigService.reorderConfigs .stable ⟨false, .statement⟩ samplePasted [2]).1.configs := by
  refine ⟨⟨sampleGap_reachable, fun h => ?_⟩, samplePasted_reachable, fun h => ?_⟩
  · have horders : activeOrders (ConfigService.reorderConfigs .stable ⟨false, .none⟩ sampleGap
        []).1.configs = [2] := by decide +kernel
    have hcount : (ConfigService.reorderConfigs .stable ⟨false, .none⟩ sampleGap
        []).1.configs.count ConfigRow.isActive = 1 := by decide +kernel
    rw [Numbered, horders, hcount] at h
    revert h
    decide
  · have hget : ∀ i ∈ [1, 2], ((ConfigService.reorderConfigs .stable ⟨false, .statement⟩
        samplePasted [2]).1.configs.get i).map (fun c => (c.isActive, c.sortOrder))
          = some (true, 1) := by decide +kernel
    obtain ⟨c, hc, hc'⟩ := Option.map_eq_some_iff.mp (hget 1 (by simp))
    obtain ⟨d, hd, hd'⟩ := Option.map_eq_some_iff.mp (hget 2 (by simp))
    obtain ⟨hca, hco⟩ := Prod.mk.inj hc'
    obtain ⟨hda, hdo⟩ := Prod.mk.inj hd'
    have heq := h 1 2 c d hc hd hca hda (hco.trans hdo.symm)
    omega

end V2raySub
