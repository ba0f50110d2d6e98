import V2raySub.Automation.Order
import V2raySub.Client.Content

/-!
The list of configs in the panel (`config_service.py`, `get_all_configs_for_admin`), and the order
that dragging its rows gives them (`reorder_configs`, with the ids in the order of the rows).

* `ids_getAllConfigsForAdmin`: the ids on the list, in the order of the mode.
* `ids_asc`, `ids_desc`: where the listed rows are all the active ones, the modes `asc` and `desc`
  read the positions forwards and backwards.
* `dragged_order_iff`: **the panel shows the order that was dragged** exactly in the mode `asc`, or
  where there is nothing to drag.
-/

namespace V2raySub
namespace ConfigService

/-- A row of the panel's list. -/
structure AdminConfig where
  id : ℕ
  row : ConfigRow
  remark : String
  countryFlag : String

/-- The columns the panel adds to a row; `none` for a name that is no text, where `clean_remark`
raises. -/
def adminConfig (lib : ConfigLib) (r : ℕ × ConfigRow) : Option AdminConfig :=
  (extractRemark lib r.2.configText r.2.configType).map fun remark =>
    { id := r.1, row := r.2, remark := cleanRemark remark,
      countryFlag := countryCodeToFlag r.2.countryCode }

/-- The active rows in the order of the mode. -/
def activeRows (orders : Orders) (db : PanelDb) : List (ℕ × ConfigRow) :=
  (orders (sortDir db.toDb)).sort (db.configs.rows.filter fun r => r.2.isActive)

/-- `get_all_configs_for_admin`. -/
def getAllConfigsForAdmin (lib : ConfigLib) (orders : Orders) (db : PanelDb) :
    Option (List AdminConfig) :=
  (activeRows orders db).mapM (adminConfig lib)

/-! ### The list -/

section

variable {α β γ : Type*} {f : α → Option β}

lemma map_of_mapM {g : β → γ} {h : α → γ} (hf : ∀ a b, f a = some b → g b = h a) {l : List α}
    {out : List β} (hl : l.mapM f = some out) : out.map g = l.map h := by
  induction l generalizing out with
  | nil =>
      cases hl
      rfl
  | cons a l ih =>
      rw [List.mapM_cons] at hl
      obtain ⟨b, hb, hl⟩ := Option.bind_eq_some_iff.mp hl
      obtain ⟨bs, hbs, hl⟩ := Option.bind_eq_some_iff.mp hl
      cases hl
      rw [List.map_cons, List.map_cons, ih hbs, hf a b hb]

end

variable {lib : ConfigLib} {orders : Orders} {db : PanelDb}

lemma id_adminConfig {r : ℕ × ConfigRow} {a : AdminConfig} (h : adminConfig lib r = some a) :
    a.id = r.1 := by
  obtain ⟨remark, -, rfl⟩ := Option.map_eq_some_iff.mp h
  rfl

lemma mem_activeRows {i : ℕ} {c : ConfigRow} :
    (i, c) ∈ activeRows orders db ↔ db.configs.get i = some c ∧ c.isActive := by
  rw [activeRows, OrderBy.mem_sort, List.mem_filter, AutoTable.get_eq_some_iff]

/-- The ids on the list. -/
lemma ids_getAllConfigsForAdmin {shown : List AdminConfig}
    (h : getAllConfigsForAdmin lib orders db = some shown) :
    shown.map AdminConfig.id = (activeRows orders db).map Prod.fst :=
  map_of_mapM (fun _ _ => id_adminConfig) h

lemma nodup_ids_activeRows : ((activeRows orders db).map Prod.fst).Nodup :=
  ((((orders _).perm _).map Prod.fst).nodup_iff).mpr (nodup_activeIds _)

/-- The list can be drawn exactly if every active row has a text for its name. -/
lemma isSome_getAllConfigsForAdmin_iff :
    (getAllConfigsForAdmin lib orders db).isSome ↔ ∀ i c, db.configs.get i = some c → c.isActive →
      (extractRemark lib c.configText c.configType).isSome := by
  rw [getAllConfigsForAdmin, PyText.isSome_mapM_iff]
  refine ⟨fun h i c hc ha => ?_, fun h r hr => ?_⟩
  · have hsome := h (i, c) (mem_activeRows.mpr ⟨hc, ha⟩)
    rwa [adminConfig, Option.isSome_map] at hsome
  · obtain ⟨hc, ha⟩ := mem_activeRows.mp hr
    rw [adminConfig, Option.isSome_map]
    exact h r.1 r.2 hc ha

/-! ### Reading positions -/

/-- The positions of the active rows are those of a list of all of them. -/
structure Positioned (db : PanelDb) (ids : List ℕ) : Prop where
  nodup : ids.Nodup
  mem : ∀ i, i ∈ ids ↔ ∃ c, db.configs.get i = some c ∧ c.isActive
  lt_iff : ∀ i j c d, db.configs.get i = some c → db.configs.get j = some d → c.isActive →
    d.isActive → (c.sortOrder < d.sortOrder ↔ ids.idxOf i < ids.idxOf j)

section

variable {ids : List ℕ} (hids : Positioned db ids)
include hids

lemma Positioned.perm (orders : Orders) : ((activeRows orders db).map Prod.fst).Perm ids := by
  refine (List.perm_ext_iff_of_nodup nodup_ids_activeRows hids.nodup).mpr fun i => ?_
  rw [hids.mem, List.mem_map]
  refine ⟨fun ⟨r, hr, he⟩ => ?_, fun ⟨c, hc⟩ => ⟨(i, c), mem_activeRows.mpr hc, rfl⟩⟩
  exact ⟨r.2, he ▸ mem_activeRows.mp hr⟩

/-- A list of all active rows on which no later row has an earlier position. -/
lemma Positioned.eq_of_pairwise {l : List (ℕ × ConfigRow)} (hl : l.Perm (activeRows orders db))
    (hsorted : l.Pairwise fun a b => ¬ b.2.sortOrder < a.2.sortOrder) :
    l.map Prod.fst = ids := by
  have hmem : ∀ r ∈ l, db.configs.get r.1 = some r.2 ∧ r.2.isActive := fun r hr =>
    mem_activeRows.mp (hl.mem_iff.mp hr)
  have hpos : (l.map Prod.fst).Pairwise fun i j => ids.idxOf i ≤ ids.idxOf j := by
    refine List.pairwise_map.mpr (hsorted.imp_of_mem fun {a b} ha hb h => ?_)
    obtain ⟨hga, haa⟩ := hmem a ha
    obtain ⟨hgb, hba⟩ := hmem b hb
    rw [hids.lt_iff b.1 a.1 b.2 a.2 hgb hga hba haa] at h
    exact not_lt.mp h
  have hown : ids.Pairwise fun i j => ids.idxOf i ≤ ids.idxOf j := by
    refine List.pairwise_iff_getElem.mpr fun i j hi hj hij => ?_
    rw [hids.nodup.idxOf_getElem, hids.nodup.idxOf_getElem]
    exact hij.le
  refine ((hl.map Prod.fst).trans (hids.perm orders)).eq_of_pairwise (fun i j _ hj hij hji => ?_)
    hpos hown
  exact ((List.idxOf_inj hj).mp (le_antisymm hji hij)).symm

/-- In the mode `asc` the rows are listed by their positions. -/
lemma Positioned.ids_asc (hdir : sortDir db.toDb = .asc) :
    (activeRows orders db).map Prod.fst = ids := by
  refine hids.eq_of_pairwise (.refl (activeRows orders db)) ?_
  rw [activeRows, hdir]
  refine ((orders .asc).sorted _).imp fun {a b} h => ?_
  simp only [SortDir.Before, Before] at h
  omega

/-- In the mode `desc`, from the last. -/
lemma Positioned.ids_desc (hdir : sortDir db.toDb = .desc) :
    (activeRows orders db).map Prod.fst = ids.reverse := by
  rw [← List.reverse_inj, List.reverse_reverse, ← List.map_reverse]
  refine hids.eq_of_pairwise (List.reverse_perm (activeRows orders db)) ?_
  rw [List.pairwise_reverse, activeRows, hdir]
  refine ((orders .desc).sorted _).imp fun {a b} h => ?_
  simp only [SortDir.Before, Before] at h
  omega

end

/-- A list without repetitions is its own reverse only if there is nothing to reverse. -/
lemma reverse_eq_self_iff {α : Type*} {l : List α} (h : l.Nodup) :
    l.reverse = l ↔ l.length ≤ 1 := by
  constructor
  · intro he
    by_contra hlen
    have h0 : 0 < l.length := by omega
    have hlast : l.length - 1 < l.length := by omega
    have hfirst : l[0] = l[l.length - 1] := by
      have hget := List.getElem_reverse (l := l) (i := 0) (by simpa using h0)
      simp only [he] at hget
      simpa using hget
    have hidx : 0 = l.length - 1 := h.getElem_inj_iff.mp hfirst
    omega
  · intro hlen
    match l, hlen with
    | [], _ => rfl
    | [a], _ => rfl

/-! ### Dragging -/

variable (order : OrderBy (ℕ × ConfigRow) Before)

/-- Writing positions changes nothing but `sort_order`. -/
lemma get_reorder_map (fault : RenumberFault) (orderList : List ℕ) (t : AutoTable ConfigRow)
    (i : ℕ) : ∃ m : Option ℤ,
      (renumberConfigs order fault (renumberFrom 1 orderList t)).get i
        = (t.get i).map fun c => setSortOrder (m.getD c.sortOrder) c := by
  obtain ⟨m, hm⟩ := get_renumberFrom 1 orderList t i
  obtain ⟨n, hn⟩ := get_renumberConfigs order fault (renumberFrom 1 orderList t) i
  refine ⟨n.or m, ?_⟩
  rw [hn, hm, Option.map_map]
  congr 1
  funext c
  cases n <;> rfl

section

variable {orderList : List ℕ} {fault : RenumberFault} {db' : PanelDb}
  (hdb' : db'.configs = renumberConfigs order fault (renumberFrom 1 orderList db.configs))
include hdb'

lemma get_of_reordered {i : ℕ} {c' : ConfigRow} (hc' : db'.configs.get i = some c') :
    ∃ c, db.configs.get i = some c ∧ c.configText = c'.configText
      ∧ c.configType = c'.configType ∧ c.isActive = c'.isActive := by
  obtain ⟨m, hm⟩ := get_reorder_map order fault orderList db.configs i
  rw [hdb', hm, Option.map_eq_some_iff] at hc'
  obtain ⟨c, hc, rfl⟩ := hc'
  exact ⟨c, hc, rfl, rfl, rfl⟩

/-- The active rows stand where the list has them. -/
lemma positioned_of_reordered (hperm : orderList.Perm ((activeRows orders db).map Prod.fst)) :
    Positioned db' orderList := by
  have hnodup : orderList.Nodup := hperm.nodup_iff.mpr nodup_ids_activeRows
  have hmem : ∀ i, i ∈ orderList ↔ ∃ c, db'.configs.get i = some c ∧ c.isActive := by
    intro i
    rw [hperm.mem_iff, List.mem_map]
    constructor
    · rintro ⟨r, hr, rfl⟩
      obtain ⟨hc, ha⟩ := mem_activeRows.mp hr
      obtain ⟨m, hm⟩ := get_reorder_map order fault orderList db.configs r.1
      exact ⟨setSortOrder (m.getD r.2.sortOrder) r.2, by rw [hdb', hm, hc, Option.map_some], ha⟩
    · rintro ⟨c', hc', ha'⟩
      obtain ⟨c, hc, -, -, ha⟩ := get_of_reordered order hdb' hc'
      exact ⟨(i, c), mem_activeRows.mpr ⟨hc, ha ▸ ha'⟩, rfl⟩
  refine ⟨hnodup, hmem, fun i j c d hc hd hca hda => ?_⟩
  have hi := (hmem i).mpr ⟨c, hc, hca⟩
  have hj := (hmem j).mpr ⟨d, hd, hda⟩
  rw [hdb'] at hc hd
  exact lt_iff_of_listed order fault hnodup hc hd hca hda hi hj

end

/-- **Dragging the rows**: after `reorder_configs` with the ids in the order of the dragged rows,
the panel lists the configs in this order exactly in the mode `asc`, or where there is at most one
config. -/
theorem dragged_order_iff (lib : ConfigLib) (orders orders' : Orders)
    (order : OrderBy (ℕ × ConfigRow) Before) {faults : Faults} (hfaults : faults.raised = false)
    {db : PanelDb} (hmode : sortDir db.toDb ≠ .ping) {shown : List AdminConfig}
    (hshown : getAllConfigsForAdmin lib orders db = some shown) {dragged : List ℕ}
    (hdragged : dragged.Perm (shown.map AdminConfig.id)) :
    (getAllConfigsForAdmin lib orders' (reorderConfigs order faults db dragged).1).map
        (fun list => list.map AdminConfig.id) = some dragged
      ↔ sortDir db.toDb = .asc ∨ dragged.length ≤ 1 := by
  rw [ids_getAllConfigsForAdmin hshown] at hdragged
  have hnodup : dragged.Nodup := hdragged.nodup_iff.mpr nodup_ids_activeRows
  by_cases hnil : dragged = []
  · -- no config is active, and nothing is written
    subst hnil
    have hempty : activeRows orders' db = [] := by
      have hnone : activeRows orders db = [] := by simpa using hdragged.nil_eq.symm
      refine List.eq_nil_iff_forall_not_mem.mpr fun r hr => ?_
      have hr' : r ∈ activeRows orders db := mem_activeRows.mpr (mem_activeRows.mp hr)
      rw [hnone] at hr'
      cases hr'
    have hsame : (reorderConfigs order faults db []).1 = db := by
      rw [reorderConfigs, if_pos rfl]
    refine iff_of_true ?_ (.inr (Nat.zero_le 1))
    rw [hsame, getAllConfigsForAdmin, hempty]
    rfl
  · set db' := (reorderConfigs order faults db dragged).1 with hdb'
    have hconfigs : db'.configs = renumberConfigs order faults.renumber
        (renumberFrom 1 dragged db.configs) := by
      rw [hdb', reorderConfigs, if_neg hnil, if_neg (by simp [hfaults])]
    have hsettings : db'.toDb = db.toDb := by
      rw [hdb', reorderConfigs, if_neg hnil, if_neg (by simp [hfaults])]
    have hpositioned := positioned_of_reordered order hconfigs hdragged
    have hdrawn : (getAllConfigsForAdmin lib orders' db').isSome := by
      refine isSome_getAllConfigsForAdmin_iff.mpr fun i c' hc' ha' => ?_
      obtain ⟨c, hc, htext, htype, ha⟩ := get_of_reordered order hconfigs hc'
      rw [← htext, ← htype]
      exact isSome_getAllConfigsForAdmin_iff.mp (Option.isSome_of_eq_some hshown) i c hc
        (ha ▸ ha')
    obtain ⟨shown', hshown'⟩ := Option.isSome_iff_exists.mp hdrawn
    rw [hshown', Option.map_some, Option.some.injEq, ids_getAllConfigsForAdmin hshown']
    cases hdir : sortDir db.toDb with
    | asc => exact iff_of_true (hpositioned.ids_asc (hsettings ▸ hdir)) (.inl rfl)
    | desc =>
        rw [hpositioned.ids_desc (hsettings ▸ hdir), reverse_eq_self_iff hnodup]
        simp
    | ping => exact absurd hdir hmode

/-- The panel's list of the two pasted links, in a mode. -/
def sampleListed (mode : String) : PanelDb :=
  { samplePasted with settings := [("config_sort_order", mode)] }

/-- The two rows change places in the mode `asc`. -/
theorem dragged_order_iff_sample :
    (getAllConfigsForAdmin ConfigImporter.sampleConfigLib stableOrders
        (reorderConfigs .stable ⟨false, .none⟩ (sampleListed "asc") [2, 1]).1).map
          (fun list => list.map AdminConfig.id) = some [2, 1] := by
  have hids : (getAllConfigsForAdmin ConfigImporter.sampleConfigLib stableOrders
      (sampleListed "asc")).map (fun list => list.map AdminConfig.id) = some [1, 2] := by
    decide +kernel
  obtain ⟨shown, hshown, hlist⟩ := Option.map_eq_some_iff.mp hids
  exact (dragged_order_iff ConfigImporter.sampleConfigLib stableOrders stableOrders .stable
    rfl (by decide +kernel) hshown
    (by rw [hlist]; exact List.Perm.swap 1 2 [])).mpr (.inl (by decide +kernel))

/-- In the mode `desc` the list is shown from the last row, and a drag that leaves it as it is turns
it round. -/
theorem drag_reversed_in_desc :
    (getAllConfigsForAdmin ConfigImporter.sampleConfigLib stableOrders
        (sampleListed "desc")).map (fun list => list.map AdminConfig.id) = some [2, 1]
      ∧ (getAllConfigsForAdmin ConfigImporter.sampleConfigLib stableOrders
          (reorderConfigs .stable ⟨false, .none⟩ (sampleListed "desc") [2, 1]).1).map
            (fun list => list.map AdminConfig.id) = some [1, 2] := by
  decide +kernel

end ConfigService
end V2raySub
