import V2raySub.Automation.Import
import V2raySub.Automation.ManualTest

/-!
The pool over the operations that change it: no two active configs are the same.

* `Unique` is the invariant, `NoNew` what every operation but the two insertions guarantees: a
  config that is active afterwards was there, active, with the same link.
* `Covers` is what the two insertions keep in their loops: `existing_identities` holds the
  identity of every active config.
* `active_identities_distinct`: the invariant in every state the operations reach from an empty
  table, in any order.
-/

namespace V2raySub

/-! ### Uniqueness -/

/-- No two active configs have one identity. -/
def Unique (lib : ConfigLib) (t : AutoTable ConfigRow) : Prop :=
  ∀ i j c d, t.get i = some c → t.get j = some d → c.isActive → d.isActive →
    c.identity lib = d.identity lib → i = j

/-- Every config active in `t'` was active in `t`, with the same link. -/
def NoNew (t t' : AutoTable ConfigRow) : Prop :=
  ∀ i c', t'.get i = some c' → c'.isActive →
    ∃ c, t.get i = some c ∧ c.isActive ∧ c.configText = c'.configText
      ∧ c.configType = c'.configType

/-- The set holds the identity of every active config, and no two of them share one. -/
structure Covers (lib : ConfigLib) (t : AutoTable ConfigRow) (identities : List Identity) :
    Prop where
  unique : Unique lib t
  covered : ∀ i c, t.get i = some c → c.isActive → c.identity lib ∈ identities

variable {lib : ConfigLib} {t t' t'' : AutoTable ConfigRow} {identities : List Identity}

lemma NoNew.refl (t : AutoTable ConfigRow) : NoNew t t := fun _ c h ha => ⟨c, h, ha, rfl, rfl⟩

/-- What two operations in a row leave active was there before both. -/
lemma NoNew.trans (h : NoNew t t') (h' : NoNew t' t'') : NoNew t t'' := by
  intro i c'' hc'' ha
  obtain ⟨c', hc', ha', ht', hty'⟩ := h' i c'' hc'' ha
  obtain ⟨c, hc, hac, ht, hty⟩ := h i c' hc' ha'
  exact ⟨c, hc, hac, ht.trans ht', hty.trans hty'⟩

/-- An update that makes no row active and leaves the links alone. -/
lemma NoNew.update (t : AutoTable ConfigRow) (p : ℕ → ConfigRow → Bool) {f : ConfigRow → ConfigRow}
    (hf : ∀ i c, t.get i = some c → p i c → (f c).configText = c.configText
      ∧ (f c).configType = c.configType ∧ ((f c).isActive → c.isActive)) :
    NoNew t (t.update p f) := by
  intro i c' hc' ha
  rw [AutoTable.get_update, Option.map_eq_some_iff] at hc'
  obtain ⟨c, hc, rfl⟩ := hc'
  by_cases hp : p i c
  · rw [if_pos hp] at ha ⊢
    obtain ⟨h1, h2, h3⟩ := hf i c hc hp
    exact ⟨c, hc, h3 ha, h1.symm, h2.symm⟩
  · rw [if_neg hp] at ha ⊢
    exact ⟨c, hc, ha, rfl, rfl⟩

/-- An update of one row that does not activate it and leaves its link alone. -/
lemma NoNew.set (t : AutoTable ConfigRow) (i : ℕ) {f : ConfigRow → ConfigRow}
    (hf : ∀ c, t.get i = some c → (f c).configText = c.configText
      ∧ (f c).configType = c.configType ∧ ((f c).isActive → c.isActive)) :
    NoNew t (t.set i f) := by
  refine NoNew.update t _ fun j c hc hj => ?_
  obtain rfl : j = i := by simpa using hj
  exact hf c hc

/-- Where nothing new is active, the identities stay distinct. -/
lemma Unique.of_noNew (hu : Unique lib t) (h : NoNew t t') : Unique lib t' := by
  intro i j c' d' hc' hd' hac had he
  obtain ⟨c, hc, ha, h1, h2⟩ := h i c' hc' hac
  obtain ⟨d, hd, hb, h3, h4⟩ := h j d' hd' had
  refine hu i j c d hc hd ha hb ?_
  rw [ConfigRow.identity, ConfigRow.identity, h1, h2, h3, h4]
  exact he

/-- Where nothing new is active, the set still holds every identity. -/
lemma Covers.of_noNew (hc : Covers lib t identities) (h : NoNew t t') :
    Covers lib t' identities where
  unique := hc.unique.of_noNew h
  covered i c' hget ha := by
    obtain ⟨c, hc', hac, h1, h2⟩ := h i c' hget ha
    have := hc.covered i c hc' hac
    rwa [ConfigRow.identity, h1, h2] at this

/-- An insertion of a config whose identity is not in the set, which then joins it. -/
lemma Covers.insert (hc : Covers lib t identities) {c : ConfigRow}
    (hn : c.identity lib ∉ identities) :
    Covers lib (t.insert c) (c.identity lib :: identities) := by
  have hnew : ∀ j d, t.get j = some d → d.isActive → d.identity lib ≠ c.identity lib :=
    fun j d hd ha he => hn (he ▸ hc.covered j d hd ha)
  refine ⟨fun i j a b ha hb haa hba he => ?_, fun i a ha haa => ?_⟩
  · rw [AutoTable.get_insert] at ha hb
    split_ifs at ha hb with hi hj hj
    · rw [hi, hj]
    · cases ha
      exact absurd he.symm (hnew j b hb hba)
    · cases hb
      exact absurd he (hnew i a ha haa)
    · exact hc.unique i j a b ha hb haa hba he
  · rw [AutoTable.get_insert] at ha
    split_ifs at ha
    · cases ha
      exact List.mem_cons_self
    · exact List.mem_cons_of_mem _ (hc.covered i a ha haa)

/-- `existing_identities` as it is read from the table. -/
lemma Unique.covers (hu : Unique lib t) :
    Covers lib t (ConfigService.existingIdentities lib t) where
  unique := hu
  covered i c hc ha := List.mem_map.mpr
    ⟨(i, c), List.mem_filter.mpr ⟨AutoTable.get_eq_some_iff.mp hc, ha⟩, rfl⟩

lemma unique_empty (lib : ConfigLib) : Unique lib .empty := by
  intro i j c d hc
  rw [AutoTable.get_empty] at hc
  cases hc

/-! ### The operations of the admin -/

namespace ConfigService

/-- The order of the rows is not their link. -/
lemma noNew_renumberConfigs (order : OrderBy (ℕ × ConfigRow) Before) (fault : RenumberFault)
    (t : AutoTable ConfigRow) : NoNew t (renumberConfigs order fault t) := by
  intro i c' hc' ha
  obtain ⟨m, hm⟩ := get_renumberConfigs order fault t i
  rw [hm, Option.map_eq_some_iff] at hc'
  obtain ⟨c, hc, rfl⟩ := hc'
  exact ⟨c, hc, ha, rfl, rfl⟩

lemma noNew_renumberFrom (n : ℤ) (ids : List ℕ) (t : AutoTable ConfigRow) :
    NoNew t (renumberFrom n ids t) := by
  intro i c' hc' ha
  obtain ⟨m, hm⟩ := get_renumberFrom n ids t i
  rw [hm, Option.map_eq_some_iff] at hc'
  obtain ⟨c, hc, rfl⟩ := hc'
  exact ⟨c, hc, ha, rfl, rfl⟩

/-- The loop of the import inserts what the set does not hold, and has the set hold it. -/
lemma covers_addLoop (now : Stamp) (startOrder : ℤ) (parsed : List (String × ConfigType))
    (h : Covers lib t identities) (added duplicates : ℕ) :
    Unique lib (addLoop lib now startOrder parsed t identities added duplicates).1 := by
  induction parsed generalizing t identities added duplicates with
  | nil => exact h.unique
  | cons line parsed ih =>
      rw [addLoop]
      by_cases hdup : getConfigIdentity lib line.1 line.2 ∈ identities
      · simp only [hdup, if_true]
        exact ih h _ _
      · simp only [hdup, if_false]
        exact ih (h.insert (c := newConfig now line.1 line.2 (startOrder + added)) hdup) _ _

/-- The import keeps the identities distinct, wherever it is cut short. -/
lemma unique_addConfigs (order : OrderBy (ℕ × ConfigRow) Before) (faults : Faults) (now : Stamp)
    {db : PanelDb} (text : String) (h : Unique lib db.configs) :
    Unique lib (addConfigs lib order faults now db text).1.configs := by
  have hloop := covers_addLoop now (maxSortOrder db.configs + 1) (parseConfigs text) h.covers 0 0
  rw [addConfigs]
  dsimp only
  generalize addLoop lib now _ _ _ _ _ _ = added at hloop ⊢
  split_ifs
  · exact h
  · exact h
  · exact hloop.of_noNew (noNew_renumberConfigs _ _ _)
  · exact hloop.of_noNew (noNew_renumberConfigs _ _ _)
  · exact hloop

/-- Switching a config on or off leaves its status alone. -/
lemma noNew_setConfigEnabledStatus (order : OrderBy (ℕ × ConfigRow) Before) (faults : Faults)
    (db : PanelDb) (configId : ℕ) (enabled : Bool) :
    NoNew db.configs (setConfigEnabledStatus order faults db configId enabled).1.configs := by
  have hset : NoNew db.configs (db.configs.set configId (setEnabled enabled)) :=
    .set _ _ fun c _ => ⟨rfl, rfl, id⟩
  rw [setConfigEnabledStatus]
  cases db.configs.get configId with
  | none => split_ifs <;> exact .refl _
  | some c =>
      dsimp only
      split_ifs
      · exact .refl _
      · exact hset.trans (noNew_renumberConfigs _ _ _)
      · exact hset.trans (noNew_renumberConfigs _ _ _)

/-- A config that is deleted is active no more. -/
lemma noNew_deleteConfig (order : OrderBy (ℕ × ConfigRow) Before) (faults : Faults)
    (db : PanelDb) (configId : ℕ) :
    NoNew db.configs (deleteConfig order faults db configId).1.configs := by
  have hset : NoNew db.configs (db.configs.set configId setDeleted) :=
    .set _ _ fun c _ => ⟨rfl, rfl, fun h => by simp [setDeleted, ConfigRow.isActive] at h⟩
  rw [deleteConfig]
  dsimp only
  split_ifs
  · exact .refl _
  · exact hset.trans (noNew_renumberConfigs _ _ _)
  · exact hset.trans (noNew_renumberConfigs _ _ _)

/-- Configs that are deleted together are active no more. -/
lemma noNew_bulkDeleteConfigs (order : OrderBy (ℕ × ConfigRow) Before) (faults : Faults)
    (db : PanelDb) (ids : List ℕ) :
    NoNew db.configs (bulkDeleteConfigs order faults db ids).1.configs := by
  have hset : NoNew db.configs (db.configs.update (fun i _ => i ∈ ids) setDeleted) :=
    .update _ _ fun i c _ _ =>
      ⟨rfl, rfl, fun h => by simp [setDeleted, ConfigRow.isActive] at h⟩
  rw [bulkDeleteConfigs]
  dsimp only
  split_ifs
  · exact .refl _
  · exact .refl _
  · exact hset.trans (noNew_renumberConfigs _ _ _)
  · exact hset.trans (noNew_renumberConfigs _ _ _)

/-- A reorder writes positions alone. -/
lemma noNew_reorderConfigs (order : OrderBy (ℕ × ConfigRow) Before) (faults : Faults)
    (db : PanelDb) (orderList : List ℕ) :
    NoNew db.configs (reorderConfigs order faults db orderList).1.configs := by
  rw [reorderConfigs]
  dsimp only
  split_ifs
  · exact .refl _
  · exact .refl _
  · exact (noNew_renumberFrom _ _ _).trans (noNew_renumberConfigs _ _ _)
  · exact (noNew_renumberFrom _ _ _).trans (noNew_renumberConfigs _ _ _)

end ConfigService

/-! ### The importer -/

namespace ConfigImporter

variable {k : Scan} {s : Progress}

/-- The invariant of both passes. -/
def Progress.Sound (lib : ConfigLib) (s : Progress) : Prop := Covers lib s.configs s.identities

/-- A discovered config goes in if its identity is new. -/
lemma Progress.Sound.insert (h : s.Sound k.lib) {item : ProbeResult} {protocol : ConfigType}
    (hn : getConfigIdentity k.lib item.uri protocol ∉ s.identities) :
    (insertDiscovered k s item protocol).Sound k.lib :=
  Covers.insert (c := discovered k item protocol (ConfigService.maxSortOrder s.configs + 1)) h hn

/-- A config is retired. -/
lemma Progress.Sound.retire (h : s.Sound lib) (policy : CleanupPolicy) (i : ℕ) :
    Progress.Sound lib { s with configs := s.configs.set i (retire policy) } := by
  refine Covers.of_noNew h (.set _ _ fun c _ => ?_)
  rw [ConfigImporter.retire]
  split_ifs
  · exact ⟨rfl, rfl, fun h => by simp [ConfigRow.isActive] at h⟩
  · exact ⟨rfl, rfl, id⟩

/-- The first pass adds new identities alone. -/
lemma sound_additionPass (limit : ℤ) (items : List ProbeResult) (h : s.Sound k.lib)
    (added duplicates : ℕ) :
    (additionPass k limit items s added duplicates).progress.Sound k.lib := by
  induction items generalizing s added duplicates with
  | nil => exact h
  | cons item items ih =>
      rw [additionPass]
      cases detectConfigType item.uri with
      | none => exact ih h _ _
      | some protocol =>
          by_cases hdup : getConfigIdentity k.lib item.uri protocol ∈ s.identities
          · simp only [hdup, if_true]
            exact ih h _ _
          · simp only [hdup, if_false]
            split_ifs
            · exact h
            · exact ih (h.insert hdup) _ _

/-- The second pass adds new identities alone, and retires a config for each. -/
lemma sound_replacementPass (policy : CleanupPolicy) (items : List ProbeResult)
    (worsts : List (ℕ × ConfigRow)) (budget : ℤ) (h : s.Sound k.lib) (replaced : ℕ) :
    (replacementPass k policy items worsts budget s replaced).1.Sound k.lib := by
  induction items generalizing worsts budget s replaced with
  | nil =>
      rw [replacementPass]
      exact h
  | cons item items ih =>
      cases worsts with
      | nil =>
          rw [replacementPass]
          exact h
      | cons worst worsts =>
          rw [replacementPass]
          by_cases hbudget : budget ≤ 0
          · rw [if_pos hbudget]
            exact h
          · rw [if_neg hbudget]
            cases detectConfigType item.uri with
            | none => exact ih _ _ h _
            | some protocol =>
                by_cases hdup : getConfigIdentity k.lib item.uri protocol ∈ s.identities
                · simp only [hdup, if_true]
                  exact ih _ _ h _
                · simp only [hdup, if_false]
                  split_ifs
                  · exact h
                  · exact ih _ _ ((h.retire policy worst.1).insert hdup) _

/-- A discovery keeps the identities distinct, also where it is rolled back. -/
lemma unique_importDiscoveredConfigs (env : Env) (k : Scan) {db : PanelDb}
    (results : List ProbeResult) (h : Unique k.lib db.configs) :
    Unique k.lib (importDiscoveredConfigs env k db results).1.configs := by
  rw [importDiscoveredConfigs]
  split
  · rename_i maxActive maxNew _ _
    have h0 : Progress.Sound k.lib ⟨db.configs, db.configHealthHistory,
      ConfigService.existingIdentities k.lib db.configs⟩ := h.covers
    have h1 : (afterAddition k db results maxActive maxNew).progress.Sound k.lib :=
      sound_additionPass _ _ h0 0 0
    dsimp only
    generalize afterAddition k db results maxActive maxNew = first at h1 ⊢
    have h2 : (afterReplacement env k db results maxNew first).1.Sound k.lib := by
      rw [afterReplacement]
      split_ifs
      · exact sound_replacementPass _ _ _ _ h1 0
      · exact h1
    generalize afterReplacement env k db results maxNew first = second at h2 ⊢
    split_ifs
    · exact h
    · exact h2.unique
  · exact h

end ConfigImporter

/-! ### Health checks and manual tests -/

/-- A result of a health check activates nothing. -/
lemma HealthManager.noNew_probe (p : Params) (fetch : Fetch (ℕ × ConfigRow)) (s : State)
    (item : ProbeResult) : NoNew s.configs (probe p fetch s item).configs := by
  rcases probe_cases p fetch s item with ⟨-, he⟩ | ⟨i, c, -, hc, -, hact, he⟩
  · rw [he]
    exact .refl _
  · rw [he]
    refine .set _ _ fun c' hc' => ⟨apply_configText .., ?_, fun _ => ?_⟩
    · rw [Params.apply]
      split <;> rfl
    · rw [hc, Option.some.injEq] at hc'
      exact hc' ▸ hact

/-- A health check activates nothing. -/
lemma HealthManager.noNew_processHealthResults (env : Env) (db : PanelDb)
    (results : List ProbeResult) (scanTime now : Stamp) (scanId : Option ℕ) :
    NoNew db.configs (processHealthResults env db results scanTime now scanId).1.configs := by
  have hrun : ∀ (p : Params) (fetch : ℕ → Fetch (ℕ × ConfigRow)) (s : State),
      NoNew s.configs (probes p fetch s results).configs := by
    intro p
    induction results with
    | nil => exact fun _ s => .refl _
    | cons item items ih => exact fun fetch s => (noNew_probe p (fetch 0) s item).trans (ih _ _)
  rw [processHealthResults]
  split
  · exact .refl _
  · split_ifs
    · exact .refl _
    · exact hrun _ _ _

/-- The results of a manual test activate nothing. -/
lemma ManualTest.noNew_recordAll (checkedAt : Stamp) (results : List ProbeResult)
    (rows : List (ℕ × ConfigRow)) (t : AutoTable ConfigRow) :
    NoNew t (recordAll checkedAt results rows t) := by
  induction rows generalizing t with
  | nil => exact .refl _
  | cons r rows ih =>
      refine .trans (.set _ _ fun c _ => ?_) (ih _)
      rw [record.eq_def]
      split <;> exact ⟨rfl, rfl, id⟩

/-- A manual test activates nothing. -/
lemma ManualTest.noNew_runManualTest (env : Env) (db : PanelDb) (configIds : List ℕ)
    (checkedAt : Stamp) :
    NoNew db.configs (runManualTest env db configIds checkedAt).1.configs := by
  have hall := noNew_recordAll checkedAt
  rw [runManualTest]
  generalize hrows : wantedRows db.configs configIds = rows
  split_ifs
  · exact .refl _
  · exact .refl _
  · split
    · exact .refl _
    · dsimp only
      split_ifs
      · exact .refl _
      · exact .refl _
      · split
        · exact .refl _
        · split
          · exact .refl _
          · exact hall _ _ _

/-! ### Every operation, in any order -/

/-- The operations on the pool, each with what the database and the engine decide during it; the
settings change under the admin's hands between them. -/
inductive PoolOp where
  | addConfigs (order : OrderBy (ℕ × ConfigRow) ConfigService.Before)
      (faults : ConfigService.Faults) (now : Stamp) (configText : String)
  | importDiscoveredConfigs (env : ConfigImporter.Env) (scanTime now : Stamp)
      (scanId : Option ℕ) (results : List ProbeResult)
  | processHealthResults (env : HealthManager.Env) (scanTime now : Stamp) (scanId : Option ℕ)
      (results : List ProbeResult)
  | setConfigEnabledStatus (order : OrderBy (ℕ × ConfigRow) ConfigService.Before)
      (faults : ConfigService.Faults) (configId : ℕ) (enabled : Bool)
  | deleteConfig (order : OrderBy (ℕ × ConfigRow) ConfigService.Before)
      (faults : ConfigService.Faults) (configId : ℕ)
  | bulkDeleteConfigs (order : OrderBy (ℕ × ConfigRow) ConfigService.Before)
      (faults : ConfigService.Faults) (ids : List ℕ)
  | reorderConfigs (order : OrderBy (ℕ × ConfigRow) ConfigService.Before)
      (faults : ConfigService.Faults) (orderList : List ℕ)
  | runManualTest (env : ManualTest.Env) (configIds : List ℕ) (checkedAt : Stamp)
  | setSettings (settings : List (String × String))

/-- One operation. -/
def PanelDb.poolStep (lib : ConfigLib) (db : PanelDb) : PoolOp → PanelDb
  | .addConfigs order faults now text =>
    (ConfigService.addConfigs lib order faults now db text).1
  | .importDiscoveredConfigs env scanTime now scanId results =>
    (ConfigImporter.importDiscoveredConfigs env ⟨lib, scanTime, now, scanId⟩ db results).1
  | .processHealthResults env scanTime now scanId results =>
    (HealthManager.processHealthResults env db results scanTime now scanId).1
  | .setConfigEnabledStatus order faults configId enabled =>
    (ConfigService.setConfigEnabledStatus order faults db configId enabled).1
  | .deleteConfig order faults configId =>
    (ConfigService.deleteConfig order faults db configId).1
  | .bulkDeleteConfigs order faults ids =>
    (ConfigService.bulkDeleteConfigs order faults db ids).1
  | .reorderConfigs order faults orderList =>
    (ConfigService.reorderConfigs order faults db orderList).1
  | .runManualTest env configIds checkedAt =>
    (ManualTest.runManualTest env db configIds checkedAt).1
  | .setSettings settings => { db with settings := settings }

/-- The states the operations reach from an empty `configs` table. -/
inductive PoolReachable (lib : ConfigLib) : PanelDb → Prop where
  | empty {db : PanelDb} : db.configs = .empty → PoolReachable lib db
  | step {db : PanelDb} (op : PoolOp) :
      PoolReachable lib db → PoolReachable lib (db.poolStep lib op)

/-- Every operation keeps the pool free of duplicates. -/
theorem Unique.poolStep {db : PanelDb} (h : Unique lib db.configs) (op : PoolOp) :
    Unique lib (db.poolStep lib op).configs := by
  cases op with
  | addConfigs order faults now text =>
      rw [PanelDb.poolStep]
      exact ConfigService.unique_addConfigs order faults now text h
  | importDiscoveredConfigs env scanTime now scanId results =>
      exact ConfigImporter.unique_importDiscoveredConfigs env ⟨lib, scanTime, now, scanId⟩
        results h
  | processHealthResults env scanTime now scanId results =>
      exact h.of_noNew (HealthManager.noNew_processHealthResults env db results scanTime now scanId)
  | setConfigEnabledStatus order faults configId enabled =>
      exact h.of_noNew (ConfigService.noNew_setConfigEnabledStatus order faults db configId enabled)
  | deleteConfig order faults configId =>
      exact h.of_noNew (ConfigService.noNew_deleteConfig order faults db configId)
  | bulkDeleteConfigs order faults ids =>
      exact h.of_noNew (ConfigService.noNew_bulkDeleteConfigs order faults db ids)
  | reorderConfigs order faults orderList =>
      exact h.of_noNew (ConfigService.noNew_reorderConfigs order faults db orderList)
  | runManualTest env configIds checkedAt =>
      exact h.of_noNew (ManualTest.noNew_runManualTest env db configIds checkedAt)
  | setSettings settings => exact h

/-- **The invariant**, over every sequence of the operations. -/
theorem PoolReachable.unique {db : PanelDb} (h : PoolReachable lib db) :
    Unique lib db.configs := by
  induction h with
  | empty he =>
      rw [he]
      exact unique_empty lib
  | step op _ ih => exact ih.poolStep op

/-- **No duplicates in the pool**: whatever the operations and their order, two active configs
have different identities. -/
theorem active_identities_distinct {db : PanelDb} (h : PoolReachable lib db) {i j : ℕ}
    {c d : ConfigRow} (hc : db.configs.get i = some c) (hd : db.configs.get j = some d)
    (hca : c.status = .active) (hda : d.status = .active) (hij : i ≠ j) :
    c.identity lib ≠ d.identity lib := by
  intro he
  exact hij (h.unique i j c d hc hd (by simpa [ConfigRow.isActive] using hca)
    (by simpa [ConfigRow.isActive] using hda) he)

/-! ### A sample run -/

/-- A pool filled by the admin and by a discovery. -/
def sampleRun : List PoolOp :=
  [.addConfigs .stable ⟨false, .none⟩ (Stamp.day 0) "trojan://pass@manual.example:443#manual",
    .importDiscoveredConfigs ⟨false, .stable⟩ (Stamp.day 1) (Stamp.day 1) none
      [ConfigImporter.sampleFast, ConfigImporter.sampleFast]]

/-- The empty panel. -/
def sampleEmpty : PanelDb := { HealthManager.samplePool with configs := .empty }

/-- A list of operations, one after the other. -/
lemma poolReachable_foldl {db : PanelDb} (h : PoolReachable lib db) (ops : List PoolOp) :
    PoolReachable lib (ops.foldl (PanelDb.poolStep lib) db) := by
  induction ops generalizing db with
  | nil => exact h
  | cons op ops ih => exact ih (h.step op)

theorem active_identities_distinct_sample :
    ∃ db c d, PoolReachable ConfigImporter.sampleConfigLib db
      ∧ db.configs.get 1 = some c ∧ db.configs.get 2 = some d
      ∧ c.status = .active ∧ d.status = .active ∧ db.configs.get 3 = none
      ∧ c.identity ConfigImporter.sampleConfigLib ≠ d.identity ConfigImporter.sampleConfigLib := by
  have hreach : PoolReachable ConfigImporter.sampleConfigLib
      (sampleRun.foldl (PanelDb.poolStep ConfigImporter.sampleConfigLib) sampleEmpty) :=
    poolReachable_foldl (.empty rfl) sampleRun
  have hrows : ∃ c d, (sampleRun.foldl (PanelDb.poolStep ConfigImporter.sampleConfigLib)
      sampleEmpty).configs.rows = [(1, c), (2, d)] ∧ c.status = .active ∧ d.status = .active :=
    ⟨{ ConfigImporter.sampleManual with
        createdAt := Stamp.day 0, sortOrder := 1, source := none, latency := none
        healthStatus := .unknown },
      ConfigImporter.discovered ⟨ConfigImporter.sampleConfigLib, Stamp.day 1, Stamp.day 1, none⟩
        ConfigImporter.sampleFast .trojan 2, by decide +kernel, rfl, rfl⟩
  obtain ⟨c, d, hr, hca, hda⟩ := hrows
  generalize sampleRun.foldl _ sampleEmpty = db at hreach hr
  have hc : db.configs.get 1 = some c := AutoTable.get_eq_some_iff.mpr (by simp [hr])
  have hd : db.configs.get 2 = some d := AutoTable.get_eq_some_iff.mpr (by simp [hr])
  have hnone : db.configs.get 3 = none := by
    simp [AutoTable.get, Rows.get, hr]
  exact ⟨db, c, d, hreach, hc, hd, hca, hda, hnone,
    active_identities_distinct hreach hc hd hca hda (by decide)⟩

end V2raySub
