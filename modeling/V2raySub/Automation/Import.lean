import Mathlib.Algebra.Order.Ring.Int
import V2raySub.Automation.Configs
import V2raySub.Automation.Retire

/-!
Importing what a discovery found (`automation_service.py`,
`ConfigImporter.import_discovered_configs`).

* `additionPass` fills the free capacity with the fastest new configs, `replacementPass` swaps
  the slowest discovered configs of a full pool for faster ones, on what is left of the budget.
* `additionPass_spec`, `replacementPass_spec`: what each pass does to the served count, to the
  budget and to the rows that were there.
* `import_respects_limits`: the pool limits after the import.
-/

namespace V2raySub
namespace ConfigImporter

/-! ### The function -/

/-- The arguments of one call that the rows it inserts are stamped with. -/
structure Scan where
  lib : ConfigLib
  scanTime : Stamp
  now : Stamp
  scanId : Option ℕ

/-- What the passes work on: the tables and `existing_identities`. -/
structure Progress where
  configs : AutoTable ConfigRow
  history : AutoTable HealthRow
  identities : List Identity

/-- The latency of a healthy candidate. -/
def latencyOf (item : ProbeResult) : ℕ := item.latencyMs.getD 999999

/-- The columns of an imported config. -/
def discovered (k : Scan) (item : ProbeResult) (protocol : ConfigType) (sortOrder : ℤ) :
    ConfigRow :=
  { configText := item.uri, configType := protocol, createdAt := k.now, status := .active,
    sortOrder := sortOrder, isEnabled := true, source := some item.source, mode := .auto,
    lastCheck := some k.scanTime, lastSuccess := some k.scanTime,
    latency := some (latencyOf item), consecutiveFailures := some 0, healthStatus := .healthy,
    countryCode := item.countryCode }

/-- The two `INSERT`s of an import, and `existing_identities.add(identity)`. -/
def insertDiscovered (k : Scan) (s : Progress) (item : ProbeResult) (protocol : ConfigType) :
    Progress where
  configs :=
    s.configs.insert (discovered k item protocol (ConfigService.maxSortOrder s.configs + 1))
  history :=
    match k.scanId with
    | none => s.history
    | some scanId => s.history.insert
        { configId := s.configs.next, scanId := scanId, checkedAt := k.now, reachable := true,
          latency := some (latencyOf item), validation := "Success", errorMessage := none }
  identities := getConfigIdentity k.lib item.uri protocol :: s.identities

/-- The candidates that passed their probe, fastest first. -/
def healthyConfigs (results : List ProbeResult) : List ProbeResult :=
  (results.filter ProbeResult.ok).insertionSort fun a b => latencyOf a ≤ latencyOf b

/-- What the first loop leaves: the tables, the numbers of configs added and of duplicates. -/
structure Added where
  progress : Progress
  added : ℕ
  duplicates : ℕ

/-- The first loop: the new candidates, up to the limit. -/
def additionPass (k : Scan) (limit : ℤ) : List ProbeResult → Progress → ℕ → ℕ → Added
  | [], s, added, duplicates => ⟨s, added, duplicates⟩
  | item :: items, s, added, duplicates =>
    match detectConfigType item.uri with
    | none => additionPass k limit items s added duplicates
    | some protocol =>
      if getConfigIdentity k.lib item.uri protocol ∈ s.identities then
        additionPass k limit items s added (duplicates + 1)
      else if limit ≤ added then ⟨s, added, duplicates⟩
      else
        additionPass k limit items (insertDiscovered k s item protocol) (added + 1) duplicates

/-- `MIN_IMPROVEMENT_MS`. -/
def minImprovementMs : ℤ := 50

/-- `COALESCE(latency, 999999)`. -/
def lat (c : ConfigRow) : ℤ := c.latency.getD 999999

/-- How a displaced config is retired. -/
def retire (policy : CleanupPolicy) (c : ConfigRow) : ConfigRow :=
  if policy = .delete then { c with status := .deleted } else { c with isEnabled := false }

/-- The second loop: the candidates not yet in the pool, each against the slowest discovered
config left, while the budget lasts.  The number of swaps comes with the tables. -/
def replacementPass (k : Scan) (policy : CleanupPolicy) :
    List ProbeResult → List (ℕ × ConfigRow) → ℤ → Progress → ℕ → Progress × ℕ
  | [], _, _, s, replaced => (s, replaced)
  | _ :: _, [], _, s, replaced => (s, replaced)
  | item :: items, worst :: worsts, budget, s, replaced =>
    if budget ≤ 0 then (s, replaced)
    else
      match detectConfigType item.uri with
      | none => replacementPass k policy items (worst :: worsts) budget s replaced
      | some protocol =>
        if getConfigIdentity k.lib item.uri protocol ∈ s.identities then
          replacementPass k policy items (worst :: worsts) budget s replaced
        else if lat worst.2 ≤ latencyOf item + minImprovementMs then (s, replaced)
        else
          let retired := { s with configs := s.configs.set worst.1 (retire policy) }
          replacementPass k policy items worsts (budget - 1)
            (insertDiscovered k retired item protocol) (replaced + 1)

/-- `ORDER BY lat DESC`. -/
def Slower (a b : ℕ × ConfigRow) : Prop := lat b.2 ≤ lat a.2

instance : DecidableRel Slower := fun a b => inferInstanceAs (Decidable (lat b.2 ≤ lat a.2))

instance : Std.Total Slower where
  total a b := by
    simp only [Slower]
    omega

instance : IsTrans (ℕ × ConfigRow) Slower where
  trans a b c := by
    simp only [Slower]
    omega

/-- The discovered configs that are served. -/
def isReplaceable (c : ConfigRow) : Bool := c.isServed && c.mode = .auto

/-- `SELECT id, lat … WHERE status="active" AND is_enabled=1 AND mode='auto' ORDER BY lat DESC`. -/
def worstActives (order : OrderBy (ℕ × ConfigRow) Slower) (t : AutoTable ConfigRow) :
    List (ℕ × ConfigRow) :=
  order.sort (t.rows.filter fun r => isReplaceable r.2)

/-- What the database decides in one call: whether a statement raises, and the order of the
configs with one latency. -/
structure Env where
  raised : Bool
  order : OrderBy (ℕ × ConfigRow) Slower

/-- The first pass of a call with the limits `maxActive` and `maxNew`. -/
def afterAddition (k : Scan) (db : PanelDb) (results : List ProbeResult) (maxActive maxNew : ℤ) :
    Added :=
  let availableCapacity := max 0 (maxActive - (db.configs.count ConfigRow.isServed : ℤ))
  additionPass k (min maxNew availableCapacity) (healthyConfigs results)
    ⟨db.configs, db.configHealthHistory, ConfigService.existingIdentities k.lib db.configs⟩ 0 0

/-- The second pass. -/
def afterReplacement (env : Env) (k : Scan) (db : PanelDb) (results : List ProbeResult)
    (maxNew : ℤ) (first : Added) : Progress × ℕ :=
  if getSetting db.toDb "discovery_replace_when_full" "1" = "1"
    ∧ 0 < maxNew - first.added then
    replacementPass k (cleanupPolicy db.toDb) (healthyConfigs results)
      (worstActives env.order first.progress.configs) (maxNew - first.added) first.progress 0
  else (first.progress, 0)

/-- `ConfigImporter.import_discovered_configs`: the tables and the numbers of configs added, of
duplicates and of swaps.  Whatever raises is rolled back. -/
def importDiscoveredConfigs (env : Env) (k : Scan) (db : PanelDb) (results : List ProbeResult) :
    PanelDb × ℕ × ℕ × ℕ :=
  match intSetting? db.toDb "max_active_configs" "100",
      intSetting? db.toDb "max_new_configs_per_scan" "10" with
  | some maxActive, some maxNew =>
    if env.raised then (db, 0, 0, 0)
    else
      let first := afterAddition k db results maxActive maxNew
      let second := afterReplacement env k db results maxNew first
      ({ db with configs := second.1.configs, configHealthHistory := second.1.history },
        first.added, first.duplicates, second.2)
  | _, _ => (db, 0, 0, 0)

/-! ### One insertion, one swap -/

variable {k : Scan} {s : Progress} {item : ProbeResult} {protocol : ConfigType}

lemma isServed_discovered (k : Scan) (item : ProbeResult) (protocol : ConfigType) (n : ℤ) :
    (discovered k item protocol n).isServed := rfl

lemma isServed_retire (policy : CleanupPolicy) (c : ConfigRow) :
    (retire policy c).isServed = false := by
  rw [retire]
  split_ifs <;> simp [ConfigRow.isServed, ConfigRow.isActive]

/-- An insertion adds one to the served configs. -/
lemma served_insertDiscovered :
    (insertDiscovered k s item protocol).configs.count ConfigRow.isServed
      = s.configs.count ConfigRow.isServed + 1 := by
  rw [insertDiscovered, AutoTable.count_insert, if_pos (isServed_discovered k item protocol _)]

lemma get_insertDiscovered {i : ℕ} {c : ConfigRow} (h : s.configs.get i = some c) :
    (insertDiscovered k s item protocol).configs.get i = some c :=
  AutoTable.get_insert_of_get h

/-! ### The first pass -/

/-- What the first pass does: it inserts, within the limit, and leaves every row alone; if it
stops below the limit, every candidate it can read is known. -/
structure AdditionSpec (limit : ℤ) (items : List ProbeResult) (k : Scan) (s : Progress)
    (added : ℕ) (out : Added) : Prop where
  added_le : added ≤ out.added
  within : (out.added : ℤ) ≤ max (added : ℤ) limit
  served : out.progress.configs.count ConfigRow.isServed + added
    = s.configs.count ConfigRow.isServed + out.added
  known : ∀ identity ∈ s.identities, identity ∈ out.progress.identities
  kept : ∀ i c, s.configs.get i = some c → out.progress.configs.get i = some c
  complete : (∀ item ∈ items, ∀ protocol, detectConfigType item.uri = some protocol →
      getConfigIdentity k.lib item.uri protocol ∈ out.progress.identities)
    ∨ limit ≤ out.added

theorem additionPass_spec (k : Scan) (limit : ℤ) (items : List ProbeResult) (s : Progress)
    (added duplicates : ℕ) :
    AdditionSpec limit items k s added (additionPass k limit items s added duplicates) := by
  induction items generalizing s added duplicates with
  | nil => exact ⟨le_rfl, le_max_left _ _, rfl, fun _ h => h, fun _ _ h => h, .inl (by simp)⟩
  | cons item items ih =>
      rw [additionPass]
      cases hp : detectConfigType item.uri with
      | none =>
          have h := ih s added duplicates
          refine { h with complete := h.complete.imp_left fun hc => ?_ }
          exact List.forall_mem_cons.mpr ⟨by simp [hp], hc⟩
      | some protocol =>
          by_cases hdup : getConfigIdentity k.lib item.uri protocol ∈ s.identities
          · have h := ih s added (duplicates + 1)
            simp only [hdup, if_true]
            refine { h with complete := h.complete.imp_left fun hc => ?_ }
            exact List.forall_mem_cons.mpr
              ⟨fun q hq => by rw [hp] at hq; cases hq; exact h.known _ hdup, hc⟩
          · simp only [hdup, if_false]
            by_cases hlim : limit ≤ added
            · rw [if_pos hlim]
              exact ⟨le_rfl, le_max_left _ _, rfl, fun _ h => h, fun _ _ h => h, .inr hlim⟩
            · rw [if_neg hlim]
              have h := ih (insertDiscovered k s item protocol) (added + 1) duplicates
              have hserved := h.served
              rw [served_insertDiscovered] at hserved
              have hwithin := h.within
              have hle := h.added_le
              refine ⟨by omega, by omega, by omega, fun identity hid => ?_, fun i c hc => ?_, ?_⟩
              · exact h.known identity (List.mem_cons_of_mem _ hid)
              · exact h.kept i c (get_insertDiscovered hc)
              · refine h.complete.imp_left fun hc => List.forall_mem_cons.mpr ⟨fun q hq => ?_, hc⟩
                rw [hp] at hq
                cases hq
                exact h.known _ List.mem_cons_self

/-! ### The second pass -/

/-- The configs to be displaced are served and none is listed twice. -/
structure Displaceable (t : AutoTable ConfigRow) (worsts : List (ℕ × ConfigRow)) : Prop where
  served : ∀ r ∈ worsts, t.get r.1 = some r.2 ∧ isReplaceable r.2
  distinct : (worsts.map Prod.fst).Nodup

lemma displaceable_worstActives (order : OrderBy (ℕ × ConfigRow) Slower)
    (t : AutoTable ConfigRow) : Displaceable t (worstActives order t) where
  served r hr := by
    rw [worstActives, OrderBy.mem_sort, List.mem_filter] at hr
    exact ⟨AutoTable.get_eq_some_iff.mpr hr.1, hr.2⟩
  distinct := by
    rw [worstActives, ((order.perm _).map Prod.fst).nodup_iff]
    exact t.keyed.sublist (List.filter_sublist.map _)

/-- What the second pass does: it swaps one for one, within the budget, and leaves every row
alone that is not a discovered config being served; without a new candidate it does nothing. -/
structure ReplacementSpec (k : Scan) (items : List ProbeResult) (budget : ℤ) (s : Progress)
    (replaced : ℕ) (out : Progress × ℕ) : Prop where
  replaced_le : replaced ≤ out.2
  within : (out.2 : ℤ) ≤ replaced + max 0 budget
  served : out.1.configs.count ConfigRow.isServed = s.configs.count ConfigRow.isServed
  kept : ∀ i c, s.configs.get i = some c → isReplaceable c = false →
    out.1.configs.get i = some c
  idle : (∀ item ∈ items, ∀ protocol, detectConfigType item.uri = some protocol →
      getConfigIdentity k.lib item.uri protocol ∈ s.identities) → out.2 = replaced

lemma ReplacementSpec.stop (k : Scan) (items : List ProbeResult) (budget : ℤ) (s : Progress)
    (replaced : ℕ) : ReplacementSpec k items budget s replaced (s, replaced) :=
  ⟨le_rfl, by simp, rfl, fun _ _ h _ => h, fun _ => rfl⟩

theorem replacementPass_spec (k : Scan) (policy : CleanupPolicy) (items : List ProbeResult)
    {worsts : List (ℕ × ConfigRow)} (budget : ℤ) (s : Progress) (replaced : ℕ)
    (hw : Displaceable s.configs worsts) :
    ReplacementSpec k items budget s replaced
      (replacementPass k policy items worsts budget s replaced) := by
  induction items generalizing worsts budget s replaced with
  | nil =>
      rw [replacementPass]
      exact .stop ..
  | cons item items ih =>
      cases worsts with
      | nil =>
          rw [replacementPass]
          exact .stop ..
      | cons worst worsts =>
          rw [replacementPass]
          by_cases hbudget : budget ≤ 0
          · rw [if_pos hbudget]
            exact .stop ..
          · rw [if_neg hbudget]
            cases hp : detectConfigType item.uri with
            | none =>
                have h := ih budget s replaced hw
                exact { h with idle := fun hk => h.idle (List.forall_mem_cons.mp hk).2 }
            | some protocol =>
                by_cases hdup : getConfigIdentity k.lib item.uri protocol ∈ s.identities
                · simp only [hdup, if_true]
                  have h := ih budget s replaced hw
                  exact { h with idle := fun hk => h.idle (List.forall_mem_cons.mp hk).2 }
                · simp only [hdup, if_false]
                  by_cases hslow : lat worst.2 ≤ latencyOf item + minImprovementMs
                  · rw [if_pos hslow]
                    exact .stop ..
                  · rw [if_neg hslow]
                    obtain ⟨hget, hrep⟩ := hw.served worst List.mem_cons_self
                    have hnodup := List.nodup_cons.mp hw.distinct
                    -- the configs still to be displaced are other rows
                    have hne : ∀ r ∈ worsts, r.1 ≠ worst.1 := fun r hr he =>
                      hnodup.1 (he ▸ List.mem_map_of_mem hr)
                    have hw' : Displaceable (insertDiscovered k { s with
                        configs := s.configs.set worst.1 (retire policy) } item
                        protocol).configs worsts := by
                      refine ⟨fun r hr => ⟨?_, (hw.served r (List.mem_cons_of_mem _ hr)).2⟩,
                        hnodup.2⟩
                      refine get_insertDiscovered ?_
                      rw [AutoTable.get_set_of_ne _ _ (hne r hr)]
                      exact (hw.served r (List.mem_cons_of_mem _ hr)).1
                    have h := ih (budget - 1) _ (replaced + 1) hw'
                    have hserved : worst.2.isServed := by
                      rw [isReplaceable, Bool.and_eq_true] at hrep
                      exact hrep.1
                    have hcount := AutoTable.count_set (retire policy) ConfigRow.isServed hget
                    rw [if_pos hserved, isServed_retire] at hcount
                    have hsame := h.served
                    rw [served_insertDiscovered] at hsame
                    have hle := h.replaced_le
                    have hwithin := h.within
                    refine ⟨by omega, by omega, ?_, fun i c hc hr => ?_, fun hk => ?_⟩
                    · rw [hsame]
                      simpa using hcount
                    · refine h.kept i c (get_insertDiscovered ?_) hr
                      rw [AutoTable.get_set_of_ne, hc]
                      rintro rfl
                      rw [hget, Option.some.injEq] at hc
                      rw [hc, hr] at hrep
                      cases hrep
                    · exact absurd ((List.forall_mem_cons.mp hk).1 protocol hp) hdup

/-! ### The limits -/

/-- What a committed import may have done: the served configs stay below the larger of the old
count and the limit, insertions and swaps share the budget of a scan, swaps happen only in a pool
the first pass left full, and only discovered configs that were served are touched. -/
structure WithinLimits (db db' : PanelDb) (maxActive maxNew : ℤ) (first : Added)
    (added replaced : ℕ) : Prop where
  served : (db'.configs.count ConfigRow.isServed : ℤ)
    ≤ max (db.configs.count ConfigRow.isServed : ℤ) maxActive
  budget : (added + replaced : ℤ) ≤ max 0 maxNew
  full : 0 < replaced → maxActive ≤ first.progress.configs.count ConfigRow.isServed
  kept : ∀ i c, db.configs.get i = some c →
    ¬ (c.mode = .auto ∧ c.status = .active ∧ c.isEnabled = true) → db'.configs.get i = some c

lemma isReplaceable_eq_false {c : ConfigRow}
    (h : ¬ (c.mode = .auto ∧ c.status = .active ∧ c.isEnabled = true)) :
    isReplaceable c = false := by
  rw [← Bool.not_eq_true]
  intro hr
  simp only [isReplaceable, ConfigRow.isServed, ConfigRow.isActive, Bool.and_eq_true,
    decide_eq_true_eq] at hr
  exact h ⟨hr.2, hr.1.1, hr.1.2⟩

lemma afterAddition_spec (k : Scan) (db : PanelDb) (results : List ProbeResult)
    (maxActive maxNew : ℤ) :
    AdditionSpec (min maxNew (max 0 (maxActive - (db.configs.count ConfigRow.isServed : ℤ))))
      (healthyConfigs results) k
      ⟨db.configs, db.configHealthHistory, ConfigService.existingIdentities k.lib db.configs⟩ 0
      (afterAddition k db results maxActive maxNew) :=
  additionPass_spec ..

lemma afterReplacement_spec (env : Env) (k : Scan) (db : PanelDb) (results : List ProbeResult)
    (maxNew : ℤ) (first : Added) :
    ReplacementSpec k (healthyConfigs results) (maxNew - first.added) first.progress 0
      (afterReplacement env k db results maxNew first) := by
  rw [afterReplacement]
  split_ifs
  · exact replacementPass_spec _ _ _ _ _ _ (displaceable_worstActives _ _)
  · exact .stop ..

lemma importDiscoveredConfigs_of_raised {env : Env} {k : Scan} {db : PanelDb}
    {results : List ProbeResult}
    (h : env.raised = true ∨ intSetting? db.toDb "max_active_configs" "100" = none
      ∨ intSetting? db.toDb "max_new_configs_per_scan" "10" = none) :
    importDiscoveredConfigs env k db results = (db, 0, 0, 0) := by
  rw [importDiscoveredConfigs]
  split
  · rename_i maxActive maxNew hA hN
    rcases h with h | h | h
    · rw [if_pos h]
    · rw [hA] at h
      cases h
    · rw [hN] at h
      cases h
  · rfl

/-- **The import respects the pool limits** and the configs of the admin; a call that raises
leaves the tables as they were. -/
theorem import_respects_limits (env : Env) (k : Scan) (db : PanelDb)
    (results : List ProbeResult) :
    (∀ maxActive maxNew, intSetting? db.toDb "max_active_configs" "100" = some maxActive →
      intSetting? db.toDb "max_new_configs_per_scan" "10" = some maxNew →
      env.raised = false →
        WithinLimits db (importDiscoveredConfigs env k db results).1 maxActive maxNew
          (afterAddition k db results maxActive maxNew)
          (importDiscoveredConfigs env k db results).2.1
          (importDiscoveredConfigs env k db results).2.2.2)
    ∧ ((env.raised = true ∨ intSetting? db.toDb "max_active_configs" "100" = none
        ∨ intSetting? db.toDb "max_new_configs_per_scan" "10" = none) →
      importDiscoveredConfigs env k db results = (db, 0, 0, 0)) := by
  refine ⟨fun maxActive maxNew hA hN hr => ?_, importDiscoveredConfigs_of_raised⟩
  rw [importDiscoveredConfigs, hA, hN]
  simp only [hr, Bool.false_eq_true, if_false]
  set first := afterAddition k db results maxActive maxNew with hfirst
  have h1 : AdditionSpec _ _ _ _ _ first := afterAddition_spec k db results maxActive maxNew
  have h2 := afterReplacement_spec env k db results maxNew first
  have hserved := h1.served
  have hadded := h1.within
  have hreplaced := h2.within
  refine ⟨?_, ?_, fun hpos => ?_, fun i c hc hkept => ?_⟩
  · show ((afterReplacement env k db results maxNew first).1.configs.count
      ConfigRow.isServed : ℤ) ≤ _
    rw [h2.served]
    push_cast at *
    omega
  · push_cast at *
    omega
  · -- a swap needs a candidate the first pass did not reach, and so a first pass that stopped
    rcases h1.complete with hall | hlim
    · rw [h2.idle hall] at hpos
      exact absurd hpos (lt_irrefl _)
    · push_cast at *
      omega
  · exact h2.kept i c (h1.kept i c hc) (isReplaceable_eq_false hkept)

/-! ### A full pool -/

/-- The library functions on plain links: the name is what follows the `#`. -/
def sampleConfigLib : ConfigLib where
  b64decode := fun _ => none
  loads := fun _ => none
  dumpsSorted := fun _ => ""
  urlFragment := fun text => some ((afterHash? text).getD "")
  unquote := fun text => text

/-- A slow discovered config. -/
def sampleSlow : ConfigRow :=
  { configText := "trojan://pass@slow-auto.example:443#slow-auto", configType := .trojan,
    createdAt := Stamp.day 0, status := .active, sortOrder := 1, isEnabled := true,
    source := some "seed", mode := .auto, lastCheck := none, lastSuccess := none,
    latency := some 500, consecutiveFailures := some 0, healthStatus := .healthy,
    countryCode := none }

/-- A slower config of the admin. -/
def sampleManual : ConfigRow :=
  { sampleSlow with
    configText := "trojan://pass@manual.example:443#manual", mode := .manual
    latency := some 900 }

/-- A pool of two, which is all the settings allow. -/
def sampleFull : PanelDb :=
  { HealthManager.samplePool with
    settings := [("max_active_configs", "2"), ("max_new_configs_per_scan", "10"),
      ("discovery_replace_when_full", "1"), ("cleanup_policy", "disable")]
    configs := (AutoTable.empty.insert sampleSlow).insert sampleManual }

/-- A fast candidate. -/
def sampleFast : ProbeResult :=
  { uri := "trojan://pass@fast-new.example:443#fast-new", protocol := "trojan",
    reachable := true, latencyMs := some 100, countryCode := none, validation := "active_http",
    error := none, source := "FeedX" }

/-- The arguments of the sample import. -/
def sampleScan : Scan := ⟨sampleConfigLib, Stamp.day 1, Stamp.day 1, none⟩

/-- One swap in a full pool. -/
theorem import_respects_limits_sample :
    (importDiscoveredConfigs ⟨false, .stable⟩ sampleScan sampleFull [sampleFast]).2 = (0, 0, 1)
    ∧ WithinLimits sampleFull
      (importDiscoveredConfigs ⟨false, .stable⟩ sampleScan sampleFull [sampleFast]).1 2 10
      (afterAddition sampleScan sampleFull [sampleFast] 2 10) 0 1 := by
  have hcounts : (importDiscoveredConfigs ⟨false, .stable⟩ sampleScan sampleFull
      [sampleFast]).2 = (0, 0, 1) := by decide +kernel
  have hlimits := (import_respects_limits ⟨false, .stable⟩ sampleScan sampleFull
    [sampleFast]).1 2 10 (by decide +kernel) (by decide +kernel) rfl
  rw [hcounts] at hlimits
  exact ⟨hcounts, hlimits⟩

end ConfigImporter
end V2raySub
