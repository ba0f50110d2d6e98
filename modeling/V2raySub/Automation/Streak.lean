import Mathlib.Data.List.DropRight
import V2raySub.Automation.Pool
import V2raySub.Automation.Retire

/-!
The failure counter of a config, over health checks and tests by hand.

* `failuresSince`: the scheduled checks that failed since the last check that succeeded.
* `checkOf`, `checks`: what an operation, and a run of them, finds out about a config.
* `Recorded`, `recorded_step`: what each check makes of the row, provided no other active row has
  its text.
* `counter_counts_streak`: over every run, **the counter is the length of the current streak**; a
  scheduled failure retires the config exactly when the streak reaches the threshold, and a failed
  test by hand changes neither the counter nor the switch nor the status.
-/

namespace V2raySub

/-- A check of one config: in a health check or by hand, and whether the probe succeeded. -/
structure Check where
  scheduled : Bool
  ok : Bool
  deriving DecidableEq

/-- The failed scheduled checks since the last check that succeeded. -/
def failuresSince (l : List Check) : ℕ :=
  (l.rtakeWhile fun k => !k.ok).countP fun k => k.scheduled

/-- One more check. -/
lemma failuresSince_append (l : List Check) (k : Check) :
    failuresSince (l ++ [k])
      = if k.ok then 0 else failuresSince l + if k.scheduled then 1 else 0 := by
  rw [failuresSince, List.rtakeWhile_concat]
  cases k.ok with
  | true => rfl
  | false =>
      simp only [Bool.not_false, if_true, List.countP_append, Bool.false_eq_true, if_false,
        List.countP_singleton]
      rfl

namespace PoolOp

/-- The operations of a run of checks: health checks that report the text at most once, tests by
hand, the switch, and the settings. -/
def Checks (text : String) : PoolOp → Prop
  | .processHealthResults _ _ _ _ results => (HealthManager.resultsOf text results).length ≤ 1
  | .runManualTest _ _ _ => True
  | .setConfigEnabledStatus _ _ _ _ => True
  | .setSettings _ => True
  | _ => False

end PoolOp

/-- What the engine is asked in a test by hand. -/
def ManualTest.asked (db : PanelDb) (configIds : List ℕ) : List ConfigEntry :=
  (ManualTest.wantedRows db.configs configIds).map fun r => r.2.entry

/-- The results of the engine in a test by hand that goes through and is written down. -/
def ManualTest.resultsOf? (env : ManualTest.Env) (asked : List ConfigEntry) :
    Option (List ProbeResult) :=
  if env.locked ∨ env.readRaises.isSome ∨ env.writeRaises.isSome
      ∨ (env.reply asked).retCode ≠ 0 then
    none
  else
    match parseResult (env.reply asked).stdout with
    | .error _ => none
    | .ok output => some output.results

/-- What an operation finds out about the config `i`: the result of a health check that is
written down, or what the engine says last about it in a test by hand that asks for it. -/
def checkOf (i : ℕ) (db : PanelDb) : PoolOp → Option Check
  | .processHealthResults env _ _ _ results =>
    match intSetting? db.toDb "failure_threshold" "2", env.raised, db.configs.get i with
    | some _, false, some c =>
      if c.isActive then
        (HealthManager.resultsOf c.configText results).head?.map fun item => ⟨true, item.ok⟩
      else none
    | _, _, _ => none
  | .runManualTest env configIds _ =>
    match ManualTest.resultsOf? env (ManualTest.asked db configIds), db.configs.get i with
    | some results, some c =>
      if c.isActive ∧ i ∈ configIds then
        some ⟨false, (ManualTest.resultFor results c.configText).any ProbeResult.ok⟩
      else none
    | _, _ => none
  | _ => none

/-- What a run finds out about the config `i`. -/
def checks (lib : ConfigLib) (i : ℕ) : PanelDb → List PoolOp → List Check
  | _, [] => []
  | db, op :: ops => (checkOf i db op).toList ++ checks lib i (db.poolStep lib op) ops

lemma checks_append (lib : ConfigLib) (i : ℕ) (db : PanelDb) (ops ops' : List PoolOp) :
    checks lib i db (ops ++ ops')
      = checks lib i db ops ++ checks lib i (ops.foldl (PanelDb.poolStep lib) db) ops' := by
  induction ops generalizing db with
  | nil => rfl
  | cons op ops ih => rw [List.cons_append, checks, ih, checks, List.append_assoc, List.foldl_cons]

/-! ### What a check makes of the row -/

/-- What an operation that finds out `k` about a config makes of its row. -/
inductive Recorded (db : PanelDb) (c : ConfigRow) : Option Check → ConfigRow → Prop where
  | quiet (c' : ConfigRow) : c'.configText = c.configText →
      c'.consecutiveFailures = c.consecutiveFailures → Recorded db c none c'
  | success (scheduled : Bool) (t : Stamp) (latency : ℕ) :
      Recorded db c (some ⟨scheduled, true⟩) (c.recordSuccess t latency)
  | failure (threshold : ℤ) (t : Stamp) :
      intSetting? db.toDb "failure_threshold" "2" = some threshold →
      Recorded db c (some ⟨true, false⟩) (c.recordFailure threshold (cleanupPolicy db.toDb) t
        (c.consecutiveFailures.getD 0 + 1))
  | tested (t : Stamp) : Recorded db c (some ⟨false, false⟩) (ManualTest.setLastCheck t c)

variable {db : PanelDb} {i : ℕ} {c c' : ConfigRow}

lemma Recorded.configText {k : Option Check} (h : Recorded db c k c') :
    c'.configText = c.configText := by
  cases h with
  | quiet c' htext _ => exact htext
  | success _ _ _ => rfl
  | failure _ _ _ => rfl
  | tested _ => rfl

/-- The counter after a check. -/
lemma Recorded.counter {k : Option Check} (h : Recorded db c k c') {l : List Check}
    (hc : c.consecutiveFailures = some (failuresSince l : ℤ)) :
    c'.consecutiveFailures = some (failuresSince (l ++ k.toList) : ℤ) := by
  cases h with
  | quiet c' _ hsame => rw [hsame, hc, Option.toList_none, List.append_nil]
  | success scheduled t latency =>
      rw [Option.toList_some, failuresSince_append]
      rfl
  | failure threshold t _ =>
      rw [Option.toList_some, failuresSince_append]
      simp [ConfigRow.recordFailure, hc]
  | tested t =>
      rw [Option.toList_some, failuresSince_append]
      simp [ManualTest.setLastCheck, hc]

/-! ### A health check -/

/-- One result about the text reaches the row, if it is active. -/
lemma recorded_processHealthResults {env : HealthManager.Env} {scanTime now : Stamp}
    {scanId : Option ℕ} {results : List ProbeResult} (hget : db.configs.get i = some c)
    (hsole : HealthManager.Sole db.configs i c)
    (hone : (HealthManager.resultsOf c.configText results).length ≤ 1) :
    ∃ c', (HealthManager.processHealthResults env db results scanTime now scanId).1.configs.get i
        = some c'
      ∧ Recorded db c (checkOf i db (.processHealthResults env scanTime now scanId results))
          c' := by
  rw [checkOf, hget]
  cases ht : intSetting? db.toDb "failure_threshold" "2" with
  | none =>
      rw [HealthManager.configs_processHealthResults_of_raised (.inl ht)]
      exact ⟨c, hget, .quiet c rfl rfl⟩
  | some threshold =>
      cases hr : env.raised with
      | true =>
          rw [HealthManager.configs_processHealthResults_of_raised (.inr hr)]
          exact ⟨c, hget, .quiet c rfl rfl⟩
      | false =>
          rw [HealthManager.configs_processHealthResults ht hr]
          obtain ⟨l, -, hall, hrun⟩ := HealthManager.run_row
            (p := ⟨threshold, cleanupPolicy db.toDb, scanTime, now, scanId⟩)
            (s := ⟨db.configs, db.configHealthHistory, 0, 0⟩) env.fetch results hget
          rw [hall (.inl hsole)] at hrun
          refine ⟨_, hrun, ?_⟩
          dsimp only
          cases hact : c.isActive with
          | false =>
              rw [HealthManager.deliver_of_inactive hact, if_neg (by decide)]
              exact .quiet c rfl rfl
          | true =>
              rw [if_pos rfl]
              match hres : HealthManager.resultsOf c.configText results, hone with
              | [], _ => exact .quiet c rfl rfl
              | [item], _ =>
                  rw [List.foldl_cons, List.foldl_nil, HealthManager.Params.deliver, if_pos hact,
                    List.head?_cons, Option.map_some]
                  cases hok : item.ok with
                  | true =>
                      rw [ProbeResult.ok, Bool.and_eq_true, Option.isSome_iff_exists] at hok
                      obtain ⟨hreach, latency, hlatency⟩ := hok
                      rw [HealthManager.Params.apply, hreach, hlatency]
                      exact .success true scanTime latency
                  | false =>
                      rw [HealthManager.apply_of_not_ok _ hok]
                      exact .failure threshold scanTime ht

/-! ### A test by hand -/

namespace ManualTest

/-- A call that asks about no row writes nothing. -/
lemma runManualTest_of_nil {env : Env} {db : PanelDb} {configIds : List ℕ} {checkedAt : Stamp}
    (h : wantedRows db.configs configIds = []) :
    (runManualTest env db configIds checkedAt).1 = db := by
  rw [runManualTest]
  split_ifs
  · rfl
  · rfl
  · cases env.readRaises with
    | some e => rfl
    | none =>
        dsimp only
        rw [if_pos h]

/-- The tables after a call: as before, or with what the engine said about the tested rows. -/
lemma configs_runManualTest (env : Env) (db : PanelDb) (configIds : List ℕ) (checkedAt : Stamp) :
    (runManualTest env db configIds checkedAt).1.configs
      = match resultsOf? env (asked db configIds) with
        | none => db.configs
        | some results =>
          recordAll checkedAt results (wantedRows db.configs configIds) db.configs := by
  by_cases hrows : wantedRows db.configs configIds = []
  · rw [runManualTest_of_nil hrows, hrows]
    split <;> rfl
  · have hids : configIds ≠ [] := by
      rintro rfl
      exact hrows (by simp [wantedRows])
    rw [runManualTest, if_neg hids]
    by_cases hlocked : env.locked
    · rw [if_pos hlocked, resultsOf?, if_pos (.inl hlocked)]
    · rw [if_neg hlocked]
      cases hread : env.readRaises with
      | some e =>
          have hnone : resultsOf? env (asked db configIds) = none := by simp [resultsOf?, hread]
          rw [hnone]
      | none =>
          dsimp only
          rw [if_neg hrows, ← asked]
          by_cases hcode : (env.reply (asked db configIds)).retCode ≠ 0
          · rw [if_pos hcode, resultsOf?, if_pos (.inr (.inr (.inr hcode)))]
          · rw [if_neg hcode]
            cases hwrite : env.writeRaises with
            | some e =>
                have hnone : resultsOf? env (asked db configIds) = none := by
                  simp [resultsOf?, hwrite]
                rw [hnone]
                cases parseResult (env.reply (asked db configIds)).stdout <;> rfl
            | none =>
                rw [resultsOf?, if_neg (by simp [hlocked, hread, hcode, hwrite])]
                cases parseResult (env.reply (asked db configIds)).stdout <;> rfl

/-- The loop over the tested rows, seen from one row. -/
lemma get_recordAll {checkedAt : Stamp} {results : List ProbeResult} {rows : List (ℕ × ConfigRow)}
    (hnodup : (rows.map Prod.fst).Nodup) (t : AutoTable ConfigRow) (i : ℕ) :
    (recordAll checkedAt results rows t).get i
      = match rows.find? fun r => r.1 = i with
        | none => t.get i
        | some r => (t.get i).map (record checkedAt (resultFor results r.2.configText)) := by
  induction rows generalizing t with
  | nil => rfl
  | cons r rows ih =>
      rw [List.map_cons, List.nodup_cons] at hnodup
      rw [recordAll, ih hnodup.2, List.find?_cons]
      by_cases hi : r.1 = i
      · have hnone : rows.find? (fun r => decide (r.1 = i)) = none := by
          refine List.find?_eq_none.mpr fun q hq hqi => hnodup.1 ?_
          rw [hi, ← of_decide_eq_true hqi]
          exact List.mem_map_of_mem hq
        rw [hnone, decide_eq_true hi, ← hi, AutoTable.get_set_self]
      · rw [decide_eq_false hi, AutoTable.get_set_of_ne _ _ (Ne.symm hi)]

/-- A test that succeeds is recorded as a success. -/
lemma record_of_ok {checkedAt : Stamp} {item : Option ProbeResult}
    (h : item.any ProbeResult.ok = true) (c : ConfigRow) :
    ∃ latency, record checkedAt item c = c.recordSuccess checkedAt latency := by
  obtain _ | ⟨uri, protocol, _ | _, _ | latency, country, validation, error, source⟩ := item
  · cases h
  · cases h
  · cases h
  · cases h
  · exact ⟨latency, rfl⟩

/-- One that fails only moves `last_check`. -/
lemma record_of_not_ok {checkedAt : Stamp} {item : Option ProbeResult}
    (h : item.any ProbeResult.ok = false) (c : ConfigRow) :
    record checkedAt item c = setLastCheck checkedAt c := by
  obtain _ | ⟨uri, protocol, _ | _, _ | latency, country, validation, error, source⟩ := item
  · rfl
  · rfl
  · rfl
  · rfl
  · cases h

/-- The row of an active config a test asks for. -/
lemma find_wantedRows (configIds : List ℕ) (hget : db.configs.get i = some c) :
    (wantedRows db.configs configIds).find? (fun r => r.1 = i)
      = if c.isActive ∧ i ∈ configIds then some (i, c) else none := by
  have honly : ∀ r ∈ wantedRows db.configs configIds, r.1 = i → r = (i, c) := by
    rintro ⟨j, d⟩ hr rfl
    have hd := AutoTable.get_eq_some_iff.mpr (List.mem_of_mem_filter hr)
    rw [Option.some.inj (hd.symm.trans hget)]
  have hmem : (i, c) ∈ wantedRows db.configs configIds ↔ c.isActive ∧ i ∈ configIds := by
    rw [wantedRows, List.mem_filter, Bool.and_eq_true, List.contains_iff_mem]
    exact and_iff_right (AutoTable.get_eq_some_iff.mp hget)
  split_ifs with hwanted
  · obtain ⟨r, hr⟩ : ∃ r, (wantedRows db.configs configIds).find? (fun r => r.1 = i) = some r :=
      Option.isSome_iff_exists.mp
        (List.find?_isSome.mpr ⟨(i, c), hmem.mpr hwanted, by simp⟩)
    rw [hr, honly r (List.mem_of_find?_eq_some hr) (by simpa using List.find?_some hr)]
  · refine List.find?_eq_none.mpr fun r hr hi => hwanted (hmem.mp ?_)
    exact honly r hr (of_decide_eq_true hi) ▸ hr

/-- **What a test by hand makes of a row**, by what it finds out: nothing, a success, or its
date. -/
lemma get_runManualTest (env : Env) (configIds : List ℕ) (checkedAt : Stamp)
    (hget : db.configs.get i = some c) :
    ∃ c', (runManualTest env db configIds checkedAt).1.configs.get i = some c'
      ∧ match checkOf i db (.runManualTest env configIds checkedAt) with
        | none => c' = c
        | some k => k.scheduled = false
          ∧ if k.ok then ∃ latency, c' = c.recordSuccess checkedAt latency
            else c' = setLastCheck checkedAt c := by
  have hnodup : ((wantedRows db.configs configIds).map Prod.fst).Nodup :=
    db.configs.keyed.sublist (List.filter_sublist.map _)
  rw [checkOf, configs_runManualTest, hget]
  cases resultsOf? env (asked db configIds) with
  | none => exact ⟨c, hget, rfl⟩
  | some results =>
      dsimp only
      rw [get_recordAll hnodup, find_wantedRows configIds hget, hget]
      split_ifs with hwanted
      · refine ⟨_, rfl, rfl, ?_⟩
        dsimp only
        split_ifs with hok
        · exact record_of_ok hok c
        · exact record_of_not_ok (Bool.not_eq_true _ ▸ hok) c
      · exact ⟨c, rfl, rfl⟩

lemma recorded_runManualTest {env : Env} {configIds : List ℕ} {checkedAt : Stamp}
    (hget : db.configs.get i = some c) :
    ∃ c', (runManualTest env db configIds checkedAt).1.configs.get i = some c'
      ∧ Recorded db c (checkOf i db (.runManualTest env configIds checkedAt)) c' := by
  obtain ⟨c', hc', hrow⟩ := get_runManualTest env configIds checkedAt hget
  refine ⟨c', hc', ?_⟩
  cases hcheck : checkOf i db (.runManualTest env configIds checkedAt) with
  | none =>
      rw [hcheck] at hrow
      subst hrow
      exact .quiet _ rfl rfl
  | some k =>
      rw [hcheck] at hrow
      obtain ⟨scheduled, ok⟩ := k
      obtain ⟨rfl, hrow⟩ := hrow
      cases ok with
      | true =>
          obtain ⟨latency, rfl⟩ := hrow
          exact .success false checkedAt latency
      | false =>
          obtain rfl : c' = setLastCheck checkedAt c := by simpa using hrow
          exact .tested checkedAt

end ManualTest

/-! ### Any operation of a run -/

/-- Switching a config leaves its text and its counter alone. -/
lemma recorded_setConfigEnabledStatus {order : OrderBy (ℕ × ConfigRow) ConfigService.Before}
    {faults : ConfigService.Faults} {j : ℕ} {enabled : Bool} (hget : db.configs.get i = some c) :
    ∃ c', (ConfigService.setConfigEnabledStatus order faults db j enabled).1.configs.get i
        = some c'
      ∧ Recorded db c none c' := by
  have hset : ∃ c', (ConfigService.renumberConfigs order faults.renumber
        (db.configs.set j (ConfigService.setEnabled enabled))).get i = some c'
      ∧ Recorded db c none c' := by
    obtain ⟨m, hm⟩ := ConfigService.get_renumberConfigs order faults.renumber
      (db.configs.set j (ConfigService.setEnabled enabled)) i
    rw [hm, AutoTable.get_set, hget]
    split_ifs
    · exact ⟨_, rfl, .quiet _ rfl rfl⟩
    · exact ⟨_, rfl, .quiet _ rfl rfl⟩
  rw [ConfigService.setConfigEnabledStatus]
  cases db.configs.get j with
  | none =>
      split_ifs
      · exact ⟨c, hget, .quiet c rfl rfl⟩
      · exact ⟨c, hget, .quiet c rfl rfl⟩
      · exact ⟨c, hget, .quiet c rfl rfl⟩
  | some d =>
      dsimp only
      split_ifs
      · exact ⟨c, hget, .quiet c rfl rfl⟩
      · exact hset
      · exact hset

/-- **Any operation of a run** leaves the row as its check makes it. -/
lemma recorded_step (lib : ConfigLib) {op : PoolOp} (hget : db.configs.get i = some c)
    (hsole : HealthManager.Sole db.configs i c) (hop : op.Checks c.configText) :
    ∃ c', (db.poolStep lib op).configs.get i = some c' ∧ Recorded db c (checkOf i db op) c' := by
  cases op with
  | processHealthResults env scanTime now scanId results =>
      exact recorded_processHealthResults hget hsole hop
  | runManualTest env configIds checkedAt => exact ManualTest.recorded_runManualTest hget
  | setConfigEnabledStatus order faults j enabled => exact recorded_setConfigEnabledStatus hget
  | setSettings settings => exact ⟨c, hget, .quiet c rfl rfl⟩
  | addConfigs _ _ _ _ => cases hop
  | importDiscoveredConfigs _ _ _ _ _ => cases hop
  | deleteConfig _ _ _ => cases hop
  | bulkDeleteConfigs _ _ _ => cases hop
  | reorderConfigs _ _ _ => cases hop

/-- No operation of a run brings in a second active row with the text. -/
lemma noNew_step (lib : ConfigLib) {op : PoolOp} {text : String} (hop : op.Checks text) :
    NoNew db.configs (db.poolStep lib op).configs := by
  cases op with
  | processHealthResults env scanTime now scanId results =>
      exact HealthManager.noNew_processHealthResults env db results scanTime now scanId
  | runManualTest env configIds checkedAt =>
      exact ManualTest.noNew_runManualTest env db configIds checkedAt
  | setConfigEnabledStatus order faults j enabled =>
      exact ConfigService.noNew_setConfigEnabledStatus order faults db j enabled
  | setSettings settings => exact .refl _
  | addConfigs _ _ _ _ => cases hop
  | importDiscoveredConfigs _ _ _ _ _ => cases hop
  | deleteConfig _ _ _ => cases hop
  | bulkDeleteConfigs _ _ _ => cases hop
  | reorderConfigs _ _ _ => cases hop

lemma sole_of_noNew {t t' : AutoTable ConfigRow} (h : HealthManager.Sole t i c)
    (hnew : NoNew t t') (htext : c'.configText = c.configText) : HealthManager.Sole t' i c' := by
  intro j d hd hact hdtext
  obtain ⟨d₀, hd₀, hact₀, htext₀, -⟩ := hnew j d hd hact
  refine h j d₀ hd₀ hact₀ ?_
  calc d₀.configText = d.configText := htext₀
    _ = c'.configText := hdtext
    _ = c.configText := htext

/-- The row after a run: the counter has followed the checks. -/
structure OnStreak (i : ℕ) (c : ConfigRow) (db : PanelDb) (l : List Check) (c' : ConfigRow) :
    Prop where
  get : db.configs.get i = some c'
  text : c'.configText = c.configText
  sole : HealthManager.Sole db.configs i c'
  counter : c'.consecutiveFailures = some (failuresSince l : ℤ)

lemma OnStreak.step (lib : ConfigLib) {l : List Check} {op : PoolOp} (h : OnStreak i c db l c')
    (hop : op.Checks c.configText) :
    ∃ c'', OnStreak i c (db.poolStep lib op) (l ++ (checkOf i db op).toList) c''
      ∧ Recorded db c' (checkOf i db op) c'' := by
  rw [← h.text] at hop
  obtain ⟨c'', hget, hrec⟩ := recorded_step lib h.get h.sole hop
  refine ⟨c'', ⟨hget, hrec.configText.trans h.text, ?_, hrec.counter h.counter⟩, hrec⟩
  exact sole_of_noNew h.sole (noNew_step lib hop) hrec.configText

lemma OnStreak.run (lib : ConfigLib) {l : List Check} {ops : List PoolOp} (h : OnStreak i c db l c')
    (hops : ∀ op ∈ ops, op.Checks c.configText) :
    ∃ c'', OnStreak i c (ops.foldl (PanelDb.poolStep lib) db) (l ++ checks lib i db ops) c'' := by
  induction ops generalizing db l c' with
  | nil =>
      rw [checks, List.append_nil]
      exact ⟨c', h⟩
  | cons op ops ih =>
      obtain ⟨hop, hrest⟩ := List.forall_mem_cons.mp hops
      obtain ⟨c'', h', -⟩ := h.step lib hop
      have hrun := ih h' hrest
      rw [List.append_assoc] at hrun
      exact hrun

/-- A failed check disables or deletes the row exactly at the threshold, as the policy has it. -/
lemma recordFailure_retires_iff (threshold : ℤ) (policy : CleanupPolicy) (t : Stamp) (failures : ℤ)
    (c : ConfigRow) :
    ((c.recordFailure threshold policy t failures).isEnabled = false
        ↔ policy = .disable ∧ threshold ≤ failures)
      ∧ ((c.recordFailure threshold policy t failures).status = .deleted
        ↔ policy = .delete ∧ threshold ≤ failures) := by
  simp only [ConfigRow.recordFailure]
  constructor
  · rw [Bool.not_eq_false', decide_eq_true_eq, and_comm]
  · constructor
    · intro hdeleted
      split_ifs at hdeleted with hreached
      exact ⟨hreached.2, hreached.1⟩
    · intro hreached
      rw [if_pos ⟨hreached.2, hreached.1⟩]

/-- A test by hand that does not succeed writes its date at most. -/
lemma runManualTest_keeps {db : PanelDb} {i : ℕ} {c c' : ConfigRow} {env : ManualTest.Env}
    {configIds : List ℕ} {checkedAt : Stamp} (hget : db.configs.get i = some c)
    (hget' : (ManualTest.runManualTest env db configIds checkedAt).1.configs.get i = some c')
    (hnot : checkOf i db (.runManualTest env configIds checkedAt) ≠ some ⟨false, true⟩) :
    c'.consecutiveFailures = c.consecutiveFailures ∧ c'.isEnabled = c.isEnabled
      ∧ c'.status = c.status := by
  obtain ⟨d, hd, hrow⟩ := ManualTest.get_runManualTest env configIds checkedAt hget
  obtain rfl : d = c' := Option.some.inj (hd.symm.trans hget')
  cases hcheck : checkOf i db (.runManualTest env configIds checkedAt) with
  | none =>
      rw [hcheck] at hrow
      subst hrow
      exact ⟨rfl, rfl, rfl⟩
  | some k =>
      rw [hcheck] at hrow hnot
      obtain ⟨scheduled, ok⟩ := k
      obtain ⟨rfl, hrow⟩ := hrow
      cases ok with
      | true => exact absurd rfl hnot
      | false =>
          obtain rfl : d = ManualTest.setLastCheck checkedAt c := by simpa using hrow
          exact ⟨rfl, rfl, rfl⟩

/-- **The streak of a config.**  From its creation, over every run of health checks, tests by hand
and switches, its counter is the number of scheduled checks that failed since the last check that
succeeded; the next scheduled failure disables or deletes it exactly when this number has reached
the threshold, and the next test by hand that does not succeed changes neither the counter nor the
switch nor the status. -/
theorem counter_counts_streak {lib : ConfigLib} {db : PanelDb} {i : ℕ} {c : ConfigRow}
    (hget : db.configs.get i = some c) (hnew : c.consecutiveFailures = some 0)
    (hsole : HealthManager.Sole db.configs i c) {ops : List PoolOp}
    (hops : ∀ op ∈ ops, op.Checks c.configText) :
    ∃ c', (ops.foldl (PanelDb.poolStep lib) db).configs.get i = some c'
      ∧ c'.consecutiveFailures = some (failuresSince (checks lib i db ops) : ℤ)
      ∧ ∀ op : PoolOp, op.Checks c.configText →
        ∃ c'', ((ops ++ [op]).foldl (PanelDb.poolStep lib) db).configs.get i = some c''
          ∧ (checkOf i (ops.foldl (PanelDb.poolStep lib) db) op = some ⟨true, false⟩ →
              ∃ threshold, intSetting? (ops.foldl (PanelDb.poolStep lib) db).toDb
                  "failure_threshold" "2" = some threshold
                ∧ (c''.isEnabled = false
                  ↔ cleanupPolicy (ops.foldl (PanelDb.poolStep lib) db).toDb = .disable
                    ∧ threshold ≤ failuresSince (checks lib i db (ops ++ [op])))
                ∧ (c''.status = .deleted
                  ↔ cleanupPolicy (ops.foldl (PanelDb.poolStep lib) db).toDb = .delete
                    ∧ threshold ≤ failuresSince (checks lib i db (ops ++ [op]))))
          ∧ (∀ env configIds checkedAt, op = .runManualTest env configIds checkedAt →
              checkOf i (ops.foldl (PanelDb.poolStep lib) db) op ≠ some ⟨false, true⟩ →
              c''.consecutiveFailures = c'.consecutiveFailures ∧ c''.isEnabled = c'.isEnabled
                ∧ c''.status = c'.status) := by
  have hstart : OnStreak i c db [] c := ⟨hget, rfl, hsole, hnew⟩
  obtain ⟨c', hrun⟩ := hstart.run lib hops
  rw [List.nil_append] at hrun
  refine ⟨c', hrun.get, hrun.counter, fun op hop => ?_⟩
  set db' := ops.foldl (PanelDb.poolStep lib) db with hdb'
  obtain ⟨c'', hnext, hrec⟩ := hrun.step lib hop
  have hall : checks lib i db (ops ++ [op]) = checks lib i db ops ++ (checkOf i db' op).toList := by
    rw [checks_append, ← hdb', checks, checks, List.append_nil]
  have hend : (ops ++ [op]).foldl (PanelDb.poolStep lib) db = db'.poolStep lib op := by
    rw [List.foldl_append, ← hdb']
    rfl
  rw [hend, hall]
  refine ⟨c'', hnext.get, fun hfail => ?_, ?_⟩
  · -- a scheduled failure
    have hcount := hnext.counter
    rw [hfail] at hrec hcount ⊢
    cases hrec with
    | failure threshold t ht =>
        refine ⟨threshold, ht, ?_⟩
        have hnumber : c'.consecutiveFailures.getD 0 + 1
            = (failuresSince (checks lib i db ops ++ (some (Check.mk true false)).toList) : ℤ) :=
          Option.some.inj hcount
        rw [hnumber]
        exact recordFailure_retires_iff _ _ _ _ _
  · -- a test by hand that does not succeed
    rintro env configIds checkedAt rfl hnot
    exact runManualTest_keeps hrun.get hnext.get hnot

namespace HealthManager

/-- A health check in which the sample config times out. -/
def sampleFailedCheck (t : Stamp) : PoolOp :=
  .processHealthResults ⟨false, fun _ => .prefer fun _ => true⟩ t t none [sampleTimeout]

lemma sole_samplePool : Sole samplePool.configs 1 sampleOff := by
  intro j d hd _ _
  have hrow : (AutoTable.empty.insert sampleOff).get j = some d := hd
  rw [AutoTable.get_insert] at hrow
  split_ifs at hrow with hj
  · exact hj
  · rw [AutoTable.get_empty] at hrow
    cases hrow

/-- Two failed checks bring the count to two, the threshold of the sample settings. -/
theorem counter_counts_streak_sample :
    ∃ c', ([sampleFailedCheck (Stamp.day 1), sampleFailedCheck (Stamp.day 2)].foldl
        (PanelDb.poolStep ConfigImporter.sampleConfigLib) samplePool).configs.get 1 = some c'
      ∧ c'.consecutiveFailures = some (failuresSince (checks ConfigImporter.sampleConfigLib 1
          samplePool [sampleFailedCheck (Stamp.day 1), sampleFailedCheck (Stamp.day 2)]) : ℤ) := by
  have hchecks : ∀ op ∈ [sampleFailedCheck (Stamp.day 1), sampleFailedCheck (Stamp.day 2)],
      op.Checks sampleOff.configText := by
    intro op hop
    simp only [List.mem_cons, List.not_mem_nil, or_false] at hop
    rcases hop with rfl | rfl
    · exact (by decide : (resultsOf sampleOff.configText [sampleTimeout]).length ≤ 1)
    · exact (by decide : (resultsOf sampleOff.configText [sampleTimeout]).length ≤ 1)
  have hget : samplePool.configs.get 1 = some sampleOff := by decide +kernel
  obtain ⟨c', hget, hcount, -⟩ := counter_counts_streak hget rfl sole_samplePool hchecks
  exact ⟨c', hget, hcount⟩

end HealthManager

end V2raySub
