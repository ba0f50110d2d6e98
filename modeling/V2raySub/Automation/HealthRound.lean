import V2raySub.Automation.Engine
import V2raySub.Automation.Retire
import V2raySub.V2RayDar.Worker

/-!
A whole health check: the panel asks the engine about the configs it serves
(`automation_service.py`, `mode == 'health_check'`), the engine probes them (`worker.rs`,
`run_health`), and the panel writes down what it answers (`process_health_results`).

* `healthRequest`: what the engine is asked.
* `length_resultsOf_le`: it answers at most once about the text of a row no other row has.
* `health_check_counts_once`: **a health check counts against a config at most once**, however the
  engine's batches and probes fall; and a check nobody cancels passes over a config only where it
  answers about another one with the same outbound key.
-/

open scoped List

namespace V2raySub

open V2RayDar (InputConfig ProbeConfig Schedule WorkerEngine runHealth sampleConfig sampleSchedule
  sampleWorker)

variable {O : Type*}

/-- What the engine is asked: the configs that are served (`SELECT config_text, config_type FROM
configs WHERE status = "active" AND is_enabled = 1`). -/
def healthRequest (db : PanelDb) : List InputConfig :=
  (db.configs.rows.filter fun r => r.2.isServed).map fun r =>
    ⟨r.2.entry.uri, some r.2.entry.protocol⟩

namespace HealthManager

variable {db db₀ : PanelDb} {i : ℕ} {c : ConfigRow} {results : List ProbeResult}

/-- The links of a request are those that are served. -/
lemma uris_healthRequest (db : PanelDb) : (healthRequest db).map InputConfig.uri
    = (db.configs.rows.filter fun r => r.2.isServed).map fun r => r.2.configText := by
  rw [healthRequest, List.map_map]
  rfl

/-- A link of a request is that of a config that is served. -/
lemma mem_uris_healthRequest {text : String} :
    text ∈ (healthRequest db).map InputConfig.uri
      ↔ ∃ j d, db.configs.get j = some d ∧ d.isServed ∧ d.configText = text := by
  rw [uris_healthRequest]
  constructor
  · intro h
    obtain ⟨⟨j, d⟩, hd, rfl⟩ := List.mem_map.mp h
    obtain ⟨hmem, hserved⟩ := List.mem_filter.mp hd
    exact ⟨j, d, AutoTable.get_eq_some_iff.mpr hmem, hserved, rfl⟩
  · rintro ⟨j, d, hget, hserved, rfl⟩
    exact List.mem_map.mpr
      ⟨(j, d), List.mem_filter.mpr ⟨AutoTable.get_eq_some_iff.mp hget, hserved⟩, rfl⟩

/-- A config that is served is active. -/
lemma isActive_of_isServed {d : ConfigRow} (h : d.isServed) : d.isActive := by
  rw [ConfigRow.isServed, Bool.and_eq_true] at h
  exact h.1

/-- The text of a row no other active row has is sent at most once. -/
lemma count_healthRequest_le (hsole : Sole db.configs i c) :
    ((healthRequest db).map InputConfig.uri).count c.configText ≤ 1 := by
  have hkeys : ((db.configs.rows.filter fun r => r.2.isServed
      && decide (r.2.configText = c.configText)).map Prod.fst).Nodup :=
    db.configs.keyed.sublist (List.filter_sublist.map _)
  have hall : ∀ j ∈ (db.configs.rows.filter fun r => r.2.isServed
      && decide (r.2.configText = c.configText)).map Prod.fst, j = i := fun j hj => by
    obtain ⟨⟨j, d⟩, hd, rfl⟩ := List.mem_map.mp hj
    obtain ⟨hmem, hp⟩ := List.mem_filter.mp hd
    rw [Bool.and_eq_true, decide_eq_true_eq] at hp
    exact hsole j d (AutoTable.get_eq_some_iff.mpr hmem) (isActive_of_isServed hp.1) hp.2
  have hlen : ((db.configs.rows.filter fun r => r.2.isServed
      && decide (r.2.configText = c.configText)).map Prod.fst).length ≤ 1 := by
    rw [List.eq_replicate_of_mem hall, List.nodup_replicate] at hkeys
    exact hkeys
  calc ((healthRequest db).map InputConfig.uri).count c.configText
      = (db.configs.rows.filter fun r => r.2.isServed
          && decide (r.2.configText = c.configText)).length := by
        rw [uris_healthRequest, List.count_eq_countP, List.countP_map, List.countP_filter,
          List.countP_eq_length_filter]
        refine congrArg List.length (List.filter_congr fun r _ => ?_)
        simp [Bool.and_comm, beq_eq_decide]
    _ ≤ 1 := by rwa [List.length_map] at hlen

variable {engine : WorkerEngine O} {config : ProbeConfig} {schedule : Schedule}

/-- The engine answers at most once about it. -/
lemma length_resultsOf_le
    (h : runHealth engine config schedule (some (healthRequest db₀)) = some (.ok results))
    (hsole : Sole db₀.configs i c) : (resultsOf c.configText results).length ≤ 1 := by
  calc (resultsOf c.configText results).length
      = (results.map ProbeResult.uri).count c.configText := by
        rw [resultsOf, List.count_eq_countP, List.countP_map, List.countP_eq_length_filter]
        refine congrArg List.length (List.filter_congr fun item _ => ?_)
        simp [beq_eq_decide]
    _ ≤ ((healthRequest db₀).map InputConfig.uri).count c.configText :=
        (V2RayDar.subperm_runHealth h).count_le _
    _ ≤ 1 := count_healthRequest_le hsole

/-- What the results make of the row, where there is at most one about its text. -/
lemma get_probes_of_le_one {p : Params} {s : State} (fetch : ℕ → _)
    (hget : s.configs.get i = some c) (hsole : Sole s.configs i c) (hact : c.isActive)
    (hone : (resultsOf c.configText results).length ≤ 1) :
    (resultsOf c.configText results = [] ∧ (probes p fetch s results).configs.get i = some c)
    ∨ ∃ item ∈ results, item.uri = c.configText
      ∧ (probes p fetch s results).configs.get i = some (p.apply item c) := by
  obtain ⟨l, -, hall, hrun⟩ := run_row (p := p) fetch results hget
  rw [hall (.inl hsole)] at hrun
  match hres : resultsOf c.configText results, hone with
  | [], _ =>
      rw [hres] at hrun
      exact .inl ⟨rfl, hrun⟩
  | [item], _ =>
      have hmem : item ∈ resultsOf c.configText results := by
        rw [hres]
        exact List.mem_singleton_self item
      rw [resultsOf, List.mem_filter, decide_eq_true_eq] at hmem
      rw [hres, List.foldl_cons, List.foldl_nil, Params.deliver, if_pos hact] at hrun
      exact .inr ⟨item, hmem.1, hmem.2, hrun⟩

/-- **A health check counts at most once.**  The engine is asked about the configs served in `db₀`,
and its results are written to `db`; no other active row has the text of the config, then or now.
The config is left alone or written once, with one of the results.  If the check goes through and
the config was among those served, it is left alone only where the engine answered about another
text with the same outbound key. -/
theorem health_check_counts_once {env : Env} {scanTime now : Stamp} {scanId : Option ℕ}
    {threshold : ℤ}
    (h : runHealth engine config schedule (some (healthRequest db₀)) = some (.ok results))
    (hsole₀ : Sole db₀.configs i c) (hget : db.configs.get i = some c)
    (hsole : Sole db.configs i c) (hact : c.isActive)
    (hthreshold : intSetting? db.toDb "failure_threshold" "2" = some threshold)
    (hraised : env.raised = false) :
    let db' := (processHealthResults env db results scanTime now scanId).1
    let p : Params := ⟨threshold, cleanupPolicy db.toDb, scanTime, now, scanId⟩
    ((db'.configs.get i = some c ∧ c.configText ∉ results.map ProbeResult.uri)
      ∨ ∃ item ∈ results, item.uri = c.configText
        ∧ db'.configs.get i = some (p.apply item c))
    ∧ (schedule.Uncancelled → (∃ j d, db₀.configs.get j = some d ∧ d.isServed
        ∧ d.configText = c.configText) → c.configText ∉ results.map ProbeResult.uri →
      ∃ text ∈ results.map ProbeResult.uri, text ≠ c.configText
        ∧ engine.outbounds.Same c.configText text) := by
  intro db' p
  refine ⟨?_, fun hgo hsent hmissed => ?_⟩
  · have hconfigs : db'.configs = (probes p env.fetch ⟨db.configs, db.configHealthHistory, 0, 0⟩
        results).configs := configs_processHealthResults hthreshold hraised
    rw [hconfigs]
    refine (get_probes_of_le_one env.fetch hget hsole hact (length_resultsOf_le h hsole₀)).imp_left
      fun ⟨hnone, hsame⟩ => ⟨hsame, fun hmem => ?_⟩
    obtain ⟨item, hitem, huri⟩ := List.mem_map.mp hmem
    have hmem : item ∈ resultsOf c.configText results := List.mem_filter.mpr ⟨hitem, by simp [huri]⟩
    rw [hnone] at hmem
    exact List.not_mem_nil hmem
  · rcases V2RayDar.covers_runHealth h hgo (mem_uris_healthRequest.mpr hsent) with hown | hother
    · exact absurd hown hmissed
    · obtain ⟨text, htext, hsame⟩ := hother
      exact ⟨text, htext, fun heq => hmissed (heq ▸ htext), hsame⟩

/-- The config of the sample, switched on. -/
def sampleOn : ConfigRow := { sampleOff with isEnabled := true }

def sampleServing : PanelDb := { samplePool with configs := AutoTable.empty.insert sampleOn }

lemma sole_sampleServing : Sole sampleServing.configs 1 sampleOn := by
  intro j d hget _ _
  have hmem : (j, d) ∈ sampleServing.configs.rows := AutoTable.get_eq_some_iff.mp hget
  exact congrArg Prod.fst (List.mem_singleton.mp hmem)

def sampleProbed : ProbeResult :=
  { uri := sampleOff.configText, protocol := "vless", reachable := true, latencyMs := some 5,
    countryCode := none, validation := "active_http", error := none, source := "health-check" }

/-- A check of a panel with one config. -/
theorem health_check_counts_once_sample :
    ∃ item ∈ [sampleProbed], item.uri = sampleOn.configText
      ∧ (processHealthResults ⟨false, fun _ => .prefer fun _ => true⟩ sampleServing [sampleProbed]
          (Stamp.day 1) (Stamp.day 1) none).1.configs.get 1
        = some (Params.apply ⟨2, cleanupPolicy sampleServing.toDb, Stamp.day 1, Stamp.day 1, none⟩
          item sampleOn) := by
  have h : runHealth (sampleWorker []) sampleConfig sampleSchedule
      (some (healthRequest sampleServing)) = some (.ok [sampleProbed]) := rfl
  obtain ⟨hdone, -⟩ := health_check_counts_once h sole_sampleServing
    (show sampleServing.configs.get 1 = some sampleOn from rfl) sole_sampleServing rfl
    (show intSetting? sampleServing.toDb "failure_threshold" "2" = some 2 by decide +kernel)
    (show (⟨false, fun _ => .prefer fun _ => true⟩ : Env).raised = false from rfl)
  exact hdone.resolve_left fun hleft => hleft.2 List.mem_cons_self

end HealthManager

end V2raySub
