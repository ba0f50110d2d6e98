import V2raySub.Automation.ScanCleanup

/-!
A discovery in which nothing raises (`automation_service.py`, `run_scan('discovery')`).

* `Calm`: the environments without faults; `Does P m Q`: from tables with `P`, the piece `m` answers
  and leaves tables with `Q`, with one lemma a piece of the scan.
* `calm_discovery`: a calm discovery with a free slot and a source asks the engine once for what
  it can import, and leaves the pool as the import of the answer does.
-/

namespace V2raySub
namespace AutomationService

open Prog (Total)

/-! ### Pieces that answer -/

/-- Nothing raises. -/
structure Calm (env : Env) : Prop where
  fileFree : env.fileFree = true
  scope : env.scope = none
  record : env.record = ⟨none, none, none, none⟩
  fault : ∀ n, env.fault n = none
  closeLock : env.closeLock = none

/-- From tables with `P` the piece answers, and leaves tables with `Q`. -/
def Does {α : Type} (P : PanelDb → Prop) (m : Run α) (Q : α → PanelDb → Prop) : Prop :=
  Total (fun w => P w.db) m fun a w => Q a w.db

section

variable {α β : Type} {env : Env} (hc : Calm env) {P : PanelDb → Prop}

/-- An answer changes nothing. -/
lemma does_pure {Q : α → PanelDb → Prop} (a : α) (h : ∀ db, P db → Q a db) :
    Does P (pure a : Run α) Q :=
  .pure a fun _ hw => h _ hw

/-- One piece after the other. -/
lemma does_bind {Q : α → PanelDb → Prop} {R : β → PanelDb → Prop} {m : Run α} {f : α → Run β}
    (hm : Does P m Q) (hf : ∀ a, Does (Q a) (f a) R) : Does P (m >>= f) R :=
  Total.bind hm hf

/-- Less may be asked of the result, and more of the start. -/
lemma does_mono {P' : PanelDb → Prop} {Q Q' : α → PanelDb → Prop} {m : Run α} (hm : Does P m Q)
    (hp : ∀ db, P' db → P db) (hq : ∀ a db, Q a db → Q' a db) : Does P' m Q' :=
  Total.mono hm (fun _ => hp _) fun _ _ => hq _ _

/-- What is a fact on the tables may be used. -/
lemma does_of_fact {p : Prop} {Q : α → PanelDb → Prop} {m : Run α} (h : p → Does P m Q) :
    Does (fun db => p ∧ P db) m Q := Total.of_fact h

/-- The question for a cancellation changes no table. -/
lemma does_isCancelRequested : Does P (isCancelRequested env) fun _ => P :=
  fun _ hw => ⟨_, _, rfl, hw⟩

/-- The answer is one of the engine's. -/
lemma does_runSubprocess (input : EngineInput) :
    Does P (runSubprocess env input) fun reply db => (∃ n, reply = env.engine n input) ∧ P db :=
  fun w hw => ⟨_, _, rfl, ⟨w.runs, rfl⟩, hw⟩

/-- The end of a scan is written outside the pool. -/
lemma does_endStatus (status : ScanStatus) : Does P (endStatus env status) fun _ => P :=
  does_bind does_isCancelRequested fun _ => does_pure _ fun _ h => h

include hc

/-- A database operation goes through. -/
lemma op_of_calm (w : World) : op env w = (.ok (), { w with ops := w.ops + 1 }) := by
  rw [op, hc.fault]
  rfl

lemma does_op : Does P (op env) fun _ => P :=
  fun w hw => ⟨(), _, op_of_calm hc w, hw⟩

/-- A query answers what the tables hold. -/
lemma does_query (select : PanelDb → α) :
    Does P (query env select) fun a db => (∃ db', P db' ∧ a = select db') ∧ P db := by
  refine does_bind (does_op hc) fun _ => does_bind (does_op hc) fun _ =>
    Total.bind .state fun w => ?_
  rintro _ ⟨rfl, hw⟩
  exact ⟨select w.db, { w with ops := w.ops + 1 }, Prog.bind_of_ok (op_of_calm hc w),
    ⟨w.db, hw, rfl⟩, hw⟩

/-- A commit changes the tables. -/
lemma does_commit {f : PanelDb → PanelDb} {Q : PanelDb → Prop} (h : ∀ db, P db → Q (f db)) :
    Does P (commit env f) fun _ => Q :=
  does_bind (does_op hc) fun _ => Total.change fun _ hw => h _ hw

/-- A session does what its work does. -/
lemma does_session {Q : α → PanelDb → Prop} {default : α} {work : Run α} (hw : Does P work Q) :
    Does P (session env default work) Q :=
  does_bind (does_op hc) fun _ => Total.always (Total.handle hw _) fun _ => does_op hc

/-- A setting is read from tables with `P`. -/
lemma does_setting (key default : String) :
    Does P (setting env key default) fun a db =>
      (∃ db', P db' ∧ a = getSetting db'.toDb key default) ∧ P db := by
  refine does_bind (does_op hc) fun _ => Total.bind .state fun w => ?_
  rintro _ ⟨rfl, hw⟩
  exact ⟨_, w, rfl, ⟨w.db, hw, rfl⟩, hw⟩

/-- A setting that is an integer. -/
lemma does_intSetting {key default : String} {n : ℤ}
    (hn : ∀ db, P db → intSetting? db.toDb key default = some n) :
    Does P (intSetting env key default) fun a db => a = n ∧ P db := by
  refine does_bind (does_setting hc key default) fun raw w hw => ?_
  obtain ⟨⟨db', hdb', rfl⟩, hp⟩ := hw
  have hraw : PyText.intOfStr? (getSetting db'.toDb key default) = some n := hn db' hdb'
  exact ⟨n, w, by rw [hraw]; rfl, rfl, hp⟩

/-- A setting that is checked changes no table. -/
lemma does_getValidatedInt (key : String) (default low high : ℤ) :
    Does P (getValidatedInt env key default low high) fun _ => P :=
  does_bind (does_setting hc _ _) fun _ => does_pure _ fun _ h => h.2

lemma does_probeTimeoutArgs : Does P (probeTimeoutArgs env) fun _ => P :=
  .ite (does_bind (does_getValidatedInt hc _ _ _ _) fun _ => does_pure _ fun _ h => h)
    (does_pure _ fun _ h => h)

/-- The history is not the pool. -/
lemma does_updateScanHistory (scanId : Option ℕ) (e : MetricsRecorder.Ending)
    (hP : ∀ db scanHistory, P db → P { db with scanHistory := scanHistory }) :
    Does P (updateScanHistory env scanId e) fun _ => P := by
  cases scanId with
  | none => exact does_pure () fun _ h => h
  | some i =>
      have hmark : Does P (Prog.change fun w => { w with lastUpdate := some false } : Run Unit)
          fun _ => P := Total.change fun _ hw => hw
      have hfinish : Does P (finishScan env i e) fun _ => P :=
        does_bind (does_op hc) fun _ => Total.change fun _ hw => hP _ _ hw
      exact does_bind hmark fun _ => does_session hc (does_bind (does_op hc) fun _ => hfinish)

/-- The bookkeeping writes the table of the sources alone. -/
lemma does_updateSourceMetadata (name : String) (error : Option String)
    (hP : ∀ db autoSources, P db → P { db with autoSources := autoSources }) :
    Does P (updateSourceMetadata env name error) fun _ => P :=
  does_session hc (does_bind (does_op hc) fun _ => Total.bind .state fun _ =>
    (does_commit hc fun db hdb => hP db _ hdb).mono (fun _ hs => hs.2) fun _ _ h => h)

/-- The counts are written to the table of the sources alone. -/
lemma does_countSources (sources : List SourceEntry)
    (hP : ∀ db autoSources, P db → P { db with autoSources := autoSources }) :
    Does P (countSources env sources) fun _ => P :=
  does_bind (does_op hc) fun _ => does_bind
    (Total.each fun _ => Total.ite (does_op hc) (does_pure () fun _ h => h)) fun _ =>
      does_bind (does_commit hc fun db hdb => hP db _ hdb) fun _ => does_op hc

end

/-! ### The pieces of a discovery -/

/-- The pool and the settings are as in `db₀`. -/
structure SamePool (db₀ db : PanelDb) : Prop where
  configs : db.configs = db₀.configs
  toDb : db.toDb = db₀.toDb

/-- The configs are those of `db₀` after an import of `results`. -/
def Imported (env : Env) (db₀ : PanelDb) (results : List ProbeResult) (db : PanelDb) : Prop :=
  ∃ order k db₁, k.lib = env.lib ∧ SamePool db₀ db₁ ∧
    db.configs = (ConfigImporter.importDiscoveredConfigs ⟨false, order⟩ k db₁ results).1.configs

/-- What a discovery needs to find: both limits, the switches, and a source. -/
structure Ready (db : PanelDb) (sourceId : Option ℕ) (maxActive maxNew : ℤ) : Prop where
  active : intSetting? db.toDb "max_active_configs" "100" = some maxActive
  new : intSetting? db.toDb "max_new_configs_per_scan" "10" = some maxNew
  early : getSetting db.toDb "early_stop_enabled" "1" = "1"
  refineOff : getSetting db.toDb "refine_pass_enabled" "1" ≠ "1"
  sources : sourcesOf sourceId db ≠ []

/-- How many configs a scan can import: the cap of a scan or the free capacity. -/
def freeTarget (db : PanelDb) (maxActive maxNew : ℤ) : ℤ :=
  min maxNew (max 0 (maxActive - (db.configs.count ConfigRow.isServed : ℤ)))

/-- Whatever a discovery asks the engine for `target` configs, the answer can be read, and its
results have `Q`. -/
def Answers (env : Env) (target : ℤ) (Q : List ProbeResult → Prop) : Prop :=
  ∀ n sources scanTimeout fetchC args,
    let reply := env.engine n (discoveryInput env true target sources scanTimeout fetchC args)
    reply.retCode = 0 ∧ ∃ output, parseResult reply.stdout = .ok output ∧ Q output.results

section

variable {env : Env} (hc : Calm env) {db₀ : PanelDb} {results : List ProbeResult}

include hc

/-- The limits are those of the start. -/
lemma does_samePool_intSetting {key default : String} {n : ℤ}
    (hn : intSetting? db₀.toDb key default = some n) :
    Does (SamePool db₀) (intSetting env key default) fun a db => a = n ∧ SamePool db₀ db :=
  does_intSetting hc fun db h => by rw [h.toDb, hn]

/-- The settings are those of the start. -/
lemma does_samePool_setting (key default : String) :
    Does (SamePool db₀) (setting env key default) fun a db =>
      a = getSetting db₀.toDb key default ∧ SamePool db₀ db := by
  refine does_mono (does_setting hc key default) (fun _ h => h) fun a db h => ?_
  obtain ⟨⟨db', hdb', rfl⟩, hp⟩ := h
  exact ⟨by rw [hdb'.toDb], hp⟩

/-- Without the refinement the results are those of the engine. -/
lemma does_refinementPass (target : ℤ)
    (hoff : getSetting db₀.toDb "refine_pass_enabled" "1" ≠ "1") :
    Does (SamePool db₀) (refinementPass env results target) fun a db =>
      a = results ∧ SamePool db₀ db := by
  refine does_bind (does_samePool_setting hc _ _) fun enabled => does_of_fact fun h => ?_
  rw [if_pos (.inl (h ▸ hoff))]
  exact does_pure _ fun _ hp => ⟨rfl, hp⟩

/-- The import is that of the configs of the start. -/
lemma does_importDiscoveredConfigs (scanId : Option ℕ) {maxActive maxNew : ℤ}
    (hactive : intSetting? db₀.toDb "max_active_configs" "100" = some maxActive)
    (hnew : intSetting? db₀.toDb "max_new_configs_per_scan" "10" = some maxNew) :
    Does (SamePool db₀) (importDiscoveredConfigs env scanId results) fun _ =>
      Imported env db₀ results := by
  refine does_session hc ?_
  refine does_bind (does_samePool_intSetting hc hactive) fun _ => does_of_fact fun _ => ?_
  refine does_bind (does_samePool_intSetting hc hnew) fun _ => does_of_fact fun _ => ?_
  refine does_bind (does_op hc) fun _ => Total.bind .state fun w => ?_
  refine Total.mono (P := fun w => SamePool db₀ w.db) ?_ (fun _ h => h.2) fun _ _ h => h
  refine does_bind (does_commit hc fun db hdb => ?_) fun _ => does_pure _ fun _ h => h
  exact ⟨env.order w.ops, _, db, rfl, hdb, rfl⟩

/-- What comes after the answer of the engine imports it. -/
lemma does_finishDiscovery (scanId : Option ℕ) (sources : List SourceEntry)
    (target durationMs : ℤ) (output : WorkerOutput) {maxActive maxNew : ℤ}
    (hactive : intSetting? db₀.toDb "max_active_configs" "100" = some maxActive)
    (hnew : intSetting? db₀.toDb "max_new_configs_per_scan" "10" = some maxNew)
    (hoff : getSetting db₀.toDb "refine_pass_enabled" "1" ≠ "1") :
    Does (SamePool db₀) (finishDiscovery env scanId sources target durationMs output) fun _ =>
      Imported env db₀ output.results := by
  refine does_bind (does_refinementPass hc target hoff) fun a => does_of_fact fun h => ?_
  subst h
  refine does_bind (does_importDiscoveredConfigs hc scanId hactive hnew) fun _ => ?_
  refine does_bind (Total.each fun _ => does_updateSourceMetadata hc _ _ fun _ _ h => h) fun _ => ?_
  refine does_bind (does_endStatus _) fun _ => ?_
  exact does_bind (does_updateScanHistory hc _ _ fun _ _ h => h) fun _ => does_pure _ fun _ h => h

/-- With early stop the target is what can be imported. -/
lemma does_targetCount {maxActive maxNew : ℤ}
    (hnew : intSetting? db₀.toDb "max_new_configs_per_scan" "10" = some maxNew)
    (hpos : 0 < freeTarget db₀ maxActive maxNew) :
    Does (SamePool db₀)
      (targetCount env true maxActive (db₀.configs.count ConfigRow.isServed)) fun a db =>
        a = freeTarget db₀ maxActive maxNew ∧ SamePool db₀ db := by
  refine does_bind (does_samePool_intSetting hc hnew) fun a => does_of_fact fun h => ?_
  have hcapacity : 0 < max 0 (maxActive - (db₀.configs.count ConfigRow.isServed : ℤ)) :=
    lt_of_lt_of_le hpos (min_le_right _ _)
  exact does_pure _ fun _ hp => ⟨by rw [if_pos hcapacity, h, freeTarget], hp⟩

/-- A discovery over sources asks once and imports what it is answered. -/
lemma does_discover (sourceId scanId : Option ℕ) (sources : List SourceEntry)
    {maxActive maxNew : ℤ} {Q : List ProbeResult → Prop}
    (hr : Ready db₀ sourceId maxActive maxNew) (hpos : 0 < freeTarget db₀ maxActive maxNew)
    (hanswers : Answers env (freeTarget db₀ maxActive maxNew) Q) :
    Does (SamePool db₀)
      (discover env scanId maxActive (db₀.configs.count ConfigRow.isServed) sources) fun _ db =>
        ∃ results, Q results ∧ Imported env db₀ results db := by
  refine does_bind (does_countSources hc _ fun _ _ h => ⟨h.configs, h.toDb⟩) fun _ => ?_
  refine does_bind (does_getValidatedInt hc _ _ _ _) fun scanTimeout => ?_
  refine does_bind (does_samePool_setting hc _ _) fun earlyStop => does_of_fact fun hstop => ?_
  rw [hr.early] at hstop
  subst hstop
  refine does_bind (does_targetCount hc hr.new hpos) fun target => does_of_fact fun htarget => ?_
  subst htarget
  refine does_bind (does_getValidatedInt hc _ _ _ _) fun fetchC => ?_
  refine does_bind (does_getValidatedInt hc _ _ _ _) fun probeC => ?_
  refine does_bind (does_getValidatedInt hc _ _ _ _) fun probePc => ?_
  refine does_bind (does_probeTimeoutArgs hc) fun timeoutArgs => ?_
  refine does_bind (does_runSubprocess _) fun reply => does_of_fact fun hreply => ?_
  obtain ⟨n, rfl⟩ := hreply
  obtain ⟨hret, output, hparse, hq⟩ := hanswers n sources scanTimeout fetchC
    ⟨probeC, probePc, timeoutArgs⟩
  simp only [decide_true, hret, hparse, ne_eq, not_true, if_false]
  exact does_mono (does_finishDiscovery hc scanId sources _ _ output hr.active hr.new hr.refineOff)
    (fun _ h => h) fun _ _ h => ⟨_, hq, h⟩

/-- A discovery imports what the engine answers. -/
lemma does_discovery (sourceId scanId : Option ℕ) {maxActive maxNew : ℤ}
    {Q : List ProbeResult → Prop} (hr : Ready db₀ sourceId maxActive maxNew)
    (hpos : 0 < freeTarget db₀ maxActive maxNew)
    (hanswers : Answers env (freeTarget db₀ maxActive maxNew) Q) :
    Does (fun db => sourcesOf sourceId db = sourcesOf sourceId db₀ ∧ SamePool db₀ db)
      (discovery env sourceId scanId) fun _ db =>
        ∃ results, Q results ∧ Imported env db₀ results db := by
  refine does_bind (does_intSetting hc (n := maxActive) fun db h => ?_) fun a => ?_
  · rw [h.2.toDb, hr.active]
  refine does_of_fact fun ha => ?_
  subst ha
  refine does_bind (does_setting hc _ _) fun _ => does_of_fact fun _ => ?_
  refine does_bind (does_query hc _) fun n => does_of_fact fun hn => ?_
  obtain ⟨db', h', rfl⟩ := hn
  have hfree : (db₀.configs.count ConfigRow.isServed : ℤ) < a := by
    rw [freeTarget] at hpos
    omega
  rw [h'.2.configs, if_neg fun h => absurd h.1 (not_le.mpr hfree)]
  refine does_bind (does_query hc _) fun sources => does_of_fact fun hs => ?_
  obtain ⟨db'', h'', rfl⟩ := hs
  rw [if_neg (h''.1 ▸ hr.sources)]
  exact does_mono (does_discover hc sourceId scanId _ hr hpos hanswers) (fun _ h => h.2)
    fun _ _ h => h

/-- A calm discovery with a free slot answers, and what it leaves in the pool is the import of what
the engine answered. -/
theorem calm_discovery (sourceId : Option ℕ) {w : World} {maxActive maxNew : ℤ}
    {Q : List ProbeResult → Prop} (hlock : w.scanLock = false)
    (hr : Ready w.db sourceId maxActive maxNew) (hpos : 0 < freeTarget w.db maxActive maxNew)
    (hanswers : Answers env (freeTarget w.db maxActive maxNew) Q) :
    ∃ answer w', runScan env "discovery" sourceId w = (.ok answer, w')
      ∧ ∃ results, Q results ∧ Imported env w.db results w'.db := by
  have hquiet : ¬PreludeRaises env "discovery" sourceId := by
    simp [PreludeRaises, hc.scope, hc.record]
  rcases prelude_cases env "discovery" sourceId w.locked with h | ⟨-, scanId, w₁, hok, hb⟩
  · exact absurd h.1 hquiet
  -- the row of the scan touches neither the pool nor the sources
  have hstart : sourcesOf sourceId w₁.db = sourcesOf sourceId w.db ∧ SamePool w.db w₁.db := by
    cases hb <;> exact ⟨rfl, rfl, rfl⟩
  have hbody : Does
      (fun db => sourcesOf sourceId db = sourcesOf sourceId w.db ∧ SamePool w.db db)
      (guarded env "discovery" sourceId scanId) fun _ db =>
        ∃ results, Q results ∧ Imported env w.db results db :=
    Total.handle (does_bind (does_op hc) fun _ => does_discovery hc sourceId scanId hr hpos
      hanswers)
      _
  obtain ⟨answer, w₂, hrun, h⟩ := hbody w₁ hstart
  refine ⟨answer, w₂.unlocked, ?_, h⟩
  rw [runScan_of_free hlock hc.fileFree, held, Prog.bind_of_ok hok,
    always_releaseLocks _ hc.closeLock, hrun]

end

end AutomationService
end V2raySub
