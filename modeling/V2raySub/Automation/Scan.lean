import V2raySub.Automation.Engine
import V2raySub.Automation.Import
import V2raySub.Automation.Metrics
import V2raySub.Base.Effects

/-!
A scan from end to end (`automation_service.py`, `AutomationService.run_scan`), on the tables and
the two locks.

* `Env` is what a run meets: the faults of its database and file operations, the cancel flag, the
  engine, the clock and what the database leaves open.
* `op` is an operation inside the `try`; the helpers above `discovery` and `healthCheck` follow the
  functions the two modes call.
* `runScan` is the whole function: the locks, the row of the history, the `try`, its handler and
  its `finally`.
-/

namespace V2raySub
namespace AutomationService

/-! ### The world of a scan -/

/-- The tables and the locks, with what has happened so far: operations inside the `try`, calls of
`is_cancel_requested`, runs of the engine.  `lastUpdate` says of the last `update_scan_history`
whether it was committed; no function reads it. -/
structure World where
  db : PanelDb
  scanLock : Bool
  fileLock : Bool
  ops : ℕ
  asked : ℕ
  runs : ℕ
  lastUpdate : Option Bool

/-- The faults of `record_scan_history`: `get_db`, the `INSERT` or its commit, `rollback`,
`close`. -/
structure RecordFaults where
  connect : Option String
  insert : Option String
  rollback : Option String
  close : Option String

/-- What a run meets.  A fault is given by the text of the exception. -/
structure Env where
  /-- Whether `SCAN_FILE_LOCK.acquire` succeeds. -/
  fileFree : Bool
  /-- The fault of reading the name of the source, before the `try`. -/
  scope : Option String
  record : RecordFaults
  /-- The fault of the operation number `n` inside the `try`. -/
  fault : ℕ → Option String
  /-- The fault of closing the lock file. -/
  closeLock : Option String
  /-- What the `n`th `is_cancel_requested` answers. -/
  cancelled : ℕ → Bool
  /-- What the `n`th run of the engine answers. -/
  engine : ℕ → EngineInput → EngineReply
  /-- `worker_supports_flag(path, '--probe-timeout-ms')`. -/
  supportsTimeout : Bool
  /-- `fetch_source_config_count`. -/
  countConfigs : String → Option ℕ
  /-- Whether the refinement is past its budget before the `n`th run of the engine. -/
  overBudget : ℕ → Bool
  startedAt : Stamp
  jobId : String
  /-- The clock at the operation number `n`. -/
  now : ℕ → Stamp
  /-- The text of the `ValueError` of `int(text)`. -/
  intError : String → String
  lib : ConfigLib
  /-- What the database leaves open in the operation number `n`. -/
  order : ℕ → OrderBy (ℕ × ConfigRow) ConfigImporter.Slower
  configFetch : ℕ → ℕ → Fetch (ℕ × ConfigRow)
  sourceFetch : ℕ → Fetch (ℕ × SourceRow)

/-- A piece of `run_scan`; the exceptions are their texts. -/
abbrev Run := Prog String World

/-- What a scan answers: success and a message. -/
abbrev Answer := Bool × String

variable (env : Env)

/-- An operation inside the `try` that may raise. -/
def op : Run Unit := fun w =>
  ((env.fault w.ops).elim (.ok ()) .error, { w with ops := w.ops + 1 })

/-- An operation with a fault of its own. -/
def mayRaise (fault : Option String) : Run Unit := fault.elim (pure ()) Prog.raise

/-- `is_cancel_requested()`. -/
def isCancelRequested : Run Bool := fun w =>
  (.ok (env.cancelled w.asked), { w with asked := w.asked + 1 })

/-- `Runner.run_subprocess`, which raises nothing. -/
def runSubprocess (input : EngineInput) : Run EngineReply := fun w =>
  (.ok (env.engine w.runs input), { w with runs := w.runs + 1 })

/-- `db = get_db()`, a `SELECT` and `db.close()`. -/
def query {α : Type} (select : PanelDb → α) : Run α := do
  op env
  op env
  let w ← Prog.state
  op env
  pure (select w.db)

/-- `db = get_db()`, then `try: work`, `except: db.rollback()` and a default, `finally:
db.close()`. -/
def session {α : Type} (default : α) (work : Run α) : Run α := do
  op env
  (work.handle fun _ => do
    op env
    pure default).always (op env)

/-- A commit. -/
def commit (f : PanelDb → PanelDb) : Run Unit := do
  op env
  Prog.change fun w => { w with db := f w.db }

/-! ### Settings -/

/-- `get_setting(key, default)`. -/
def setting (key default : String) : Run String := do
  op env
  let w ← Prog.state
  pure (getSetting w.db.toDb key default)

/-- `int(get_setting(key, default))`. -/
def intSetting (key default : String) : Run ℤ := do
  let raw ← setting env key default
  (PyText.intOfStr? raw).elim (Prog.raise (env.intError raw)) pure

/-- `get_validated_int`; the two functions beside it are the same with their own bounds. -/
def getValidatedInt (key : String) (default low high : ℤ) : Run ℤ := do
  let raw ← setting env key (toString default)
  pure (((PyText.intOfStr? raw).filter fun val => low ≤ val ∧ val ≤ high).getD default)

/-- `get_validated_concurrency`. -/
def getValidatedConcurrency (key : String) (default : ℤ) : Run ℤ :=
  getValidatedInt env key default 1 128

/-- `get_validated_timeout`. -/
def getValidatedTimeout (key : String) (default : ℤ) : Run ℤ :=
  getValidatedInt env key default 10 86400

/-- `probe_timeout_args`. -/
def probeTimeoutArgs : Run (Option ℤ) :=
  if env.supportsTimeout then do
    let timeoutMs ← getValidatedInt env "probe_timeout_ms" 8000 1000 120000
    pure (some timeoutMs)
  else pure none

/-! ### The history -/

/-- The `INSERT` of `record_scan_history` and its commit; the answer is `lastrowid`. -/
def insertScan (row : ScanRow) : Run (Option ℕ) := fun w =>
  (.ok (some w.db.scanHistory.next),
    { w with
      db := { w.db with scanHistory := w.db.scanHistory.insert row }
      lastUpdate := none })

/-- `MetricsRecorder.record_scan_history`. -/
def recordScanHistory (row : ScanRow) : Run (Option ℕ) := do
  mayRaise env.record.connect
  (Prog.handle (do
      mayRaise env.record.insert
      insertScan row) fun _ => do
    mayRaise env.record.rollback
    pure none).always (mayRaise env.record.close)

/-- The commit of `update_scan_history`. -/
def finishScan (scanId : ℕ) (e : MetricsRecorder.Ending) : Run Unit := do
  op env
  Prog.change fun w =>
    { w with
      db := { w.db with
        scanHistory := w.db.scanHistory.set scanId (MetricsRecorder.finish (env.now w.ops) e) }
      lastUpdate := some true }

/-- `MetricsRecorder.update_scan_history`. -/
def updateScanHistory (scanId : Option ℕ) (e : MetricsRecorder.Ending) : Run Unit :=
  match scanId with
  | none => pure ()
  | some i => do
    Prog.change fun w => { w with lastUpdate := some false }
    session env () do
      op env
      finishScan env i e

/-- `'cancelled' if is_cancel_requested() else status`. -/
def endStatus (status : ScanStatus) : Run ScanStatus := do
  let cancelled ← isCancelRequested env
  pure (if cancelled then .cancelled else status)

/-- `MetricsRecorder.update_source_metadata`; no error stands for success. -/
def updateSourceMetadata (name : String) (error : Option String) : Run Unit :=
  session env () do
    op env
    let w ← Prog.state
    commit env fun db =>
      { db with
        autoSources := MetricsRecorder.updateSourceMetadata (env.sourceFetch w.ops) env.startedAt
          name error db.autoSources }

/-! ### The engine -/

/-- What is recorded of a run of the engine that failed or was cancelled. -/
def recordWorkerFailure (scanId : Option ℕ) (reply : EngineReply) : Run Unit := do
  let status ← endStatus env .failed
  let cancelled ← isCancelRequested env
  updateScanHistory env scanId
    { durationMs := reply.durationMs, stats := {}, status := status,
      errorMsg := some (if cancelled then "Scan cancelled by user."
        else s!"V2RayDAR exit code {reply.retCode}. Stderr: {reply.stderr}") }

/-- What is recorded of an answer that cannot be read. -/
def recordParseFailure (scanId : Option ℕ) (reply : EngineReply) (e : String) : Run Unit := do
  let status ← endStatus env .failed
  updateScanHistory env scanId
    { durationMs := reply.durationMs, stats := {}, status := status,
      errorMsg := some s!"Output parsing error: {e}" }

/-- `CHUNK_SIZE`. -/
def chunkSize : ℕ := 4

/-- `refined[uri] = latency_ms`, over the results of one chunk; the newest entry is first. -/
def refinedBy (results : List ProbeResult) (refined : List (String × ℕ)) : List (String × ℕ) :=
  results.foldl (fun acc r => if r.reachable then
    r.latencyMs.elim acc fun latency => (r.uri, latency) :: acc else acc) refined

/-- The loop of `RefinementPass.run` over the chunks. -/
def refineChunks (chunkTimeout : ℤ) (timeoutArgs : Option ℤ) :
    List (List ProbeResult) → List (String × ℕ) → Run (List (String × ℕ))
  | [], refined => pure refined
  | chunk :: chunks, refined => do
    let cancelled ← isCancelRequested env
    let w ← Prog.state
    if cancelled || env.overBudget w.runs then pure refined
    else do
      let reply ← runSubprocess env (.health (env.jobId ++ "-refine")
        (chunk.map fun c => ⟨c.uri, c.protocol⟩) chunkTimeout ⟨1, 1, timeoutArgs⟩)
      if reply.retCode ≠ 0 then refineChunks chunkTimeout timeoutArgs chunks refined
      else
        match parseResult reply.stdout with
        | .error _ => refineChunks chunkTimeout timeoutArgs chunks refined
        | .ok output =>
          refineChunks chunkTimeout timeoutArgs chunks (refinedBy output.results refined)

/-- The latencies of the refinement in the results. -/
def applyRefined (refined : List (String × ℕ)) (r : ProbeResult) : ProbeResult :=
  (refined.lookup r.uri).elim r fun latency => { r with latencyMs := some latency }

/-- `RefinementPass.run`. -/
def refinementPass (results : List ProbeResult) (targetCount : ℤ) : Run (List ProbeResult) := do
  let enabled ← setting env "refine_pass_enabled" "1"
  let survivors := results.filter ProbeResult.ok
  if enabled ≠ "1" ∨ survivors.length < 2 then pure results
  else do
    let multiplier ← getValidatedInt env "refine_pass_multiplier" 3 1 10
    let wanted := if targetCount = 0 then (survivors.length : ℤ) else targetCount
    let limit := max 1 (wanted * multiplier)
    let shortlist := (survivors.insertionSort fun a b =>
      ConfigImporter.latencyOf a ≤ ConfigImporter.latencyOf b).take limit.toNat
    let probeTimeoutMs ← getValidatedInt env "probe_timeout_ms" 8000 1000 120000
    let timeoutArgs ← probeTimeoutArgs env
    let refined ← refineChunks env (chunkSize * probeTimeoutMs / 1000 + 30) timeoutArgs
      (shortlist.toChunks chunkSize) []
    pure (if refined = [] then results else results.map (applyRefined refined))

/-! ### Applying the results -/

/-- `ConfigImporter.import_discovered_configs`: the numbers of configs added, of duplicates and of
swaps. -/
def importDiscoveredConfigs (scanId : Option ℕ) (results : List ProbeResult) :
    Run (ℕ × ℕ × ℕ) :=
  session env (0, 0, 0) do
    let _ ← intSetting env "max_active_configs" "100"
    let _ ← intSetting env "max_new_configs_per_scan" "10"
    op env
    let w ← Prog.state
    let imported := fun db => ConfigImporter.importDiscoveredConfigs ⟨false, env.order w.ops⟩
      ⟨env.lib, env.startedAt, env.now w.ops, scanId⟩ db results
    commit env fun db => (imported db).1
    pure (imported w.db).2

/-- `HealthManager.process_health_results`: the numbers of configs disabled and deleted. -/
def processHealthResults (scanId : Option ℕ) (results : List ProbeResult) : Run (ℕ × ℕ) :=
  session env (0, 0) do
    let _ ← intSetting env "failure_threshold" "2"
    op env
    let w ← Prog.state
    let applied := fun db => HealthManager.processHealthResults ⟨false, env.configFetch w.ops⟩ db
      results env.startedAt (env.now w.ops) scanId
    commit env fun db => (applied db).1
    pure (applied w.db).2

/-! ### The modes -/

/-- A scan that has nothing to do. -/
def skip (scanId : Option ℕ) (msg : String) : Run Answer := do
  updateScanHistory env scanId
    { durationMs := 0, stats := {}, status := .skipped, errorMsg := some msg }
  pure (true, msg)

/-- The refresh of the raw counts, in one transaction. -/
def countSources (sources : List SourceEntry) : Run Unit := do
  op env
  Prog.each sources fun s => if (env.countConfigs s.url).isSome then op env else pure ()
  commit env fun db =>
    { db with
      autoSources := sources.foldl (fun t s => (env.countConfigs s.url).elim t fun rawCount =>
        MetricsRecorder.recordCount env.startedAt s.url rawCount t) db.autoSources }
  op env

/-- The sources of this run. -/
def sourcesOf (sourceId : Option ℕ) (db : PanelDb) : List SourceEntry :=
  (db.autoSources.rows.filter fun r => sourceId.elim r.2.isEnabled fun i => r.1 = i).map
    fun r => ⟨r.2.name, r.2.url, r.2.priority⟩

/-- `target_count`, `0` without early stop. -/
def targetCount (earlyStop : Bool) (maxActive activeCount : ℤ) : Run ℤ :=
  if earlyStop then do
    let maxNew ← intSetting env "max_new_configs_per_scan" "10"
    let availableCapacity := max 0 (maxActive - activeCount)
    pure (if 0 < availableCapacity then min maxNew availableCapacity else maxNew)
  else pure 0

/-- The input of a discovery. -/
def discoveryInput (earlyStop : Bool) (target : ℤ) (sources : List SourceEntry)
    (scanTimeout fetchC : ℤ) (args : ProbeArgs) : EngineInput :=
  let stops := earlyStop && decide (0 < target)
  .discovery env.jobId sources scanTimeout
    (if stops then some false else if earlyStop then none else some true)
    (if stops then some target else none) fetchC args

/-- What follows a discovery that was read: the import, the bookkeeping and the answer. -/
def finishDiscovery (scanId : Option ℕ) (sources : List SourceEntry) (target durationMs : ℤ)
    (output : WorkerOutput) : Run Answer := do
  let results ← refinementPass env output.results target
  let counts ← importDiscoveredConfigs env scanId results
  let tallies := MetricsRecorder.tally results
  Prog.each sources fun s =>
    updateSourceMetadata env s.name (MetricsRecorder.reason tallies s.name)
  let status ← endStatus env .success
  updateScanHistory env scanId
    { durationMs := durationMs, status := status, workerVersion := some output.workerVersion,
      stats :=
        { totalSources := sources.length
          successfulSources := tallies.successfulSources.length
          failedSources := (sources.length : ℤ) - tallies.successfulSources.length
          discovered := results.length
          workingConfigs := tallies.workingConfigs
          added := counts.1
          duplicateConfigs := counts.2.1 } }
  pure (true, s!"Discovery completed. Discovered: {results.length}, Added: {counts.1}, " ++
    s!"Replaced: {counts.2.2}.")

/-- A discovery over the sources it found. -/
def discover (scanId : Option ℕ) (maxActive activeCount : ℤ) (sources : List SourceEntry) :
    Run Answer := do
  countSources env sources
  let scanTimeout ← getValidatedTimeout env "scan_timeout" 1200
  let earlyStop ← setting env "early_stop_enabled" "1"
  let target ← targetCount env (earlyStop = "1") maxActive activeCount
  let fetchC ← getValidatedConcurrency env "fetch_concurrency" 4
  let probeC ← getValidatedConcurrency env "probe_concurrency" 10
  let probePc ← getValidatedConcurrency env "probe_process_concurrency" 2
  let timeoutArgs ← probeTimeoutArgs env
  let reply ← runSubprocess env (discoveryInput env (earlyStop = "1") target sources scanTimeout
    fetchC ⟨probeC, probePc, timeoutArgs⟩)
  if reply.retCode ≠ 0 then do
    recordWorkerFailure env scanId reply
    let cancelled ← isCancelRequested env
    Prog.each sources fun s => updateSourceMetadata env s.name (some (if cancelled then
      "اسکن لغو شد" else "اسکن کامل شکست خورد (خطای موتور اسکن؛ جزئیات در تاریخچه‌ی اسکن)"))
    pure (false, s!"Worker process failed: {reply.stderr}")
  else
    match parseResult reply.stdout with
    | .error e => do
      recordParseFailure env scanId reply e
      pure (false, s!"Parser error: {e}")
    | .ok output => finishDiscovery env scanId sources target reply.durationMs output

/-- `mode == 'discovery'`. -/
def discovery (sourceId scanId : Option ℕ) : Run Answer := do
  let maxActive ← intSetting env "max_active_configs" "100"
  let replaceWhenFull ← setting env "discovery_replace_when_full" "1"
  let activeCount ← query env fun db => db.configs.count ConfigRow.isServed
  if maxActive ≤ activeCount ∧ replaceWhenFull ≠ "1" then
    skip env scanId
      s!"Discovery skipped: active configs capacity full ({activeCount}/{maxActive})"
  else do
    let sources ← query env (sourcesOf sourceId)
    if sources = [] then
      skip env scanId (if sourceId.isSome then "Discovery skipped: source not found."
        else "Discovery skipped: no enabled sources in database.")
    else discover env scanId maxActive activeCount sources

/-- What follows a health check that was read. -/
def finishHealthCheck (scanId : Option ℕ) (durationMs : ℤ) (output : WorkerOutput) :
    Run Answer := do
  let results := output.results
  let counts ← processHealthResults env scanId results
  let status ← endStatus env .success
  updateScanHistory env scanId
    { durationMs := durationMs, status := status, workerVersion := some output.workerVersion,
      stats :=
        { discovered := results.length
          workingConfigs := results.countP ProbeResult.ok
          disabled := counts.1
          deleted := counts.2 } }
  pure (true, s!"Health check completed. Tested: {results.length}, Disabled: {counts.1}, " ++
    s!"Deleted: {counts.2}.")

/-- `mode == 'health_check'`. -/
def healthCheck (scanId : Option ℕ) : Run Answer := do
  let configs ← query env fun db =>
    (db.configs.rows.filter fun r => r.2.isServed).map fun r => r.2.entry
  if configs = [] then
    skip env scanId "Health check skipped: no active configs in database."
  else do
    let scanTimeout ← getValidatedTimeout env "scan_timeout" 1200
    let probeC ← getValidatedConcurrency env "probe_concurrency" 10
    let probePc ← getValidatedConcurrency env "probe_process_concurrency" 2
    let timeoutArgs ← probeTimeoutArgs env
    let reply ← runSubprocess env (.health env.jobId configs scanTimeout
      ⟨probeC, probePc, timeoutArgs⟩)
    if reply.retCode ≠ 0 then do
      recordWorkerFailure env scanId reply
      pure (false, s!"Worker process failed: {reply.stderr}")
    else
      match parseResult reply.stdout with
      | .error e => do
        recordParseFailure env scanId reply e
        pure (false, s!"Parser error: {e}")
      | .ok output => finishHealthCheck env scanId reply.durationMs output

/-! ### The whole function -/

/-- The `source_scope` of the run. -/
def sourceScope (mode : String) (sourceId : Option ℕ) : Run (Option String) :=
  if mode = "discovery" then
    match sourceId with
    | none => pure (some "همه منابع")
    | some i => do
      mayRaise env.scope
      let w ← Prog.state
      pure ((w.db.autoSources.get i).map SourceRow.name)
  else pure none

/-- Between the locks and the `try`: the row of the history is inserted. -/
def prelude (mode : String) (sourceId : Option ℕ) : Run (Option ℕ) := do
  let scope ← sourceScope env mode sourceId
  recordScanHistory env
    (MetricsRecorder.running mode env.startedAt (env.now 0) env.jobId scope)

/-- The `try` block; it begins with `locate_v2raydar()`. -/
def body (mode : String) (sourceId scanId : Option ℕ) : Run Answer := do
  op env
  if mode = "discovery" then discovery env sourceId scanId
  else if mode = "health_check" then healthCheck env scanId
  else pure (false, s!"Unknown scan mode: {mode}")

/-- The `except` block. -/
def failed (scanId : Option ℕ) (e : String) : Run Answer := do
  let status ← endStatus env .failed
  updateScanHistory env scanId
    { durationMs := 0, stats := {}, status := status, errorMsg := some s!"Exception: {e}" }
  pure (false, s!"Exception: {e}")

/-- The `try` with its handler. -/
def guarded (mode : String) (sourceId scanId : Option ℕ) : Run Answer :=
  (body env mode sourceId scanId).handle (failed env scanId)

/-- The `finally` block: if closing the lock file raises, the handle stays and `SCAN_LOCK` is not
released. -/
def releaseLocks : Run Unit := do
  mayRaise env.closeLock
  Prog.change fun w => { w with scanLock := false, fileLock := false }

/-- Past both locks. -/
def held (mode : String) (sourceId : Option ℕ) : Run Answer := do
  let scanId ← prelude env mode sourceId
  (guarded env mode sourceId scanId).always (releaseLocks env)

/-- The answer of a scan that finds a lock taken. -/
def alreadyRunning : Answer := (false, "Another scan is already in progress.")

/-- `run_scan(mode, source_id)`. -/
def runScan (mode : String) (sourceId : Option ℕ) : Run Answer := do
  let w ← Prog.state
  if w.scanLock then pure alreadyRunning
  else if !env.fileFree then pure alreadyRunning
  else do
    Prog.change fun w => { w with scanLock := true, fileLock := true }
    held env mode sourceId

end AutomationService
end V2raySub
