import V2raySub.Automation.Schema

/-!
What a scan writes about itself and about its sources (`automation_service.py`,
`MetricsRecorder`, and the tallies of `run_scan`).

* `finish` is the `UPDATE` of a row of `scan_history`, `updateSourceMetadata` the bookkeeping of a
  source.
* `tally` counts the results of a discovery by source, `reason` is what the panel is told about a
  source that gave no working config.
-/

namespace V2raySub
namespace MetricsRecorder

/-! ### The history of the scans -/

/-- The row `record_scan_history` inserts for a scan that begins. -/
def running (scanType : String) (startedAt now : Stamp) (jobId : String)
    (sourceScope : Option String) : ScanRow :=
  { scanType := scanType, startedAt := startedAt, finishedAt := some now, durationMs := 0,
    stats := {}, status := .running, errorMessage := none, workerVersion := none,
    jobId := some jobId, sourceScope := sourceScope }

/-- How a scan ended, as `update_scan_history` is told. -/
structure Ending where
  durationMs : ℤ
  stats : ScanStats
  status : ScanStatus
  errorMsg : Option String := none
  workerVersion : Option String := none
  deriving DecidableEq

/-- The `UPDATE` of `update_scan_history`. -/
def finish (now : Stamp) (e : Ending) (r : ScanRow) : ScanRow :=
  { r with
    finishedAt := some now
    durationMs := e.durationMs
    stats := e.stats
    status := e.status
    errorMessage := e.errorMsg
    workerVersion := e.workerVersion }

/-! ### The sources -/

/-- A text that counts as true: not `None` and not empty. -/
def truthy (s : Option String) : Option String := s.filter fun t => t ≠ ""

/-- `describe_source_failure`. -/
def describeSourceFailure (found tested : ℕ) (sampleErr : Option String) : String :=
  if found = 0 then
    "منبع پاسخی نداد یا هیچ کانفیگ معتبری داخلش نبود (لینک منبع را بررسی کنید)"
  else
    let msg := s!"{tested} کانفیگ تست شد، هیچ‌کدام در دسترس نبود"
    match truthy sampleErr with
    | none => msg
    | some e => msg ++ s!" — نمونه: {e}"

/-- The row `update_source_metadata` finds: by the name, else by the URL. -/
def sourceNamed (fetch : Fetch (ℕ × SourceRow)) (t : AutoTable SourceRow) (name : String) :
    Option (ℕ × SourceRow) :=
  (fetch.one (t.rows.filter fun r => r.2.name = name)).or
    (fetch.one (t.rows.filter fun r => r.2.url = name))

/-- The `UPDATE` after a scan in which the source gave a working config (`none`), or did not. -/
def recordVerdict (scanTime : Stamp) (error : Option String) (r : SourceRow) : SourceRow :=
  match error with
  | none =>
    { r with
      lastScan := some scanTime
      lastSuccess := some scanTime
      lastError := none
      failureCount := some 0 }
  | some e =>
    { r with
      lastScan := some scanTime
      lastError := some e
      failureCount := some (r.failureCount.getD 0 + 1) }

/-- `update_source_metadata(name, scan_time, success, error_msg)`; no error stands for success. -/
def updateSourceMetadata (fetch : Fetch (ℕ × SourceRow)) (scanTime : Stamp) (name : String)
    (error : Option String) (t : AutoTable SourceRow) : AutoTable SourceRow :=
  match sourceNamed fetch t name with
  | none => t
  | some r => t.set r.1 (recordVerdict scanTime error)

/-- `UPDATE auto_sources SET total_configs = ?, total_configs_at = ? WHERE url = ?`. -/
def recordCount (startedAt : Stamp) (url : String) (rawCount : ℕ) (t : AutoTable SourceRow) :
    AutoTable SourceRow :=
  t.update (fun _ r => r.url = url) fun r =>
    { r with totalConfigs := some rawCount, totalConfigsAt := some startedAt }

/-! ### The tallies of a discovery -/

/-- A slot of `per_source`. -/
structure Tally where
  found : ℕ
  sampleErr : Option String
  deriving DecidableEq

/-- `successful_sources`, `working_configs`, `failed_probes` and `per_source`; a source without a
slot has the empty one. -/
structure Tallies where
  successfulSources : List String
  workingConfigs : ℕ
  failedProbes : ℕ
  perSource : String → Tally

/-- One result. -/
def tallyOne (t : Tallies) (r : ProbeResult) : Tallies :=
  if r.source = "" then t
  else
    let slot := t.perSource r.source
    if r.ok then
      { t with
        successfulSources := t.successfulSources.insert r.source
        workingConfigs := t.workingConfigs + 1
        perSource := Function.update t.perSource r.source { slot with found := slot.found + 1 } }
    else
      let sampleErr := (truthy slot.sampleErr).or ((truthy r.error).or (some r.validation))
      { t with
        failedProbes := t.failedProbes + 1
        perSource := Function.update t.perSource r.source ⟨slot.found + 1, sampleErr⟩ }

/-- The loop over the results of a discovery. -/
def tally (results : List ProbeResult) : Tallies :=
  results.foldl tallyOne ⟨[], 0, 0, fun _ => ⟨0, none⟩⟩

/-- What is recorded about a source after a discovery: no error if it gave a working config. -/
def reason (t : Tallies) (name : String) : Option String :=
  if name ∈ t.successfulSources then none
  else
    let slot := t.perSource name
    some (describeSourceFailure slot.found slot.found slot.sampleErr)

end MetricsRecorder
end V2raySub
