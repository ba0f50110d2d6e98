import V2raySub.Automation.Schema

/-!
The probe engine as the panel sees it: what it is asked (`worker.rs`, `WorkerInput`), what it
answers on its standard output (`WorkerOutput`), and how the panel reads the answer
(`automation_service.py`, `ResultParser.parse`).
-/

namespace V2raySub

/-- A source as the engine is given it. -/
structure SourceEntry where
  name : String
  url : String
  priority : ℤ
  deriving DecidableEq

/-- A config as the engine is given it. -/
structure ConfigEntry where
  uri : String
  protocol : String
  deriving DecidableEq

/-- `--probe-concurrency`, `--probe-process-concurrency` and `--probe-timeout-ms`; an engine that
does not know the last is not given it. -/
structure ProbeArgs where
  probeConcurrency : ℤ
  probeProcessConcurrency : ℤ
  probeTimeoutMs : Option ℤ
  deriving DecidableEq

/-- One run of the engine. -/
inductive EngineInput where
  /-- `worker discovery`, with `scan_all` and `target_count` where they are sent. -/
  | discovery (jobId : String) (sources : List SourceEntry) (timeoutSeconds : ℤ)
      (scanAll : Option Bool) (targetCount : Option ℤ) (fetchConcurrency : ℤ) (args : ProbeArgs)
  /-- `worker health`. -/
  | health (jobId : String) (configs : List ConfigEntry) (timeoutSeconds : ℤ) (args : ProbeArgs)
  deriving DecidableEq

/-- What the engine prints (`WorkerOutput`). -/
structure WorkerOutput where
  schemaVersion : ℕ
  success : Bool
  workerVersion : String
  jobId : String
  durationMs : ℕ
  results : List ProbeResult
  error : Option String
  deriving DecidableEq

/-- What `Runner.run_subprocess` answers: it swallows every failure into a return code.  The
standard output is given as `json.loads` reads it, an error by its text. -/
structure EngineReply where
  retCode : ℤ
  stdout : Except String WorkerOutput
  stderr : String
  durationMs : ℤ

/-- `ResultParser.parse`. -/
def parseResult : Except String WorkerOutput → Except String WorkerOutput
  | .error e => .error s!"Failed to parse stdout JSON: {e}"
  | .ok data =>
    if data.schemaVersion ≠ 1 then
      .error s!"Unsupported schema version: expected 1, got {data.schemaVersion}"
    else if data.success = false then
      .error ("Worker reported failure: " ++ data.error.getD "Unknown worker error")
    else .ok data

/-- The text of a `config_type` column. -/
def ConfigType.text : ConfigType → String
  | .vmess => "vmess"
  | .vless => "vless"
  | .trojan => "trojan"
  | .shadowsocks => "shadowsocks"
  | .hysteria2 => "hysteria2"

/-- A row as the engine is given it. -/
def ConfigRow.entry (c : ConfigRow) : ConfigEntry := ⟨c.configText, c.configType.text⟩

end V2raySub
