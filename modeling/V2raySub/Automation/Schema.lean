import V2raySub.Base.AutoTable
import V2raySub.User.Schema

/-!
The tables of the config pool and of the scans (`database.py`, `init_db`), and what the probe
engine reports (`worker.rs`, `WorkerResult`).

A row is given without its id, which is the key of its `AutoTable`.
-/

namespace V2raySub

/-! ### The pool -/

/-- The stored `status` of a config. -/
inductive ConfigStatus where
  | active
  | deleted
  deriving DecidableEq

/-- The stored `mode` of a config: added by the admin, or discovered. -/
inductive ConfigMode where
  | manual
  | auto
  deriving DecidableEq

/-- The stored `health_status` of a config. -/
inductive HealthStatus where
  | unknown
  | healthy
  | unhealthy
  deriving DecidableEq

/-- The stored `config_type`, as `detect_config_type` answers it. -/
inductive ConfigType where
  | vmess
  | vless
  | trojan
  | shadowsocks
  | hysteria2
  deriving DecidableEq

/-- A row of `configs`. -/
@[ext] structure ConfigRow where
  configText : String
  configType : ConfigType
  createdAt : Stamp
  status : ConfigStatus
  sortOrder : ℤ
  isEnabled : Bool
  source : Option String
  mode : ConfigMode
  lastCheck : Option Stamp
  lastSuccess : Option Stamp
  latency : Option ℤ
  consecutiveFailures : Option ℤ
  healthStatus : HealthStatus
  countryCode : Option String
  deriving DecidableEq

/-- A row of `config_health_history`. -/
structure HealthRow where
  configId : ℕ
  scanId : ℕ
  checkedAt : Stamp
  reachable : Bool
  latency : Option ℤ
  validation : String
  errorMessage : Option String
  deriving DecidableEq

/-! ### The scans -/

/-- The stored `status` of a scan. -/
inductive ScanStatus where
  | running
  | success
  | failed
  | cancelled
  | skipped
  deriving DecidableEq

/-- The counters of a scan (`stats_dict`; a missing key counts as `0`). -/
structure ScanStats where
  totalSources : ℤ := 0
  successfulSources : ℤ := 0
  failedSources : ℤ := 0
  discovered : ℤ := 0
  workingConfigs : ℤ := 0
  added : ℤ := 0
  disabled : ℤ := 0
  deleted : ℤ := 0
  duplicateConfigs : ℤ := 0
  deriving DecidableEq

/-- A row of `scan_history`.  The columns `discovered_count`, `added_count`, … hold the same
numbers as `discovered_configs`, `imported_configs`, …, and `scan_duration_ms` the same as
`duration_ms`. -/
structure ScanRow where
  scanType : String
  startedAt : Stamp
  finishedAt : Option Stamp
  durationMs : ℤ
  stats : ScanStats
  status : ScanStatus
  errorMessage : Option String
  workerVersion : Option String
  jobId : Option String
  sourceScope : Option String
  deriving DecidableEq

/-- A row of `auto_sources`. -/
structure SourceRow where
  name : String
  url : String
  priority : ℤ
  isEnabled : Bool
  createdAt : Stamp
  lastScan : Option Stamp
  lastSuccess : Option Stamp
  lastError : Option String
  failureCount : Option ℤ
  totalConfigs : Option ℤ
  totalConfigsAt : Option Stamp
  deriving DecidableEq

/-- The tables of the panel. -/
structure PanelDb extends Db where
  configs : AutoTable ConfigRow
  configHealthHistory : AutoTable HealthRow
  scanHistory : AutoTable ScanRow
  autoSources : AutoTable SourceRow
  deriving DecidableEq

/-! ### The engine's report -/

/-- One probe as the engine reports it (`WorkerResult`). -/
structure ProbeResult where
  uri : String
  protocol : String
  reachable : Bool
  latencyMs : Option ℕ
  countryCode : Option String
  validation : String
  error : Option String
  source : String
  deriving DecidableEq

/-- `r.get('reachable') and r.get('latency_ms') is not None`: the probe succeeded. -/
def ProbeResult.ok (r : ProbeResult) : Bool := r.reachable && r.latencyMs.isSome

/-! ### Predicates of the queries -/

/-- `status = "active"`. -/
def ConfigRow.isActive (c : ConfigRow) : Bool := c.status = .active

/-- `status = "active" AND is_enabled = 1`: the config is served. -/
def ConfigRow.isServed (c : ConfigRow) : Bool := c.isActive && c.isEnabled

/-- `int(get_setting(key, default))`, `none` where it raises `ValueError`. -/
def intSetting? (db : Db) (key default : String) : Option ℤ :=
  PyText.intOfStr? (getSetting db key default)

end V2raySub
