import Mathlib.Data.List.Basic
import Mathlib.Data.Rat.Defs
import Mathlib.Algebra.Order.Ring.Rat

/-!
The probe engine's data (`V2RayDAR-main/src/model.rs`), the results it makes of a candidate, and
when it stops early (`probe.rs`: `failed_config`, `successful_config`, `candidates_from_ranked`,
`probe_stop_reason`).

* `RankedConfig.candidate`: the candidate a result is about; the results the engine makes of a
  candidate are about that candidate.
* `probeStopReason`: the reason to stop; `probeStopReason_scanAll`, `topN_le_of_probeStopReason`:
  there is none while everything is to be scanned, and none before `top_n` candidates were reached.
-/

namespace V2RayDar

/-! ### The data -/

structure Endpoint where
  host : String
  port : ℕ
  deriving DecidableEq

/-- A link to probe. -/
structure Candidate where
  id : String
  dedupKey : String
  source : String
  priority : ℕ
  protocol : String
  name : String
  endpoint : Endpoint
  uri : String
  deriving DecidableEq

/-- The result of a probe. -/
structure RankedConfig where
  rank : ℕ
  stabilityCount : ℕ
  id : String
  dedupKey : String
  source : String
  priority : ℕ
  protocol : String
  name : String
  endpoint : Endpoint
  uri : String
  reachable : Bool
  validation : String
  latencyMs : Option ℕ
  httpStatus : Option ℕ
  downloadMbps : Option ℚ
  downloadBytes : Option ℕ
  error : Option String
  countryCode : Option String
  deriving DecidableEq

/-- When a scan may stop early. -/
structure ProbeStopPolicy where
  scanAllConfigs : Bool
  topN : ℕ
  prioritizeStability : Bool
  previousWorkingKeys : List String
  deriving DecidableEq

/-! ### Results -/

/-- `candidates_from_ranked`, of one result. -/
def RankedConfig.candidate (r : RankedConfig) : Candidate where
  id := r.id
  dedupKey := r.dedupKey
  source := r.source
  priority := r.priority
  protocol := r.protocol
  name := r.name
  endpoint := r.endpoint
  uri := r.uri

def candidatesFromRanked (ranked : List RankedConfig) : List Candidate :=
  ranked.map RankedConfig.candidate

/-- The result of a probe that failed. -/
def failedConfig (candidate : Candidate) (validation error : String) : RankedConfig where
  rank := 0
  stabilityCount := 0
  id := candidate.id
  dedupKey := candidate.dedupKey
  source := candidate.source
  priority := candidate.priority
  protocol := candidate.protocol
  name := candidate.name
  endpoint := candidate.endpoint
  uri := candidate.uri
  reachable := false
  validation := validation
  latencyMs := none
  httpStatus := none
  downloadMbps := none
  downloadBytes := none
  error := some error
  countryCode := none

/-- What an active probe measured (`ActiveProbeSuccess`), with the country of the endpoint. -/
structure ActiveProbeSuccess where
  latencyMs : ℕ
  httpStatus : ℕ
  countryCode : Option String
  deriving DecidableEq

/-- The result of an active probe that succeeded. -/
def successfulConfig (candidate : Candidate) (active : ActiveProbeSuccess) : RankedConfig where
  rank := 0
  stabilityCount := 0
  id := candidate.id
  dedupKey := candidate.dedupKey
  source := candidate.source
  priority := candidate.priority
  protocol := candidate.protocol
  name := candidate.name
  endpoint := candidate.endpoint
  uri := candidate.uri
  reachable := true
  validation := "active_http"
  latencyMs := some active.latencyMs
  httpStatus := some active.httpStatus
  downloadMbps := none
  downloadBytes := none
  error := none
  countryCode := active.countryCode

/-- What a TCP connection came to: the latency and the country of the peer, or the error. -/
abbrev TcpOutcome := Except String (ℕ × Option String)

/-- The result of `probe_tcp`. -/
def probeTcp (candidate : Candidate) : TcpOutcome → RankedConfig
  | .ok (latency, country) =>
    { failedConfig candidate "tcp_connect" "" with
      reachable := true, latencyMs := some latency, error := none, countryCode := country }
  | .error err => failedConfig candidate "tcp_connect" err

@[simp] lemma candidate_failedConfig (candidate : Candidate) (validation error : String) :
    (failedConfig candidate validation error).candidate = candidate := rfl

@[simp] lemma reachable_failedConfig (candidate : Candidate) (validation error : String) :
    (failedConfig candidate validation error).reachable = false := rfl

@[simp] lemma candidate_successfulConfig (candidate : Candidate) (active : ActiveProbeSuccess) :
    (successfulConfig candidate active).candidate = candidate := rfl

@[simp] lemma candidate_probeTcp (candidate : Candidate) (outcome : TcpOutcome) :
    (probeTcp candidate outcome).candidate = candidate := by
  cases outcome <;> rfl

/-! ### Early stop -/

/-- Why a scan stops early: enough candidates work, enough of the previous ones are among them, or
there are no previous ones left to look for. -/
inductive StopReason where
  | foundWorking
  | keptPrevious
  | searchFinished
  deriving DecidableEq

/-- What a scan remembers of the search for the previous working configs (`ProbeStopState`); the
snapshot it publishes half way is left out. -/
structure ProbeStopState where
  stabilitySearchExhausted : Bool
  remainingPreviousWorking : ℕ
  deriving DecidableEq

/-- How many results are reachable. -/
def reachableCount (ranked : List RankedConfig) : ℕ := ranked.countP RankedConfig.reachable

/-- How many of them worked in the previous run (`stable_reachable_count`). -/
def stableReachableCount (ranked : List RankedConfig) (policy : ProbeStopPolicy) : ℕ :=
  ranked.countP fun item => item.reachable && policy.previousWorkingKeys.contains item.dedupKey

/-- `probe_stop_reason`. -/
def probeStopReason (ranked : List RankedConfig) (policy : ProbeStopPolicy)
    (state : ProbeStopState) : Option StopReason :=
  if policy.scanAllConfigs ∨ policy.topN = 0 then none
  else
    let reachable := reachableCount ranked
    if policy.prioritizeStability = false then
      if policy.topN ≤ reachable then some .foundWorking else none
    else
      let secondHalf := policy.topN - policy.topN / 2
      if reachable < policy.topN then none
      else if min secondHalf policy.previousWorkingKeys.length
          ≤ stableReachableCount ranked policy then
        some .keptPrevious
      else if state.stabilitySearchExhausted then some .searchFinished
      else none

@[simp] lemma reachableCount_nil : reachableCount [] = 0 := rfl

@[simp] lemma reachableCount_append (l₁ l₂ : List RankedConfig) :
    reachableCount (l₁ ++ l₂) = reachableCount l₁ + reachableCount l₂ := List.countP_append

lemma probeStopReason_scanAll {policy : ProbeStopPolicy} (h : policy.scanAllConfigs = true)
    (ranked : List RankedConfig) (state : ProbeStopState) :
    probeStopReason ranked policy state = none := by
  rw [probeStopReason, if_pos (.inl h)]

/-- There is no reason to stop before `top_n` candidates were reached. -/
lemma topN_le_of_probeStopReason {ranked : List RankedConfig} {policy : ProbeStopPolicy}
    {state : ProbeStopState} (h : (probeStopReason ranked policy state).isSome) :
    policy.topN ≤ reachableCount ranked := by
  by_contra hmany
  have hfew : reachableCount ranked < policy.topN := Nat.lt_of_not_le hmany
  have hnone : probeStopReason ranked policy state = none := by
    simp only [probeStopReason, if_neg hmany, if_pos hfew, ite_self]
  rw [hnone] at h
  exact Bool.false_ne_true h

/-- A candidate of a small feed. -/
def sampleCandidate (name : String) : Candidate where
  id := "id-" ++ name
  dedupKey := "key-" ++ name
  source := "feed"
  priority := 100
  protocol := "vless"
  name := name
  endpoint := ⟨"host", 443⟩
  uri := "vless://" ++ name

end V2RayDar
