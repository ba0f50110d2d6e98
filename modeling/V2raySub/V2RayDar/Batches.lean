import V2raySub.V2RayDar.Prepare

/-!
The active probe (`probe.rs`, `probe_active_batched`, `probe_active_batch_with_fallback`,
`probe_active_batch`): the candidates are probed in waves of a few batches, each with a sing-box
process of its own, and the batches of a wave run side by side.

* `ActiveBatchSizer`: how large the batches are; `observe` grows or shrinks them.
* `Task`: one batch of a wave: what it has still to probe, as it is split up where the process does
  not start, and what it found; `Task.step` is what it does between two points where it waits.
* `Sys`, `Sys.step`: the scan: the candidates not yet probed, the results so far, the two flags that
  stop it, and the wave.
-/

namespace V2RayDar

variable {O : Type*}

/-! ### The size of a batch -/

/-- The limits of the probe (`ProbeConfig`). -/
structure ProbeLimits where
  concurrency : ℕ
  batchSize : Option ℕ
  processConcurrency : Option ℕ
  /-- How many processors there are (`available_parallelism`). -/
  detected : ℕ
  deriving DecidableEq

/-- `usize::clamp`. -/
def clamp (n lo hi : ℕ) : ℕ := max lo (min n hi)

def activeProbeBatchMinSize : ℕ := 32

def activeProbeBatchMaxSize : ℕ := 128

def activeProbeBatchConcurrencyMultiplier : ℕ := 16

def activeProbeHttpMaxConcurrency : ℕ := 128

def activeProbeProcessMaxConcurrency : ℕ := 4

/-- `active_probe_batch_size`. -/
def activeProbeBatchSize (concurrency : ℕ) (configured : Option ℕ) : ℕ :=
  configured.getD (clamp (concurrency * activeProbeBatchConcurrencyMultiplier)
    activeProbeBatchMinSize activeProbeBatchMaxSize)

/-- `active_probe_http_concurrency`. -/
def activeProbeHttpConcurrency (configured batchEntries : ℕ) : ℕ :=
  let configured := clamp configured 1 activeProbeHttpMaxConcurrency
  let adaptiveLimit := clamp (Nat.sqrt (max batchEntries 1) * configured) 1
    activeProbeHttpMaxConcurrency
  min adaptiveLimit (max batchEntries 1)

/-- `active_probe_process_concurrency`. -/
def activeProbeProcessConcurrency (configured : Option ℕ) (detected : ℕ) : ℕ :=
  let automatic := clamp (detected / 2) 1 activeProbeProcessMaxConcurrency
  clamp (configured.getD automatic) 1 activeProbeProcessMaxConcurrency

/-- How many batches a wave has. -/
def ProbeLimits.processes (limits : ProbeLimits) : ℕ :=
  activeProbeProcessConcurrency limits.processConcurrency limits.detected

/-- How a batch went. -/
structure BatchProbeStats where
  startedCleanly : Bool
  produced : ℕ
  splits : ℕ
  failedCandidates : ℕ
  deriving DecidableEq

/-- The size of the next batch, and its bounds. -/
structure ActiveBatchSizer where
  current : ℕ
  min : ℕ
  max : ℕ
  deriving DecidableEq

namespace ActiveBatchSizer

def new (concurrency : ℕ) (configured : Option ℕ) : ActiveBatchSizer where
  current := Nat.max (Nat.min (activeProbeBatchSize concurrency configured)
    activeProbeBatchMaxSize) 1
  min := clamp concurrency 1 activeProbeBatchMinSize
  max := Nat.max activeProbeBatchMaxSize 1

/-- The length of the next batch. -/
def nextLen (sizer : ActiveBatchSizer) (remaining : ℕ) : ℕ := Nat.min remaining sizer.current

/-- Trouble halves the batches, a full batch without trouble doubles them. -/
def observe (sizer : ActiveBatchSizer) (stats : BatchProbeStats) : ActiveBatchSizer :=
  if 0 < stats.splits ∨ 0 < stats.failedCandidates then
    { sizer with current := Nat.max (Nat.max (sizer.current / 2) sizer.min) 1 }
  else if stats.startedCleanly = true ∧ sizer.current ≤ stats.produced then
    { sizer with
      current := Nat.max (Nat.max (Nat.min (sizer.current * 2) sizer.max) sizer.min) 1 }
  else sizer

/-- A batch is neither empty nor too large for the ports it needs. -/
structure Ok (sizer : ActiveBatchSizer) : Prop where
  pos : 0 < sizer.current
  le : sizer.current ≤ activeProbeBatchMaxSize
  min_le : sizer.min ≤ activeProbeBatchMinSize
  max_eq : sizer.max = activeProbeBatchMaxSize

/-- The first batch has such a size. -/
lemma ok_new (concurrency : ℕ) (configured : Option ℕ) : (new concurrency configured).Ok := by
  refine ⟨?_, ?_, ?_, rfl⟩
  · exact Nat.le_max_right _ _
  · exact Nat.max_le.mpr ⟨Nat.min_le_right _ _, by decide⟩
  · exact Nat.max_le.mpr ⟨by decide, Nat.min_le_right _ _⟩

/-- Every batch has such a size. -/
lemma Ok.observe {sizer : ActiveBatchSizer} (h : sizer.Ok) (stats : BatchProbeStats) :
    (sizer.observe stats).Ok := by
  obtain ⟨hpos, hle, hmin, hmax⟩ := h
  have hsmall : sizer.min ≤ activeProbeBatchMaxSize := Nat.le_trans hmin (by decide)
  rw [ActiveBatchSizer.observe]
  split_ifs
  · refine ⟨Nat.le_max_right _ _, ?_, hmin, hmax⟩
    refine Nat.max_le.mpr ⟨Nat.max_le.mpr ⟨?_, hsmall⟩, by decide⟩
    exact Nat.le_trans (Nat.div_le_self _ _) hle
  · refine ⟨Nat.le_max_right _ _, ?_, hmin, hmax⟩
    refine Nat.max_le.mpr ⟨Nat.max_le.mpr ⟨?_, hsmall⟩, by decide⟩
    exact hmax ▸ Nat.min_le_right _ _
  · exact ⟨hpos, hle, hmin, hmax⟩

end ActiveBatchSizer

/-- A wave has a batch at least. -/
lemma processes_pos (limits : ProbeLimits) : 0 < limits.processes :=
  Nat.le_max_left _ _

/-- A wave has few batches. -/
lemma processes_le (limits : ProbeLimits) :
    limits.processes ≤ activeProbeProcessMaxConcurrency :=
  Nat.max_le.mpr ⟨by decide, Nat.min_le_right _ _⟩

/-! ### The search for previous configs -/

/-- `entry_has_previous_working_uri`: the candidate or one of its aliases. -/
def entryHasPreviousWorkingUri (entry : PreparedActiveCandidate O) (policy : ProbeStopPolicy) :
    Bool :=
  policy.previousWorkingKeys.contains entry.candidate.dedupKey
    || entry.aliases.any fun c => policy.previousWorkingKeys.contains c.dedupKey

/-- `previous_working_entry_count`. -/
def previousWorkingEntryCount (entries : List (PreparedActiveCandidate O))
    (policy : ProbeStopPolicy) : ℕ :=
  entries.countP fun entry => entryHasPreviousWorkingUri entry policy

/-- Nothing is left to search where no entry worked in the previous run. -/
def ProbeStopState.new (prepared : List (PreparedActiveCandidate O)) (policy : ProbeStopPolicy) :
    ProbeStopState :=
  let remaining := if policy.scanAllConfigs = true ∨ policy.prioritizeStability = false then 0
    else previousWorkingEntryCount prepared policy
  { stabilitySearchExhausted := !policy.previousWorkingKeys.isEmpty && remaining == 0
    remainingPreviousWorking := remaining }

/-- `update_stability_search_after_batch`. -/
def updateStabilitySearchAfterBatch (testedPreviousWorking : ℕ) (policy : ProbeStopPolicy)
    (state : ProbeStopState) : ProbeStopState :=
  if policy.scanAllConfigs = true ∨ policy.prioritizeStability = false
      ∨ state.stabilitySearchExhausted = true then
    state
  else
    let remaining := state.remainingPreviousWorking - testedPreviousWorking
    { stabilitySearchExhausted := !policy.previousWorkingKeys.isEmpty && remaining == 0
      remainingPreviousWorking := remaining }

/-! ### One batch of a wave -/

/-- Where a batch waits. -/
inductive Stage (O : Type*) where
  /-- It was not yet looked at. -/
  | queued
  /-- For the ports, and for the process to start. -/
  | starting (entries : List (PreparedActiveCandidate O))
  /-- For the next probe: those of the first `limit` entries that are left are under way. -/
  | probing (limit : ℕ) (left : List (PreparedActiveCandidate O)) (found : List RankedConfig)
  /-- For the process to end. -/
  | closing (found : List RankedConfig)

/-- A batch of a wave, split up as it had to be: the last piece that was put on the stack is the
first of `pending`. -/
structure Task (O : Type*) where
  pending : List (List (PreparedActiveCandidate O))
  ranked : List RankedConfig
  stats : BatchProbeStats
  stop : ProbeStopState
  stage : Stage O

/-- What a batch came to. -/
structure BatchProbeOutcome where
  ranked : List RankedConfig
  stats : BatchProbeStats

/-- A batch goes on, or it is over. -/
inductive Progress (O : Type*) where
  | goes (t : Task O)
  | ended (outcome : BatchProbeOutcome)

/-- What a batch waited for. -/
inductive TaskEvent where
  /-- It is looked at for the first time. -/
  | poll
  /-- No port, no config file or no process. -/
  | unrecoverable (error : String)
  /-- sing-box refused the outbound with this index (`sing_box_failed_outbound_index`). -/
  | rejected (index : ℕ) (error : String)
  /-- The proxies did not come up. -/
  | notReady (error : String)
  | ready
  /-- The probe in this place ended. -/
  | probed (place : ℕ) (result : Except String ActiveProbeSuccess)
  | closed
  deriving DecidableEq

/-- `ranked_configs_for_active_result`: the one result of an entry; its aliases have none. -/
def rankedConfigForActiveResult (entry : PreparedActiveCandidate O) :
    Except String ActiveProbeSuccess → RankedConfig
  | .ok active => successfulConfig entry.candidate active
  | .error err => failedConfig entry.candidate "active_http" err

/-- `failed_configs`, of each of the entries. -/
def failedConfigs (entries : List (PreparedActiveCandidate O)) (err : String) :
    List RankedConfig := entries.map fun entry => failedConfig entry.candidate "active_http" err

namespace Task

def new (batch : List (PreparedActiveCandidate O)) (policy : ProbeStopPolicy) : Task O where
  pending := [batch]
  ranked := []
  stats := ⟨false, 0, 0, 0⟩
  stop := .new batch policy
  stage := .queued

/-- The loop of `probe_active_batch_with_fallback` from its head, with this stack; the flag is the
one the batches share. -/
def resume (policy : ProbeStopPolicy) (cancel : Bool) (t : Task O) :
    List (List (PreparedActiveCandidate O)) → Bool × Progress O
  | [] => (cancel, .ended ⟨t.ranked, t.stats⟩)
  | batch :: pending =>
    if cancel = true then (true, .ended ⟨t.ranked, t.stats⟩)
    else if batch.isEmpty = true then
      let stats := { t.stats with startedCleanly := true }
      if (probeStopReason t.ranked policy t.stop).isSome then (true, .ended ⟨t.ranked, stats⟩)
      else resume policy cancel { t with stats := stats } pending
    else (false, .goes { t with pending := pending, stage := .starting batch })

/-- The rest of the loop, after `probe_active_batch` has answered. -/
def settle (policy : ProbeStopPolicy) (cancel : Bool) (t : Task O) : Bool × Progress O :=
  if (probeStopReason t.ranked policy t.stop).isSome then (true, .ended ⟨t.ranked, t.stats⟩)
  else resume policy cancel t t.pending

/-- The entries cannot be probed. -/
def fail (t : Task O) (entries : List (PreparedActiveCandidate O)) (err : String) : Task O :=
  { t with
    ranked := t.ranked ++ failedConfigs entries err
    stats := { t.stats with
      failedCandidates := t.stats.failedCandidates + candidateCount entries } }

/-- The outbound of one of the entries is refused, and the others are tried again. -/
def reject (t : Task O) (entry : PreparedActiveCandidate O)
    (remaining : List (PreparedActiveCandidate O)) (err : String) : Task O :=
  { t.fail [entry] err with
    pending := if remaining.isEmpty = true then t.pending else remaining :: t.pending }

/-- The entries are tried again in two halves. -/
def split (t : Task O) (entries : List (PreparedActiveCandidate O)) : Task O :=
  { t with
    pending := entries.take (entries.length / 2) :: entries.drop (entries.length / 2) :: t.pending
    stats := { t.stats with splits := t.stats.splits + 1 } }

/-- The process has ended, and the results of the piece are those of the batch. -/
def close (t : Task O) (found : List RankedConfig) : Task O :=
  { t with
    ranked := t.ranked ++ found
    stats := { t.stats with
      startedCleanly := true, produced := t.stats.produced + found.length } }

/-- What a probe that ended leaves to wait for. -/
def afterProbe (limit : ℕ) (left : List (PreparedActiveCandidate O)) (found : List RankedConfig) :
    Stage O := if left.isEmpty = true then .closing found else .probing limit left found

/-- What a batch does when what it waited for happens: the flag and the batch afterwards. -/
def step (limits : ProbeLimits) (policy : ProbeStopPolicy) (cancel : Bool) (t : Task O)
    (e : TaskEvent) : Option (Bool × Progress O) :=
  match t.stage, e with
  | .queued, .poll => some (resume policy cancel t t.pending)
  | .starting entries, .unrecoverable err => some (settle policy cancel (t.fail entries err))
  | .starting entries, .rejected index err =>
    match entries[index]? with
    | none => none
    | some entry => some (settle policy cancel (t.reject entry (entries.eraseIdx index) err))
  | .starting entries, .notReady err =>
    if 1 < entries.length then some (settle policy cancel (t.split entries))
    else some (settle policy cancel (t.fail entries err))
  | .starting entries, .ready =>
    if cancel = true then some (true, .goes { t with stage := .closing [] })
    else
      let limit := activeProbeHttpConcurrency limits.concurrency entries.length
      some (false, .goes { t with stage := .probing limit entries [] })
  | .probing limit left found, .probed place result =>
    match left[place]? with
    | none => none
    | some entry =>
      if limit ≤ place then none
      else if cancel = true then some (true, .goes { t with stage := .closing found })
      else
        let found := found ++ [rankedConfigForActiveResult entry result]
        if (probeStopReason (t.ranked ++ found) policy t.stop).isSome then
          some (true, .goes { t with stage := .closing found })
        else
          some (false, .goes { t with stage := afterProbe limit (left.eraseIdx place) found })
  | .closing found, .closed => some (settle policy cancel (t.close found))
  | _, _ => none

end Task

/-! ### The scan -/

/-- Where the scan is. -/
inductive Phase (O : Type*) where
  /-- At the head of its loop. -/
  | head
  /-- It takes batches for a wave, up to `more` of them; `previous` of their entries worked in the
  previous run. -/
  | draining (more previous : ℕ) (wave : List (Task O))
  | running (previous : ℕ) (wave : List (Task O))
  | finished

/-- The scan: what is still to be probed, what was found, and where it is. -/
structure Sys (O : Type*) where
  prepared : List (PreparedActiveCandidate O)
  ranked : List RankedConfig
  sizer : ActiveBatchSizer
  stop : ProbeStopState
  /-- The flag the batches share. -/
  cancel : Bool
  /-- The flag of the policy (`cancel_flag`): a timeout, or Ctrl+C. -/
  external : Bool
  phase : Phase O

/-- What can happen next. -/
inductive Event where
  /-- The flag of the policy is set. -/
  | cancel
  /-- The scan goes on by itself. -/
  | main
  /-- What the batch in this place of the wave waited for happens. -/
  | task (place : ℕ) (e : TaskEvent)
  deriving DecidableEq

namespace Sys

/-- The scan before its first wave. -/
def init (limits : ProbeLimits) (policy : ProbeStopPolicy) (preparation : ActivePreparation O) :
    Sys O where
  prepared := preparation.prepared
  ranked := preparation.ranked
  sizer := .new limits.concurrency limits.batchSize
  stop := .new preparation.prepared policy
  cancel := false
  external := false
  phase := .head

/-- Nothing more is started. -/
def Halted (s : Sys O) : Prop := s.prepared.isEmpty = true ∨ s.cancel = true ∨ s.external = true

instance (s : Sys O) : Decidable s.Halted :=
  inferInstanceAs (Decidable (_ ∨ _ ∨ _))

/-- The end of a wave. -/
def waveEnd (policy : ProbeStopPolicy) (previous : ℕ) (s : Sys O) : Sys O :=
  let stop := updateStabilitySearchAfterBatch previous policy s.stop
  if (probeStopReason s.ranked policy stop).isSome then
    { s with stop := stop, cancel := true, phase := .finished }
  else { s with stop := stop, phase := .head }

/-- The wave, if it has a batch left, or its end. -/
def goOn (policy : ProbeStopPolicy) (previous : ℕ) (wave : List (Task O)) (s : Sys O) : Sys O :=
  if wave.isEmpty = true then waveEnd policy previous s
  else { s with phase := .running previous wave }

/-- One more batch for the wave. -/
def drain (policy : ProbeStopPolicy) (more previous : ℕ) (wave : List (Task O)) (s : Sys O) :
    Sys O :=
  let batch := s.prepared.take (s.sizer.nextLen s.prepared.length)
  { s with
    prepared := s.prepared.drop (s.sizer.nextLen s.prepared.length)
    phase := .draining more (previous + previousWorkingEntryCount batch policy)
      (wave ++ [.new batch policy]) }

/-- The results of a batch that is over are those of the scan. -/
def collect (outcome : BatchProbeOutcome) (s : Sys O) : Sys O :=
  { s with sizer := s.sizer.observe outcome.stats, ranked := s.ranked ++ outcome.ranked }

/-- The rest of a wave: it is given up where there is a reason to stop. -/
def settle (policy : ProbeStopPolicy) (previous : ℕ) (wave : List (Task O)) (s : Sys O) : Sys O :=
  if s.cancel = false ∧ (probeStopReason s.ranked policy s.stop).isSome then
    waveEnd policy previous { s with cancel := true }
  else if s.cancel = true then waveEnd policy previous s
  else goOn policy previous wave s

/-- A batch is over, and the rest of its wave is `wave`. -/
def consume (policy : ProbeStopPolicy) (previous : ℕ) (wave : List (Task O))
    (outcome : BatchProbeOutcome) (s : Sys O) : Sys O :=
  settle policy previous wave (collect outcome s)

def step (limits : ProbeLimits) (policy : ProbeStopPolicy) (s : Sys O) : Event → Option (Sys O)
  | .cancel => some { s with external := true }
  | .main =>
    match s.phase with
    | .head =>
      if s.Halted then some { s with phase := .finished }
      else some { s with phase := .draining limits.processes 0 [] }
    | .draining 0 previous wave => some (goOn policy previous wave s)
    | .draining (more + 1) previous wave =>
      if s.Halted then some (goOn policy previous wave s)
      else some (drain policy more previous wave s)
    | _ => none
  | .task place e =>
    match s.phase with
    | .running previous wave =>
      match wave[place]? with
      | none => none
      | some t =>
        match t.step limits policy s.cancel e with
        | none => none
        | some (cancel, .goes t') =>
          some { s with cancel := cancel, phase := .running previous (wave.set place t') }
        | some (cancel, .ended outcome) =>
          some (consume policy previous (wave.eraseIdx place) outcome { s with cancel := cancel })
    | _ => none

end Sys

end V2RayDar
