import V2raySub.V2RayDar.ActiveProbe
import V2raySub.V2RayDar.Sweep

/-!
The probe of a list of candidates (`probe.rs`, `probe_candidates`,
`probe_active_with_tcp_prefilter`): the sweep, the active probe, the speed test and the ranking, one
after the other.

* `Schedule`: what happens during a run, and in which order; `probeCandidates` answers `none` where
  it could not happen so, or the run is not over by then.
* `Covers`: every candidate has a result, or one with its outbound key has.
* `probe_candidates_accounts`: **every run accounts for its candidates**: each has at most one
  result, in active mode no outbound key is found to work twice, and a full run that nobody cancels
  covers them all.
-/

open scoped List

namespace V2RayDar

open SortBy

variable {O : Type*}

/-! ### The definitions -/

/-- What a config is probed with: a request through it, or a connection. -/
inductive ProbeMode where
  | active
  | tcp
  deriving DecidableEq

/-- The settings of a run. -/
structure ProbeConfig where
  mode : ProbeMode
  singBoxPath : String
  limits : ProbeLimits
  tcpPrefilter : Bool
  downloadUrl : Option String
  deriving DecidableEq

/-- The machine the engine runs on: whether sing-box runs there (`sing_box_available`), and the
number of its processors. -/
structure Machine where
  singBox : String → Bool
  numCpus : ℕ

/-- What happens during a run: the connections of the sweep, the events of the active probe, and
what the speed tests come to. -/
structure Schedule where
  connections : List Connected
  events : List Event
  measure : ℕ → Option Measurement

/-- Nobody cancels the run. -/
def Schedule.Uncancelled (schedule : Schedule) : Prop :=
  (∀ e ∈ schedule.connections, e.deadline = false) ∧ Event.cancel ∉ schedule.events

/-- The scan is over. -/
def Phase.isFinished : Phase O → Bool
  | .finished => true
  | _ => false

/-- `probe_active_batched`; `late` says whether the deadline has passed before. -/
def probeActiveBatched (lib : OutboundLib O) (machine : Machine) (config : ProbeConfig)
    (policy : ProbeStopPolicy) (schedule : Schedule) (late : Bool) (candidates : List Candidate) :
    Option (List RankedConfig) :=
  let preparation := prepareActiveCandidates lib machine.numCpus candidates policy
  let events := if late = true then .cancel :: schedule.events else schedule.events
  ((probeActive config.limits policy preparation events).filter fun s => s.phase.isFinished).map
    fun s => enrichTopSpeedtests config.downloadUrl policy schedule.measure s.ranked

/-- `probe_active_with_tcp_prefilter`: first a sweep, and a request only where it got through. -/
def probeActiveWithTcpPrefilter (lib : OutboundLib O) (machine : Machine) (config : ProbeConfig)
    (policy : ProbeStopPolicy) (schedule : Schedule) (candidates : List Candidate) :
    Option (List RankedConfig) :=
  let udpBypass := candidates.filter fun c => isUdpProtocol c.protocol
  let tcpTestable := candidates.filter fun c => !isUdpProtocol c.protocol
  if tcpTestable.isEmpty = true then
    probeActiveBatched lib machine config policy schedule false udpBypass
  else
    (sweep (tcpPrefilterConcurrency config.limits.concurrency) true tcpTestable
        schedule.connections).bind fun s =>
      let reachable := s.found.filter RankedConfig.reachable
      let dead := s.found.filter fun r => !r.reachable
      (probeActiveBatched lib machine config policy schedule s.stopped
        (udpBypass ++ candidatesFromRanked reachable)).map (· ++ dead)

/-- The error of every candidate where sing-box does not run. -/
def singBoxMissing (path : String) : String :=
  "sing-box executable '" ++ path ++ "' was not found or did not run; " ++
    "install sing-box or set probe.sing_box_path"

/-- `probe_candidates`; `none` is a schedule that is not one of a whole run. -/
def probeCandidates (lib : OutboundLib O) (machine : Machine) (config : ProbeConfig)
    (policy : ProbeStopPolicy) (schedule : Schedule) (candidates : List Candidate) :
    Option (List RankedConfig) :=
  match config.mode with
  | .active =>
    if machine.singBox config.singBoxPath = false then
      some (rankConfigs (candidates.map fun c =>
        failedConfig c "active_http" (singBoxMissing config.singBoxPath)))
    else if config.tcpPrefilter = true then
      (probeActiveWithTcpPrefilter lib machine config policy schedule candidates).map rankConfigs
    else
      (probeActiveBatched lib machine config policy schedule false candidates).map rankConfigs
  | .tcp =>
    (sweep config.limits.concurrency false candidates schedule.connections).map fun s =>
      rankConfigs s.found

/-! ### What is owed for the candidates -/

/-- The candidate of a result that is reachable. -/
def RankedConfig.hit? (r : RankedConfig) : Option Candidate :=
  if r.reachable = true then some r.candidate else none

/-- Every candidate has a result, or one with its outbound key has. -/
def Covers (lib : OutboundLib O) (candidates : List Candidate) (ranked : List RankedConfig) :
    Prop :=
  ∀ c ∈ candidates, c ∈ candidatesFromRanked ranked ∨ ∃ c' ∈ candidatesFromRanked ranked,
    ∃ k, lib.keyOf c = some k ∧ lib.keyOf c' = some k

/-- No outbound key is found to work twice. -/
def Once (lib : OutboundLib O) (ranked : List RankedConfig) : Prop :=
  ((ranked.filterMap RankedConfig.hit?).filterMap lib.keyOf).Nodup

section Lists

variable {lib : OutboundLib O} {candidates : List Candidate} {ranked ranked' : List RankedConfig}

@[simp] lemma candidatesFromRanked_append (l₁ l₂ : List RankedConfig) :
    candidatesFromRanked (l₁ ++ l₂) = candidatesFromRanked l₁ ++ candidatesFromRanked l₂ :=
  List.map_append

/-- A result is the same for the accounts, if it is of the same candidate and reachable or not like
the other. -/
lemma filterMap_hit_eq (ranked : List RankedConfig) : ranked.filterMap RankedConfig.hit?
    = (ranked.map fun r => (r.candidate, r.reachable)).filterMap fun p =>
      if p.2 = true then some p.1 else none := by
  rw [List.filterMap_map]
  rfl

/-- The candidates, read off what counts of the results. -/
lemma candidatesFromRanked_eq (ranked : List RankedConfig) : candidatesFromRanked ranked
    = (ranked.map fun r => (r.candidate, r.reachable)).map Prod.fst := by
  rw [List.map_map]
  rfl

/-- The candidates that are reachable are among all. -/
lemma sublist_filterMap_hit (ranked : List RankedConfig) :
    List.Sublist (ranked.filterMap RankedConfig.hit?) (candidatesFromRanked ranked) := by
  induction ranked with
  | nil => exact .slnil
  | cons r ranked ih =>
      rw [List.filterMap_cons, RankedConfig.hit?]
      split_ifs
      · exact ih.cons_cons _
      · exact ih.cons _

/-- The order does not matter for it. -/
lemma Once.of_perm (h : Once lib ranked)
    (hp : ranked'.map (fun r => (r.candidate, r.reachable))
      ~ ranked.map fun r => (r.candidate, r.reachable)) : Once lib ranked' := by
  rw [Once, filterMap_hit_eq] at h ⊢
  exact ((hp.filterMap _).filterMap _).nodup_iff.mpr h

/-- Nor for this. -/
lemma Covers.of_perm (h : Covers lib candidates ranked)
    (hp : candidatesFromRanked ranked' ~ candidatesFromRanked ranked) :
    Covers lib candidates ranked' := fun c hc => by
  rcases h c hc with hown | ⟨c', hc', hk⟩
  · exact .inl (hp.mem_iff.mpr hown)
  · exact .inr ⟨c', hp.mem_iff.mpr hc', hk⟩

/-- Dead endpoints work nowhere. -/
lemma Once.append_dead (h : Once lib ranked) (hdead : ∀ r ∈ ranked', r.reachable = false) :
    Once lib (ranked ++ ranked') := by
  have hnone : ranked'.filterMap RankedConfig.hit? = [] :=
    List.filterMap_eq_nil_iff.mpr fun r hr => by simp [RankedConfig.hit?, hdead r hr]
  rw [Once, List.filterMap_append, hnone, List.append_nil]
  exact h

/-- The ranking changes nothing but the order. -/
lemma perm_rankConfigs_candidates (ranked : List RankedConfig) :
    (rankConfigs ranked).map (fun r => (r.candidate, r.reachable))
      ~ ranked.map fun r => (r.candidate, r.reachable) := by
  have hperm := (perm_rankConfigs ranked).map fun r => (r.candidate, r.reachable)
  rwa [List.map_map, List.map_map] at hperm

/-- Nor does it change the candidates. -/
lemma perm_candidatesFromRanked (ranked : List RankedConfig) :
    candidatesFromRanked (rankConfigs ranked) ~ candidatesFromRanked ranked := by
  rw [candidatesFromRanked_eq, candidatesFromRanked_eq]
  exact (perm_rankConfigs_candidates ranked).map _

end Lists

/-! ### The active probe -/

/-- A representative is one of its members. -/
lemma sublist_representatives (entries : List (PreparedActiveCandidate O)) :
    List.Sublist (representatives entries) (allMembers entries) := by
  induction entries with
  | nil => exact .slnil
  | cons e entries ih => exact (ih.trans (List.sublist_append_right e.aliases _)).cons_cons _

section Batched

variable {lib : OutboundLib O} {machine : Machine} {config : ProbeConfig}
  {policy : ProbeStopPolicy} {schedule : Schedule} {late : Bool} {candidates : List Candidate}
  {ranked : List RankedConfig}

/-- A scan reports candidates it was given, each at most as often. -/
lemma subperm_reported_candidates (lib : OutboundLib O) (numCpus : ℕ)
    (candidates : List Candidate) (policy : ProbeStopPolicy) :
    (prepareActiveCandidates lib numCpus candidates policy).reported <+~ candidates :=
  ((sublist_representatives _).append_right _).subperm.trans
    (perm_prepareActiveCandidates lib numCpus candidates policy).subperm

/-- The candidates of the entries have the keys of the entries. -/
lemma Groups.keyOf_candidate {cs : List Candidate} {entries : List (PreparedActiveCandidate O)}
    (h : Groups lib cs entries) {e : PreparedActiveCandidate O} (he : e ∈ entries) :
    lib.keyOf e.candidate = some (lib.normalizedKey e.outbound) := keyOf_of_ok (h.outbound e he)

/-- Of the candidates it reports, no two have one outbound key. -/
lemma nodup_reported (lib : OutboundLib O) (numCpus : ℕ) (candidates : List Candidate)
    (policy : ProbeStopPolicy) :
    ((prepareActiveCandidates lib numCpus candidates policy).reported.filterMap
      lib.keyOf).Nodup := by
  have hgroups := groups_prepareActiveCandidates lib numCpus candidates policy
  have hfailed : (candidatesFromRanked (prepareActiveCandidates lib numCpus candidates
      policy).ranked).filterMap lib.keyOf = [] := by
    rw [ranked_prepareActiveCandidates]
    refine List.filterMap_eq_nil_iff.mpr fun c hc => ?_
    obtain ⟨r, hr, rfl⟩ := List.mem_map.mp hc
    obtain ⟨c, -, hc⟩ := List.mem_filterMap.mp hr
    unfold OutboundLib.failure? at hc
    cases hlink : lib.fromShareLink c.uri with
    | ok o =>
        rw [hlink] at hc
        cases hc
    | error err =>
        rw [hlink] at hc
        cases hc
        exact keyOf_of_error hlink
  have hkeys : (representatives (prepareActiveCandidates lib numCpus candidates
      policy).prepared).filterMap lib.keyOf
        = lib.keys (prepareActiveCandidates lib numCpus candidates policy).prepared := by
    rw [representatives, List.filterMap_map, OutboundLib.keys, ← List.filterMap_eq_map]
    exact List.filterMap_congr fun e he => hgroups.keyOf_candidate he
  rw [ActivePreparation.reported, List.filterMap_append, hfailed, List.append_nil, hkeys]
  exact hgroups.nodup

/-- What is reported of a preparation covers its candidates. -/
lemma mem_reported (numCpus : ℕ) {c : Candidate} (hc : c ∈ candidates) :
    c ∈ (prepareActiveCandidates lib numCpus candidates policy).reported
      ∨ ∃ c' ∈ (prepareActiveCandidates lib numCpus candidates policy).reported,
        ∃ k, lib.keyOf c = some k ∧ lib.keyOf c' = some k := by
  have hgroups := groups_prepareActiveCandidates lib numCpus candidates policy
  rcases List.mem_append.mp
    ((perm_prepareActiveCandidates lib numCpus candidates policy).mem_iff.mpr hc) with hmem | hfail
  · obtain ⟨members, hmembers, hc⟩ := List.mem_flatten.mp hmem
    obtain ⟨e, he, rfl⟩ := List.mem_map.mp hmembers
    rw [hgroups.members e he] at hc
    exact .inr ⟨e.candidate, List.mem_append_left _ (List.mem_map_of_mem he), _,
      by simpa using List.of_mem_filter hc, hgroups.keyOf_candidate he⟩
  · exact .inl (List.mem_append_right _ hfail)

/-- A run of the active probe. -/
lemma run_of_probeActiveBatched
    (h : probeActiveBatched lib machine config policy schedule late candidates = some ranked) :
    ∃ s : Sys O, probeActive config.limits policy
          (prepareActiveCandidates lib machine.numCpus candidates policy)
          (if late = true then .cancel :: schedule.events else schedule.events) = some s
      ∧ s.phase = .finished
      ∧ ranked.map (fun r => (r.candidate, r.reachable))
        = s.ranked.map fun r => (r.candidate, r.reachable) := by
  obtain ⟨s, hs, rfl⟩ := Option.map_eq_some_iff.mp h
  obtain ⟨hrun, hphase⟩ := Option.filter_eq_some_iff.mp hs
  refine ⟨s, hrun, ?_, map_enrichTopSpeedtests (fun r m => ?_) _ _ _ _⟩
  · cases hfinished : s.phase with
    | finished => rfl
    | head | draining | running =>
        rw [hfinished] at hphase
        cases hphase
  · cases m <;> rfl

/-- No result of an active scan is made up. -/
lemma subperm_probeActiveBatched
    (h : probeActiveBatched lib machine config policy schedule late candidates = some ranked) :
    candidatesFromRanked ranked <+~ candidates := by
  obtain ⟨s, hrun, hfinished, hmap⟩ := run_of_probeActiveBatched h
  rw [candidatesFromRanked_eq, hmap, ← candidatesFromRanked_eq]
  exact (subperm_reported hrun hfinished).trans (subperm_reported_candidates ..)

/-- An active scan finds no outbound key to work twice. -/
lemma once_probeActiveBatched
    (h : probeActiveBatched lib machine config policy schedule late candidates = some ranked) :
    Once lib ranked := by
  obtain ⟨s, hrun, hfinished, hmap⟩ := run_of_probeActiveBatched h
  obtain ⟨l, hperm, hsub⟩ := subperm_reported hrun hfinished
  have hnodup : ((candidatesFromRanked s.ranked).filterMap lib.keyOf).Nodup :=
    (hperm.filterMap lib.keyOf).nodup_iff.mp
      ((nodup_reported lib machine.numCpus candidates policy).sublist (hsub.filterMap _))
  have honce : Once lib s.ranked := hnodup.sublist ((sublist_filterMap_hit s.ranked).filterMap _)
  exact honce.of_perm (.of_eq hmap)

/-- A whole active scan leaves no candidate out. -/
lemma covers_probeActiveBatched
    (h : probeActiveBatched lib machine config policy schedule false candidates = some ranked)
    (hscan : policy.scanAllConfigs = true) (hgo : Event.cancel ∉ schedule.events) :
    Covers lib candidates ranked := by
  obtain ⟨s, hrun, hfinished, hmap⟩ := run_of_probeActiveBatched h
  have hcancel : s.cancel = false := (Sys.stepped_run hrun).scanAll hscan
  have hperm := perm_reported hrun hfinished hcancel
  rw [prepared_eq_nil hrun hfinished hcancel (external_run hrun hgo), representatives,
    List.map_nil, List.append_nil] at hperm
  have hcovers : Covers lib candidates s.ranked := fun c hc => by
    rcases mem_reported machine.numCpus hc with hown | ⟨c', hc', hk⟩
    · exact .inl (hperm.mem_iff.mpr hown)
    · exact .inr ⟨c', hperm.mem_iff.mpr hc', hk⟩
  refine hcovers.of_perm (.of_eq ?_)
  rw [candidatesFromRanked_eq, hmap, ← candidatesFromRanked_eq]

end Batched

/-! ### The sweep before it -/

section Prefilter

variable {lib : OutboundLib O} {machine : Machine} {config : ProbeConfig}
  {policy : ProbeStopPolicy} {schedule : Schedule} {candidates : List Candidate}
  {ranked : List RankedConfig}

/-- The run after a sweep: what was swept, and what is made of it. -/
lemma run_of_prefilter
    (h : probeActiveWithTcpPrefilter lib machine config policy schedule candidates = some ranked) :
    (candidates.filter (fun c => isUdpProtocol c.protocol) = candidates
      ∧ probeActiveBatched lib machine config policy schedule false candidates = some ranked)
    ∨ ∃ s probed, sweep (tcpPrefilterConcurrency config.limits.concurrency) true
          (candidates.filter fun c => !isUdpProtocol c.protocol) schedule.connections = some s
        ∧ probeActiveBatched lib machine config policy schedule s.stopped
            (candidates.filter (fun c => isUdpProtocol c.protocol)
              ++ candidatesFromRanked (s.found.filter RankedConfig.reachable)) = some probed
        ∧ ranked = probed ++ s.found.filter fun r => !r.reachable := by
  unfold probeActiveWithTcpPrefilter at h
  dsimp only at h
  split_ifs at h with hempty
  · have hall : candidates.filter (fun c => isUdpProtocol c.protocol) = candidates :=
      List.filter_eq_self.mpr fun c hc => by
        simpa using List.filter_eq_nil_iff.mp (List.isEmpty_iff.mp hempty) c hc
    rw [hall] at h
    exact .inl ⟨hall, h⟩
  · obtain ⟨s, hs, hrest⟩ := Option.bind_eq_some_iff.mp h
    obtain ⟨probed, hprobed, rfl⟩ := Option.map_eq_some_iff.mp hrest
    exact .inr ⟨s, probed, hs, hprobed, rfl⟩

/-- The swept candidates are the reachable ones and the dead ones. -/
lemma perm_found (found : List RankedConfig) :
    candidatesFromRanked (found.filter RankedConfig.reachable)
        ++ candidatesFromRanked (found.filter fun r => !r.reachable)
      ~ candidatesFromRanked found := by
  rw [← candidatesFromRanked_append]
  exact (List.filter_append_perm _ found).map _

/-- With the prefilter, too, no result is made up. -/
lemma subperm_prefilter
    (h : probeActiveWithTcpPrefilter lib machine config policy schedule candidates = some ranked) :
    candidatesFromRanked ranked <+~ candidates := by
  rcases run_of_prefilter h with ⟨-, hprobed⟩ | ⟨s, probed, hs, hprobed, rfl⟩
  · exact subperm_probeActiveBatched hprobed
  · set udp := candidates.filter fun c => isUdpProtocol c.protocol
    set tcp := candidates.filter fun c => !isUdpProtocol c.protocol
    have hfound : candidatesFromRanked s.found <+~ tcp :=
      (List.sublist_append_left _ s.left).subperm.trans (perm_sweep hs).subperm
    have hprobe : candidatesFromRanked probed
          ++ candidatesFromRanked (s.found.filter fun r => !r.reachable)
        <+~ (udp ++ candidatesFromRanked (s.found.filter RankedConfig.reachable))
          ++ candidatesFromRanked (s.found.filter fun r => !r.reachable) :=
      (List.subperm_append_right _).mpr (subperm_probeActiveBatched hprobed)
    rw [List.append_assoc] at hprobe
    rw [candidatesFromRanked_append]
    refine hprobe.trans ?_
    refine ((perm_found s.found).append_left udp).subperm.trans ?_
    refine ((List.subperm_append_left udp).mpr hfound).trans ?_
    exact (List.filter_append_perm _ candidates).subperm

/-- With the prefilter, too, no outbound key is found to work twice. -/
lemma once_prefilter
    (h : probeActiveWithTcpPrefilter lib machine config policy schedule candidates = some ranked) :
    Once lib ranked := by
  rcases run_of_prefilter h with ⟨-, hprobed⟩ | ⟨s, probed, -, hprobed, rfl⟩
  · exact once_probeActiveBatched hprobed
  · exact (once_probeActiveBatched hprobed).append_dead fun r hr => by
      simpa using List.of_mem_filter hr

/-- With the prefilter, too, a whole scan leaves no candidate out. -/
lemma covers_prefilter
    (h : probeActiveWithTcpPrefilter lib machine config policy schedule candidates = some ranked)
    (hscan : policy.scanAllConfigs = true) (hgo : schedule.Uncancelled) :
    Covers lib candidates ranked := by
  rcases run_of_prefilter h with ⟨-, hprobed⟩ | ⟨s, probed, hs, hprobed, rfl⟩
  · exact covers_probeActiveBatched hprobed hscan hgo.2
  · have hstopped : s.stopped = false := stopped_sweep hs fun e he => by
      rw [hgo.1 e he, Bool.and_false]
    rw [hstopped] at hprobed
    have hcovers := covers_probeActiveBatched hprobed hscan hgo.2
    have hfound := perm_sweep hs
    rw [left_sweep hs hstopped, List.append_nil] at hfound
    intro c hc
    rw [candidatesFromRanked_append]
    have hprobe : ∀ c ∈ candidates.filter (fun c => isUdpProtocol c.protocol)
        ++ candidatesFromRanked (s.found.filter RankedConfig.reachable),
        c ∈ candidatesFromRanked probed
            ++ candidatesFromRanked (s.found.filter fun r => !r.reachable)
          ∨ ∃ c' ∈ candidatesFromRanked probed
            ++ candidatesFromRanked (s.found.filter fun r => !r.reachable),
            ∃ k, lib.keyOf c = some k ∧ lib.keyOf c' = some k := fun c hc => by
      rcases hcovers c hc with hown | ⟨c', hc', hk⟩
      · exact .inl (List.mem_append_left _ hown)
      · exact .inr ⟨c', List.mem_append_left _ hc', hk⟩
    cases hudp : isUdpProtocol c.protocol with
    | true => exact hprobe c (List.mem_append_left _ (List.mem_filter.mpr ⟨hc, hudp⟩))
    | false =>
        have hswept : c ∈ candidatesFromRanked s.found :=
          hfound.mem_iff.mpr (List.mem_filter.mpr ⟨hc, by rw [hudp]; rfl⟩)
        rcases List.mem_append.mp ((perm_found s.found).mem_iff.mpr hswept) with hreach | hdead
        · exact hprobe c (List.mem_append_right _ hreach)
        · exact .inl (List.mem_append_right _ hdead)

end Prefilter

/-! ### Every run -/

section Runs

variable {lib : OutboundLib O} {machine : Machine} {config : ProbeConfig}
  {policy : ProbeStopPolicy} {schedule : Schedule} {candidates : List Candidate}
  {ranked : List RankedConfig}

/-- The results before they are ranked. -/
lemma exists_unranked
    (h : probeCandidates lib machine config policy schedule candidates = some ranked) :
    ∃ results, ranked = rankConfigs results ∧ candidatesFromRanked results <+~ candidates
      ∧ (config.mode = .active → Once lib results)
      ∧ (policy.scanAllConfigs = true → schedule.Uncancelled →
        Covers lib candidates results) := by
  unfold probeCandidates at h
  cases hmode : config.mode with
  | active =>
      rw [hmode] at h
      dsimp only at h
      split_ifs at h with hmissing hprefilter
      · cases h
        have hall : candidatesFromRanked (candidates.map fun c =>
            failedConfig c "active_http" (singBoxMissing config.singBoxPath)) = candidates := by
          rw [candidatesFromRanked, List.map_map]
          exact List.map_id candidates
        refine ⟨_, rfl, ?_, fun _ => ?_, fun _ _ c hc => .inl ?_⟩
        · rw [hall]
        · have hnone : Once lib [] := List.nodup_nil
          refine hnone.append_dead fun r hr => ?_
          obtain ⟨c, -, rfl⟩ := List.mem_map.mp hr
          rfl
        · rwa [hall]
      · obtain ⟨results, hresults, rfl⟩ := Option.map_eq_some_iff.mp h
        exact ⟨results, rfl, subperm_prefilter hresults, fun _ => once_prefilter hresults,
          covers_prefilter hresults⟩
      · obtain ⟨results, hresults, rfl⟩ := Option.map_eq_some_iff.mp h
        exact ⟨results, rfl, subperm_probeActiveBatched hresults,
          fun _ => once_probeActiveBatched hresults,
          fun hscan hgo => covers_probeActiveBatched hresults hscan hgo.2⟩
  | tcp =>
      rw [hmode] at h
      obtain ⟨s, hs, rfl⟩ := Option.map_eq_some_iff.mp h
      have hfound := perm_sweep hs
      rw [left_sweep hs (stopped_sweep hs fun _ _ => rfl), List.append_nil] at hfound
      refine ⟨_, rfl, hfound.subperm, fun hactive => ?_, fun _ _ c hc => .inl ?_⟩
      · cases hactive
      · exact hfound.mem_iff.mpr hc

/-- No result of a run is made up, in any mode. -/
lemma subperm_probeCandidates
    (h : probeCandidates lib machine config policy schedule candidates = some ranked) :
    candidatesFromRanked ranked <+~ candidates := by
  obtain ⟨results, rfl, hsub, -⟩ := exists_unranked h
  exact (perm_candidatesFromRanked results).subperm.trans hsub

/-- A whole run leaves no candidate out, in any mode. -/
lemma covers_probeCandidates
    (h : probeCandidates lib machine config policy schedule candidates = some ranked)
    (hscan : policy.scanAllConfigs = true) (hgo : schedule.Uncancelled) :
    Covers lib candidates ranked := by
  obtain ⟨results, rfl, -, -, hcovers⟩ := exists_unranked h
  exact (hcovers hscan hgo).of_perm (perm_candidatesFromRanked results)

/-- The results are in order. -/
lemma pairwise_probeCandidates
    (h : probeCandidates lib machine config policy schedule candidates = some ranked) :
    ranked.Pairwise (Le compareRanked) := by
  obtain ⟨results, rfl, -⟩ := exists_unranked h
  exact pairwise_rankConfigs results

/-- **A run accounts for its candidates**: it gives each at most one result, in the order of the
ranking; in active mode no outbound key is found to work twice; and a run over all of them that
nobody cancels leaves none without a result, of its own or of one with its outbound key. -/
theorem probe_candidates_accounts
    (h : probeCandidates lib machine config policy schedule candidates = some ranked) :
    candidatesFromRanked ranked <+~ candidates
      ∧ ranked.Pairwise (Le compareRanked)
      ∧ (config.mode = .active → Once lib ranked)
      ∧ (policy.scanAllConfigs = true → schedule.Uncancelled → Covers lib candidates ranked) := by
  refine ⟨subperm_probeCandidates h, pairwise_probeCandidates h, fun hactive => ?_,
    covers_probeCandidates h⟩
  obtain ⟨results, rfl, -, honce, -⟩ := exists_unranked h
  exact (honce hactive).of_perm (perm_rankConfigs_candidates results)

end Runs

/-! ### Two links with one outbound -/

def sampleConfig : ProbeConfig where
  mode := .active
  singBoxPath := "sing-box"
  limits := sampleLimits
  tcpPrefilter := false
  downloadUrl := none

def sampleMachine : Machine := ⟨fun _ => true, 4⟩

/-- One batch, and its only probe succeeds. -/
def sampleProbe : List Event :=
  [.main, .main, .main, .task 0 .poll, .task 0 .ready, .task 0 (.probed 0 (.ok ⟨5, 204, none⟩)),
    .task 0 .closed, .main]

def sampleSchedule : Schedule := ⟨[], sampleProbe, fun _ => none⟩

/-- Every link has the same outbound, which is its own key. -/
def sampleShared : OutboundLib String := ⟨fun _ => .ok "outbound", id⟩

def sampleRanked : List RankedConfig :=
  (probeCandidates sampleShared sampleMachine sampleConfig sampleAll sampleSchedule
    [sampleCandidate "a", sampleCandidate "b"]).get rfl

theorem probe_candidates_accounts_sample : sampleRanked.length = 1
    ∧ Once sampleShared sampleRanked
    ∧ Covers sampleShared [sampleCandidate "a", sampleCandidate "b"] sampleRanked := by
  have h : probeCandidates sampleShared sampleMachine sampleConfig sampleAll sampleSchedule
      [sampleCandidate "a", sampleCandidate "b"] = some sampleRanked := rfl
  have hgo : sampleSchedule.Uncancelled := ⟨nofun, by decide⟩
  obtain ⟨-, -, honce, hcovers⟩ := probe_candidates_accounts h
  exact ⟨rfl, honce rfl, hcovers rfl hgo⟩

end V2RayDar
